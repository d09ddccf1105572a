import PacketSmith.Proofs.Documentation
import PacketSmith.Proofs.Linking
import PacketSmith.Proofs.Schema.WellFormed
import PacketSmith.Proofs.Session

/-!
# The names of types

The type of a message is named in its file, by the name of the file, by the manager, and wherever
another message refers to it. All of these have the Pascal-case form of the name of the message:
letters and digits, none of the words that the language or the package have taken, and another one
for every message of a table.

It is an identifier as well, unless the name begins with a digit behind its underscores. That a
name is an identifier is checked while the underscores are still there, and the Pascal-case form is
looked at only for having something in it.
-/

namespace PacketSmith

namespace Name

/-- Whether the first character of a name that separates no words is a digit. -/
def BeginsWithDigit (name : String) : Prop :=
  ∃ first ∈ (name.toList.dropWhile separatesWords).head?, first.isDigit = true

/-- The Pascal-case form of an identifier begins with the uppercase form of the first character that
separates no words. -/
theorem pascal_text_head (name : List Char)
    (subsequent : ∀ character ∈ name, isSubsequent character = true) :
    (pascalText name).head? = ((name.dropWhile separatesWords).head?).map Char.toUpper := by
  induction name with
  | nil => rfl
  | cons first others inductionHypothesis =>
    obtain ⟨piece, pieces, split⟩ :=
      List.exists_cons_of_ne_nil (Text.split_where_nonempty separatesWords others)
    by_cases separates : separatesWords first = true
    · -- A separator in front makes an empty word, which leaves nothing in the Pascal-case form.
      have same : pascalText (first :: others) = pascalText others := by
        simp [pascalText, Text.splitWhere, split, separates, capitalized]
      rw [same, List.dropWhile_cons_of_pos separates]
      exact inductionHypothesis fun character member =>
        subsequent character (List.mem_cons_of_mem first member)
    · have inner : separatesWords first = false := by simpa using separates
      have alphanumeric := inner_alphanumeric first (subsequent first List.mem_cons_self) inner
      have form := (uppercase_alphanumeric first alphanumeric).1
      rw [List.dropWhile_cons_of_neg separates]
      simp [pascalText, Text.splitWhere, split, inner, capitalized, form]

/-- The uppercase form of a letter or digit can begin an identifier exactly if it is no digit. -/
theorem uppercase_initial_iff (character : Char) (alphanumeric : character.isAlphanum = true) :
    isInitial character.toUpper = true ↔ ¬ character.isDigit = true := by
  have checked : character.isAlphanum = true →
      (isInitial character.toUpper = true ↔ ¬ character.isDigit = true) :=
    ascii_property
      (fun c => c.isAlphanum = true → (isInitial c.toUpper = true ↔ ¬ c.isDigit = true))
      (by decide +kernel) character (alphanumeric_ascii character alphanumeric)
  exact checked alphanumeric

/-- The Pascal-case form of an identifier, if there is something in it, is an identifier exactly if
the name does not begin with a digit behind its underscores. -/
theorem pascal_identifier_iff (name : String) (identifier : isIdentifier name = true)
    (typed : pascal name ≠ "") :
    isIdentifier (pascal name) = true ↔ ¬ BeginsWithDigit name := by
  have subsequent := identifier_characters name identifier
  have head := pascal_text_head name.toList subsequent
  have characters := pascal_characters name identifier
  have text : (pascal name).toList = pascalText name.toList := by simp [pascal]
  obtain ⟨first, others, whole⟩ : ∃ first others, (pascal name).toList = first :: others :=
    List.exists_cons_of_ne_nil (by simpa using typed)
  rw [← text, whole, List.head?_cons] at head
  obtain ⟨beginning, begins, rfl⟩ := Option.map_eq_some_iff.mp head.symm
  have others : others.all isSubsequent = true := by
    rw [List.all_eq_true]
    intro character member
    have alphanumeric := characters character (whole ▸ List.mem_cons_of_mem _ member)
    simp [isSubsequent, alphanumeric]
  have alphanumeric : beginning.isAlphanum = true := by
    have stands := (List.dropWhile_sublist separatesWords).subset (List.mem_of_head? begins)
    have inner : separatesWords beginning = false := by
      simpa [begins] using List.head?_dropWhile_not separatesWords name.toList
    exact inner_alphanumeric beginning (subsequent beginning stands) inner
  rw [isIdentifier, whole, isIdentifierText, others, Bool.and_true,
    uppercase_initial_iff beginning alphanumeric]
  simp [BeginsWithDigit, begins]

end Name

/-- The line that begins the declaration of a type. -/
def Language.typeDeclaration (language : Language) (typeName : String) : String :=
  match language with
  | go => "type " ++ typeName ++ " struct \x7b"
  | python => "class " ++ typeName ++ ":"

namespace Message

/-- A line of the message template that has the name of the type in one place gets it there. -/
theorem filled_class_line (language : Language) (message : Message) (line front back : String)
    (parts : Template.parts line.toList =
      front.toList.map .character ++ .marker "class_name".toList ::
        back.toList.map .character) :
    Template.filled (message.markerValues language) line = front ++ message.typeName ++ back := by
  rw [← String.toList_inj, Template.filled, parts, List.flatMap_append, List.flatMap_cons,
    Template.filled_characters, Template.filled_characters]
  simp [Template.characters, Template.valueOf?, markerValues]

/-- The line of the message template that names the type becomes its declaration. -/
theorem filled_type_line (language : Language) (message : Message) :
    Template.filled (message.markerValues language) language.typeLine =
      language.typeDeclaration message.typeName := by
  cases language with
  | go => exact message.filled_class_line .go _ "type " " struct \x7b" (by decide +kernel)
  | python => exact message.filled_class_line .python _ "class " ":" (by decide +kernel)

/-- The declaration of a type that is named by letters and digits is a line of code. -/
theorem declaration_code (language : Language) (typeName : String)
    (alphanumeric : ∀ character ∈ typeName.toList, character.isAlphanum = true) :
    codeLines language (language.typeDeclaration typeName) =
      [(language.typeDeclaration typeName).toList] := by
  have inside : '\n' ∉ typeName.toList :=
    fun member => absurd (alphanumeric '\n' member) (by decide)
  apply code_lines_single
  · cases language <;> simp [Language.typeDeclaration, inside]
  · cases language <;> simp only [Language.typeDeclaration, String.toList_append] <;> rfl

/-- The declaration of the type is a line of the code in the file of a message, whatever is
documented. -/
theorem type_declared (language : Language) (message : Message)
    (named : Name.isIdentifier message.name = true) :
    (language.typeDeclaration message.typeName).toList ∈
      codeLines language (message.bundledText language) := by
  have line : (language.typeDeclaration message.typeName).toList ∈
      message.lineCode language ("\x7b\x7bclass_note\x7d\x7d" ++ language.typeLine) := by
    rw [note_code, Passage.lines, lineCode, filled_type_line,
      declaration_code language message.typeName (Name.pascal_characters message.name named)]
    exact List.mem_append_right _ List.mem_cons_self
  obtain ⟨front, between, back, lines, _⟩ := language.message_lines_documented
  rw [text_code, lines]
  exact List.mem_append_left _ (List.mem_flatMap.mpr
    ⟨_, List.mem_append_right front List.mem_cons_self, line⟩)

/-- The type of a message is no keyword: no keyword begins with a capital letter or a digit but
those that are taken as names of types. -/
theorem type_no_keyword (language : Language) (message : Message) (sound : message.HeadSound)
    (free : message.typeName ∉ language.takenTypeNames) :
    message.typeName ∉ language.keywords := by
  have words : ∀ word ∈ language.keywords,
      (word.toList.head?.any Char.isLower) = true ∨ word ∈ language.takenTypeNames := by
    cases language <;> decide
  intro keyword
  have small := (words message.typeName keyword).resolve_right free
  exact Name.pascal_not_small message.name sound.named small

end Message

/-- What is to be said of the name of a type, in a table and in a language. -/
structure TypeNamed (language : Language) (table : Table) (message : Message) : Prop where
  /-- The file of the message declares a class of that name, in a line of its code. -/
  declared : ∀ disk, ∃ text, message.render language .bundled disk = .ok text ∧
    (language.typeDeclaration message.typeName).toList ∈ codeLines language text
  /-- The file has that name. -/
  filed : ∀ (session : Session) disk after path, session.language = language →
    session.writeMessage message disk = (after, .ok path) →
      path = Path.join session.outputDirectory
        (message.typeName ++ "." ++ language.layout.extension)
  /-- The manager registers that name under the number of the message. -/
  registered : Registration.ofWords? language
    (Text.words (message.registration language).toList) =
      some ⟨message.id.toInt, message.typeName⟩
  /-- Wherever a message refers to the message by its number, that name is written. -/
  referenced : ∀ other ∈ table.messages, ∀ reference ∈ other.references,
    reference.id = message.id → reference.typeName language = message.typeName
  /-- The name holds letters and digits, at least one of them. -/
  alphanumeric : message.typeName ≠ "" ∧
    ∀ character ∈ message.typeName.toList, character.isAlphanum = true
  /-- It is an identifier exactly if the name of the message does not begin with a digit behind its
  underscores. -/
  identifier_iff : Name.isIdentifier message.typeName = true ↔
    ¬ Name.BeginsWithDigit message.name
  /-- It is no keyword. -/
  keyword : message.typeName ∉ language.keywords
  /-- It is not taken by the language, the runtime or the manager. -/
  free : message.typeName ∉ language.takenTypeNames
  /-- No other message of the table has it. -/
  unique : ∀ other ∈ table.messages, other ≠ message → other.typeName ≠ message.typeName

/-- The name that the type of an accepted message has is used wherever the type is named, is free
and is its own. It is an identifier unless the name of the message begins with a digit behind its
underscores, which nothing checks. -/
theorem type_named (messages : List Message) (table : Table) (language : Language)
    (message : Message) (built : Table.ofMessages messages = .ok table)
    (member : message ∈ table.messages) (accepted : message.checkNames language = .ok ()) :
    TypeNamed language table message := by
  obtain ⟨validated, rfl⟩ := (Table.of_messages_iff messages table).mp built
  have held {other : Message} : other ∈ (Table.mk (Table.fill messages)).messages ↔
      other ∈ messages := validated.table_permutation.mem_iff
  have formed := (validated_iff_well_formed messages).mp validated
  have sound := validated.heads message (held.mp member)
  obtain ⟨free, itself⟩ := message.check_names_type language accepted
  constructor
  case declared =>
    exact fun disk => ⟨_, message.render_bundled_text language disk accepted,
      message.type_declared language sound.named⟩
  case filed =>
    rintro session disk after path rfl written
    obtain ⟨_, _, path, _⟩ := Session.write_message_steps written
    exact path
  case registered => exact message.registration_read language sound.named sound.typed
  case referenced =>
    intro other among reference found same
    obtain ⟨declared, listed, sameId, sameName⟩ :=
      validated.target other (held.mp among) reference found
    have one : declared = message :=
      List.inj_on_of_nodup_map formed.numbers listed (held.mp member) (sameId.trans same)
    rw [Reference.typeName, ← sameName, one]
    exact itself
  case alphanumeric => exact ⟨sound.typed, Name.pascal_characters message.name sound.named⟩
  case identifier_iff => exact Name.pascal_identifier_iff message.name sound.named sound.typed
  case keyword => exact message.type_no_keyword language sound free
  case free => exact free
  case unique =>
    exact fun other among different same => different
      (List.inj_on_of_nodup_map formed.types (held.mp among) (held.mp member) same)

/-- A message whose name is an identifier and whose type is named by a digit. -/
def digitMessage : Message :=
  { id := 1, name := "_1", docs := [], fields := [] }

/-- A message that refers to the one whose type is named by a digit. -/
def playerMessage : Message :=
  { id := 2, name := "player_info", docs := [],
    fields := [⟨"first", .message ⟨1, "_1"⟩, false, []⟩] }

/-- The type of `_1` is `1` wherever it is named, and is accepted although it is no identifier. The
type of `player_info`, which refers to it, is `PlayerInfo`, and is one. -/
theorem type_named_digit :
    ∃ table, Table.ofMessages [digitMessage, playerMessage] = .ok table ∧
      TypeNamed .go table digitMessage ∧ digitMessage.typeName = "1" ∧
      Name.isIdentifier digitMessage.typeName = false ∧
      TypeNamed .python table playerMessage ∧ playerMessage.typeName = "PlayerInfo" ∧
      Name.isIdentifier playerMessage.typeName = true := by
  have built : Table.ofMessages [digitMessage, playerMessage] =
      .ok ⟨Table.fill [digitMessage, playerMessage]⟩ := by decide +kernel
  refine ⟨_, built, ?_, by decide +kernel, by decide +kernel, ?_, by decide +kernel,
    by decide +kernel⟩
  · exact type_named _ _ _ _ built (by decide +kernel) (by decide +kernel)
  · exact type_named _ _ _ _ built (by decide +kernel) (by decide +kernel)

end PacketSmith
