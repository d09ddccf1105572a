import PacketSmith.Proofs.Code.Spelling

/-!
# Plain code

Code is plain if the names from outside in it are identifiers. The code of fields is plain
when the fields and the messages they refer to are named by identifiers, and the lines of
plain code can be read back from its text.
-/

namespace PacketSmith

open Text (Fragment isWordCharacter)

namespace Text.Fragment

/-- Whether the text of a fragment begins with a word character. -/
def beginsWord : Fragment → Bool
  | fixed text => text.toList.head?.any isWordCharacter
  | run _ => true
  | phrase _ _ => false

/-- Fragments whose first begins with a word character make up a text that does. -/
theorem head_word (fragments : List Fragment) (proper : ∀ fragment ∈ fragments, fragment.IsProper)
    (begins : fragments.head?.all beginsWord = true) :
    ∀ character ∈ (fragments.flatMap text).head?, isWordCharacter character = true := by
  intro character head
  cases fragments with
  | nil => simp at head
  | cons fragment fragments =>
    cases fragment with
    | fixed first =>
      cases characters : first.toList with
      | nil => simp [beginsWord, characters] at begins
      | cons initial others =>
        have same : initial = character := by simpa [Fragment.text, characters] using head
        simpa [beginsWord, characters, same] using begins
    | run first =>
      have word := proper (run first) List.mem_cons_self
      obtain ⟨initial, others, characters⟩ := List.exists_cons_of_ne_nil word.1
      have same : initial = character := by simpa [Fragment.text, characters] using head
      exact same ▸ word.2 initial (by simp [characters])
    | phrase first closing => simp [beginsWord] at begins

/-- A run of word characters holds no line end. -/
theorem run_one_line (run : List Char) (proper : (Fragment.run run).IsProper) : '\n' ∉ run := by
  intro member
  exact absurd (proper.2 '\n' member) (by decide)

end Text.Fragment

/-- A word character does not indent. -/
theorem word_not_indentation (character : Char) (word : isWordCharacter character = true) :
    isIndentation character = false := by
  by_cases blank : character = ' ' ∨ character = '\t'
  · rcases blank with rfl | rfl <;> exact absurd word (by decide)
  · simpa [isIndentation, not_or] using blank

/-- The type of a kind stands on one line. -/
theorem Kind.type_name_one_line (language : Language) (kind : Kind)
    (named : kind.NamesIdentifiers) : '\n' ∉ (kind.typeName language).toList := by
  intro member
  have allowed := List.all_eq_true.mp (kind.type_name_characters language named) '\n' member
  exact absurd allowed (by decide)

namespace Statement

/-- The first part of a statement begins with a word. -/
theorem fragments_head (language : Language) (statement : Statement) :
    (statement.fragments language).head?.all Fragment.beginsWord = true := by
  cases statement with
  | makeCollection shape | insertElement shape => cases language <;> cases shape <;> rfl
  | _ => cases language <;> rfl

/-- The text of a plain statement begins with a word. -/
theorem text_head (language : Language) (statement : Statement) (plain : statement.IsPlain) :
    ∀ character ∈ (statement.text language).toList.head?, isWordCharacter character = true := by
  rw [text_fragments]
  exact Fragment.head_word _ (statement.fragments_proper language plain)
    (statement.fragments_head language)

/-- The text of a plain statement stands on one line. -/
theorem text_one_line (language : Language) (statement : Statement) (plain : statement.IsPlain) :
    '\n' ∉ (statement.text language).toList := by
  have run (text : List Char) (member : Fragment.run text ∈ statement.fragments language) :
      '\n' ∉ text :=
    Fragment.run_one_line text (statement.fragments_proper language plain _ member)
  rw [text_fragments]
  cases statement with
  | makeCollection shape element result size =>
    have type := element.type_name_one_line language plain
    cases language <;> cases shape <;> simp_all [fragments, Fragment.text]
  | makeMap key value result size =>
    have keyType := key.type_name_one_line language plain.1
    have valueType := value.type_name_one_line language plain.2
    cases language <;> simp_all [fragments, Fragment.text]
  | readMessage reference result =>
    have identifier : Name.isIdentifier reference.name = true := plain
    have type := (Kind.message reference).type_name_one_line language (by
      simp [Kind.NamesIdentifiers, Kind.references, identifier])
    cases language <;> simp_all [fragments, Fragment.text]
  | insertElement shape result item =>
    cases language <;> cases shape <;> simp_all [fragments, Fragment.text]
  | _ => cases language <;> simp_all [fragments, Fragment.text]

end Statement

namespace Header

/-- The text of a plain header begins with a word. -/
theorem text_head (language : Language) (header : Header) (plain : header.IsPlain) :
    ∀ character ∈ (header.text language).toList.head?, isWordCharacter character = true := by
  have begins : (header.fragments language).head?.all Fragment.beginsWord = true := by
    cases header with
    | forEachElement shape => cases language <;> cases shape <;> rfl
    | _ => cases language <;> rfl
  rw [text_fragments]
  exact Fragment.head_word _ (header.fragments_proper language plain) begins

/-- The text of a plain header stands on one line. -/
theorem text_one_line (language : Language) (header : Header) (plain : header.IsPlain) :
    '\n' ∉ (header.text language).toList := by
  have run (text : List Char) (member : Fragment.run text ∈ header.fragments language) :
      '\n' ∉ text :=
    Fragment.run_one_line text (header.fragments_proper language plain _ member)
  rw [text_fragments]
  cases header with
  | forEachElement shape element container =>
    cases language <;> cases shape <;> simp_all [fragments, Fragment.text]
  | _ => cases language <;> simp_all [fragments, Fragment.text]

end Header

namespace Code

/-- Whether the names from outside in a sequence are identifiers. -/
def IsPlain : Code → Prop
  | done => True
  | line statement rest => statement.IsPlain ∧ rest.IsPlain
  | block header body rest => header.IsPlain ∧ body.IsPlain ∧ rest.IsPlain

/-- What is done after nothing is all. -/
@[simp] theorem done_append (code : Code) : done ++ code = code := rfl

/-- A statement in front stays in front. -/
@[simp] theorem line_append (statement : Statement) (rest code : Code) :
    line statement rest ++ code = line statement (rest ++ code) := rfl

/-- A block in front stays in front, and its body stays as it is. -/
@[simp] theorem block_append (header : Header) (body rest code : Code) :
    block header body rest ++ code = block header body (rest ++ code) := rfl

/-- Plain sequences make a plain sequence. -/
theorem plain_append (front back : Code) :
    (front ++ back).IsPlain ↔ front.IsPlain ∧ back.IsPlain := by
  induction front with
  | done => simp [IsPlain]
  | line statement rest inductionHypothesis => simp [IsPlain, inductionHypothesis, and_assoc]
  | block header body rest _ inductionHypothesis =>
    simp [IsPlain, inductionHypothesis, and_assoc]

/-- The lines of a sequence of two are the lines of both. -/
theorem lines_append (language : Language) (depth : Nat) (front back : Code) :
    (front ++ back).lines language depth =
      front.lines language depth ++ back.lines language depth := by
  induction front generalizing depth with
  | done => rfl
  | line statement rest inductionHypothesis => simp [lines, inductionHypothesis]
  | block header body rest _ inductionHypothesis => simp [lines, inductionHypothesis]

/-- The lines of plain code can be told apart and from their indentation. -/
theorem lines_plain (language : Language) (depth : Nat) (code : Code) (plain : code.IsPlain) :
    ∀ line ∈ code.lines language depth, line.IsPlain := by
  induction code generalizing depth with
  | done => simp [lines]
  | line statement rest inductionHypothesis =>
    intro line member
    rcases List.mem_cons.mp member with rfl | member
    · exact ⟨statement.text_one_line language plain.1, fun character head =>
        word_not_indentation character (statement.text_head language plain.1 character head)⟩
    · exact inductionHypothesis depth plain.2 line member
  | block header body rest bodyHypothesis restHypothesis =>
    intro line member
    simp only [lines, List.cons_append, List.mem_cons, List.mem_append] at member
    rcases member with rfl | (member | member) | member
    · exact ⟨header.text_one_line language plain.1, fun character head =>
        word_not_indentation character (header.text_head language plain.1 character head)⟩
    · exact bodyHypothesis (depth + 1) plain.2.1 line member
    · cases language with
      | go =>
        have same : line = ⟨depth, "\x7d"⟩ := by simpa [Language.closing] using member
        have oneLine : '\n' ∉ "\x7d".toList := by decide
        have head : ∀ character ∈ "\x7d".toList.head?, isIndentation character = false := by
          rintro character ⟨⟩
          rfl
        exact same ▸ ⟨oneLine, head⟩
      | python => simp [Language.closing] at member
    · exact restHypothesis depth plain.2.2 line member

end Code

/-- The code that writes a plain operand is plain. The elements are temporaries. -/
theorem Kind.write_code_plain (value : Operand) (next : Nat) (kind : Kind)
    (plain : value.IsPlain) : (kind.writeCode value next).IsPlain := by
  induction kind generalizing value next with
  | scalar base => exact ⟨plain, trivial⟩
  | collection shape element inductionHypothesis =>
    exact ⟨plain, plain, inductionHypothesis _ _ trivial, trivial⟩
  | map key entry keyHypothesis entryHypothesis =>
    exact ⟨plain, plain, (Code.plain_append _ _).mpr
      ⟨keyHypothesis _ _ trivial, entryHypothesis _ _ trivial⟩, trivial⟩
  | message reference => exact ⟨plain, trivial⟩

/-- The code that reads a kind is plain when the messages it refers to are named by
identifiers. -/
theorem Kind.read_code_plain (next : Nat) (kind : Kind) (named : kind.NamesIdentifiers) :
    (kind.readCode next).IsPlain := by
  induction kind generalizing next with
  | scalar base => exact ⟨trivial, trivial⟩
  | collection shape element inductionHypothesis =>
    have body := inductionHypothesis (next + 3) named
    exact ⟨trivial, named, trivial, (Code.plain_append _ _).mpr ⟨body, trivial, trivial⟩, trivial⟩
  | map key entry keyHypothesis entryHypothesis =>
    have keyNamed : key.NamesIdentifiers := fun reference member =>
      named reference (List.mem_append_left _ member)
    have entryNamed : entry.NamesIdentifiers := fun reference member =>
      named reference (List.mem_append_right _ member)
    exact ⟨trivial, ⟨keyNamed, entryNamed⟩, trivial, (Code.plain_append _ _).mpr
      ⟨keyHypothesis _ keyNamed, (Code.plain_append _ _).mpr
        ⟨entryHypothesis _ entryNamed, trivial, trivial⟩⟩, trivial⟩
  | message reference => exact ⟨named reference List.mem_cons_self, trivial⟩

/-- The code that writes fields named by identifiers is plain. -/
theorem write_fields_plain (next : Nat) (fields : List Field)
    (named : ∀ field ∈ fields, Name.isIdentifier field.name = true) :
    (writeFields next fields).IsPlain := by
  induction fields generalizing next with
  | nil => trivial
  | cons field fields inductionHypothesis =>
    refine (Code.plain_append _ _).mpr ⟨?_, inductionHypothesis _ fun other member =>
      named other (List.mem_cons_of_mem field member)⟩
    exact field.kind.write_code_plain _ _ ⟨field.name, named field List.mem_cons_self, rfl⟩

/-- The code that reads fields is plain when the fields and the messages they refer to are
named by identifiers. -/
theorem read_fields_plain (next : Nat) (fields : List Field)
    (named : ∀ field ∈ fields, Name.isIdentifier field.name = true)
    (references : ∀ field ∈ fields, field.kind.NamesIdentifiers) :
    (readFields next fields).IsPlain := by
  induction fields generalizing next with
  | nil => trivial
  | cons field fields inductionHypothesis =>
    have guard : (if field.appended then exhaustionGuard else Code.done).IsPlain := by
      split
      · exact ⟨trivial, ⟨trivial, trivial⟩, trivial⟩
      · trivial
    have assigned :
        (Code.line (.assignField field.name (field.kind.readResult next)) .done).IsPlain :=
      ⟨named field List.mem_cons_self, trivial⟩
    have value := field.kind.read_code_plain next (references field List.mem_cons_self)
    have others := inductionHypothesis (next + field.kind.readTemporaries)
      (fun other member => named other (List.mem_cons_of_mem field member))
      (fun other member => references other (List.mem_cons_of_mem field member))
    simp only [readFields, Field.readCode, Code.plain_append]
    exact ⟨⟨guard, value, assigned⟩, others⟩

end PacketSmith
