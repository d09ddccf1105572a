import PacketSmith.Proofs.TypeNames

/-!
# The names of fields

A field is declared in a type that has methods as well, and these come from another place: the
message template gives them to every type. The checks compare the names of fields with each other
and with the keywords of the language. Nothing compares them with the methods, and nothing refuses
the one identifier that cannot be read back.

A name that passes is therefore usable unless it is one of these few, and each of these passes in
every place where another name does.
-/

namespace PacketSmith

/-! ## Methods -/

/-- The name of the method that words of a line declare for the values of a type, if they declare
one. -/
def Language.methodOf? (language : Language) (typeName : String) (words : List (List Char)) :
    Option String :=
  match language, words with
  | go, keyword :: _ :: receiver :: name :: _ =>
    if keyword = "func".toList ∧ receiver = typeName.toList then some (String.ofList name) else none
  | python, keyword :: name :: receiver :: _ =>
    if keyword = "def".toList ∧ receiver = "self".toList then some (String.ofList name) else none
  | _, _ => none

/-- The methods that the message template declares for the values of its type. -/
def Language.declaredMethods (language : Language) : List String :=
  (language.messageLines.map String.toList).filterMap fun line =>
    language.methodOf? "class_name" (Text.words line)

/-- The methods that a field of the type must not have the name of. Where fields and methods are
declared for one type, these are all of them. Where a field is set on a value and hides the method
of its name there, these are the methods that the manager calls on the value it is given. -/
def Language.methods (language : Language) : List String :=
  match language with
  | go => language.declaredMethods
  | python => language.declaredMethods.filter fun name =>
      (Template.Bundled.pythonManager.map String.toList).any fun line =>
        (Text.words line).contains ("packet.".toList ++ name.toList)

-- As with the markers, the characters of the lines are written out before the words are computed.

/-- The methods that the message template declares. -/
theorem Language.declared_methods_exact (language : Language) :
    language.declaredMethods =
      match language with
      | go => ["ProtocolId", "write", "read"]
      | python => ["__init__", "protocol_id"] := by
  cases language with
  | go =>
    simp only [declaredMethods, messageLines, Template.Bundled.goMessage, List.map_cons,
      List.map_nil]
    repeat rw [String.toList_ofList]
    decide +kernel
  | python =>
    simp only [declaredMethods, messageLines, Template.Bundled.pythonMessage, List.map_cons,
      List.map_nil]
    repeat rw [String.toList_ofList]
    decide +kernel

/-- The methods that a field must not have the name of. -/
theorem Language.methods_exact (language : Language) :
    language.methods =
      match language with
      | go => ["ProtocolId", "write", "read"]
      | python => ["protocol_id"] := by
  cases language with
  | go => exact go.declared_methods_exact
  | python =>
    rw [methods, python.declared_methods_exact]
    simp only [Template.Bundled.pythonManager, List.map_cons, List.map_nil]
    repeat rw [String.toList_ofList]
    decide +kernel

namespace Message

/-- A line of the template that becomes one line of code is one in the file. -/
theorem line_placed (language : Language) (message : Message) (line text : String)
    (member : line ∈ language.messageLines)
    (filled : Template.filled (message.markerValues language) line = text)
    (oneLine : '\n' ∉ text.toList) (code : isCommentLine language text.toList = false) :
    text.toList ∈ codeLines language (message.bundledText language) := by
  have single := code_lines_single language text oneLine code
  rw [text_code]
  refine List.mem_append_left _ (List.mem_flatMap.mpr ⟨line, member, ?_⟩)
  rw [lineCode, filled, single]
  exact List.mem_cons_self

/-- A method that stands outside of its type is declared in the file of a message. -/
theorem method_outside (message : Message) (named : Name.isIdentifier message.name = true)
    (typed : message.typeName ≠ "") (name rest : String)
    (member : "func (protocol \x7b\x7bclass_name\x7d\x7d" ++ (")" ++ rest) ∈
      Language.go.messageLines)
    (parts : Template.parts
        ("func (protocol \x7b\x7bclass_name\x7d\x7d" ++ (")" ++ rest)).toList =
      "func (protocol ".toList.map .character ++ .marker "class_name".toList ::
        (")" ++ rest).toList.map .character)
    (oneLine : '\n' ∉ rest.toList) (reads : (Text.words rest.toList).head? = some name.toList) :
    ∃ line ∈ codeLines .go (message.bundledText .go),
      Language.go.methodOf? message.typeName (Text.words line) = some name := by
  obtain ⟨inhabited, word⟩ := message.type_word named typed
  have inside : '\n' ∉ message.typeName.toList := fun held =>
    absurd (word '\n' held) (by decide)
  have code : isCommentLine .go
      ("func (protocol " ++ message.typeName ++ (")" ++ rest)).toList = false := by
    rw [String.toList_append, String.toList_append]
    rfl
  refine ⟨_, message.line_placed .go _ _ member (message.filled_class_line .go _ _ _ parts)
    (by simp [inside, oneLine]) code, ?_⟩
  have words : Text.words ("func (protocol " ++ message.typeName ++ (")" ++ rest)).toList =
      ["func".toList, "protocol".toList] ++ [message.typeName.toList] ++
        Text.words rest.toList := by
    have text : ("func (protocol " ++ message.typeName ++ (")" ++ rest)).toList =
        "func (protocol".toList ++ ' ' :: (message.typeName.toList ++ ')' :: rest.toList) := by
      simp
    have front : Text.words "func (protocol".toList = ["func".toList, "protocol".toList] := by
      decide
    rw [text, Text.words_append _ _ ' ' (by decide), Text.words_append _ _ ')' (by decide),
      Text.words_run _ inhabited word, front, List.append_assoc]
  obtain ⟨others, behind⟩ := List.head?_eq_some_iff.mp reads
  rw [words, behind]
  simp [Language.methodOf?]

/-- The file of a message declares the methods for the values of its type, whatever is
documented. -/
theorem methods_declared (language : Language) (message : Message)
    (named : Name.isIdentifier message.name = true) (typed : message.typeName ≠ "") :
    ∀ name ∈ language.methods, ∃ line ∈ codeLines language (message.bundledText language),
      language.methodOf? message.typeName (Text.words line) = some name := by
  rw [Language.methods_exact]
  cases language with
  | go =>
    have outside := message.method_outside named typed
    simp only [Language.messageLines, Template.Bundled.goMessage] at outside
    simp only [List.forall_mem_cons, List.not_mem_nil, false_implies, implies_true, and_true]
    refine ⟨?_, ?_, ?_⟩
    · exact outside "ProtocolId" " ProtocolId() int16 \x7b" (by simp) (by decide +kernel)
        (by decide) (by decide)
    · exact outside "write" " write(buffer *ByteBuffer, packet any) \x7b" (by simp)
        (by decide +kernel) (by decide) (by decide)
    · exact outside "read" " read(buffer *ByteBuffer) any \x7b" (by simp) (by decide +kernel)
        (by decide) (by decide)
  | python =>
    intro name among
    obtain rfl := List.mem_singleton.mp among
    have parts : Template.parts "    def protocol_id(self):".toList =
        "    def protocol_id(self):".toList.map .character := by decide +kernel
    have filled : Template.filled (message.markerValues .python) "    def protocol_id(self):" =
        "    def protocol_id(self):" := by
      rw [← String.toList_inj, Template.filled, parts, Template.filled_characters]
      simp
    exact ⟨_, message.line_placed .python _ _ (by decide +kernel) filled (by decide)
      (by decide +kernel), rfl⟩

end Message

/-! ## Usable names -/

/-- Whether a field can be used under its name in the type that is generated. -/
structure Field.IsUsable (language : Language) (field : Field) : Prop where
  /-- The name is no keyword. -/
  plain : field.name ∉ language.keywords
  /-- The name can be read back. -/
  selectable : language = .go → field.name ≠ "_"
  /-- The name is not that of a method. -/
  own : field.name ∉ language.methods

/-- The identifiers that are no keywords and cannot be used all the same. -/
def Language.overlooked (language : Language) : List String :=
  match language with
  | go => "_" :: language.methods
  | python => language.methods

/-- A name is usable exactly if it is no keyword and not among the overlooked ones. -/
theorem Field.usable_iff (language : Language) (field : Field) :
    field.IsUsable language ↔
      field.name ∉ language.keywords ∧ field.name ∉ language.overlooked := by
  constructor
  · rintro ⟨plain, selectable, own⟩
    cases language with
    | go => exact ⟨plain, List.not_mem_cons_of_ne_of_not_mem (selectable rfl) own⟩
    | python => exact ⟨plain, own⟩
  · rintro ⟨plain, passed⟩
    cases language with
    | go =>
      exact ⟨plain, fun _ => List.ne_of_not_mem_cons passed, List.not_mem_of_not_mem_cons passed⟩
    | python => exact ⟨plain, nofun, passed⟩

/-- The overlooked names are identifiers and no keywords. -/
theorem Language.overlooked_legal (language : Language) :
    ∀ name ∈ language.overlooked, Name.isIdentifier name = true ∧ name ∉ language.keywords := by
  cases language <;> simp only [overlooked, methods_exact] <;> decide +kernel

/-! ## Renaming a field -/

/-- What another message says to refer to a message. -/
def Message.heading (message : Message) : Reference :=
  ⟨message.id, message.name⟩

/-- Whether a reference is declared depends on the headings of messages only. -/
theorem Reference.declared_headings (reference : Reference) (messages others : List Message)
    (same : messages.map Message.heading = others.map Message.heading) :
    reference.isDeclaredIn messages = reference.isDeclaredIn others := by
  have read (messages : List Message) : reference.isDeclaredIn messages =
      (messages.map Message.heading).any fun heading =>
        heading.id == reference.id && heading.name == reference.name := by
    rw [List.any_map]
    rfl
  rw [read, read, same]

/-- Where a list of messages is accepted, so is another one with the same headings, if its fields
are sound and have distinct names in each message. -/
theorem Validated.same_headings {messages others : List Message} (validated : Validated messages)
    (same : messages.map Message.heading = others.map Message.heading)
    (fields : ∀ message ∈ others, ∀ field ∈ message.fields, field.Sound messages)
    (distinct : ∀ message ∈ others,
      message.fields.Pairwise fun field other => field.name ≠ other.name) : Validated others := by
  have heads (messages : List Message) : (∀ message ∈ messages, message.HeadSound) ↔
      ∀ heading ∈ messages.map Message.heading, 0 ≤ heading.id ∧
        Name.isIdentifier heading.name = true ∧ Name.pascal heading.name ≠ "" := by
    rw [List.forall_mem_map]
    exact forall₂_congr fun message _ =>
      ⟨fun head => ⟨head.numbered, head.named, head.typed⟩,
        fun ⟨numbered, named, typed⟩ => ⟨numbered, named, typed⟩⟩
  have apart (messages : List Message) : messages.Pairwise Message.Apart ↔
      (messages.map Message.heading).Pairwise fun heading other =>
        heading.id ≠ other.id ∧ Name.pascal heading.name ≠ Name.pascal other.name := by
    rw [List.pairwise_map]
    exact ⟨List.Pairwise.imp fun apart => ⟨apart.numbers, apart.types⟩,
      List.Pairwise.imp fun ⟨numbers, types⟩ => ⟨numbers, types⟩⟩
  constructor
  case heads => exact (heads others).mpr (same ▸ (heads messages).mp validated.heads)
  case apart => exact (apart others).mpr (same ▸ (apart messages).mp validated.apart)
  case fields =>
    intro message member field held
    obtain ⟨named, hashed, declared⟩ := fields message member field held
    refine ⟨named, hashed, fun reference found => ?_⟩
    rw [← reference.declared_headings messages others same]
    exact declared reference found
  case distinct => exact distinct

/-- A field of a message in a list of messages, with what stands before it and behind it. -/
structure FieldPlace (messages : List Message) (message : Message) where
  /-- The messages in front. -/
  before : List Message
  /-- The messages behind. -/
  after : List Message
  /-- The fields of the message in front. -/
  front : List Field
  /-- The field. -/
  field : Field
  /-- The fields of the message behind. -/
  back : List Field
  /-- The message stands between the others. -/
  messages_eq : messages = before ++ message :: after
  /-- The field stands between the others. -/
  fields_eq : message.fields = front ++ field :: back

namespace FieldPlace

variable {messages : List Message} {message : Message} (place : FieldPlace messages message)

/-- Every field of a message in the list has a place. -/
theorem exists_of_members (member : message ∈ messages) (field : Field)
    (held : field ∈ message.fields) :
    ∃ place : FieldPlace messages message, place.field = field := by
  obtain ⟨before, after, messages⟩ := List.append_of_mem member
  obtain ⟨front, back, fields⟩ := List.append_of_mem held
  exact ⟨⟨before, after, front, field, back, messages, fields⟩, rfl⟩

/-- The other fields of the message. -/
def others : List Field :=
  place.front ++ place.back

/-- The field under another name. -/
def renamedField (name : String) : Field :=
  { place.field with name := name }

/-- The message with the field under another name. -/
def renamed (name : String) : Message :=
  { message with fields := place.front ++ place.renamedField name :: place.back }

/-- The list with the field under another name. -/
def renamedMessages (name : String) : List Message :=
  place.before ++ place.renamed name :: place.after

/-- Whether the list and the names in the message are accepted with the field under another name. -/
def Accepts (language : Language) (name : String) : Prop :=
  (∃ table, Table.ofMessages (place.renamedMessages name) = .ok table) ∧
    (place.renamed name).checkNames language = .ok ()

/-- What holds of all fields of the message with the field under another name. -/
theorem renamed_forall (name : String) (property : Field → Prop) :
    (∀ field ∈ (place.renamed name).fields, property field) ↔
      property (place.renamedField name) ∧ ∀ field ∈ place.others, property field := by
  simp only [renamed, others, List.forall_mem_append, List.forall_mem_cons]
  tauto

/-- The names of all fields differ exactly if the other name differs from those of the other fields,
which differ among each other. -/
theorem renamed_distinct (name : String) :
    ((place.renamed name).fields.Pairwise fun field other => field.name ≠ other.name) ↔
      (∀ other ∈ place.others, other.name ≠ name) ∧
        place.others.Pairwise fun field other => field.name ≠ other.name := by
  have swapped : ∀ {field other : Field}, field.name ≠ other.name → other.name ≠ field.name :=
    Ne.symm
  rw [renamed, List.pairwise_middle swapped, List.pairwise_cons]
  simp only [renamedField, others, ne_comm]

/-- Under its own name the field is the one of the message. -/
theorem renamed_itself : place.renamed place.field.name = message := by
  change { message with fields := place.front ++ place.field :: place.back } = message
  rw [← place.fields_eq]

/-- The headings stay the same, whatever the name of the field. -/
theorem renamed_headings (name : String) :
    messages.map Message.heading = (place.renamedMessages name).map Message.heading := by
  rw [congrArg (List.map Message.heading) place.messages_eq, renamedMessages]
  simp only [List.map_append, List.map_cons]
  rfl

/-- The other messages are those of the list. -/
theorem renamed_members (name : String) :
    ∀ other ∈ place.renamedMessages name, other = place.renamed name ∨ other ∈ messages := by
  intro other member
  have within : other ∈ messages ↔ other ∈ place.before ++ message :: place.after := by
    rw [← place.messages_eq]
  rw [within]
  simp only [renamedMessages, List.mem_append, List.mem_cons] at member ⊢
  tauto

/-- With the field under another name the list is accepted exactly if the name is an identifier, no
keyword, and not the name of another field of the message. -/
theorem accepts_iff (language : Language) (validated : Validated messages)
    (accepted : message.checkNames language = .ok ()) (name : String) :
    place.Accepts language name ↔
      Name.isIdentifier name = true ∧ name ∉ language.keywords ∧
        ∀ other ∈ place.others, other.name ≠ name := by
  constructor
  · rintro ⟨⟨table, built⟩, checked⟩
    obtain ⟨renewed, _⟩ := (Table.of_messages_iff _ table).mp built
    obtain ⟨plain, _⟩ := ((place.renamed name).check_names_accepts_iff language).mp checked
    have among : place.renamed name ∈ place.renamedMessages name := by simp [renamedMessages]
    have sound := (place.renamed_forall name _).mp (renewed.fields _ among)
    exact ⟨sound.1.named, ((place.renamed_forall name _).mp plain).1,
      ((place.renamed_distinct name).mp (renewed.distinct _ among)).1⟩
  · rintro ⟨identifier, plain, fresh⟩
    have member : message ∈ messages := by
      have within : message ∈ place.before ++ message :: place.after := by simp
      rwa [← place.messages_eq] at within
    -- What is known of the fields of the message is known of the field and of the others.
    have sound := validated.fields message member
    have distinct := validated.distinct message member
    obtain ⟨words, type⟩ := (message.check_names_accepts_iff language).mp accepted
    rw [← place.renamed_itself] at sound distinct words
    obtain ⟨own, others⟩ := (place.renamed_forall _ _).mp sound
    obtain ⟨_, apart⟩ := (place.renamed_distinct _).mp distinct
    obtain ⟨_, otherWords⟩ := (place.renamed_forall _ _).mp words
    constructor
    · refine ⟨_, (Table.of_messages_iff _ _).mpr ⟨?_, rfl⟩⟩
      refine validated.same_headings (place.renamed_headings name) ?_ ?_
      · intro other among
        rcases place.renamed_members name other among with rfl | among
        · exact (place.renamed_forall name _).mpr
            ⟨⟨identifier, own.hashed, own.declared⟩, others⟩
        · exact validated.fields other among
      · intro other among
        rcases place.renamed_members name other among with rfl | among
        · exact (place.renamed_distinct name).mpr ⟨fresh, apart⟩
        · exact validated.distinct other among
    · exact ((place.renamed name).check_names_accepts_iff language).mpr
        ⟨(place.renamed_forall name _).mpr ⟨plain, otherWords⟩, type⟩

end FieldPlace

/-! ## Accepted names -/

/-- What is to be said of the names of the fields of a message, in a list of messages and in a
language. -/
structure FieldsNamed (language : Language) (messages : List Message) (message : Message) :
    Prop where
  /-- No field is named by a keyword. -/
  keyword : ∀ field ∈ message.fields, field.name ∉ language.keywords
  /-- The file of the message declares the methods of its type. -/
  methods : ∀ disk, ∃ text, message.render language .bundled disk = .ok text ∧
    ∀ name ∈ language.methods, ∃ line ∈ codeLines language text,
      language.methodOf? message.typeName (Text.words line) = some name
  /-- A field is usable exactly if its name is not among the overlooked ones. -/
  usable_iff : ∀ field ∈ message.fields,
    field.IsUsable language ↔ field.name ∉ language.overlooked
  /-- Every field has a place in the list. -/
  placed : ∀ field ∈ message.fields, ∃ place : FieldPlace messages message, place.field = field
  /-- The names that are accepted for a field are the identifiers that are no keywords and that no
  other field of the message has. -/
  accepts_iff : ∀ (place : FieldPlace messages message) (name : String),
    place.Accepts language name ↔
      Name.isIdentifier name = true ∧ name ∉ language.keywords ∧
        ∀ other ∈ place.others, other.name ≠ name
  /-- Each of the overlooked names is accepted for a field, unless another field has it, and makes
  the field unusable. -/
  overlooked : ∀ (place : FieldPlace messages message), ∀ name ∈ language.overlooked,
    (∀ other ∈ place.others, other.name ≠ name) →
      place.Accepts language name ∧ ¬ (place.renamedField name).IsUsable language

/-- The fields of an accepted message are usable under their names, except for those few names that
the checks overlook: the names of methods, and the identifier that cannot be read back. These are
accepted for every field of every message. -/
theorem fields_named (messages : List Message) (table : Table) (language : Language)
    (message : Message) (built : Table.ofMessages messages = .ok table)
    (member : message ∈ table.messages) (accepted : message.checkNames language = .ok ()) :
    FieldsNamed language messages message := by
  obtain ⟨validated, rfl⟩ := (Table.of_messages_iff messages table).mp built
  have member : message ∈ messages := validated.table_permutation.mem_iff.mp member
  have sound := validated.heads message member
  have plain := ((message.check_names_accepts_iff language).mp accepted).1
  constructor
  case keyword => exact plain
  case methods =>
    exact fun disk => ⟨_, message.render_bundled_text language disk accepted,
      message.methods_declared language sound.named sound.typed⟩
  case usable_iff =>
    intro field held
    rw [field.usable_iff, and_iff_right (plain field held)]
  case placed => exact FieldPlace.exists_of_members member
  case accepts_iff => exact fun place => place.accepts_iff language validated accepted
  case overlooked =>
    intro place name among fresh
    obtain ⟨identifier, free⟩ := language.overlooked_legal name among
    refine ⟨(place.accepts_iff language validated accepted name).mpr ⟨identifier, free, fresh⟩, ?_⟩
    intro usable
    exact (((place.renamedField name).usable_iff language).mp usable).2 among

/-- A message of fields that are named like members of the generated types. -/
def membersMessage : Message :=
  { id := 1, name := "Ping", docs := [],
    fields := [⟨"_", .scalar .int, false, []⟩, ⟨"write", .scalar .int, false, []⟩,
      ⟨"protocol_id", .scalar .int, false, []⟩] }

/-- The message is accepted in both languages. Two of its fields are not usable in one of them, and
the third is not in the other. -/
theorem fields_named_members :
    ∃ table, Table.ofMessages [membersMessage] = .ok table ∧
      FieldsNamed .go [membersMessage] membersMessage ∧
      FieldsNamed .python [membersMessage] membersMessage ∧
      (∀ field ∈ membersMessage.fields.take 2, ¬ field.IsUsable .go) ∧
      ∀ field ∈ membersMessage.fields.drop 2, ¬ field.IsUsable .python := by
  have built : Table.ofMessages [membersMessage] = .ok ⟨Table.fill [membersMessage]⟩ := by
    decide +kernel
  refine ⟨_, built, ?_, ?_, ?_⟩
  · exact fields_named _ _ _ _ built (by decide +kernel) (by decide +kernel)
  · exact fields_named _ _ _ _ built (by decide +kernel) (by decide +kernel)
  · simp only [Field.usable_iff, Language.overlooked, Language.methods_exact]
    decide +kernel

end PacketSmith
