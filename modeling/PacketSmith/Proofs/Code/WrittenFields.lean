import PacketSmith.Proofs.Code.Vocabulary

/-!
# Fields in code that writes

A line mentions a field of the message that is written where one of its words is the path of the
field. Code that writes a value mentions the fields of the value and no others, however deeply
the value is nested: what is nested is reached through temporaries.
-/

namespace PacketSmith

/-- The field of the message of which a word is the path, if there is one. -/
def fieldOf (word : List Char) : List String :=
  ((Text.afterPrefix? "message.".toList word).map String.ofList).toList

/-- The fields of the message that a line mentions. -/
def Line.fields (line : Line) : List String :=
  (Text.words line.text.toList).flatMap fieldOf

/-- The fields of the message that an operand mentions. -/
def Operand.fields (operand : Operand) : List String :=
  fieldOf operand.text.toList

/-- The expression of a field mentions the field. -/
theorem Operand.fields_expression (name : String) :
    (Operand.expression ("message." ++ name)).fields = [name] := by
  rw [fields, text, String.toList_append, fieldOf, Text.after_prefix_append]
  simp

/-- A word that begins with another letter is the path of no field. -/
theorem field_of_other (first : Char) (others : List Char) (different : first ≠ 'm') :
    fieldOf (first :: others) = [] := by
  simp [fieldOf, Text.afterPrefix?, different.symm]

/-- The name of a temporary is the path of no field. -/
theorem field_of_temporary (numbered : Temporary) : fieldOf numbered.text.toList = [] := by
  obtain ⟨role, number⟩ := numbered
  cases role <;> simp (disch := decide) [Temporary.text, Role.word, field_of_other]

/-- The number of a message is the path of no field. -/
theorem field_of_number (id : ProtocolId) : fieldOf (ProtocolId.literal id).toList = [] := by
  have absent : Text.afterPrefix? "message.".toList (ProtocolId.literal id).toList = none := by
    apply Text.after_prefix_absent _ _ '.' (by decide)
    intro dot
    rcases id.literal_characters.2 '.' dot with sign | digit
    · exact absurd sign (by decide)
    · exact absurd digit (by decide)
  rw [fieldOf, absent]
  rfl

/-- Whether a line mentions the fields of an operand, and no others. -/
def Line.MentionsAs (line : Line) (operand : Operand) : Prop :=
  ∀ name, name ∈ line.fields ↔ name ∈ operand.fields

/-- The writing of a scalar mentions the fields of the value. -/
theorem write_scalar_fields (language : Language) (depth : Nat) (base : Scalar) (value : Operand)
    (plain : value.IsPlain) :
    Line.MentionsAs ⟨depth, (Statement.writeScalar base value).text language⟩ value := by
  intro name
  rw [Line.fields, Statement.words_text language (.writeScalar base value) plain]
  cases language <;>
    simp (disch := decide) [Statement.words, field_of_other, Operand.fields]

/-- The writing of a size mentions the fields of the container. -/
theorem write_size_fields (language : Language) (depth : Nat) (container : Operand)
    (plain : container.IsPlain) :
    Line.MentionsAs ⟨depth, (Statement.writeSize container).text language⟩ container := by
  intro name
  rw [Line.fields, Statement.words_text language (.writeSize container) plain]
  cases language <;>
    simp (disch := decide) [Statement.words, field_of_other, Operand.fields]

/-- The writing of a nested message mentions the fields of the value. -/
theorem write_message_fields (language : Language) (depth : Nat) (reference : Reference)
    (value : Operand) (plain : value.IsPlain) :
    Line.MentionsAs ⟨depth, (Statement.writeMessage reference value).text language⟩ value := by
  intro name
  rw [Line.fields, Statement.words_text language (.writeMessage reference value) plain]
  cases language <;>
    simp (disch := decide) [Statement.words, field_of_other, field_of_number, Operand.fields]

/-- The first line of a loop over a collection mentions the fields of the collection. -/
theorem each_element_fields (language : Language) (depth : Nat) (shape : Collection)
    (element : Temporary) (container : Operand) (plain : container.IsPlain) :
    Line.MentionsAs ⟨depth, (Header.forEachElement shape element container).text language⟩
      container := by
  intro name
  rw [Line.fields, Header.words_text language (.forEachElement shape element container) plain]
  cases language <;> cases shape <;>
    simp (disch := decide) [Header.words, field_of_other, field_of_temporary, Operand.fields]

/-- The first line of a loop over a map mentions the fields of the map. -/
theorem each_entry_fields (language : Language) (depth : Nat) (key value : Temporary)
    (container : Operand) (plain : container.IsPlain) :
    Line.MentionsAs ⟨depth, (Header.forEachEntry key value container).text language⟩
      container := by
  intro name
  rw [Line.fields, Header.words_text language (.forEachEntry key value container) plain]
  cases language <;>
    simp (disch := decide) [Header.words, field_of_other, field_of_temporary, Operand.fields]

/-- The lines that close a block mention no fields. -/
theorem closing_fields (language : Language) (depth : Nat) :
    ∀ line ∈ language.closing depth, line.fields = [] := by
  intro line member
  rw [Line.fields, closing_words language depth line member]
  rfl

/-- The lines that write a value mention the fields of the value and no others.

Proof: induction on the kind. The parts of a container are written through temporaries, and
these mention no fields. -/
theorem Kind.write_code_fields (language : Language) (kind : Kind) (value : Operand)
    (next depth : Nat) (plain : value.IsPlain) :
    ∀ line ∈ (kind.writeCode value next).lines language depth,
      ∀ name ∈ line.fields, name ∈ value.fields := by
  induction kind generalizing value next depth with
  | scalar base =>
    simp only [writeCode, Code.lines, List.forall_mem_cons, List.not_mem_nil, false_implies,
      implies_true, and_true]
    exact fun name member => (write_scalar_fields language depth base value plain name).mp member
  | collection shape element inductionHypothesis =>
    have size := write_size_fields language depth value plain
    have header := each_element_fields language depth shape ⟨.element, next⟩ value plain
    have inner := inductionHypothesis (.temporary ⟨.element, next⟩) (next + 1) (depth + 1) trivial
    have closing := closing_fields language depth
    simp only [Operand.fields, Operand.text, field_of_temporary, List.not_mem_nil] at inner
    simp only [writeCode, Code.lines, List.cons_append, List.append_nil, List.forall_mem_cons,
      List.forall_mem_append]
    refine ⟨fun name => (size name).mp, fun name => (header name).mp, ?_, ?_⟩
    · intro line member name found
      exact (inner line member name found).elim
    · intro line member name found
      simp [closing line member] at found
  | map key entry keyHypothesis entryHypothesis =>
    have size := write_size_fields language depth value plain
    have header := each_entry_fields language depth ⟨.key, next⟩ ⟨.value, next + 1⟩ value plain
    have keyInner := keyHypothesis (.temporary ⟨.key, next⟩) (next + 2) (depth + 1) trivial
    have entryInner := entryHypothesis (.temporary ⟨.value, next + 1⟩)
      (next + 2 + key.writeTemporaries) (depth + 1) trivial
    have closing := closing_fields language depth
    simp only [Operand.fields, Operand.text, field_of_temporary, List.not_mem_nil]
      at keyInner entryInner
    simp only [writeCode, Code.lines, Code.lines_append, List.cons_append, List.append_nil,
      List.forall_mem_cons, List.forall_mem_append]
    refine ⟨fun name => (size name).mp, fun name => (header name).mp, ⟨?_, ?_⟩, ?_⟩
    · intro line member name found
      exact (keyInner line member name found).elim
    · intro line member name found
      exact (entryInner line member name found).elim
    · intro line member name found
      simp [closing line member] at found
  | message reference =>
    simp only [writeCode, Code.lines, List.forall_mem_cons, List.not_mem_nil, false_implies,
      implies_true, and_true]
    exact fun name member =>
      (write_message_fields language depth reference value plain name).mp member

/-- The first line that writes a value mentions the fields of the value. -/
theorem Kind.write_code_mentions (language : Language) (kind : Kind) (value : Operand)
    (next depth : Nat) (plain : value.IsPlain) :
    ∃ line ∈ (kind.writeCode value next).lines language depth, line.MentionsAs value := by
  cases kind with
  | scalar base =>
    exact ⟨_, List.mem_cons_self, write_scalar_fields language depth base value plain⟩
  | collection shape element =>
    exact ⟨_, List.mem_cons_self, write_size_fields language depth value plain⟩
  | map key entry =>
    exact ⟨_, List.mem_cons_self, write_size_fields language depth value plain⟩
  | message reference =>
    exact ⟨_, List.mem_cons_self, write_message_fields language depth reference value plain⟩

/-- The lines that write a field mention the field and no other. -/
theorem Field.write_code_mentions (language : Language) (field : Field) (next depth : Nat)
    (identifier : Name.isIdentifier field.name = true) (name : String) :
    (∃ line ∈ (field.writeCode next).lines language depth, name ∈ line.fields) ↔
      name = field.name := by
  have plain : (Operand.expression field.valueText).IsPlain := ⟨field.name, identifier, rfl⟩
  have itself : (Operand.expression field.valueText).fields = [field.name] :=
    Operand.fields_expression field.name
  constructor
  · rintro ⟨line, member, found⟩
    have mentioned :=
      field.kind.write_code_fields language _ next depth plain line member name found
    rw [itself] at mentioned
    exact List.mem_singleton.mp mentioned
  · rintro rfl
    obtain ⟨line, member, mentions⟩ :=
      field.kind.write_code_mentions language _ next depth plain
    refine ⟨line, member, (mentions field.name).mpr ?_⟩
    rw [itself]
    exact List.mem_singleton_self field.name

end PacketSmith
