import PacketSmith.Render
import PacketSmith.Proofs.Code.Plain

/-!
# Emitting blocks field by field

A block is emitted one field after another into an emitter that starts empty: a declaration
behind its documentation, the writing of a value, or a guard, the reading of a value and an
assignment. The lines that the emitter holds at the end are the lines of the block.
-/

namespace PacketSmith

namespace Emitter

/-- Declare a field behind its documentation. -/
def defineField (emitter : Emitter) (field : Field) : Emitter :=
  let depth := emitter.language.layout.bodyDepth
  (field.docs.foldl (fun emitter doc => emitter.line depth (commentText emitter.language doc))
    emitter).line depth
      (field.declaration emitter.language (field.kind.typeName emitter.language))

/-- Write a field of the message. -/
def writeField (emitter : Emitter) (field : Field) : Emitter :=
  emitter.write field.valueText emitter.language.layout.bodyDepth field.kind

/-- Read a field: the guard if the field is appended, the value, and its assignment. -/
def readField (emitter : Emitter) (field : Field) : Emitter :=
  let depth := emitter.language.layout.bodyDepth
  let guarded := if field.appended then emitter.guard depth else emitter
  let (emitter, value) := guarded.read depth field.kind
  emitter.line depth (field.assignment value)

end Emitter

namespace Message

/-- The emitter behind the declarations of all fields. -/
def definitionEmitter (language : Language) (message : Message) : Emitter :=
  message.fields.foldl Emitter.defineField (Emitter.new language)

/-- The emitter behind the writing of all fields. -/
def writeEmitter (language : Language) (message : Message) : Emitter :=
  message.fields.foldl Emitter.writeField (Emitter.new language)

/-- The emitter behind the reading of all fields. -/
def readEmitter (language : Language) (message : Message) : Emitter :=
  message.fields.foldl Emitter.readField (Emitter.new language)

end Message

namespace Emitter

/-- Comments are added line by line. -/
theorem comments_exact (emitter : Emitter) (depth : Nat) (docs : List String) :
    docs.foldl (fun emitter doc => emitter.line depth (commentText emitter.language doc)) emitter =
      { emitter with lines := emitter.lines ++ commentLines emitter.language depth docs } := by
  induction docs generalizing emitter with
  | nil => simp [commentLines]
  | cons doc docs inductionHypothesis =>
    rw [List.foldl_cons, inductionHypothesis]
    simp [Emitter.line, commentLines]

/-- One declaration adds its documentation and its line. -/
theorem define_field_exact (emitter : Emitter) (field : Field) :
    emitter.defineField field =
      { emitter with lines := emitter.lines ++
          (commentLines emitter.language emitter.language.layout.bodyDepth field.docs ++
            [⟨emitter.language.layout.bodyDepth, field.declaration emitter.language
              (field.kind.typeName emitter.language)⟩]) } := by
  rw [defineField, comments_exact]
  simp [Emitter.line]

/-- The lines of the declarations stand behind those that were there before. -/
theorem define_fields_exact (emitter : Emitter) (fields : List Field) :
    fields.foldl defineField emitter =
      { emitter with lines := emitter.lines ++ fields.flatMap fun field =>
          commentLines emitter.language emitter.language.layout.bodyDepth field.docs ++
            [⟨emitter.language.layout.bodyDepth, field.declaration emitter.language
              (field.kind.typeName emitter.language)⟩] } := by
  induction fields generalizing emitter with
  | nil => simp
  | cons field fields inductionHypothesis =>
    rw [List.foldl_cons, inductionHypothesis, define_field_exact]
    simp

/-- The writing of fields goes on with the number of the next temporary, and its lines stand
behind those that were there before. -/
theorem write_fields_exact (emitter : Emitter) (fields : List Field) :
    (fields.foldl writeField emitter).language = emitter.language ∧
      (fields.foldl writeField emitter).lines = emitter.lines ++
        (writeFields emitter.next fields).lines emitter.language
          emitter.language.layout.bodyDepth := by
  induction fields generalizing emitter with
  | nil => simp [writeFields, Code.lines]
  | cons field fields inductionHypothesis =>
    rw [List.foldl_cons, (inductionHypothesis _).1, (inductionHypothesis _).2]
    simp [writeField, Emitter.write, Emitter.add, writeFields, Field.writeCode, Code.lines_append]

/-- The reading of fields goes on with the number of the next temporary. A guard takes no
temporary, and its lines stand in front of those of the field. -/
theorem read_fields_exact (emitter : Emitter) (fields : List Field) :
    (fields.foldl readField emitter).language = emitter.language ∧
      (fields.foldl readField emitter).lines = emitter.lines ++
        (readFields emitter.next fields).lines emitter.language
          emitter.language.layout.bodyDepth := by
  induction fields generalizing emitter with
  | nil => simp [readFields, Code.lines]
  | cons field fields inductionHypothesis =>
    have assignment (value : Temporary) : field.assignment value.text =
        (Statement.assignField field.name value).text emitter.language := rfl
    rw [List.foldl_cons, (inductionHypothesis _).1, (inductionHypothesis _).2]
    by_cases appended : field.appended = true <;>
      simp [readField, appended, Emitter.guard, Emitter.read, Emitter.add, Emitter.line,
        readFields, Field.readCode, Code.lines_append, Code.lines, assignment]

end Emitter

namespace Message

/-- The definition block holds the lines of the declarations, emitted field by field. -/
theorem definition_emitter_code (language : Language) (message : Message) :
    (message.definitionEmitter language).code =
      renderLines language (message.definitionLines language) := by
  rw [definitionEmitter, Emitter.define_fields_exact]
  rfl

/-- The write block holds the lines of the write code, emitted field by field. -/
theorem write_emitter_code (language : Language) (message : Message) :
    (message.writeEmitter language).code = renderLines language (message.writeLines language) := by
  obtain ⟨same, lines⟩ := Emitter.write_fields_exact (Emitter.new language) message.fields
  rw [Emitter.code, writeEmitter, same, lines]
  rfl

/-- The read block holds the lines of the read code, emitted field by field. -/
theorem read_emitter_code (language : Language) (message : Message) :
    (message.readEmitter language).code = renderLines language (message.readLines language) := by
  obtain ⟨same, lines⟩ := Emitter.read_fields_exact (Emitter.new language) message.fields
  rw [Emitter.code, readEmitter, same, lines]
  rfl

/-- The lines of the write block are read back from what was emitted. -/
theorem write_emitter_lines (language : Language) (message : Message)
    (names : ∀ field ∈ message.fields, Name.isIdentifier field.name = true) :
    linesOf language (message.writeEmitter language).code = message.writeLines language := by
  rw [write_emitter_code]
  exact lines_of_render language _
    (Code.lines_plain language _ _ (write_fields_plain 0 message.fields names))

/-- The lines of the read block are read back from what was emitted. -/
theorem read_emitter_lines (language : Language) (message : Message)
    (names : ∀ field ∈ message.fields, Name.isIdentifier field.name = true)
    (references : ∀ field ∈ message.fields, field.kind.NamesIdentifiers) :
    linesOf language (message.readEmitter language).code = message.readLines language := by
  rw [read_emitter_code]
  exact lines_of_render language _
    (Code.lines_plain language _ _ (read_fields_plain 0 message.fields names references))

end Message
end PacketSmith
