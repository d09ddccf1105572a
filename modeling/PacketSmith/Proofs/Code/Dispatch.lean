import PacketSmith.Proofs.Code.Emission
import PacketSmith.Proofs.Code.Serializers

/-!
# Blocks by serializers

A block is emitted one field after another, the type or the value of each by the serializer of a
tag, which refuses kinds of other tags. Fields are always given to the serializer of their own tag,
so that nothing is ever refused, however kinds are nested, and the block has the lines of the code
that declares, writes or reads the fields.
-/

namespace PacketSmith

namespace Emitter

/-- Emit a field of a block. -/
def emitField (block : Block) (emitter : Emitter) (field : Field) : Emitter :=
  match block with
  | .fieldDefinition => emitter.defineField field
  | .writeObject => emitter.writeField field
  | .readObject => emitter.readField field

/-- The language stays the same. -/
theorem emit_field_language (block : Block) (emitter : Emitter) (field : Field) :
    (emitter.emitField block field).language = emitter.language := by
  cases block with
  | fieldDefinition => rw [emitField, define_field_exact]
  | writeObject => exact (write_fields_exact emitter [field]).1
  | readObject => exact (read_fields_exact emitter [field]).1

end Emitter

namespace Emitting

/-- Add one line. -/
def line (depth : Nat) (text : String) : Emitting Unit :=
  ⟨fun emitter => (emitter.line depth text, .ok ())⟩

/-- Add the code in front of an appended field. -/
def guard (depth : Nat) : Emitting Unit :=
  ⟨fun emitter => (emitter.guard depth, .ok ())⟩

/-- Declare a field behind its documentation, its type from the serializer of its tag. -/
def defineField (language : Language) (field : Field) : Emitting Unit := do
  field.docs.forM fun doc => line language.layout.bodyDepth (commentText language doc)
  let fieldType ← check fun emitter => emitter.fieldType field.kind
  line language.layout.bodyDepth (field.declaration language fieldType)

/-- Write a field of the message with the serializer of its tag. -/
def writeField (language : Language) (field : Field) : Emitting Unit :=
  writeValue (.expression field.valueText) language.layout.bodyDepth field.kind

/-- Read a field: the guard if the field is appended, the value with the serializer of its tag, and
its assignment. -/
def readField (language : Language) (field : Field) : Emitting Unit := do
  if field.appended then guard language.layout.bodyDepth
  let value ← readValue language.layout.bodyDepth field.kind
  line language.layout.bodyDepth (field.assignment value.text)

/-- Emit a field of a block. -/
def field (language : Language) : Block → Field → Emitting Unit
  | .fieldDefinition => defineField language
  | .writeObject => writeField language
  | .readObject => readField language

/-- Doing a step for each of some items that never fails, and keeps the language, is a fold. -/
theorem each_run {Item : Type} {language : Language} {step : Item → Emitting Unit}
    {plain : Emitter → Item → Emitter}
    (same : ∀ emitter item, emitter.language = language →
      (step item).run emitter = (plain emitter item, .ok ()))
    (keeps : ∀ emitter item, (plain emitter item).language = emitter.language)
    (items : List Item) (emitter : Emitter) (current : emitter.language = language) :
    (items.forM step).run emitter = (items.foldl plain emitter, .ok ()) := by
  induction items generalizing emitter with
  | nil => rfl
  | cons item items inductionHypothesis =>
    change (step item >>= fun _ => items.forM step).run emitter = _
    simp only [bind, same emitter item current]
    exact inductionHypothesis _ ((keeps emitter item).trans current)

/-- Serializers declare a field as it is declared. -/
theorem define_field_run (emitter : Emitter) (field : Field) :
    (defineField emitter.language field).run emitter = (emitter.defineField field, .ok ()) := by
  have commented : (field.docs.forM fun doc =>
        line emitter.language.layout.bodyDepth (commentText emitter.language doc)).run emitter =
      (field.docs.foldl (fun during doc =>
        during.line emitter.language.layout.bodyDepth (commentText during.language doc)) emitter,
        .ok ()) := by
    refine each_run ?_ ?_ field.docs emitter rfl
    · intro during doc same
      rw [line, same]
    · exact fun _ _ => rfl
  rw [Emitter.comments_exact] at commented
  rw [Emitter.define_field_exact]
  simp only [defineField, bind, commented, check, Emitter.fieldType, Serializer.field_type_own]
  simp [line, Emitter.line]

/-- Serializers write a field as it is written. -/
theorem write_field_run (emitter : Emitter) (field : Field) :
    (writeField emitter.language field).run emitter = (emitter.writeField field, .ok ()) :=
  Serializer.write_own emitter (.expression field.valueText) _ field.kind

/-- Serializers read a field as it is read. -/
theorem read_field_run (emitter : Emitter) (field : Field) :
    (readField emitter.language field).run emitter = (emitter.readField field, .ok ()) := by
  have valued := Serializer.read_own
  cases appended : field.appended <;>
    simp [readField, appended, bind, guard, readValue, valued, line, Emitter.readField,
      Emitter.read]

/-- Serializers emit a field as it is emitted. -/
theorem field_run (emitter : Emitter) (block : Block) (field : Field) :
    (Emitting.field emitter.language block field).run emitter =
      (emitter.emitField block field, .ok ()) := by
  cases block with
  | fieldDefinition => exact define_field_run emitter field
  | writeObject => exact write_field_run emitter field
  | readObject => exact read_field_run emitter field

end Emitting

namespace Message

/-- The text of a block, emitted field by field by the serializers of the tags. -/
def blockBySerializers (language : Language) (message : Message) (block : Block) :
    Except Failure String :=
  match (message.fields.forM (Emitting.field language block)).run (Emitter.new language) with
  | (emitter, .ok ()) => .ok (block.finish language emitter.lines)
  | (_, .error failure) => .error failure

/-- The file of a message, its blocks emitted by the serializers of the tags. -/
def renderBySerializers (language : Language) (source : TemplateSource) (disk : Disk)
    (message : Message) : Except Failure String := do
  match message.checkNames language with
  | .error error => .error (.schema error)
  | .ok () =>
    let template ← source.template disk language.layout.messageTemplate
    let fieldDefinition ← message.blockBySerializers language .fieldDefinition
    let writeObject ← message.blockBySerializers language .writeObject
    let readObject ← message.blockBySerializers language .readObject
    template.render
      [("header", headerText language),
       ("class_note", renderLines language (commentLines language 0 message.docs)),
       ("class_name", message.typeName),
       ("protocol_id", ProtocolId.text message.id),
       ("field_definition", fieldDefinition),
       ("write_object", writeObject),
       ("read_object", readObject)]

/-- No serializer refuses a field, and a block emitted by serializers is the block. -/
theorem block_by_serializers (language : Language) (message : Message) (block : Block) :
    message.blockBySerializers language block = .ok (message.blockText language block) := by
  have emitted : (message.fields.forM (Emitting.field language block)).run (.new language) =
      (message.fields.foldl (Emitter.emitField block) (.new language), .ok ()) := by
    refine Emitting.each_run ?_ (Emitter.emit_field_language block) message.fields _ rfl
    rintro emitter field rfl
    exact Emitting.field_run emitter block field
  rw [blockBySerializers, emitted]
  cases block with
  | fieldDefinition =>
    have lines : (message.fields.foldl (Emitter.emitField .fieldDefinition) (.new language)).lines =
        message.definitionLines language :=
      congrArg Emitter.lines (Emitter.define_fields_exact (.new language) message.fields)
    simp only [lines, blockText]
  | writeObject =>
    have lines : (message.fields.foldl (Emitter.emitField .writeObject) (.new language)).lines =
        message.writeLines language :=
      (Emitter.write_fields_exact (.new language) message.fields).2
    simp only [lines, blockText]
  | readObject =>
    have lines : (message.fields.foldl (Emitter.emitField .readObject) (.new language)).lines =
        message.readLines language :=
      (Emitter.read_fields_exact (.new language) message.fields).2
    simp only [lines, blockText]

section Rendering

-- Comparing files must not look into the blocks.
attribute [local irreducible] blockText

/-- A message rendered by the serializers of the tags is the message rendered. -/
theorem render_by_serializers (language : Language) (source : TemplateSource) (disk : Disk)
    (message : Message) :
    message.renderBySerializers language source disk = message.render language source disk := by
  rw [renderBySerializers, render]
  simp only [block_by_serializers]
  rfl

end Rendering

end Message
end PacketSmith
