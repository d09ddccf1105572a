import PacketSmith.Proofs.Code.Blocks
import PacketSmith.Proofs.Code.Emission
import PacketSmith.Proofs.Code.Placement
import PacketSmith.Proofs.Rendering

/-!
# Blocks in the file of a message

A block stands in a line of its own in the message template, behind the indentation at which it is
emitted. What finishing a block takes off its first line is therefore there already, and the line
that it ends is that of the template: the file holds the lines of the emitter as they are. Their
blocks are those that the braces of Go and the indentation of Python show.
-/

namespace PacketSmith

/-! ## Lines with a marker -/

/-- The name of the marker for which a block stands. -/
def Block.markerName : Block → String
  | fieldDefinition => "field_definition"
  | writeObject => "write_object"
  | readObject => "read_object"

/-- The line of the message template in which a block stands. -/
def Block.markerLine (language : Language) (block : Block) : String :=
  repeated language.layout.indent language.layout.bodyDepth ++
    ("\x7b\x7b" ++ block.markerName ++ "\x7d\x7d")

/-- The parts of the line of a block are an indentation and the marker. -/
theorem Block.marker_parts (language : Language) (block : Block) :
    Template.parts (block.markerLine language).toList =
      (repeated language.layout.indent language.layout.bodyDepth).toList.map .character ++
        [.marker block.markerName.toList] := by
  cases language <;> cases block <;> decide +kernel

/-- The blocks stand in the message template in the order in which a message declares, writes and
reads its fields. -/
theorem Language.message_lines_split (language : Language) :
    ∃ front middle between back, language.messageLines =
      front ++ Block.fieldDefinition.markerLine language ::
        (middle ++ Block.writeObject.markerLine language ::
          (between ++ Block.readObject.markerLine language :: back)) := by
  cases language with
  | go =>
    exact ⟨go.messageLines.take 4, (go.messageLines.drop 5).take 11,
      (go.messageLines.drop 17).take 7, go.messageLines.drop 25, by decide +kernel⟩
  | python =>
    exact ⟨python.messageLines.take 6, (python.messageLines.drop 7).take 8,
      (python.messageLines.drop 16).take 6, python.messageLines.drop 23, by decide +kernel⟩

/-- Characters stay as they are. -/
theorem Template.filled_characters (values : List (String × String)) (text : List Char) :
    (text.map TemplatePart.character).flatMap (Template.characters values) = text := by
  induction text with
  | nil => rfl
  | cons first text inductionHypothesis =>
    rw [List.map_cons, List.flatMap_cons, inductionHypothesis]
    rfl

/-- Lines after lines. -/
theorem Template.Bundled.text_append (front back : List String) :
    text (front ++ back) = text front ++ text back := by
  induction front with
  | nil => simp [text]
  | cons line front inductionHypothesis => simp [text, inductionHypothesis, String.append_assoc]

/-- The value for the marker of a block is the text of the block. -/
theorem Message.block_value (language : Language) (message : Message) (block : Block) :
    Template.valueOf? (message.markerValues language) block.markerName =
      some (message.blockText language block) := by
  cases block <;> simp [Template.valueOf?, markerValues, Block.markerName]

/-- In a file, a block stands behind the indentation of its marker. -/
theorem Message.filled_marker (language : Language) (message : Message) (block : Block) :
    Template.filled (message.markerValues language) (block.markerLine language) =
      repeated language.layout.indent language.layout.bodyDepth ++
        message.blockText language block := by
  rw [← String.toList_inj, Template.filled, block.marker_parts, List.flatMap_append,
    Template.filled_characters]
  simp [Template.characters, message.block_value]

/-! ## Blocks with fields -/

/-- The first line of code stands at the depth of the code. -/
theorem Code.lines_first (language : Language) (depth : Nat) (code : Code) :
    ∀ line ∈ (code.lines language depth).head?, line.depth = depth := by
  cases code <;> simp [lines]

/-- The first line of a block stands at the depth of its marker. -/
theorem Block.field_lines_first (language : Language) (next : Nat) (fields : List Field)
    (block : Block) :
    ∀ line ∈ (block.fieldLines language next fields).head?,
      line.depth = language.layout.bodyDepth := by
  cases block with
  | writeObject | readObject => exact Code.lines_first language _ _
  | fieldDefinition =>
    rcases fields with _ | ⟨field, fields⟩
    · simp [fieldLines]
    · rcases documented : field.docs with _ | ⟨doc, docs⟩ <;>
        simp [fieldLines, commentLines, documented]

namespace Message

/-- Whether the fields of a message, and the messages to which they refer, are named by
identifiers. -/
structure NamesIdentifiers (message : Message) : Prop where
  /-- The fields are. -/
  fields : ∀ field ∈ message.fields, Name.isIdentifier field.name = true
  /-- What they refer to is. -/
  references : ∀ field ∈ message.fields, field.kind.NamesIdentifiers

/-- In a file, the line of the marker of a block holds the lines of the fields as they are. -/
theorem filled_block (language : Language) (message : Message) (inhabited : message.fields ≠ [])
    (named : message.NamesIdentifiers) (block : Block) :
    Template.filled (message.markerValues language) (block.markerLine language) ++ "\n" =
      renderLines language (block.fieldLines language 0 message.fields) := by
  have framed := block.field_lines_framed language 0 message.fields inhabited named.fields
    named.references
  have depth := block.field_lines_first language 0 message.fields
  obtain ⟨line, member, _⟩ := framed.first
  obtain ⟨lines, whole⟩ := List.head?_eq_some_iff.mp member
  rw [whole] at framed depth
  rw [filled_marker, block_text, whole, ← depth line rfl]
  exact block.finish_placed language framed

/-- The file of a message with fields holds what was emitted for its blocks, each in lines of its
own. -/
theorem bundled_text_blocks (language : Language) (message : Message)
    (inhabited : message.fields ≠ []) (named : message.NamesIdentifiers) :
    ∃ front middle between back, message.bundledText language =
      Template.Bundled.text front ++ (message.definitionEmitter language).code ++
        Template.Bundled.text middle ++ (message.writeEmitter language).code ++
          Template.Bundled.text between ++ (message.readEmitter language).code ++
            Template.Bundled.text back := by
  obtain ⟨front, middle, between, back, lines⟩ := language.message_lines_split
  have block := message.filled_block language inhabited named
  let values := message.markerValues language
  refine ⟨front.map (Template.filled values), middle.map (Template.filled values),
    between.map (Template.filled values), back.map (Template.filled values), ?_⟩
  rw [bundledText, lines, definition_emitter_code, write_emitter_code, read_emitter_code]
  simp only [List.map_append, List.map_cons, Template.Bundled.text_append, Template.Bundled.text,
    block, String.append_assoc]
  rfl

end Message

/-! ## The structure of blocks -/

/-- Whether the lines of a block show its structure in a language. -/
structure Structured (language : Language) (lines : List Line) : Prop where
  /-- No line stands outside of the body. -/
  deep : ∀ line ∈ lines, language.layout.bodyDepth ≤ line.depth
  /-- In Go, braces are opened and closed as the indentation shows. -/
  braced : language = .go → Braced language.layout.bodyDepth lines
  /-- In Python, the indentation is that of blocks which are not empty. -/
  indented : language = .python → Indented language.layout.bodyDepth lines

/-- The lines of plain code without empty blocks show its structure. -/
theorem Code.lines_structured (language : Language) (code : Code) (plain : code.IsPlain)
    (filled : code.IsFilled) :
    Structured language (code.lines language language.layout.bodyDepth) := by
  constructor
  case deep => exact code.lines_depth language _
  case braced =>
    rintro rfl
    exact code.lines_braced _ plain
  case indented =>
    rintro rfl
    exact code.lines_indented _ filled

/-- What is to be said of the blocks of a message: of their lines, as they are read from what was
emitted, and of their place in the file. -/
structure MessageBlocks (language : Language) (message : Message) : Prop where
  /-- The lines that write the fields show their structure. -/
  written : Structured language (linesOf language (message.writeEmitter language).code)
  /-- The lines that read the fields show their structure. -/
  read : Structured language (linesOf language (message.readEmitter language).code)
  /-- The file of a message with fields holds what was emitted, each block in lines of its own. -/
  verbatim : message.fields ≠ [] → message.checkNames language = .ok () → ∀ disk,
    ∃ front middle between back, message.render language .bundled disk =
      .ok (Template.Bundled.text front ++ (message.definitionEmitter language).code ++
        Template.Bundled.text middle ++ (message.writeEmitter language).code ++
          Template.Bundled.text between ++ (message.readEmitter language).code ++
            Template.Bundled.text back)

/-- The blocks of every message whose names are identifiers show their structure, and stand in its
file as they were emitted. -/
theorem blocks_structured (language : Language) (message : Message)
    (named : message.NamesIdentifiers) : MessageBlocks language message := by
  have writePlain := write_fields_plain 0 message.fields named.fields
  have readPlain := read_fields_plain 0 message.fields named.fields named.references
  constructor
  case written =>
    rw [message.write_emitter_lines language named.fields]
    exact Code.lines_structured language _ writePlain (write_fields_filled 0 message.fields)
  case read =>
    rw [message.read_emitter_lines language named.fields named.references]
    exact Code.lines_structured language _ readPlain (read_fields_filled 0 message.fields)
  case verbatim =>
    intro inhabited accepted disk
    obtain ⟨front, middle, between, back, text⟩ :=
      message.bundled_text_blocks language inhabited named
    exact ⟨front, middle, between, back,
      text ▸ message.render_bundled_text language disk accepted⟩

/-- The blocks of a message with a list in a map. -/
theorem blocks_structured_route :
    Wire.routeMessage.NamesIdentifiers ∧ Wire.routeMessage.fields ≠ [] ∧
      (∀ language, Wire.routeMessage.checkNames language = .ok ()) ∧
      ∀ language, MessageBlocks language Wire.routeMessage := by
  have named : Wire.routeMessage.NamesIdentifiers := by
    constructor
    case fields => decide
    case references =>
      simp only [Wire.routeMessage, Kind.NamesIdentifiers, Kind.references, List.forall_mem_cons]
      decide
  exact ⟨named, List.cons_ne_nil _ _, fun language => by cases language <;> rfl,
    fun language => blocks_structured language _ named⟩

end PacketSmith
