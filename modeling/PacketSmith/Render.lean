import PacketSmith.Code.Serializer
import PacketSmith.Target.Reserved
import PacketSmith.Template.Source

/-!
# Rendering files

A message file is a template with three blocks of code in it, which declare, write and read
the fields in schema order. A manager file is a template with one registration for each
message. Blocks are emitted at the depth of their marker and put there without the
indentation of their first line, because the template has it already.
-/

namespace PacketSmith

/-- The comment at the top of every generated file. -/
def headerText (language : Language) : String :=
  language.layout.comment ++ " Code generated by wiregen; DO NOT EDIT."

/-- A documentation line as a comment. -/
def commentText (language : Language) (doc : String) : String :=
  if Text.isAllBlank doc.toList then language.layout.comment
  else language.layout.comment ++ " " ++ Text.trimmedRight doc

/-- Documentation lines as comment lines. -/
def commentLines (language : Language) (depth : Nat) (docs : List String) : List Line :=
  docs.map fun doc => ⟨depth, commentText language doc⟩

/-- The block of code that a marker of the message template stands for. -/
inductive Block where
  | fieldDefinition
  | writeObject
  | readObject
  deriving DecidableEq, Repr

/-- What stands for a block without code, where the language needs something. -/
def Block.emptyText (language : Language) (block : Block) : String :=
  match language, block with
  | .go, .writeObject => "_ = message"
  | .go, .fieldDefinition | .go, .readObject => ""
  | .python, .fieldDefinition | .python, .writeObject => "pass"
  | .python, .readObject => ""

/-- The text of a block: its lines without the blanks around them. -/
def Block.finish (language : Language) (block : Block) (lines : List Line) : String :=
  let code := Text.trimmed (renderLines language lines)
  if code.isEmpty then block.emptyText language else code

namespace Message

/-- The lines that declare the fields, each behind its documentation. -/
def definitionLines (language : Language) (message : Message) : List Line :=
  let depth := language.layout.bodyDepth
  message.fields.flatMap fun field =>
    commentLines language depth field.docs ++
      [⟨depth, field.declaration language (field.kind.typeName language)⟩]

/-- The lines that write the fields. -/
def writeLines (language : Language) (message : Message) : List Line :=
  (writeFields 0 message.fields).lines language language.layout.bodyDepth

/-- The lines that read the fields. -/
def readLines (language : Language) (message : Message) : List Line :=
  (readFields 0 message.fields).lines language language.layout.bodyDepth

/-- The text of a block of a message. -/
def blockText (language : Language) (message : Message) (block : Block) : String :=
  block.finish language <| match block with
    | .fieldDefinition => message.definitionLines language
    | .writeObject => message.writeLines language
    | .readObject => message.readLines language

/-- The values for the markers of the message template. -/
def markerValues (language : Language) (message : Message) : List (String × String) :=
  [("header", headerText language),
   ("class_note", renderLines language (commentLines language 0 message.docs)),
   ("class_name", message.typeName),
   ("protocol_id", ProtocolId.text message.id),
   ("field_definition", message.blockText language .fieldDefinition),
   ("write_object", message.blockText language .writeObject),
   ("read_object", message.blockText language .readObject)]

/-- The file of a message. Names are checked before the template is loaded. -/
def render (language : Language) (source : TemplateSource) (disk : Disk) (message : Message) :
    Except Failure String := do
  match message.checkNames language with
  | .error error => .error (.schema error)
  | .ok () =>
    let template ← source.template disk language.layout.messageTemplate
    template.render (message.markerValues language)

end Message

/-- The lines that register the messages of slots. -/
def registrationLines (language : Language) (slots : List (Option Message)) : List Line :=
  (slots.filterMap id).map fun message =>
    ⟨language.layout.registrationDepth, message.registration language⟩

/-- The manager file for slots. Empty slots are passed over. -/
def renderManager (language : Language) (source : TemplateSource) (disk : Disk)
    (slots : List (Option Message)) : Except Failure String := do
  let template ← source.template disk language.layout.managerTemplate
  template.render
    [("header", headerText language),
     ("registrations", Text.trimmed (renderLines language (registrationLines language slots)))]

end PacketSmith
