import PacketSmith.Schema.Table
import PacketSmith.Target.TypeName

/-!
# Names that are taken

Fields cannot be named by keywords, and messages cannot generate types whose names belong to
the language, to the runtime or to the manager file, or that would be read as a scalar.
-/

namespace PacketSmith

/-- The keywords of a language. -/
def Language.keywords : Language → List String
  | go => ["break", "case", "chan", "const", "continue", "default", "defer", "else",
      "fallthrough", "for", "func", "go", "goto", "if", "import", "interface", "map", "package",
      "range", "return", "select", "struct", "switch", "type", "var"]
  | python => ["False", "None", "True", "and", "as", "assert", "async", "await", "break", "class",
      "continue", "def", "del", "elif", "else", "except", "finally", "for", "from", "global",
      "if", "import", "in", "is", "lambda", "nonlocal", "not", "or", "pass", "raise", "return",
      "try", "while", "with", "yield"]

/-- The type names taken by the runtime, the manager file and the language. -/
def Language.takenTypeNames : Language → List String
  | go => ["ByteBuffer", "NewByteBuffer", "NewByteBufferFrom", "ProtocolManager",
      "IProtocolRegistration", "Protocols", "GetProtocol", "Write", "Read"]
  | python => ["ByteBuffer", "ProtocolManager", "None", "True", "False"]

/-- Check the names that a message generates in a language: the fields first, in order, and
then the type. -/
def Message.checkNames (language : Language) (message : Message) : Except SchemaError Unit :=
  match message.fields.find? fun field => language.keywords.contains field.name with
  | some field => .error (.reservedWord message.name field.name language)
  | none =>
    if language.takenTypeNames.contains message.typeName
        || mapType language message.typeName != message.typeName then
      .error (.reservedTypeName message.name message.typeName language)
    else .ok ()

end PacketSmith
