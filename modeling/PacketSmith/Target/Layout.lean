import PacketSmith.Language

/-!
# Layout of generated packages

Where the files of a language's package stand, which resources they come from, and how code
is indented in them.
-/

namespace PacketSmith

/-- The conventions of a generated package. -/
structure Layout where
  /-- The directory under the output root. -/
  directory : String
  /-- The extension of message files. -/
  extension : String
  /-- The beginning of resource paths that is dropped when a support file is copied. -/
  resourcePrefix : String
  /-- The template of message files. -/
  messageTemplate : String
  /-- The template of the manager file. -/
  managerTemplate : String
  /-- The name of the manager file. -/
  managerFile : String
  /-- The resources that are copied as they are. -/
  supportFiles : List String
  /-- One level of indentation. -/
  indent : String
  /-- The depth of field, write and read code in the message template. -/
  bodyDepth : Nat
  /-- The depth of registrations in the manager template. -/
  registrationDepth : Nat
  /-- What a line comment begins with. -/
  comment : String
  deriving DecidableEq, Repr

/-- The layout of a language's packages. -/
def Language.layout : Language → Layout
  | go => {
      directory := "goProtocol"
      extension := "go"
      resourcePrefix := "go/"
      messageTemplate := "go/ProtocolTemplate.go"
      managerTemplate := "go/ProtocolManagerTemplate.go"
      managerFile := "ProtocolManager.go"
      supportFiles := ["go/ByteBuffer.go"]
      indent := "\t"
      bodyDepth := 1
      registrationDepth := 1
      comment := "//" }
  | python => {
      directory := "pythonProtocol"
      extension := "py"
      resourcePrefix := "python/"
      messageTemplate := "python/ProtocolTemplate.py"
      managerTemplate := "python/ProtocolManagerTemplate.py"
      managerFile := "ProtocolManager.py"
      supportFiles := ["python/ByteBuffer.py", "python/__init__.py"]
      indent := "    "
      bodyDepth := 2
      registrationDepth := 0
      comment := "#" }

end PacketSmith
