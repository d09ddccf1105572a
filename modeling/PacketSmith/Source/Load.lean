import PacketSmith.Disk
import PacketSmith.Json.Reader
import PacketSmith.Source.Declaration
import PacketSmith.Text.Quoted

/-!
# Loading schemas

Schemas come from source files, which declare messages, and from JSON files, which list
them. All files are read before any declaration is resolved, so that a message can refer to
one in another file; of several messages of one name the last declaration counts, and
declarations come after listed messages.
-/

namespace PacketSmith.Source

/-- Why schemas cannot be loaded. -/
inductive LoadFault where
  /-- A file cannot be read. -/
  | unreadable (path : String)
  /-- A file does not hold a list of messages. -/
  | notMessages (path : String)
  /-- The messages of a source file cannot be collected. -/
  | declarations (path : String) (fault : DeclarationFault)
  /-- A path has neither of the two extensions. -/
  | unsupported (path : String)
  /-- A declared message has no schema. -/
  | field (fault : FieldFault)
  deriving DecidableEq, Repr

/-- The wording for a path without a supported extension. -/
def unsupportedPath (path : String) : String :=
  "Unsupported source file " ++ Text.quoted path ++ " (expected .rs or .json)"

/-- The wording of a fault. -/
def LoadFault.message : LoadFault → String
  | unreadable path => "Failed to read " ++ Text.quoted path ++ ": <io>"
  | notMessages path => "Failed to parse schema JSON " ++ Text.quoted path ++ ": <json>"
  | declarations path fault =>
    "Failed to extract protocols from " ++ Text.quoted path ++ ": " ++ fault.message
  | unsupported path => unsupportedPath path
  | field fault => fault.message

/-- The sorts of files that schemas come from. -/
inductive SourceSort where
  /-- A file that declares messages. -/
  | declaring
  /-- A file that lists messages. -/
  | listing
  deriving DecidableEq, Repr

/-- The sort of the file at a path, by its extension. -/
def SourceSort.ofPath? (path : String) : Option SourceSort :=
  match Path.extension? path with
  | some "rs" => some declaring
  | some "json" => some listing
  | _ => none

/-- Whether schemas can come from the file at a path. -/
def isSupported (path : String) : Bool :=
  (SourceSort.ofPath? path).isSome

/-- What files hold: listed messages and declarations, each in order. -/
structure Sources where
  /-- The listed messages. -/
  messages : List Message
  /-- The declared messages. -/
  declarations : List Declaration
  deriving Repr

/-- What one file holds. -/
def Sources.ofFile (disk : Disk) (path : String) : Except LoadFault Sources :=
  match disk.readText path with
  | .error _ => .error (.unreadable path)
  | .ok text =>
    match SourceSort.ofPath? path with
    | some .listing =>
      match (Json.ofText? text).bind Message.listOfJson? with
      | some messages => .ok ⟨messages, []⟩
      | none => .error (.notMessages path)
    | some .declaring =>
      match Declaration.ofText text with
      | .ok declarations => .ok ⟨[], declarations⟩
      | .error fault => .error (.declarations path fault)
    | none => .error (.unsupported path)

/-- What files hold, together. -/
def Sources.ofFiles (disk : Disk) : List String → Except LoadFault Sources
  | [] => .ok ⟨[], []⟩
  | path :: paths => do
    let first ← ofFile disk path
    let others ← ofFiles disk paths
    return ⟨first.messages ++ others.messages, first.declarations ++ others.declarations⟩

/-- The numbers of all messages by name; declarations come after listed messages. -/
def Sources.ids (sources : Sources) : KnownIds :=
  (sources.messages.map fun message => (message.name, message.id)) ++ idsOf sources.declarations

/-- All messages: the listed ones and then the declared ones. -/
def Sources.resolve (sources : Sources) : Except LoadFault (List Message) :=
  match sources.declarations.mapM (Declaration.resolve sources.ids) with
  | .ok declared => .ok (sources.messages ++ declared)
  | .error fault => .error (.field fault)

/-- The schemas of files. -/
def loadSchemas (disk : Disk) (paths : List String) : Except LoadFault (List Message) := do
  (← Sources.ofFiles disk paths).resolve

end PacketSmith.Source
