import PacketSmith.Disk
import PacketSmith.Template
import PacketSmith.Template.Bundled

/-!
# Where templates come from

Templates and support files are either given as a table of texts, like the bundled ones, or
read from a directory with the same layout.
-/

namespace PacketSmith

/-- A place that resources are loaded from. -/
inductive TemplateSource where
  /-- A table of paths and texts. -/
  | table (resources : List (String × String))
  /-- A directory on the disk. -/
  | directory (root : String)
  deriving DecidableEq, Repr

namespace TemplateSource

/-- The resources that come with the library. -/
def bundled : TemplateSource :=
  table Template.Bundled.resources

/-- The text of a resource. -/
def load (source : TemplateSource) (disk : Disk) (path : String) : Except Failure String :=
  match source with
  | table resources =>
    match resources.find? fun resource => resource.1 == path with
    | some resource => .ok resource.2
    | none => .error (.templateMissing path)
  | directory base =>
    let place := Path.join base path
    match disk.readText place with
    | .ok text => .ok text
    | .error .missing => .error (.templateMissing place)
    | .error .unusable => .error (.templateUnreadable place)

/-- A resource as a template. -/
def template (source : TemplateSource) (disk : Disk) (path : String) :
    Except Failure Template := do
  return ⟨path, ← source.load disk path⟩

end TemplateSource
end PacketSmith
