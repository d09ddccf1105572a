import PacketSmith.Config
import PacketSmith.Render

/-!
# Sessions

A session is one language's part of a run: its language, its template source and its output
directory. Each step of a session gives a disk together with its outcome, because a step
that fails can have changed the disk before it failed.
-/

namespace PacketSmith

/-- One language's part of a run. -/
structure Session where
  /-- The language of the session. -/
  language : Language
  /-- Where the session's templates come from. -/
  templates : TemplateSource
  /-- The directory the session writes to. -/
  outputDirectory : String
  deriving DecidableEq, Repr

namespace Session

/-- Remove a directory with everything in it, if it is there. -/
def clearDirectory (disk : Disk) (path : String) : Except Fault Disk :=
  match disk.removeDirectory path with
  | .ok disk => .ok disk
  | .error .missing => .ok disk
  | .error .unusable => .error .unusable

/-- Start a session: the output directory is made anew and empty. -/
def start (config : Config) (language : Language) (templates : TemplateSource) (disk : Disk) :
    Disk × Except Failure Session :=
  let directory := Path.join config.outputRoot language.layout.directory
  match clearDirectory disk directory with
  | .error _ => (disk, .error (.outputDirectory directory language))
  | .ok disk =>
    match disk.makeDirectories directory with
    | (disk, .error _) => (disk, .error (.outputDirectory directory language))
    | (disk, .ok ()) => (disk, .ok ⟨language, templates, directory⟩)

/-- Make the directory of a file, unless it is the output directory. -/
def prepareParent (session : Session) (path : String) (disk : Disk) : Disk × Except Fault Unit :=
  match Path.parent? path with
  | some parent =>
    if Path.components parent == Path.components session.outputDirectory then (disk, .ok ())
    else disk.makeDirectories parent
  | none => (disk, .ok ())

/-- Write a file on behalf of a schema or resource. -/
def writeFile (session : Session) (schema path text : String) (disk : Disk) :
    Disk × Except Failure Unit :=
  match session.prepareParent path disk with
  | (disk, .error _) => (disk, .error (.write path schema session.language))
  | (disk, .ok ()) =>
    match disk.write path (.text text) with
    | .ok disk => (disk, .ok ())
    | .error _ => (disk, .error (.write path schema session.language))

/-- The path of a message file. -/
def messagePath (session : Session) (message : Message) : String :=
  Path.join session.outputDirectory
    (message.typeName ++ "." ++ session.language.layout.extension)

/-- Render a message and write its file. The outcome is the path of the file. -/
def writeMessage (session : Session) (message : Message) (disk : Disk) :
    Disk × Except Failure String :=
  match message.render session.language session.templates disk with
  | .error failure => (disk, .error failure)
  | .ok text =>
    let path := session.messagePath message
    match session.writeFile message.name path text disk with
    | (disk, .error failure) => (disk, .error failure)
    | (disk, .ok ()) => (disk, .ok path)

/-- Render messages in order and write their files, up to the first failure. -/
def writeMessages (session : Session) : List Message → Disk → Disk × Except Failure (List String)
  | [], disk => (disk, .ok [])
  | message :: messages, disk =>
    match session.writeMessage message disk with
    | (disk, .error failure) => (disk, .error failure)
    | (disk, .ok path) =>
      match session.writeMessages messages disk with
      | (disk, .error failure) => (disk, .error failure)
      | (disk, .ok paths) => (disk, .ok (path :: paths))

/-- The path of a support file. -/
def supportPath (session : Session) (resource : String) : String :=
  let dropped := Text.afterPrefix? session.language.layout.resourcePrefix.toList resource.toList
  Path.join session.outputDirectory ((dropped.map String.ofList).getD resource)

/-- Copy support files in order, up to the first failure. -/
def copySupport (session : Session) : List String → Disk → Disk × Except Failure (List String)
  | [], disk => (disk, .ok [])
  | resource :: resources, disk =>
    match session.templates.load disk resource with
    | .error failure => (disk, .error failure)
    | .ok text =>
      let path := session.supportPath resource
      match session.writeFile resource path text disk with
      | (disk, .error failure) => (disk, .error failure)
      | (disk, .ok ()) =>
        match session.copySupport resources disk with
        | (disk, .error failure) => (disk, .error failure)
        | (disk, .ok paths) => (disk, .ok (path :: paths))

/-- Copy the support files and write the manager file. The outcome is the paths of the
files, the manager file last. -/
def writeManager (session : Session) (slots : List (Option Message)) (disk : Disk) :
    Disk × Except Failure (List String) :=
  let layout := session.language.layout
  match session.copySupport layout.supportFiles disk with
  | (disk, .error failure) => (disk, .error failure)
  | (disk, .ok paths) =>
    match renderManager session.language session.templates disk slots with
    | .error failure => (disk, .error failure)
    | .ok text =>
      let path := Path.join session.outputDirectory layout.managerFile
      match session.writeFile layout.managerFile path text disk with
      | (disk, .error failure) => (disk, .error failure)
      | (disk, .ok ()) => (disk, .ok (paths ++ [path]))

/-- A session in one line. -/
def shown (session : Session) : String :=
  "GenerationSession \x7b language: " ++ session.language.title ++ ", output_dir: " ++
    Text.quoted session.outputDirectory ++ ", .. \x7d"

end Session
end PacketSmith
