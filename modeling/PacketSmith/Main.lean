import PacketSmith.Archive.Bytes
import PacketSmith.Command.Arguments

/-!
# The program

The disk of a run is what the paths lead through and to that the command can look at. It is read
before the command runs, and afterwards only what the command has changed is written.
-/

namespace PacketSmith.Program

/-- What a file holds. -/
def contentOf (bytes : ByteArray) : Content :=
  match String.fromUTF8? bytes with
  | some text => .text text
  | none => .data bytes.toList

/-- The path of a location. -/
def pathOf (location : Location) : String :=
  "/" ++ Text.joinWith "/" location

/-- What is at a location, as an entry of a directory. -/
def entryAt (location : Location) : IO.FS.DirEntry :=
  ⟨pathOf location.dropLast, location.getLast?.getD "."⟩

/-- The disk with what stands at a location of the file system. -/
def withPlace (disk : Disk) (location : Location) : IO Disk := do
  if (disk.node? location).isSome then
    return disk
  let path := (entryAt location).path
  if ← path.isDir then
    return disk.put location .directory
  if ← path.pathExists then
    return disk.put location (.file (contentOf (← IO.FS.readBinFile path)))
  return disk

/-- The disk with the places that a path leads through, those above them first. -/
def withWay (disk : Disk) (path : String) : IO Disk := do
  let start := Path.start disk.here path
  let route := Path.route path
  let mut disk := disk
  for count in [0 : start.length + 1] do
    disk ← withPlace disk (start.take count)
  for count in [0 : route.length + 1] do
    disk ← withPlace disk (Path.walk start (route.take count))
  return disk

/-- The disk with everything below a location of the file system. -/
partial def withBelow (disk : Disk) (location : Location) : IO Disk := do
  let path := (entryAt location).path
  let mut disk := disk
  if ← path.isDir then
    for entry in ← path.readDir do
      let place := location ++ [entry.fileName]
      disk ← withBelow (← withPlace disk place) place
  return disk

/-- The disk with what paths lead through and to, and everything below that. -/
def withPaths (disk : Disk) (paths : List String) : IO Disk :=
  paths.foldlM (fun disk path => do
    let disk ← withWay disk path
    withBelow disk (Path.walk (Path.start disk.here path) (Path.route path))) disk

/-- The paths that a run with a manifest looks at. -/
def pathsOf (manifest : Manifest) : List String :=
  manifest.sources ++ manifest.templates.toList ++
    Path.join manifest.output Archive.fileName ::
      Language.all.map fun language => Path.join manifest.output language.layout.directory

/-- The disk with the manifest at a path and what it names. -/
def withManifest (disk : Disk) (path : String) (change : Manifest → Manifest) : IO Disk := do
  let disk ← withPaths disk [path]
  match Manifest.ofFile disk path with
  | .ok manifest => withPaths disk (pathsOf (change manifest))
  | .error _ => withPaths disk (pathsOf (change .default))

/-- The disk that a command can look at. -/
def withInvocation (disk : Disk) : Command.Invocation → IO Disk
  | .generate request =>
    withManifest disk (request.manifest.getD Manifest.defaultPath) (Command.override request)
  | .check manifest => withManifest disk (manifest.getD Manifest.defaultPath) id
  | .schema sources none => withPaths disk sources
  | .schema _ (some manifest) => withManifest disk manifest id
  | .help | .version | .misuse => return disk

/-- Remove what a run has removed, and write what it has made or changed. -/
def settle (before after : Disk) : IO Unit := do
  for (location, node) in before.entries.reverse do
    if (after.node? location).isNone then
      match node with
      | .directory => IO.FS.removeDir (pathOf location)
      | .file _ => IO.FS.removeFile (pathOf location)
  for (location, node) in after.entries do
    if before.node? location != some node then
      match node with
      | .directory => IO.FS.createDir (pathOf location)
      | .file content => IO.FS.writeBinFile (pathOf location) ⟨content.bytes.toArray⟩

end PacketSmith.Program

/-- Run the command that the arguments ask for. -/
def main (arguments : List String) : IO UInt32 := do
  let current ← IO.currentDir
  let here := (PacketSmith.Path.segments current.toString).filter
    fun segment => !PacketSmith.Path.isNothing segment
  let disk ← PacketSmith.Program.withWay ⟨[], here⟩ "."
  let disk ← PacketSmith.Program.withInvocation disk (.ofArguments arguments)
  let run := PacketSmith.Command.run arguments disk
  PacketSmith.Program.settle disk run.disk
  IO.print run.printed
  IO.eprint run.complaint
  return UInt32.ofNat run.exitCode
