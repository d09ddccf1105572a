import PacketSmith.Archive.Bytes
import PacketSmith.Failure

/-!
# Archives of generated files

The files below the given directories are packed into one archive in the output root. An
entry is named by its path from the root, and entries stand in the order of their names, so
that the same files are always packed in the same way, whatever the order in which they are
found.
-/

namespace PacketSmith

/-- Why an archive cannot be written. -/
inductive ArchiveFault where
  /-- A directory cannot be listed. -/
  | unlisted (directory : String)
  /-- A file is not below the root. -/
  | outside (path root : String)
  /-- The archive file cannot be made. -/
  | uncreated (path : String)
  /-- A file cannot be read. -/
  | unreadable (path : String)
  /-- Two entries have one name. -/
  | duplicate
  deriving DecidableEq, Repr

/-- The wording of a fault. -/
def ArchiveFault.message : ArchiveFault → String
  | unlisted directory => "Failed to list " ++ directory ++ ": " ++ systemWords
  | outside path root => path ++ " is outside " ++ root ++ ": <path>"
  | uncreated path => "Failed to create " ++ path ++ ": " ++ systemWords
  | unreadable path => "Failed to read " ++ path ++ ": " ++ systemWords
  | duplicate => "<zip>"

namespace Archive

/-- The name of the archive file. -/
def fileName : String := "wiregen-protocol.zip"

/-- How directories are listed: the names in the directory at a location, in some order. -/
abbrev Listing := Location → List String

/-- The paths of the files below the directory at a path, which leads to a location. What its
path does not lead to as a directory is a file. Paths get longer from level to level, so that
the length of the longest path bounds the number of levels. -/
def filesBelow (listing : Listing) (disk : Disk) : Nat → String → Location → List String
  | 0, _, _ => []
  | levels + 1, path, location =>
    (listing location).flatMap fun name =>
      let inner := Path.join path name
      match disk.resolve inner with
      | .ok (.directory place) => filesBelow listing disk levels inner place
      | _ => [inner]

/-- The paths of the files below directories. -/
def collect (listing : Listing) (disk : Disk) : List String → Except ArchiveFault (List String)
  | [] => .ok []
  | directory :: directories =>
    match disk.resolve directory with
    | .ok (.directory location) => do
      let paths := filesBelow listing disk Disk.longestPath directory location
      return paths ++ (← collect listing disk directories)
    | _ => .error (.unlisted directory)

/-- The name of the entry for a path below the root. -/
def entryName? (root path : String) : Option String :=
  (Path.below? (Path.components root) (Path.components path)).map fun components =>
    Text.joinWith "/" (components.map Path.Component.text)

/-- Name the entries for paths. -/
def nameAll (root : String) : List String → Except ArchiveFault (List (String × String))
  | [] => .ok []
  | path :: paths =>
    match entryName? root path with
    | some name => do return (name, path) :: (← nameAll root paths)
    | none => .error (.outside path root)

/-- Entries in the order of their names. -/
def sorted (entries : List (String × α)) : List (String × α) :=
  entries.mergeSort fun first second => decide (¬ second.1 < first.1)

/-- What is to be packed into the archive of a root: the names of the entries in order, each
with the path of its file. -/
def plan (listing : Listing) (root : String) (directories : List String) (disk : Disk) :
    Except ArchiveFault (List (String × String)) := do
  return sorted (← nameAll root (← collect listing disk directories))

/-- Read the files of entries in order, up to the first that cannot be read or whose name is
taken. The entries made before it stay. -/
def pack (disk : Disk) (taken : List String) :
    List (String × String) → List (String × Content) × Except ArchiveFault Unit
  | [] => ([], .ok ())
  | (name, path) :: files =>
    match disk.read path with
    | .error _ => ([], .error (.unreadable path))
    | .ok content =>
      if taken.contains name then ([], .error .duplicate)
      else
        let (entries, outcome) := pack disk (name :: taken) files
        ((name, content) :: entries, outcome)

/-- Pack the files below directories into the archive of a root. The outcome is the path of
the archive file. The archive file is there already when the files are read, but nothing is in
it yet. -/
def writeListed (listing : Listing) (root : String) (directories : List String) (disk : Disk) :
    Disk × Except ArchiveFault String :=
  match plan listing root directories disk with
  | .error fault => (disk, .error fault)
  | .ok files =>
    let path := Path.join root fileName
    match disk.write path (.text "") with
    | .error _ => (disk, .error (.uncreated path))
    | .ok created =>
      let (entries, outcome) := pack created [] files
      match created.write path (.ofEntries entries) with
      | .error _ => (created, .error (.uncreated path))
      | .ok written => (written, outcome.map fun _ => path)

/-- Pack the files below directories into the archive of a root, with directories listed in
the order of the disk. -/
def write (root : String) (directories : List String) (disk : Disk) :
    Disk × Except ArchiveFault String :=
  writeListed disk.namesIn root directories disk

end Archive
end PacketSmith
