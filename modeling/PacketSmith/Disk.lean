import PacketSmith.Disk.Path

/-!
# Disks

A disk is what a run can read and change: the files and directories of a file system, one of
which is the current directory, where relative paths start from. Operations take the path texts
that programs use, follow their parts one by one, and give a new disk; those that fail give back
why, but no more of it than any caller looks at: whether something was missing.
-/

namespace PacketSmith

/-- What a file holds. -/
inductive Content where
  /-- A text. -/
  | text (text : String)
  /-- Bytes that are not a text. -/
  | data (bytes : List UInt8)
  /-- An archive of texts: the names and the texts of its entries, in order. -/
  | archive (entries : List (String × String))
  /-- An archive of any files: the names and the bytes of its entries, in order. -/
  | bundle (entries : List (String × List UInt8))
  deriving DecidableEq, Repr

/-- What stands at a location. -/
inductive Node where
  | directory
  | file (content : Content)
  deriving DecidableEq, Repr

/-- The files and directories of a file system, each with its location. -/
structure Disk where
  /-- What stands where; every location is there once at most. -/
  entries : List (Location × Node)
  /-- The location of the current directory. -/
  here : Location
  deriving DecidableEq, Repr

/-- Why an operation on a disk fails. -/
inductive Fault where
  /-- Something on the path does not exist. -/
  | missing
  /-- Anything else. -/
  | unusable
  deriving DecidableEq, Repr

/-- Where a path leads. -/
inductive Destination where
  /-- To a directory. -/
  | directory (location : Location)
  /-- To a file. -/
  | file (location : Location) (content : Content)
  /-- To nothing, in a directory that exists; and whether the path can only name a
  directory because it goes on behind the name. -/
  | free (location : Location) (onlyDirectory : Bool)
  deriving DecidableEq, Repr

namespace Disk

/-- The disk without anything on it, in the root. -/
def empty : Disk :=
  ⟨[], []⟩

/-- What stands at a location. The root is a directory. -/
def node? (disk : Disk) (location : Location) : Option Node :=
  if location.isEmpty then some .directory
  else (disk.entries.find? fun entry => entry.1 == location).map Prod.snd

/-- The disk with something at a location, in place of what stood there. -/
def put (disk : Disk) (location : Location) (node : Node) : Disk where
  entries :=
    if disk.entries.any fun entry => entry.1 == location then
      disk.entries.map fun entry => if entry.1 == location then (location, node) else entry
    else disk.entries ++ [(location, node)]
  here := disk.here

/-- The disk without what stands at a location and below it. -/
def dropBelow (disk : Disk) (location : Location) : Disk where
  entries := disk.entries.filter fun entry => !location.isPrefixOf entry.1
  here := disk.here

/-- The disk without what stands below a location. -/
def dropInside (disk : Disk) (location : Location) : Disk where
  entries := disk.entries.filter fun entry =>
    !location.isPrefixOf entry.1 || entry.1 == location
  here := disk.here

/-- The longest name of a file or directory, in bytes. -/
def longestName : Nat := 255

/-- The longest path, in bytes. -/
def longestPath : Nat := 4095

/-- Follow the segments of a path from a directory. -/
def follow (disk : Disk) (location : Location) : List String → Except Fault Destination
  | [] => .ok (.directory location)
  | segment :: others =>
    if Path.isNothing segment then follow disk location others
    else if segment == ".." then follow disk location.dropLast others
    else if segment.utf8ByteSize > longestName then .error .unusable
    else
      let next := location ++ [segment]
      match disk.node? next with
      | some .directory => follow disk next others
      | some (.file content) =>
        if others.isEmpty then .ok (.file next content) else .error .unusable
      | none =>
        if others.all fun other => other == "" then .ok (.free next (!others.isEmpty))
        else .error .missing

/-- Where a path leads. The directory above the current one is found even if the current one has
been removed. -/
def resolve (disk : Disk) (path : String) : Except Fault Destination :=
  if path.toList.any fun character => character.toNat == 0 then .error .unusable
  else if path.isEmpty then .error .missing
  else if path.utf8ByteSize > longestPath then .error .unusable
  else if disk.node? (Path.start disk.here path) == some .directory then
    disk.follow (Path.start disk.here path) (Path.route path)
  else .error .missing

/-- What the file at a path holds. -/
def read (disk : Disk) (path : String) : Except Fault Content := do
  match ← disk.resolve path with
  | .file _ content => .ok content
  | .directory _ => .error .unusable
  | .free _ _ => .error .missing

/-- The text of the file at a path. An archive is not a text. -/
def readText (disk : Disk) (path : String) : Except Fault String := do
  match ← disk.read path with
  | .text text => .ok text
  | .data _ | .archive _ | .bundle _ => .error .unusable

/-- Whether a path leads to a file. -/
def isFile (disk : Disk) (path : String) : Bool :=
  match disk.resolve path with
  | .ok (.file _ _) => true
  | _ => false

/-- Whether a path leads to a directory. -/
def isDirectory (disk : Disk) (path : String) : Bool :=
  match disk.resolve path with
  | .ok (.directory _) => true
  | _ => false

/-- Write a file, in place of the file that is there. -/
def write (disk : Disk) (path : String) (content : Content) : Except Fault Disk := do
  match ← disk.resolve path with
  | .file location _ => .ok (disk.put location (.file content))
  | .free location false => .ok (disk.put location (.file content))
  | .free _ true | .directory _ => .error .unusable

/-- Make one directory where nothing is. -/
def makeDirectory (disk : Disk) (path : String) : Except Fault Disk := do
  match ← disk.resolve path with
  | .free location _ => .ok (disk.put location .directory)
  | .file _ _ | .directory _ => .error .unusable

/-- Make the directories of a list of paths that are not there yet. On a fault the
directories made before it stay. -/
def makeEach (disk : Disk) : List String → Disk × Except Fault Unit
  | [] => (disk, .ok ())
  | path :: paths =>
    match disk.makeDirectory path with
    | .ok disk => makeEach disk paths
    | .error fault =>
      if disk.isDirectory path then makeEach disk paths else (disk, .error fault)

/-- The paths above a path whose directories have to be made before it, and the path itself,
in this order: those from the nearest that does not fail for something missing. -/
def unmade (disk : Disk) : List String → List String → List String
  | made, [] => made
  | made, path :: paths =>
    if path.isEmpty then made
    else match disk.makeDirectory path with
      | .error .missing => unmade disk (path :: made) paths
      | _ => path :: made

/-- Make a directory and those above it that are missing. -/
def makeDirectories (disk : Disk) (path : String) : Disk × Except Fault Unit :=
  disk.makeEach (disk.unmade [] (Path.ancestors path (path.length + 1)))

/-- Remove a directory with everything in it. What is in it goes first. A path that leads through
something in the directory does not lead to it any more then, and the directory stays. -/
def removeDirectory (disk : Disk) (path : String) : Except Fault Disk := do
  match ← disk.resolve path with
  | .directory location =>
    match (disk.dropInside location).resolve path with
    | .ok _ => .ok (disk.dropBelow location)
    | .error _ => .ok (disk.dropInside location)
  | .file _ _ => .error .unusable
  | .free _ _ => .error .missing

/-- The names in a directory. -/
def namesIn (disk : Disk) (location : Location) : List String :=
  disk.entries.filterMap fun entry =>
    if entry.1.dropLast == location then entry.1.getLast? else none

/-- The location and kind of everything on the disk as a path: directories end in a slash. -/
def shown (disk : Disk) : List String :=
  disk.entries.map fun (location, node) =>
    Text.joinWith "/" location ++ match node with
      | .directory => "/"
      | .file _ => ""

end Disk
end PacketSmith
