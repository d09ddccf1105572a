import PacketSmith.Text.Search

/-!
# Paths

A path is a text. Slashes separate its parts; empty parts and dots name nothing, except that
a path may begin with a slash, which makes it absolute, or with a dot. What this module
computes from a path depends on the text, and on the location of the current directory if the
path is relative, and never on what stands on a disk.
-/

namespace PacketSmith

/-- The names that lead from the root of the file system to something below it. -/
abbrev Location := List String

namespace Path

/-- The texts between the slashes of a path. -/
def segments (path : String) : List String :=
  (Text.splitWhere (fun character => character == '/') path.toList).map String.ofList

/-- Whether a path starts at the root of the file system. -/
def isAbsolute (path : String) : Bool :=
  path.toList.head? == some '/'

/-- Whether a segment names nothing. -/
def isNothing (segment : String) : Bool :=
  segment == "" || segment == "."

/-- Whether a segment leads nowhere or up. -/
def climbs (segment : String) : Bool :=
  isNothing segment || segment == ".."

/-- Where segments lead from a location. Above the root of the file system is the root. -/
def walk (location : Location) : List String → Location
  | [] => location
  | segment :: others =>
    if isNothing segment then walk location others
    else if segment == ".." then walk location.dropLast others
    else walk (location ++ [segment]) others

/-- Where the segments of a path lead from: the root of the file system, or the current
directory. -/
def origin (here : Location) (path : String) : Location :=
  if isAbsolute path then [] else here

/-- The directory in which a path begins to lead down: the one that its first segments lead up
to. -/
def start (here : Location) (path : String) : Location :=
  walk (origin here path) ((segments path).takeWhile climbs)

/-- The segments of a path from the first that leads down. -/
def route (path : String) : List String :=
  (segments path).dropWhile climbs

/-- A part of a path that names something. -/
inductive Component where
  /-- The root of the file system. -/
  | root
  /-- The dot at the beginning of a relative path. -/
  | here
  /-- The directory above. -/
  | up
  /-- A name. -/
  | name (name : String)
  deriving DecidableEq, Repr

/-- The text of a component. -/
def Component.text : Component → String
  | root => "/"
  | here => "."
  | up => ".."
  | name text => text

/-- The component of a segment that names something. -/
def Component.ofSegment (segment : String) : Component :=
  if segment == ".." then up else name segment

/-- The components of a path. -/
def components (path : String) : List Component :=
  let parts := segments path
  let first : List Component :=
    if isAbsolute path then [.root] else if parts.head? == some "." then [.here] else []
  first ++ (parts.filter fun segment => !isNothing segment).map Component.ofSegment

/-- A path inside another. An absolute path stays as it is, and a slash is put between the
two unless the first is empty or ends in one. -/
def join (base path : String) : String :=
  if isAbsolute path then path
  else if base.isEmpty || base.toList.getLast? == some '/' then base ++ path
  else base ++ "/" ++ path

/-- Drop the segments that name nothing from the end. The dot that begins a relative path
is kept. -/
def dropNothing : List String → List String
  | [] => []
  | segment :: others =>
    if isNothing segment && !(others.isEmpty && segment == ".") then dropNothing others
    else segment :: others

/-- Segments, last first, put together again. An absolute path of nothing else is the root. -/
def ofReversed (reversed : List String) : String :=
  match reversed with
  | [""] => "/"
  | _ => Text.joinWith "/" reversed.reverse

/-- The path without its last component, if there is one to drop. -/
def parent? (path : String) : Option String :=
  match dropNothing (segments path).reverse with
  | [] => none
  | [only] => if isAbsolute path || isNothing only && only != "." then none else some ""
  | _ :: others =>
    match dropNothing others with
    | [] => some (if isAbsolute path then "/" else "")
    | remaining => some (ofReversed remaining)

/-- The path and the paths above it, nearest first. -/
def ancestors (path : String) : Nat → List String
  | 0 => []
  | fuel + 1 => path :: match parent? path with
    | some above => ancestors above fuel
    | none => []

/-- The part of a file name behind its last dot, unless nothing stands in front of it. -/
def nameExtension? (name : String) : Option String :=
  let reversed := name.toList.reverse
  match reversed.dropWhile (fun character => character != '.') with
  | [] => none
  | [_] => none
  | _ :: _ => some (String.ofList (reversed.takeWhile fun character => character != '.').reverse)

/-- The extension of a path whose last component is a name. -/
def extension? (path : String) : Option String :=
  match (components path).getLast? with
  | some (.name name) => nameExtension? name
  | _ => none

/-- The components behind those of another path, if the path begins with them. -/
def below? : List Component → List Component → Option (List Component)
  | [], path => some path
  | _ :: _, [] => none
  | expected :: root, component :: path =>
    if expected == component then below? root path else none

end Path
end PacketSmith
