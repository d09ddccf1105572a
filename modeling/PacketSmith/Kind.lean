/-!
# Field kinds

The kinds of data a field can hold form a closed type: nine scalars, three collections of
one element kind, maps, and references to other messages by number and name. Each kind has
a tag, which is the kind without its parameters; code generation is looked up by tag.
-/

namespace PacketSmith

/-- The number that identifies a message on the wire. -/
abbrev ProtocolId := Int16

/-- The kinds with one fixed layout. -/
inductive Scalar where
  | bool
  | byte
  | short
  | int
  | long
  | float
  | double
  | char
  | string
  deriving DecidableEq, Repr

/-- The containers of one element kind. -/
inductive Collection where
  | array
  | list
  | set
  deriving DecidableEq, Repr

/-- A message referred to by its number and its declared name. -/
structure Reference where
  /-- The number of the message. -/
  id : ProtocolId
  /-- The declared name of the message. -/
  name : String
  deriving DecidableEq, Repr

/-- What a field can hold. -/
inductive Kind where
  /-- A value of fixed layout. -/
  | scalar (base : Scalar)
  /-- Any number of values of one kind. -/
  | collection (shape : Collection) (element : Kind)
  /-- Values found by keys. -/
  | map (key value : Kind)
  /-- Another message. -/
  | message (reference : Reference)
  deriving DecidableEq, Repr

/-- A kind without its parameters. -/
inductive Tag where
  | scalar (base : Scalar)
  | collection (shape : Collection)
  | map
  | message
  deriving DecidableEq, Repr

/-- The name of a scalar kind in schemas. -/
def Scalar.name : Scalar → String
  | bool => "bool"
  | byte => "byte"
  | short => "short"
  | int => "int"
  | long => "long"
  | float => "float"
  | double => "double"
  | char => "char"
  | string => "string"

/-- The name of a collection kind in schemas. -/
def Collection.name : Collection → String
  | array => "array"
  | list => "list"
  | set => "set"

namespace Tag

/-- The name of a tag in schemas and messages. -/
def name : Tag → String
  | scalar base => base.name
  | collection shape => shape.name
  | map => "map"
  | message => "protocol"

/-- All tags, in the order of their numbers. -/
def all : List Tag :=
  [scalar .bool, scalar .byte, scalar .short, scalar .int, scalar .long, scalar .float,
   scalar .double, scalar .char, scalar .string, collection .array, collection .list,
   collection .set, map, message]

/-- The tag with a name. -/
def ofName? (name : String) : Option Tag :=
  all.find? fun tag => tag.name == name

/-- Whether values of such a kind can be members of a set or keys of a map. Only scalars
can, in every target language. -/
def isHashable : Tag → Bool
  | scalar _ => true
  | _ => false

end Tag

namespace Kind

/-- The tag of a kind. -/
def tag : Kind → Tag
  | scalar base => .scalar base
  | collection shape _ => .collection shape
  | map _ _ => .map
  | message _ => .message

end Kind
end PacketSmith
