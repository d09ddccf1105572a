import PacketSmith.Kind
import PacketSmith.Language
import PacketSmith.Name
import PacketSmith.Text.Blank
import PacketSmith.Text.Search

/-!
# Type names in the target languages

A type is named by a text that may be wrapped in boxes and qualified by namespaces; what
remains after both are taken off names a scalar, under one of several names, or a type of
its own. The type of a kind is built from the types of its parts.
-/

namespace PacketSmith

/-- The names under which a scalar is known in declarations. -/
def Scalar.aliases : Scalar → List String
  | bool => ["bool", "boolean", "Boolean"]
  | byte => ["i8", "byte", "Byte"]
  | short => ["i16", "short", "Short"]
  | int => ["i32", "int", "Integer"]
  | long => ["i64", "long", "Long"]
  | float => ["f32", "float", "Float"]
  | double => ["f64", "double", "Double"]
  | char => ["char", "character", "Character"]
  | string => ["str", "string", "String"]

/-- All scalars, in the order of their tags. -/
def Scalar.all : List Scalar :=
  [bool, byte, short, int, long, float, double, char, string]

/-- The scalar known under a name. -/
def Scalar.ofAlias? (name : String) : Option Scalar :=
  all.find? fun scalar => scalar.aliases.contains name

/-- The type of a scalar. -/
def Scalar.typeName (language : Language) (scalar : Scalar) : String :=
  match language, scalar with
  | .go, .bool => "bool"
  | .go, .byte => "int8"
  | .go, .short => "int16"
  | .go, .int => "int"
  | .go, .long => "int64"
  | .go, .float => "float32"
  | .go, .double => "float64"
  | .go, .char => "string"
  | .go, .string => "string"
  | .python, .bool => "bool"
  | .python, .byte => "int"
  | .python, .short => "int"
  | .python, .int => "int"
  | .python, .long => "int"
  | .python, .float => "float"
  | .python, .double => "float"
  | .python, .char => "str"
  | .python, .string => "str"

namespace TypeName

/-- The inside of one box, if a text is a box. -/
def unboxed? (text : List Char) : Option (List Char) := do
  Text.beforeSuffix? ['>'] (← Text.afterPrefix? ['B', 'o', 'x', '<'] text)

/-- The inside of all boxes, with the blanks around each taken off. Every box takes five
characters, so the length of the text bounds their number. -/
def unboxedAll : Nat → List Char → List Char
  | 0, text => text
  | fuel + 1, text =>
    match unboxed? text with
    | some inside => unboxedAll fuel (Text.trim inside)
    | none => text

/-- A name without its namespaces. -/
def unqualified (text : List Char) : List Char :=
  Text.afterLast ['.'] (Text.afterLast [':', ':'] text)

/-- A name without boxes and namespaces. -/
def stripped (text : List Char) : List Char :=
  unqualified (unboxedAll text.length (Text.trim text))

end TypeName

/-- The type that a declared name stands for: the type of a scalar if one is known under
the name, and otherwise the bare name. -/
def mapType (language : Language) (declared : String) : String :=
  let name := String.ofList (TypeName.stripped declared.toList)
  match Scalar.ofAlias? name with
  | some scalar => scalar.typeName language
  | none => name

/-- The bare type of a message that is referred to. -/
def Reference.typeName (language : Language) (reference : Reference) : String :=
  mapType language (Name.pascal reference.name)

/-- The type of a field of a kind. Nested messages are held by pointer where the language
has pointers. -/
def Kind.typeName (language : Language) : Kind → String
  | scalar base => base.typeName language
  | collection shape element =>
    let inner := element.typeName language
    match language, shape with
    | .go, .array | .go, .list => "[]" ++ inner
    | .go, .set => "map[" ++ inner ++ "]bool"
    | .python, .array | .python, .list => "list[" ++ inner ++ "]"
    | .python, .set => "set[" ++ inner ++ "]"
  | map key value =>
    match language with
    | .go => "map[" ++ key.typeName language ++ "]" ++ value.typeName language
    | .python => "dict[" ++ key.typeName language ++ ", " ++ value.typeName language ++ "]"
  | message reference =>
    match language with
    | .go => "*" ++ reference.typeName language
    | .python => reference.typeName language

end PacketSmith
