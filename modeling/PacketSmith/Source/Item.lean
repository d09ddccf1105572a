import PacketSmith.Source.Token
import PacketSmith.Source.TypeSyntax

/-!
# Items of source files

A source file is a list of items. Structs are kept with their attributes and fields, because
a struct can declare a message; every other item is only known to be one.
-/

namespace PacketSmith.Source

/-- What stands behind the path of an attribute. -/
inductive AttributeBody where
  /-- Nothing. -/
  | none
  /-- A group of any tokens. -/
  | list (content : List Tree)
  /-- An equals sign and a value, which may be a text literal. -/
  | value (text : Option String)
  deriving Repr

/-- An attribute. -/
structure Attribute where
  /-- The path, if it is one name. -/
  name : Option String
  /-- What stands behind the path. -/
  body : AttributeBody
  deriving Repr

/-- Whether the path of an attribute is one certain name. -/
def Attribute.isNamed (name : String) (candidate : Attribute) : Bool :=
  candidate.name == some name

/-- A field with a name. -/
structure FieldSyntax where
  /-- The name as it is written. -/
  name : String
  /-- The attributes in front. -/
  attributes : List Attribute
  /-- The declared type. -/
  type : TypeSyntax
  deriving Repr

/-- What a struct consists of. -/
inductive StructBody where
  /-- Fields with names. -/
  | named (fields : List FieldSyntax)
  /-- Fields without names. -/
  | tuple
  /-- Nothing. -/
  | unit
  deriving Repr

/-- A struct. -/
structure StructSyntax where
  /-- The name as it is written. -/
  name : String
  /-- The attributes in front. -/
  attributes : List Attribute
  /-- Whether the struct has parameters. -/
  isGeneric : Bool
  /-- What the struct consists of. -/
  body : StructBody
  deriving Repr

/-- An item of a source file. -/
inductive Item where
  | struct (declared : StructSyntax)
  | other
  deriving Repr

end PacketSmith.Source
