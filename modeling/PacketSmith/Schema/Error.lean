import PacketSmith.Kind
import PacketSmith.Language
import PacketSmith.Text.Quoted

/-!
# What can be wrong with schemas

The causes for which a list of schemas is refused, on its own or for a target language, and
the wording of each.
-/

namespace PacketSmith

/-- The text of a message number. -/
def ProtocolId.text (id : ProtocolId) : String :=
  toString id.toInt

/-- A reference in messages: the name and the number. -/
def Reference.text (reference : Reference) : String :=
  reference.name ++ "#" ++ ProtocolId.text reference.id

/-- Why schemas are refused. -/
inductive SchemaError where
  /-- A message has a number below zero. -/
  | negativeId (schema : String) (id : ProtocolId)
  /-- Two messages have one number. -/
  | duplicateId (id : ProtocolId) (first second : String)
  /-- Two messages have names that generate one type. -/
  | duplicateMessage (name : String)
  /-- Two fields of a message have one name. -/
  | duplicateField (schema field : String)
  /-- A name is not an identifier. -/
  | invalidIdentifier (name : String)
  /-- A field refers to a message that is not declared. -/
  | unresolvedReference (schema field : String) (reference : Reference)
  /-- A set element or map key is not a scalar. -/
  | unhashableKey (schema field : String) (tag : Tag)
  /-- A field is named by a keyword of a target language. -/
  | reservedWord (schema field : String) (language : Language)
  /-- A message would generate a type whose name is taken in a target language. -/
  | reservedTypeName (schema typeName : String) (language : Language)
  deriving DecidableEq, Repr

namespace SchemaError

/-- The wording of a schema error. -/
def message : SchemaError → String
  | negativeId schema id =>
    "protocol id " ++ ProtocolId.text id ++ " of " ++ schema ++ " is negative"
  | duplicateId id first second =>
    "protocol id " ++ ProtocolId.text id ++ " is declared by both " ++ first ++ " and " ++ second
  | duplicateMessage name => "message name " ++ name ++ " is declared twice"
  | duplicateField schema field => schema ++ "." ++ field ++ " is declared twice"
  | invalidIdentifier name => Text.quoted name ++ " is not a valid identifier"
  | unresolvedReference schema field reference =>
    schema ++ "." ++ field ++ " references unknown protocol " ++ reference.text
  | unhashableKey schema field tag =>
    schema ++ "." ++ field ++ " uses a " ++ tag.name ++ " as set element or map key"
  | reservedWord schema field language =>
    schema ++ "." ++ field ++ " is a reserved word in " ++ language.title
  | reservedTypeName schema typeName language =>
    schema ++ " would generate type " ++ typeName ++ ", which is taken in " ++ language.title

end SchemaError
end PacketSmith
