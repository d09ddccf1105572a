import PacketSmith.Schema.Json
import PacketSmith.Source.File
import PacketSmith.Source.TypeKind

/-!
# Declared messages

A struct at the top of a source file declares a message if it has an attribute with the
message's number. Its fields are taken in order; their types stay as they are declared until
the numbers of all messages are known.
-/

namespace PacketSmith.Source

/-- The mark for words of the reader of source files. -/
def readerWords : String := "<syn>"

/-- Why the messages of a source file cannot be collected. -/
inductive DeclarationFault where
  /-- The file is not a source file. -/
  | unreadable
  /-- The attribute has a part that is not the number. -/
  | unknownPart
  /-- The attribute is written wrongly. -/
  | malformed
  /-- The attribute has no number. -/
  | missingId
  /-- The struct has parameters. -/
  | generic (name : String)
  /-- The struct has fields without names. -/
  | tuple (name : String)
  deriving DecidableEq, Repr

/-- The wording of a fault. -/
def DeclarationFault.message : DeclarationFault → String
  | unreadable => "Failed to parse Rust source: " ++ readerWords
  | unknownPart =>
    "Invalid #[protocol] attribute: unsupported protocol attribute, expected `id = N`"
  | malformed => "Invalid #[protocol] attribute: " ++ readerWords
  | missingId => "#[protocol] attribute requires `id = N`"
  | generic name => "Generic protocol struct " ++ name ++ " is not supported"
  | tuple name => "Tuple struct " ++ name ++ " cannot be a protocol message"

/-- A field that is declared. -/
structure DeclaredField where
  /-- The name of the field. -/
  name : String
  /-- Documentation lines. -/
  docs : List String
  /-- The declared type. -/
  type : TypeSyntax
  /-- Whether the field was added after the message's first layout. -/
  appended : Bool
  deriving Repr

/-- A message that is declared. -/
structure Declaration where
  /-- The number of the message. -/
  id : ProtocolId
  /-- The name of the message. -/
  name : String
  /-- Documentation lines. -/
  docs : List String
  /-- The fields in wire order. -/
  fields : List DeclaredField
  deriving Repr

/-! ## Attributes -/

/-- The part of an attribute that gives the number. -/
inductive IdPart where
  /-- The number. -/
  | id (id : ProtocolId)
  /-- A part of another name. -/
  | unknown

/-- A number behind an optional minus sign, if it fits. -/
def idValue : Reading ProtocolId := do
  let negative := !(← optionalSymbol "-").isEmpty
  match ← get with
  | .leaf (.literal _ (.integer value)) :: rest =>
    set rest
    match ProtocolId.ofInt? (if negative then -(Int.ofNat value) else Int.ofNat value) with
    | some id => return id
    | none => refuse
  | _ => refuse

/-- The words behind the first one of a path; `fuel` bounds their number. -/
def furtherWords : Nat → Reading Nat
  | 0 => refuse
  | fuel + 1 => do
    if ← test (atSymbol "::") then
      skipSymbol "::"
      skip anyWord
      return (← furtherWords fuel) + 1
    else return 0

/-- The path of a part, if it is one word. -/
def partName : Reading (Option String) := do
  let leading ← optionalSymbol "::"
  let first ← anyWord
  let others ← furtherWords ((← get).length + 1)
  return if leading.isEmpty && others == 0 then some first else none

/-- One part of the attribute. -/
def idPart : Reading IdPart := do
  if (← partName) == some "id" then
    skipSymbol "="
    return .id (← idValue)
  else return .unknown

/-- The number that the parts of the attribute give; the last one counts. Reading stops at
the first part of another name; `fuel` bounds the number of parts. -/
def idParts : Nat → List Tree → Except DeclarationFault ProtocolId
  | 0, _ => .error .malformed
  | fuel + 1, trees =>
    match idPart trees with
    | none => .error .malformed
    | some (.unknown, _) => .error .unknownPart
    | some (.id id, []) => .ok id
    | some (.id id, rest) =>
      match symbol "," rest with
      | none => .error .malformed
      | some (_, []) => .ok id
      | some (_, rest) => idParts fuel rest

/-- The number in the body of the attribute. -/
def bodyId : AttributeBody → Except DeclarationFault ProtocolId
  | .list [] => .error .missingId
  | .list content => idParts (content.length + 1) content
  | .none | .value _ => .error .malformed

/-- The number that the attributes of a struct give it, if the struct declares a message. -/
def declaredId? (attributes : List Attribute) : Except DeclarationFault (Option ProtocolId) :=
  match attributes.find? (Attribute.isNamed "protocol") with
  | none => .ok none
  | some found => do return some (← bodyId found.body)

/-- The documentation of something: the texts of its documentation attributes, without the
blanks around them and without empty ones. -/
def documentation (attributes : List Attribute) : List String :=
  attributes.filterMap fun found =>
    if found.isNamed "doc" then
      match found.body with
      | .value (some text) =>
        let doc := Text.trimmed text
        if doc.isEmpty then none else some doc
      | _ => none
    else none

/-! ## Declarations -/

/-- A name without the prefix that makes it raw. -/
def plainName (name : String) : String :=
  match Text.afterPrefix? ['r', '#'] name.toList with
  | some rest => String.ofList rest
  | none => name

/-- A field as it is declared. -/
def DeclaredField.ofSyntax (field : FieldSyntax) : DeclaredField :=
  ⟨plainName field.name, documentation field.attributes, field.type,
    field.attributes.any (Attribute.isNamed "compatible")⟩

/-- A message as it is declared by a struct with a number. -/
def Declaration.ofStruct (declared : StructSyntax) (id : ProtocolId) :
    Except DeclarationFault Declaration :=
  if declared.isGeneric then .error (.generic declared.name)
  else match declared.body with
    | .tuple => .error (.tuple declared.name)
    | .unit => .ok ⟨id, declared.name, documentation declared.attributes, []⟩
    | .named fields =>
      .ok ⟨id, declared.name, documentation declared.attributes, fields.map DeclaredField.ofSyntax⟩

/-- The messages that items declare, in order. -/
def Declaration.ofItems : List Item → Except DeclarationFault (List Declaration)
  | [] => .ok []
  | .other :: items => ofItems items
  | .struct declared :: items => do
    match ← declaredId? declared.attributes with
    | none => ofItems items
    | some id =>
      let first ← ofStruct declared id
      return first :: (← ofItems items)

/-- The messages that the text of a source file declares, in order. -/
def Declaration.ofText (text : String) : Except DeclarationFault (List Declaration) :=
  match items? text with
  | none => .error .unreadable
  | some items => ofItems items

/-! ## Schemas -/

/-- Why a declared message has no schema: a field and what is wrong with its type. -/
structure FieldFault where
  /-- The name of the message. -/
  schema : String
  /-- The name of the field. -/
  field : String
  /-- What is wrong. -/
  fault : TypeFault
  deriving DecidableEq, Repr

/-- The wording of a fault. -/
def FieldFault.message (found : FieldFault) : String :=
  "Field " ++ found.schema ++ "." ++ found.field ++ ": " ++ found.fault.message

/-- The field that a declared field means. -/
def DeclaredField.resolve (ids : KnownIds) (schema : String) (field : DeclaredField) :
    Except FieldFault Field :=
  match field.type.kind ids with
  | .ok kind => .ok ⟨field.name, kind, field.appended, field.docs⟩
  | .error fault => .error ⟨schema, field.name, fault⟩

/-- The message that a declaration means, given the numbers of all messages. -/
def Declaration.resolve (ids : KnownIds) (declaration : Declaration) :
    Except FieldFault Message := do
  return ⟨declaration.id, declaration.name, declaration.docs,
    ← declaration.fields.mapM (DeclaredField.resolve ids declaration.name)⟩

/-- The numbers of declared messages by name. -/
def idsOf (declarations : List Declaration) : KnownIds :=
  declarations.map fun declaration => (declaration.name, declaration.id)

end PacketSmith.Source
