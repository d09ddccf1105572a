import PacketSmith.Json
import PacketSmith.Language.Selection
import PacketSmith.Schema

/-!
# The JSON form of schemas

A message is an object of its number, name, documentation and fields, or an array of these
in this order; a field likewise. A kind is an object whose member `kind` names the tag, or
an array that begins with the tag. Members that a message or field does not know are passed
over unread, a known member may stand once only, and documentation and fields may be left
out. A kind is read as a whole: everything in it must be sound and must fit into the depth
that is left.
-/

namespace PacketSmith

/-- The number of containers that may stand inside each other in a text that is read. -/
def deepestNesting : Nat := 127

namespace Json

/-- The value of the member of a name: `none` if the name is repeated, and otherwise the
value, if there is one. -/
def member? (name : String) (members : List (String × Json)) : Option (Option Json) :=
  match members.filter fun member => member.1 == name with
  | [] => some none
  | [member] => some (some member.2)
  | _ => none

/-- The value of a member that must be there. -/
def required? (name : String) (members : List (String × Json)) : Option Json :=
  (member? name members).join

/-- The values of the named members of an object, or of the items of an array in the same
order, where trailing items may be missing. -/
def parts? (names : List String) : Json → Option (List (Option Json))
  | array items =>
    if items.length ≤ names.length then
      some (items.map some ++ List.replicate (names.length - items.length) none)
    else none
  | value => do
    let members ← value.members?
    names.mapM fun name => member? name members

/-- A value that may be missing: read if it is there. -/
def orElse (absent : α) (read : Json → Option α) : Option Json → Option α
  | none => some absent
  | some value => read value

end Json

/-- The message number that an integer writes, if it fits. -/
def ProtocolId.ofInt? (value : Int) : Option ProtocolId :=
  if -32768 ≤ value && value ≤ 32767 then some (Int16.ofInt value) else none

/-- The message number that a JSON value writes. -/
def ProtocolId.ofJson? (value : Json) : Option ProtocolId := do
  ProtocolId.ofInt? (← value.int?)

namespace Tag

/-- The tag that a JSON value names. Inside another kind a tag may also be given by its
place in the order of tags. -/
def ofJson? (inside : Bool) (value : Json) : Option Tag :=
  match value.text?, value.int? with
  | some name, _ => ofName? name
  | none, some number => if inside && 0 ≤ number then all[number.toNat]? else none
  | none, none => none

/-- The names of the members that belong to a kind of this tag. -/
def memberNames : Tag → List String
  | scalar _ => []
  | collection _ => ["element"]
  | map => ["key", "value"]
  | message => ["protocol_id", "name"]

end Tag

/-- The tag and the parameters of a kind that is written as JSON. The object form ignores
members that do not belong to the tag; the array form has exactly the parameters. -/
def kindParts? (inside : Bool) : Json → Option (Tag × List Json)
  | .array [] => none
  | .array (tag :: items) => do
    let tag ← Tag.ofJson? inside tag
    if items.length == tag.memberNames.length then some (tag, items) else none
  | value => do
    let members ← value.members?
    let tag ← Tag.ofJson? inside (← Json.required? "kind" members)
    return (tag, ← tag.memberNames.mapM fun name => Json.required? name members)

namespace Kind

/-- A kind from its JSON form; `fuel` bounds the kinds inside each other. -/
def ofParts? (inside : Bool) : Nat → Json → Option Kind
  | 0, _ => none
  | fuel + 1, value => do
    match ← kindParts? inside value with
    | (.scalar base, []) => return scalar base
    | (.collection shape, [element]) =>
      return collection shape (← ofParts? true fuel element)
    | (.map, [key, value]) => return map (← ofParts? true fuel key) (← ofParts? true fuel value)
    | (.message, [id, name]) => return message ⟨← ProtocolId.ofJson? id, ← name.text?⟩
    | _ => none

/-- A kind from its JSON form, with room for so many containers inside each other. -/
def ofJson? (room : Nat) (value : Json) : Option Kind :=
  if value.isSound room then ofParts? false (room + 1) value else none

/-- The JSON form of a kind. -/
def toJson : Kind → Json
  | scalar base => .ofMembers [("kind", .ofString base.name)]
  | collection shape element =>
    .ofMembers [("kind", .ofString shape.name), ("element", element.toJson)]
  | map key value =>
    .ofMembers [("kind", .ofString Tag.map.name), ("key", key.toJson), ("value", value.toJson)]
  | message reference =>
    .ofMembers [("kind", .ofString Tag.message.name),
      ("protocol_id", .ofInt reference.id.toInt), ("name", .ofString reference.name)]

end Kind

/-- Documentation lines as a member that is left out when there are none. -/
def docsMember (docs : List String) : List (String × Json) :=
  if docs.isEmpty then [] else [("docs", .ofStrings docs)]

namespace Field

/-- A field from its JSON form, with room for so many containers inside each other. -/
def ofJson? (room : Nat) (value : Json) : Option Field := do
  match ← Json.parts? ["name", "type", "appended", "docs"] value with
  | [some name, some kind, appended, docs] =>
    return {
      name := ← name.text?
      kind := ← Kind.ofJson? (room - 1) kind
      appended := ← Json.orElse false Json.bool? appended
      docs := ← Json.orElse [] Json.texts? docs }
  | _ => none

/-- The JSON form of a field. -/
def toJson (field : Field) : Json :=
  .ofMembers ([("name", .ofString field.name), ("type", field.kind.toJson),
    ("appended", .bool field.appended)] ++ docsMember field.docs)

end Field

namespace Message

/-- A message from its JSON form, with room for so many containers inside each other. -/
def ofJson? (room : Nat) (value : Json) : Option Message := do
  match ← Json.parts? ["protocol_id", "name", "docs", "fields"] value with
  | [some id, some name, docs, fields] =>
    return {
      id := ← ProtocolId.ofJson? id
      name := ← name.text?
      docs := ← Json.orElse [] Json.texts? docs
      fields := ← Json.orElse [] (fun value => do
        (← value.items?).mapM (Field.ofJson? (room - 2))) fields }
  | _ => none

/-- The JSON form of a message. -/
def toJson (message : Message) : Json :=
  .ofMembers ([("protocol_id", .ofInt message.id.toInt), ("name", .ofString message.name)] ++
    docsMember message.docs ++ [("fields", .array (message.fields.map Field.toJson))])

/-- A list of messages from its JSON form. -/
def listOfJson? (value : Json) : Option (List Message) := do
  (← value.items?).mapM (ofJson? (deepestNesting - 1))

/-- The JSON form of a list of messages. -/
def listToJson (messages : List Message) : Json :=
  .array (messages.map toJson)

end Message

namespace Language

/-- A language from its JSON form: its name, or an object with the name and nothing. -/
def ofJson? : Json → Option Language
  | .text (some name) => ofExactName? name
  | .object [(some name, .null)] => ofExactName? name
  | _ => none

end Language

namespace Selection

/-- A selection from its JSON form, an array of languages. -/
def ofJson? (value : Json) : Option Selection := do
  return ofList (← (← value.items?).mapM Language.ofJson?)

/-- The JSON form of a selection. -/
def toJson (selection : Selection) : Json :=
  .ofStrings (selection.toList.map Language.name)

end Selection
end PacketSmith
