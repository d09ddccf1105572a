import PacketSmith.Name
import PacketSmith.Schema
import PacketSmith.Schema.Error

/-!
# The table of messages

A list of schemas becomes a table of slots, one for each number up to the largest one, after
the list has passed validation: numbers are not negative and belong to one message each,
names are identifiers that generate distinct types, fields have distinct names, references
name declared messages, and set elements and map keys are scalars. Validation stops at the
first problem in list order; all messages are checked before the fields of any.
-/

namespace PacketSmith

/-- The type name generated for a message, the same in every language. -/
def Message.typeName (message : Message) : String :=
  Name.pascal message.name

/-- Whether a reference names one of the messages by both its number and its name. -/
def Reference.isDeclaredIn (reference : Reference) (messages : List Message) : Bool :=
  messages.any fun message => message.id == reference.id && message.name == reference.name

namespace Kind

/-- The first problem of a kind and the kinds inside it, outer kinds before inner ones and
keys before values. -/
def check (messages : List Message) (schema field : String) : Kind → Except SchemaError Unit
  | scalar _ => .ok ()
  | collection shape element => do
    if shape = .set && !element.tag.isHashable then
      .error (.unhashableKey schema field element.tag)
    element.check messages schema field
  | map key value => do
    if !key.tag.isHashable then
      .error (.unhashableKey schema field key.tag)
    key.check messages schema field
    value.check messages schema field
  | message reference =>
    if reference.isDeclaredIn messages then .ok ()
    else .error (.unresolvedReference schema field reference)

end Kind

namespace Message

/-- Check one message's number and name, given the messages in front of it. -/
def checkHead (earlier : List Message) (message : Message) : Except SchemaError Unit := do
  if message.id < 0 then
    .error (.negativeId message.name message.id)
  if !Name.isIdentifier message.name || message.typeName.isEmpty then
    .error (.invalidIdentifier message.name)
  match earlier.find? fun other => other.id == message.id with
  | some other => .error (.duplicateId message.id other.name message.name)
  | none => pure ()
  if earlier.any fun other => other.typeName == message.typeName then
    .error (.duplicateMessage message.name)

/-- Check the fields of a message, given the fields in front of them. -/
def checkFields (messages : List Message) (schema : String) (earlier : List Field) :
    List Field → Except SchemaError Unit
  | [] => .ok ()
  | field :: others => do
    if !Name.isIdentifier field.name then
      .error (.invalidIdentifier (schema ++ "." ++ field.name))
    if earlier.any fun other => other.name == field.name then
      .error (.duplicateField schema field.name)
    field.kind.check messages schema field.name
    checkFields messages schema (earlier ++ [field]) others

end Message

/-- Check the numbers and names of messages, given the messages in front of them. -/
def checkHeads (earlier : List Message) : List Message → Except SchemaError Unit
  | [] => .ok ()
  | message :: others => do
    message.checkHead earlier
    checkHeads (earlier ++ [message]) others

/-- Check a whole list of messages. -/
def checkMessages (messages : List Message) : Except SchemaError Unit := do
  checkHeads [] messages
  messages.forM fun message => Message.checkFields messages message.name [] message.fields

/-- Validated messages, one slot for each number. Slots of undeclared numbers stay empty. -/
structure Table where
  /-- The slots in the order of their numbers. -/
  slots : List (Option Message)
  deriving DecidableEq, Repr

namespace Table

/-- The number of slots that a list of messages needs. -/
def slotCount (messages : List Message) : Nat :=
  messages.foldl (fun count message => max count (message.id.toNatClampNeg + 1)) 0

/-- The slots filled by a list of messages, each message in the slot of its number. -/
def fill (messages : List Message) : List (Option Message) :=
  messages.foldl (fun slots message => slots.set message.id.toNatClampNeg (some message))
    (List.replicate (slotCount messages) none)

/-- The table of a list of messages, or the first problem of the list. -/
def ofMessages (messages : List Message) : Except SchemaError Table := do
  checkMessages messages
  return ⟨fill messages⟩

/-- The declared messages in the order of their numbers. -/
def messages (table : Table) : List Message :=
  table.slots.filterMap id

/-- The message with a number. -/
def get? (table : Table) (id : ProtocolId) : Option Message :=
  if id < 0 then none else (table.slots[id.toNatClampNeg]?).join

/-- The number of declared messages. -/
def size (table : Table) : Nat :=
  table.messages.length

end Table
end PacketSmith
