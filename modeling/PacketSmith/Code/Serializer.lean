import PacketSmith.Code.Emitter

/-!
# Serializers

Code is generated by serializers. There is one for each tag, registered under the number of the
tag, and it refuses the kinds of other tags. Kinds inside of a kind are given to the serializers of
their own tags. A refusal does not take back what was added before it, so that the order of checks
and additions is a part of every serializer.
-/

namespace PacketSmith

/-- The number of a tag. -/
def Tag.number : Tag → Nat
  | scalar .bool => 0
  | scalar .byte => 1
  | scalar .short => 2
  | scalar .int => 3
  | scalar .long => 4
  | scalar .float => 5
  | scalar .double => 6
  | scalar .char => 7
  | scalar .string => 8
  | collection .array => 9
  | collection .list => 10
  | collection .set => 11
  | map => 12
  | message => 13

/-- What generates the code for the kinds of one tag. -/
inductive Serializer where
  /-- For values of one layout. -/
  | primitive (base : Scalar)
  /-- For collections of one shape. -/
  | sequence (shape : Collection)
  /-- For maps. -/
  | map
  /-- For other messages. -/
  | message
  deriving DecidableEq, Repr

namespace Serializer

/-- The serializer that the languages have for a tag. -/
def ofTag : Tag → Serializer
  | .scalar base => primitive base
  | .collection shape => sequence shape
  | .map => map
  | .message => message

/-- The serializers, in the order of all tags. -/
def registry : List Serializer :=
  Tag.all.map ofTag

/-- There is a serializer under the number of every tag. -/
theorem number_registered (tag : Tag) : tag.number < registry.length := by
  rcases tag with base | shape | _ | _
  · cases base <;> decide
  · cases shape <;> decide
  · decide
  · decide

/-- The serializer registered under the number of a tag. -/
def registered (tag : Tag) : Serializer :=
  registry.get ⟨tag.number, number_registered tag⟩

end Serializer

/-! ## Checks -/

/-- A kind that stands inside of a kind. -/
abbrev Kind.Inner (kind : Kind) : Type :=
  { inner : Kind // sizeOf inner < sizeOf kind }

/-- The kind of the elements stands inside of a collection. -/
theorem Kind.element_smaller (shape : Collection) (element : Kind) :
    sizeOf element < sizeOf (collection shape element) := by
  rw [collection.sizeOf_spec]
  omega

/-- The kind of the keys stands inside of a map. -/
theorem Kind.key_smaller (key value : Kind) : sizeOf key < sizeOf (map key value) := by
  rw [map.sizeOf_spec]
  omega

/-- The kind of the values stands inside of a map. -/
theorem Kind.value_smaller (key value : Kind) : sizeOf value < sizeOf (map key value) := by
  rw [map.sizeOf_spec]
  omega

namespace Emitter

/-- The refusal of a kind by the serializer of another tag. -/
def mismatch (emitter : Emitter) (expected : Tag) (kind : Kind) : Failure :=
  .kindMismatch emitter.language expected kind.tag

/-- The kind of the elements of a collection, which must have a shape. -/
def sequenceElement (emitter : Emitter) (shape : Collection) (kind : Kind) :
    Except Failure kind.Inner :=
  match emitter.expect (.collection shape) kind with
  | .error failure => .error failure
  | .ok () =>
    match kind with
    | .collection _ element => .ok ⟨element, Kind.element_smaller _ element⟩
    | other => .error (emitter.mismatch (.collection shape) other)

/-- The kinds of the keys and of the values of a map. -/
def mapEntry (emitter : Emitter) (kind : Kind) : Except Failure (kind.Inner × kind.Inner) :=
  match kind with
  | .map key value =>
    .ok (⟨key, Kind.key_smaller key value⟩, ⟨value, Kind.value_smaller key value⟩)
  | other => .error (emitter.mismatch .map other)

/-- The message that a kind refers to. -/
def messageReference (emitter : Emitter) (kind : Kind) : Except Failure Reference :=
  match kind with
  | .message reference => .ok reference
  | other => .error (emitter.mismatch .message other)

end Emitter

/-! ## Types -/

/-- The type of a kind, as a serializer spells it. -/
def Serializer.fieldType (emitter : Emitter) : Serializer → Kind → Except Failure String
  | primitive base, kind => do
    emitter.expect (.scalar base) kind
    return base.typeName emitter.language
  | sequence shape, kind => do
    let ⟨element, _⟩ ← emitter.sequenceElement shape kind
    let inner ← (registered element.tag).fieldType emitter element
    return match emitter.language, shape with
      | .go, .array | .go, .list => "[]" ++ inner
      | .go, .set => "map[" ++ inner ++ "]bool"
      | .python, .array | .python, .list => "list[" ++ inner ++ "]"
      | .python, .set => "set[" ++ inner ++ "]"
  | map, kind => do
    let (⟨key, _⟩, ⟨value, _⟩) ← emitter.mapEntry kind
    let keyType ← (registered key.tag).fieldType emitter key
    let valueType ← (registered value.tag).fieldType emitter value
    return match emitter.language with
      | .go => "map[" ++ keyType ++ "]" ++ valueType
      | .python => "dict[" ++ keyType ++ ", " ++ valueType ++ "]"
  | message, kind => do
    let reference ← emitter.messageReference kind
    return match emitter.language with
      | .go => "*" ++ reference.typeName emitter.language
      | .python => reference.typeName emitter.language
termination_by _ kind => sizeOf kind

/-- The type of a kind, from the serializer of its own tag. -/
def Emitter.fieldType (emitter : Emitter) (kind : Kind) : Except Failure String :=
  (Serializer.registered kind.tag).fieldType emitter kind

/-- The types that a language spells where values of these kinds are read. The statements spell
them again, from the kinds. -/
def Emitter.renderTypes (emitter : Emitter) (kinds : List Kind) : Except Failure (List String) :=
  match emitter.language with
  | .go => kinds.mapM emitter.fieldType
  | .python => .ok []

/-! ## Actions on emitters -/

/-- An action on an emitter. When it fails, what was added before stays. -/
structure Emitting (Result : Type) where
  /-- The emitter after the action, with the result or the failure. -/
  run : Emitter → Emitter × Except Failure Result

namespace Emitting

instance : Monad Emitting where
  pure result := ⟨fun emitter => (emitter, .ok result)⟩
  bind first next := ⟨fun emitter =>
    match first.run emitter with
    | (after, .ok result) => (next result).run after
    | (after, .error failure) => (after, .error failure)⟩

/-- Look something up, or fail. -/
def check {Result : Type} (look : Emitter → Except Failure Result) : Emitting Result :=
  ⟨fun emitter => (emitter, look emitter)⟩

/-- Add a statement. -/
def statement (depth : Nat) (added : Statement) : Emitting Unit :=
  ⟨fun emitter => (emitter.statement depth added, .ok ())⟩

/-- Add the first line of a block. -/
def header (depth : Nat) (added : Header) : Emitting Unit :=
  ⟨fun emitter => (emitter.header depth added, .ok ())⟩

/-- Add the lines that close a block. -/
def closing (depth : Nat) : Emitting Unit :=
  ⟨fun emitter => (emitter.closing depth, .ok ())⟩

/-- Take a temporary for a role. -/
def take (role : Role) : Emitting Temporary :=
  ⟨fun emitter => ((emitter.take role).1, .ok (emitter.take role).2)⟩

end Emitting

/-! ## Writing and reading -/

namespace Serializer

open Emitting

/-- Add the code that writes a value. -/
def write : Serializer → Operand → Nat → Kind → Emitting Unit
  | primitive base, value, depth, kind => do
    check fun emitter => emitter.expect (.scalar base) kind
    statement depth (.writeScalar base value)
  | sequence shape, value, depth, kind => do
    let ⟨element, _⟩ ← check fun emitter => emitter.sequenceElement shape kind
    let item ← take .element
    statement depth (.writeSize value)
    header depth (.forEachElement shape item value)
    (registered element.tag).write (.temporary item) (depth + 1) element
    closing depth
  | map, value, depth, kind => do
    let (⟨key, _⟩, ⟨entry, _⟩) ← check fun emitter => emitter.mapEntry kind
    let keyItem ← take .key
    let entryItem ← take .value
    statement depth (.writeSize value)
    header depth (.forEachEntry keyItem entryItem value)
    (registered key.tag).write (.temporary keyItem) (depth + 1) key
    (registered entry.tag).write (.temporary entryItem) (depth + 1) entry
    closing depth
  | message, value, depth, kind => do
    let reference ← check fun emitter => emitter.messageReference kind
    statement depth (.writeMessage reference value)
termination_by _ _ _ kind => sizeOf kind

/-- Add the code that reads a value, and give the temporary that holds it. The type of a nested
message is found before the kind is checked, under the tag of the kind itself. -/
def read : Serializer → Nat → Kind → Emitting Temporary
  | primitive base, depth, kind => do
    check fun emitter => emitter.expect (.scalar base) kind
    let result ← take .result
    statement depth (.readScalar base result)
    return result
  | sequence shape, depth, kind => do
    let ⟨element, _⟩ ← check fun emitter => emitter.sequenceElement shape kind
    let _ ← check fun emitter => emitter.renderTypes [element]
    let size ← take .size
    let result ← take .result
    let index ← take .index
    statement depth (.readSize size)
    statement depth (.makeCollection shape element result size)
    header depth (.forIndex index size)
    let item ← (registered element.tag).read (depth + 1) element
    statement (depth + 1) (.insertElement shape result item)
    closing depth
    return result
  | map, depth, kind => do
    let (⟨key, _⟩, ⟨entry, _⟩) ← check fun emitter => emitter.mapEntry kind
    let _ ← check fun emitter => emitter.renderTypes [key, entry]
    let size ← take .size
    let result ← take .result
    let index ← take .index
    statement depth (.readSize size)
    statement depth (.makeMap key entry result size)
    header depth (.forIndex index size)
    let keyItem ← (registered key.tag).read (depth + 1) key
    let entryItem ← (registered entry.tag).read (depth + 1) entry
    statement (depth + 1) (.insertEntry result keyItem entryItem)
    closing depth
    return result
  | message, depth, kind => do
    let _ ← check fun emitter => emitter.renderTypes [kind]
    let reference ← check fun emitter => emitter.messageReference kind
    let result ← take .result
    statement depth (.readMessage reference result)
    return result
termination_by _ _ kind => sizeOf kind

end Serializer

namespace Emitting

/-- Write a value with the serializer of its own tag. -/
def writeValue (value : Operand) (depth : Nat) (kind : Kind) : Emitting Unit :=
  (Serializer.registered kind.tag).write value depth kind

/-- Read a value with the serializer of its own tag. -/
def readValue (depth : Nat) (kind : Kind) : Emitting Temporary :=
  (Serializer.registered kind.tag).read depth kind

end Emitting

namespace Emitter

/-- The type of a kind, from the serializer of a tag. -/
def typeAs (emitter : Emitter) (tag : Tag) (kind : Kind) : Except Failure String :=
  (Serializer.registered tag).fieldType emitter kind

/-- Write a value with the serializer of a tag. -/
def writeAs (emitter : Emitter) (tag : Tag) (value : String) (depth : Nat) (kind : Kind) :
    Emitter × Except Failure Unit :=
  ((Serializer.registered tag).write (.expression value) depth kind).run emitter

/-- Read a value with the serializer of a tag, and give the expression of the value. -/
def readAs (emitter : Emitter) (tag : Tag) (depth : Nat) (kind : Kind) :
    Emitter × Except Failure String :=
  let (after, outcome) := ((Serializer.registered tag).read depth kind).run emitter
  (after, outcome.map Temporary.text)

end Emitter
end PacketSmith
