import PacketSmith.Code.Serializer
import PacketSmith.Proofs.Code.Plain

/-!
# Serializers refuse before they add

A serializer that is given a kind of another tag refuses it, and the emitter is as it was: every
serializer checks the tag before it takes a temporary or adds a line, although not each of them
checks first of all. A serializer that is given a kind of its own tag succeeds, however the kind is
nested, because the kinds inside are given to the serializers of their tags.
-/

namespace PacketSmith

namespace Emitting

/-- After a check that finds something, the emitter is as it was. -/
theorem check_ok {Found Result : Type} {look : Emitter → Except Failure Found}
    {emitter : Emitter} {found : Found} (accepted : look emitter = .ok found)
    (next : Found → Emitting Result) :
    (check look >>= next).run emitter = (next found).run emitter := by
  simp only [bind, check, accepted]

/-- A check that fails ends an action with the emitter as it was. -/
theorem check_error {Found Result : Type} {look : Emitter → Except Failure Found}
    {emitter : Emitter} {failure : Failure} (refused : look emitter = .error failure)
    (next : Found → Emitting Result) :
    (check look >>= next).run emitter = (emitter, .error failure) := by
  simp only [bind, check, refused]

end Emitting

namespace Serializer

/-- Tags are listed in the order of their numbers. -/
theorem number_all (tag : Tag) : Tag.all[tag.number]? = some tag := by
  rcases tag with base | shape | _ | _
  · cases base <;> rfl
  · cases shape <;> rfl
  · rfl
  · rfl

/-- The serializer under the number of a tag is the one for this tag. -/
theorem registered_exact (tag : Tag) : registered tag = ofTag tag := by
  have found : registry[tag.number]? = some (ofTag tag) := by
    rw [registry, List.getElem?_map, number_all]
    rfl
  rw [registered, List.get_eq_getElem]
  exact Option.some.inj ((List.getElem?_eq_getElem (number_registered tag)).symm.trans found)

end Serializer

/-! ## Checks -/

namespace Emitter

/-- A kind is accepted under its own tag. -/
theorem expect_own (emitter : Emitter) (kind : Kind) : emitter.expect kind.tag kind = .ok () := by
  simp [expect]

/-- A kind is refused under another tag. -/
theorem expect_other (emitter : Emitter) (tag : Tag) (kind : Kind) (other : kind.tag ≠ tag) :
    emitter.expect tag kind = .error (emitter.mismatch tag kind) := by
  simp [expect, other, mismatch]

/-- A scalar is accepted under its own tag. -/
theorem expect_scalar (emitter : Emitter) (base : Scalar) :
    emitter.expect (.scalar base) (.scalar base) = .ok () :=
  emitter.expect_own (.scalar base)

/-- A collection of the shape gives its elements. -/
theorem sequence_element_own (emitter : Emitter) (shape : Collection) (element : Kind) :
    emitter.sequenceElement shape (.collection shape element) =
      .ok ⟨element, Kind.element_smaller shape element⟩ := by
  simp [sequenceElement, expect, Kind.tag]

/-- Anything but a collection of the shape is refused. -/
theorem sequence_element_other (emitter : Emitter) (shape : Collection) (kind : Kind)
    (other : kind.tag ≠ .collection shape) :
    emitter.sequenceElement shape kind = .error (emitter.mismatch (.collection shape) kind) := by
  simp only [sequenceElement, expect_other emitter _ kind other]

/-- A map gives its keys and its values. -/
theorem map_entry_own (emitter : Emitter) (key value : Kind) :
    emitter.mapEntry (.map key value) =
      .ok (⟨key, Kind.key_smaller key value⟩, ⟨value, Kind.value_smaller key value⟩) :=
  rfl

/-- Anything but a map is refused. -/
theorem map_entry_other (emitter : Emitter) (kind : Kind) (other : kind.tag ≠ .map) :
    emitter.mapEntry kind = .error (emitter.mismatch .map kind) := by
  cases kind with
  | map key value => exact absurd rfl other
  | _ => rfl

/-- A nested message gives its reference. -/
theorem message_reference_own (emitter : Emitter) (reference : Reference) :
    emitter.messageReference (.message reference) = .ok reference :=
  rfl

/-- Anything but a nested message is refused. -/
theorem message_reference_other (emitter : Emitter) (kind : Kind) (other : kind.tag ≠ .message) :
    emitter.messageReference kind = .error (emitter.mismatch .message kind) := by
  cases kind with
  | message reference => exact absurd rfl other
  | _ => rfl

end Emitter

/-! ## Types -/

namespace Serializer

/-- The serializer of its own tag spells the type of a kind. -/
theorem field_type_own (emitter : Emitter) (kind : Kind) :
    (registered kind.tag).fieldType emitter kind = .ok (kind.typeName emitter.language) := by
  induction kind with
  | scalar base =>
    rw [registered_exact, Kind.tag, ofTag, fieldType, Emitter.expect_scalar]
    rfl
  | collection shape element inductionHypothesis =>
    rw [registered_exact, Kind.tag, ofTag, fieldType, Emitter.sequence_element_own]
    simp only [bind, Except.bind, inductionHypothesis]
    cases shape <;> cases language : emitter.language <;> simp [Kind.typeName] <;> rfl
  | map key value keyHypothesis valueHypothesis =>
    rw [registered_exact, Kind.tag, ofTag, fieldType, Emitter.map_entry_own]
    simp only [bind, Except.bind, keyHypothesis, valueHypothesis]
    cases language : emitter.language <;> simp [Kind.typeName] <;> rfl
  | message reference =>
    rw [registered_exact, Kind.tag, ofTag, fieldType, Emitter.message_reference_own]
    cases emitter.language <;> rfl

/-- The serializer of another tag refuses a kind. -/
theorem field_type_other (emitter : Emitter) (tag : Tag) (kind : Kind) (other : kind.tag ≠ tag) :
    (registered tag).fieldType emitter kind = .error (emitter.mismatch tag kind) := by
  rw [registered_exact]
  cases tag with
  | scalar base =>
    rw [ofTag, fieldType, Emitter.expect_other emitter _ kind other]
    rfl
  | collection shape =>
    rw [ofTag, fieldType, Emitter.sequence_element_other emitter shape kind other]
    rfl
  | map =>
    rw [ofTag, fieldType, Emitter.map_entry_other emitter kind other]
    rfl
  | message =>
    rw [ofTag, fieldType, Emitter.message_reference_other emitter kind other]
    rfl

/-- The types that a language spells where values are read are those of the kinds. -/
theorem render_types (emitter : Emitter) (kinds : List Kind) :
    emitter.renderTypes kinds = .ok (match emitter.language with
      | .go => kinds.map (Kind.typeName emitter.language)
      | .python => []) := by
  have own : emitter.fieldType = fun kind => pure (kind.typeName emitter.language) :=
    funext (field_type_own emitter)
  rw [Emitter.renderTypes, own]
  cases emitter.language with
  | go => exact List.mapM_pure
  | python => rfl

/-! ## Writing and reading -/

section Effects

attribute [local simp] Emitting.check Emitting.take Emitting.statement Emitting.header
  Emitting.closing Emitter.take Emitter.temporary Emitter.statement Emitter.header Emitter.closing
  Emitter.line Emitter.add Code.lines Code.lines_append

/-- The serializer of its own tag adds the code that writes a kind. -/
theorem write_own (emitter : Emitter) (value : Operand) (depth : Nat) (kind : Kind) :
    ((registered kind.tag).write value depth kind).run emitter =
      ({ emitter.add depth (kind.writeCode value emitter.next) with
        next := emitter.next + kind.writeTemporaries }, .ok ()) := by
  induction kind generalizing emitter value depth with
  | scalar base =>
    rw [registered_exact, Kind.tag, ofTag, write, Emitting.check_ok (Emitter.expect_scalar _ _)]
    simp [Kind.writeCode, Kind.writeTemporaries]
  | message reference =>
    rw [registered_exact, Kind.tag, ofTag, write,
      Emitting.check_ok (Emitter.message_reference_own _ _)]
    simp [Kind.writeCode, Kind.writeTemporaries]
  | collection shape element inductionHypothesis =>
    rw [registered_exact, Kind.tag, ofTag, write,
      Emitting.check_ok (Emitter.sequence_element_own _ _ _)]
    simp [bind, inductionHypothesis, Kind.writeCode, Kind.writeTemporaries, ← Nat.add_assoc]
  | map key entry keyHypothesis entryHypothesis =>
    rw [registered_exact, Kind.tag, ofTag, write,
      Emitting.check_ok (Emitter.map_entry_own _ _ _)]
    simp [bind, keyHypothesis, entryHypothesis, Kind.writeCode, Kind.writeTemporaries,
      ← Nat.add_assoc]

/-- The serializer of its own tag adds the code that reads a kind, and gives the temporary that
holds the value. -/
theorem read_own (emitter : Emitter) (depth : Nat) (kind : Kind) :
    ((registered kind.tag).read depth kind).run emitter =
      ({ emitter.add depth (kind.readCode emitter.next) with
        next := emitter.next + kind.readTemporaries }, .ok (kind.readResult emitter.next)) := by
  induction kind generalizing emitter depth with
  | scalar base =>
    rw [registered_exact, Kind.tag, ofTag, read, Emitting.check_ok (Emitter.expect_scalar _ _)]
    simp [bind, pure, Kind.readCode, Kind.readTemporaries, Kind.readResult]
  | message reference =>
    rw [registered_exact, Kind.tag, ofTag, read, Emitting.check_ok (render_types _ _),
      Emitting.check_ok (Emitter.message_reference_own _ _)]
    simp [bind, pure, Kind.readCode, Kind.readTemporaries, Kind.readResult]
  | collection shape element inductionHypothesis =>
    rw [registered_exact, Kind.tag, ofTag, read,
      Emitting.check_ok (Emitter.sequence_element_own _ _ _)]
    simp [bind, pure, render_types, inductionHypothesis, Kind.readCode, Kind.readTemporaries,
      Kind.readResult, ← Nat.add_assoc]
  | map key entry keyHypothesis entryHypothesis =>
    rw [registered_exact, Kind.tag, ofTag, read,
      Emitting.check_ok (Emitter.map_entry_own _ _ _)]
    simp [bind, pure, render_types, keyHypothesis, entryHypothesis, Kind.readCode,
      Kind.readTemporaries, Kind.readResult, ← Nat.add_assoc]

end Effects

/-- The serializer of another tag refuses to write a kind. -/
theorem write_other (emitter : Emitter) (tag : Tag) (value : Operand) (depth : Nat) (kind : Kind)
    (other : kind.tag ≠ tag) :
    ((registered tag).write value depth kind).run emitter =
      (emitter, .error (emitter.mismatch tag kind)) := by
  rw [registered_exact]
  cases tag with
  | scalar base =>
    rw [ofTag, write]
    exact Emitting.check_error (emitter.expect_other _ kind other) _
  | collection shape =>
    rw [ofTag, write]
    exact Emitting.check_error (emitter.sequence_element_other shape kind other) _
  | map =>
    rw [ofTag, write]
    exact Emitting.check_error (emitter.map_entry_other kind other) _
  | message =>
    rw [ofTag, write]
    exact Emitting.check_error (emitter.message_reference_other kind other) _

/-- The serializer of another tag refuses to read a kind. For nested messages the type that comes
first is the one of the kind's own tag, which is found. -/
theorem read_other (emitter : Emitter) (tag : Tag) (depth : Nat) (kind : Kind)
    (other : kind.tag ≠ tag) :
    ((registered tag).read depth kind).run emitter =
      (emitter, .error (emitter.mismatch tag kind)) := by
  rw [registered_exact]
  cases tag with
  | scalar base =>
    rw [ofTag, read]
    exact Emitting.check_error (emitter.expect_other _ kind other) _
  | collection shape =>
    rw [ofTag, read]
    exact Emitting.check_error (emitter.sequence_element_other shape kind other) _
  | map =>
    rw [ofTag, read]
    exact Emitting.check_error (emitter.map_entry_other kind other) _
  | message =>
    rw [ofTag, read, Emitting.check_ok (render_types _ _)]
    exact Emitting.check_error (emitter.message_reference_other kind other) _

end Serializer

/-! ## Calls -/

/-- A call of the serializer of a tag with a kind refuses other tags, and then does nothing. -/
structure RefusesOthers {Result : Type} (emitter : Emitter) (tag : Tag) (kind : Kind)
    (outcome : Emitter × Except Failure Result) : Prop where
  /-- The call fails exactly if the kind has another tag. -/
  fails_iff : (∃ failure, outcome.2 = .error failure) ↔ kind.tag ≠ tag
  /-- The failure names the language, the tag of the serializer and the tag of the kind. -/
  mismatch : ∀ failure, outcome.2 = .error failure →
    failure = .kindMismatch emitter.language tag kind.tag
  /-- After a failure the lines and the number of the next temporary are as they were. -/
  unchanged : ∀ failure, outcome.2 = .error failure → outcome.1 = emitter

/-- A call that succeeds for its own tag and stops for other tags refuses them. -/
theorem refuses_others {Result : Type} {emitter : Emitter} {tag : Tag} {kind : Kind}
    {outcome : Emitter × Except Failure Result}
    (own : kind.tag = tag → ∃ result, outcome.2 = .ok result)
    (other : kind.tag ≠ tag → outcome = (emitter, .error (emitter.mismatch tag kind))) :
    RefusesOthers emitter tag kind outcome := by
  by_cases same : kind.tag = tag
  · obtain ⟨result, done⟩ := own same
    constructor <;> simp [done, same]
  · obtain rfl := other same
    constructor <;> simp [same, Emitter.mismatch]

/-- What the serializers do with an emitter. -/
structure SerializersAtomic (emitter : Emitter) : Prop where
  /-- A type is refused by the serializers of other tags. -/
  type : ∀ tag kind, RefusesOthers emitter tag kind
    (emitter, (Serializer.registered tag).fieldType emitter kind)
  /-- Writing is refused by the serializers of other tags. -/
  write : ∀ tag value depth kind, RefusesOthers emitter tag kind
    (((Serializer.registered tag).write value depth kind).run emitter)
  /-- Reading is refused by the serializers of other tags. -/
  read : ∀ tag depth kind, RefusesOthers emitter tag kind
    (((Serializer.registered tag).read depth kind).run emitter)
  /-- Every kind has its type. -/
  typed : ∀ kind, emitter.fieldType kind = .ok (kind.typeName emitter.language)
  /-- Every value is written, by the code of its kind. -/
  written : ∀ value depth kind, (Emitting.writeValue value depth kind).run emitter =
    ({ emitter.add depth (kind.writeCode value emitter.next) with
      next := emitter.next + kind.writeTemporaries }, .ok ())
  /-- Every value is read, by the code of its kind. -/
  valued : ∀ depth kind, (Emitting.readValue depth kind).run emitter =
    ({ emitter.add depth (kind.readCode emitter.next) with
      next := emitter.next + kind.readTemporaries }, .ok (kind.readResult emitter.next))

/-- Serializers refuse the kinds of other tags without a trace, and between them they take every
kind.

Proof: a serializer of another tag stops at its check, and nothing is added before it. For its own
tag the law of each serializer is by induction on the kind, because the kinds inside are given to
the serializers of their tags. -/
theorem serializers_atomic (emitter : Emitter) : SerializersAtomic emitter := by
  constructor
  case type =>
    intro tag kind
    refine refuses_others ?_ fun other => ?_
    · rintro rfl
      exact ⟨_, Serializer.field_type_own emitter kind⟩
    · rw [Serializer.field_type_other emitter tag kind other]
  case write =>
    intro tag value depth kind
    refine refuses_others ?_ (Serializer.write_other emitter tag value depth kind)
    rintro rfl
    exact ⟨(), by rw [Serializer.write_own]⟩
  case read =>
    intro tag depth kind
    refine refuses_others ?_ (Serializer.read_other emitter tag depth kind)
    rintro rfl
    exact ⟨_, by rw [Serializer.read_own]⟩
  case typed => exact Serializer.field_type_own emitter
  case written => exact Serializer.write_own emitter
  case valued => exact Serializer.read_own emitter

end PacketSmith
