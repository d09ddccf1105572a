import PacketSmith.Proofs.Schema.Refusal
import PacketSmith.Proofs.Schema.Slots

/-!
# Well-formed lists of messages

What a list of messages has to be is said here without the order in which validation looks at it:
conditions on all messages, on all fields, and on all kinds inside the kind of a field. A table is
built exactly from a list that meets them, and what an error says of any other list is true of it,
so that the list does not meet them.
-/

namespace PacketSmith

namespace Kind

/-- A kind and all kinds inside it, at every depth. -/
def parts : Kind → List Kind
  | scalar base => [scalar base]
  | collection shape element => collection shape element :: element.parts
  | map key value => map key value :: (key.parts ++ value.parts)
  | message reference => [message reference]

/-- Whether a kind is that of a scalar. -/
def IsScalar (kind : Kind) : Prop :=
  ∃ base, kind = scalar base

/-- Scalars are the kinds whose values can be members of sets and keys of maps. -/
theorem hashable_iff_scalar (kind : Kind) : kind.tag.isHashable = true ↔ kind.IsScalar := by
  cases kind <;> simp [tag, Tag.isHashable, IsScalar]

/-- The references in a kind are its parts that refer to messages. -/
theorem references_parts (kind : Kind) (reference : Reference) :
    reference ∈ kind.references ↔ message reference ∈ kind.parts := by
  induction kind with
  | scalar base => simp [references, parts]
  | collection shape element inductionHypothesis =>
    simp [references, parts, inductionHypothesis]
  | map key value keyHypothesis valueHypothesis =>
    simp [references, parts, keyHypothesis, valueHypothesis]
  | message other => simp [references, parts]

/-- What has to be a scalar in a kind: the elements of its sets and the keys of its maps. -/
def IsKeyIn (kind key : Kind) : Prop :=
  collection .set key ∈ kind.parts ∨ ∃ value, map key value ∈ kind.parts

/-- Nothing has to be a scalar in a scalar. -/
theorem key_in_scalar (base : Scalar) (key : Kind) : ¬ (scalar base).IsKeyIn key := by
  simp [IsKeyIn, parts]

/-- In a collection the element has to be a scalar if the collection is a set, and what has to be
one in the element. -/
theorem key_in_collection (shape : Collection) (element key : Kind) :
    (collection shape element).IsKeyIn key ↔
      (shape = .set ∧ key = element) ∨ element.IsKeyIn key := by
  simp [IsKeyIn, parts, eq_comm, or_assoc]

/-- In a map the key has to be a scalar, and what has to be one in the key and in the value. -/
theorem key_in_map (key value other : Kind) :
    (map key value).IsKeyIn other ↔ other = key ∨ key.IsKeyIn other ∨ value.IsKeyIn other := by
  simp only [IsKeyIn, parts, List.mem_cons, List.mem_append, reduceCtorEq, false_or,
    map.injEq]
  constructor
  · rintro ((inKey | inValue) | ⟨entry, ⟨rfl, rfl⟩ | inKey | inValue⟩)
    · exact Or.inr (Or.inl (Or.inl inKey))
    · exact Or.inr (Or.inr (Or.inl inValue))
    · exact Or.inl rfl
    · exact Or.inr (Or.inl (Or.inr ⟨entry, inKey⟩))
    · exact Or.inr (Or.inr (Or.inr ⟨entry, inValue⟩))
  · rintro (rfl | (inKey | ⟨entry, inKey⟩) | inValue | ⟨entry, inValue⟩)
    · exact Or.inr ⟨value, Or.inl ⟨rfl, rfl⟩⟩
    · exact Or.inl (Or.inl inKey)
    · exact Or.inr ⟨entry, Or.inr (Or.inl inKey)⟩
    · exact Or.inl (Or.inr inValue)
    · exact Or.inr ⟨entry, Or.inr (Or.inr inValue)⟩

/-- Nothing has to be a scalar in a reference. -/
theorem key_in_message (reference : Reference) (key : Kind) :
    ¬ (message reference).IsKeyIn key := by
  simp [IsKeyIn, parts]

/-- Sets and maps hold scalars where they have to exactly if all of this is scalar. -/
theorem hashed_iff (kind : Kind) : kind.IsHashed ↔ ∀ key, kind.IsKeyIn key → key.IsScalar := by
  induction kind with
  | scalar base => simp [IsHashed, key_in_scalar]
  | collection shape element inductionHypothesis =>
    simp only [IsHashed, key_in_collection, inductionHypothesis, hashable_iff_scalar]
    constructor
    · rintro ⟨here, inside⟩ key (⟨set, rfl⟩ | found)
      · exact here set
      · exact inside key found
    · intro all
      exact ⟨fun set => all element (Or.inl ⟨set, rfl⟩), fun key found => all key (Or.inr found)⟩
  | map key value keyHypothesis valueHypothesis =>
    simp only [IsHashed, key_in_map, keyHypothesis, valueHypothesis, hashable_iff_scalar]
    constructor
    · rintro ⟨here, keys, values⟩ other (rfl | found | found)
      · exact here
      · exact keys other found
      · exact values other found
    · intro all
      exact ⟨all key (Or.inl rfl), fun other found => all other (Or.inr (Or.inl found)),
        fun other found => all other (Or.inr (Or.inr found))⟩
  | message reference => simp [IsHashed, key_in_message]

/-- The tags of set elements and map keys are those of what has to be a scalar. -/
theorem key_tags_iff (kind : Kind) (tag : Tag) :
    tag ∈ kind.keyTags ↔ ∃ key, kind.IsKeyIn key ∧ key.tag = tag := by
  induction kind with
  | scalar base => simp [keyTags, key_in_scalar]
  | collection shape element inductionHypothesis =>
    cases shape with
    | array | list => simp [keyTags, key_in_collection, inductionHypothesis]
    | set =>
      simp only [keyTags, List.mem_cons, key_in_collection, inductionHypothesis, true_and,
        or_and_right, exists_or, exists_eq_left]
      exact or_congr_left eq_comm
  | map key value keyHypothesis valueHypothesis =>
    simp only [keyTags, List.mem_cons, List.mem_append, key_in_map, keyHypothesis,
      valueHypothesis, or_and_right, exists_or, exists_eq_left]
    exact or_congr_left eq_comm
  | message reference => simp [keyTags, key_in_message]

end Kind

/-- Whether a reference names a message of a list, by number and by name. -/
def Reference.NamesIn (reference : Reference) (messages : List Message) : Prop :=
  ∃ message ∈ messages, message.id = reference.id ∧ message.name = reference.name

/-- A reference is taken for declared exactly if it names a message of the list. -/
theorem Reference.declared_iff (reference : Reference) (messages : List Message) :
    reference.isDeclaredIn messages = true ↔ reference.NamesIn messages := by
  simp [isDeclaredIn, NamesIn]

/-- What a list of messages has to be, so that a table can be built from it. -/
structure WellFormed (messages : List Message) : Prop where
  /-- No number is negative. -/
  numbered : ∀ message ∈ messages, 0 ≤ message.id
  /-- All numbers are different. -/
  numbers : (messages.map Message.id).Nodup
  /-- Every message is named by an identifier. -/
  named : ∀ message ∈ messages, Name.isIdentifier message.name = true
  /-- The Pascal-case form of every name has something in it. -/
  typed : ∀ message ∈ messages, Name.pascal message.name ≠ ""
  /-- All Pascal-case forms are different. -/
  types : (messages.map fun message => Name.pascal message.name).Nodup
  /-- Every field is named by an identifier. -/
  fieldsNamed : ∀ message ∈ messages, ∀ field ∈ message.fields,
    Name.isIdentifier field.name = true
  /-- All fields of a message have different names. -/
  fields : ∀ message ∈ messages, (message.fields.map Field.name).Nodup
  /-- Every reference, however deep in the kind of a field, names a message of the list. -/
  references : ∀ message ∈ messages, ∀ field ∈ message.fields, ∀ reference,
    Kind.message reference ∈ field.kind.parts → reference.NamesIn messages
  /-- The elements of every set and the keys of every map, however deep in the kind of a field, are
  scalars. -/
  keys : ∀ message ∈ messages, ∀ field ∈ message.fields, ∀ key,
    field.kind.IsKeyIn key → key.IsScalar

/-- Validation is about well-formed lists. -/
theorem validated_iff_well_formed (messages : List Message) :
    Validated messages ↔ WellFormed messages := by
  have names (fields : List Field) :
      (fields.map Field.name).Nodup ↔
        fields.Pairwise fun field other => field.name ≠ other.name := List.pairwise_map
  have numbers : (messages.map Message.id).Nodup ↔
      messages.Pairwise fun message other => message.id ≠ other.id := List.pairwise_map
  have types : (messages.map fun message => Name.pascal message.name).Nodup ↔
      messages.Pairwise fun message other => message.typeName ≠ other.typeName :=
    List.pairwise_map
  constructor
  · intro validated
    constructor
    case numbered => exact fun message member => (validated.heads message member).numbered
    case numbers => exact numbers.mpr (validated.apart.imp Message.Apart.numbers)
    case named => exact fun message member => (validated.heads message member).named
    case typed => exact fun message member => (validated.heads message member).typed
    case types => exact types.mpr (validated.apart.imp Message.Apart.types)
    case fieldsNamed =>
      exact fun message member field held => (validated.fields message member field held).named
    case fields => exact fun message member => (names _).mpr (validated.distinct message member)
    case references =>
      intro message member field held reference found
      exact (reference.declared_iff messages).mp
        ((validated.fields message member field held).declared reference
          ((field.kind.references_parts reference).mpr found))
    case keys =>
      intro message member field held
      exact field.kind.hashed_iff.mp (validated.fields message member field held).hashed
  · intro formed
    constructor
    case heads =>
      exact fun message member =>
        ⟨formed.numbered message member, formed.named message member, formed.typed message member⟩
    case apart =>
      exact ((numbers.mp formed.numbers).and (types.mp formed.types)).imp
        fun different => ⟨different.1, different.2⟩
    case fields =>
      intro message member field held
      refine ⟨formed.fieldsNamed message member field held,
        field.kind.hashed_iff.mpr (formed.keys message member field held), ?_⟩
      intro reference found
      exact (reference.declared_iff messages).mpr (formed.references message member field held
        reference ((field.kind.references_parts reference).mp found))
    case distinct => exact fun message member => (names _).mp (formed.fields message member)

/-- What an error says of a list is a violation: no well-formed list has it. -/
theorem SchemaError.present_violates (error : SchemaError) (messages : List Message)
    (present : error.IsPresentIn messages) : ¬ Validated messages := by
  intro validated
  cases error with
  | negativeId schema id =>
    obtain ⟨message, member, _, rfl, negative⟩ := present
    exact absurd negative (Int16.not_lt.mpr (validated.heads message member).numbered)
  | duplicateId id first second =>
    obtain ⟨message, other, both, same, _, otherSame, _⟩ := present
    have apart := List.pairwise_pair.mp (validated.apart.sublist both)
    exact apart.numbers (same.trans otherSame.symm)
  | duplicateMessage name =>
    obtain ⟨message, other, both, same, _⟩ := present
    exact (List.pairwise_pair.mp (validated.apart.sublist both)).types same
  | duplicateField schema field =>
    obtain ⟨message, member, _, first, second, both, same, otherSame⟩ := present
    have apart := List.pairwise_pair.mp ((validated.distinct message member).sublist both)
    exact apart (same.trans otherSame.symm)
  | invalidIdentifier name =>
    rcases present with ⟨message, member, rfl, unsound⟩ | ⟨message, member, field, held, _, unnamed⟩
    · have head := validated.heads message member
      exact unsound ⟨head.named, head.typed⟩
    · have named := (validated.fields message member field held).named
      rw [unnamed] at named
      cases named
  | unresolvedReference schema field reference =>
    obtain ⟨message, member, _, declared, held, _, found, absent⟩ := present
    have resolved := (validated.fields message member declared held).declared reference found
    rw [absent] at resolved
    cases resolved
  | unhashableKey schema field tag =>
    obtain ⟨message, member, _, declared, held, _, found, unhashable⟩ := present
    obtain ⟨key, place, rfl⟩ := (declared.kind.key_tags_iff tag).mp found
    have scalar := declared.kind.hashed_iff.mp
      (validated.fields message member declared held).hashed key place
    rw [key.hashable_iff_scalar.mpr scalar] at unhashable
    cases unhashable
  | reservedWord schema field language | reservedTypeName schema typeName language =>
    exact present

/-- How a list of messages is judged. -/
structure Judged (messages : List Message) : Prop where
  /-- A table is built exactly if the list is well formed. -/
  accepted_iff : (∃ table, Table.ofMessages messages = .ok table) ↔ WellFormed messages
  /-- What an error says is true of the list. -/
  refused : ∀ error, Table.ofMessages messages = .error error → error.IsPresentIn messages
  /-- What an error says of a list is never true of one that is well formed. -/
  violation : ∀ error, SchemaError.IsPresentIn messages error → ¬ WellFormed messages

/-- A table is built exactly from a well-formed list, and every other list is refused for a
violation that is really in it. -/
theorem messages_judged (messages : List Message) : Judged messages := by
  constructor
  case accepted_iff =>
    simp only [Table.of_messages_iff, validated_iff_well_formed]
    exact ⟨fun ⟨_, formed, _⟩ => formed, fun formed => ⟨_, formed, rfl⟩⟩
  case refused =>
    exact fun error refused => (Table.of_messages_refuses messages error refused).1
  case violation =>
    intro error present formed
    exact error.present_violates messages present
      ((validated_iff_well_formed messages).mpr formed)

end PacketSmith
