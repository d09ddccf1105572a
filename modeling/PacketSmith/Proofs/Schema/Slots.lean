import Mathlib.Data.List.Nodup
import PacketSmith.Proofs.Schema.Validation

/-!
# The slots of a table

The slots are filled one message after another. A message that was put into the slot of its
number stays there, because no other message has the number, so that reading the slots in
order gives every message once, by ascending numbers.
-/

namespace PacketSmith

/-- The slot of a message. -/
def Message.slot (message : Message) : Nat :=
  message.id.toNatClampNeg

/-- The slot of a message whose number is not negative is the number. -/
theorem Message.slot_number (message : Message) (numbered : 0 ≤ message.id) :
    (message.slot : Int) = message.id.toInt := by
  have positive : 0 ≤ message.id.toInt := Int16.le_iff_toInt_le.mp numbered
  rw [slot, Int16.toNatClampNeg, Int.toNat_of_nonneg positive]

/-- Different numbers that are not negative have different slots. -/
theorem Message.slot_injective (message other : Message) (numbered : 0 ≤ message.id)
    (otherNumbered : 0 ≤ other.id) (same : message.slot = other.slot) : message.id = other.id := by
  apply Int16.toInt_inj.mp
  rw [← message.slot_number numbered, ← other.slot_number otherNumbered, same]

/-- The messages that are put into slots leave the number of slots as it is. -/
theorem fill_length (messages : List Message) (slots : List (Option Message)) :
    (messages.foldl (fun slots message => slots.set message.slot (some message)) slots).length =
      slots.length := by
  induction messages generalizing slots with
  | nil => rfl
  | cons message messages inductionHypothesis =>
    rw [List.foldl_cons, inductionHypothesis, List.length_set]

/-- A slot holds the last message that was put into it, or what it held before. -/
theorem fill_slot (messages : List Message) (slots : List (Option Message)) (index : Nat)
    (inside : index < slots.length) :
    (messages.foldl (fun slots message => slots.set message.slot (some message)) slots)[index]? =
      some ((messages.reverse.find? fun message => message.slot == index).or
        (slots[index]?).join) := by
  induction messages generalizing slots with
  | nil => simp [inside]
  | cons message messages inductionHypothesis =>
    have still : index < (slots.set message.slot (some message)).length := by
      rw [List.length_set]
      exact inside
    rw [List.foldl_cons, inductionHypothesis _ still, List.reverse_cons, List.find?_append]
    by_cases here : message.slot = index
    · cases messages.reverse.find? fun message => message.slot == index <;>
        simp [here, inside]
    · cases messages.reverse.find? fun message => message.slot == index <;>
        simp [here, inside]

/-- The number of slots goes up to the largest number that was there. -/
theorem slot_count_from (messages : List Message) (count : Nat) :
    count ≤ messages.foldl (fun count message => max count (message.slot + 1)) count ∧
      ∀ message ∈ messages,
        message.slot < messages.foldl (fun count message => max count (message.slot + 1)) count := by
  induction messages generalizing count with
  | nil => simp
  | cons message messages inductionHypothesis =>
    obtain ⟨more, others⟩ := inductionHypothesis (max count (message.slot + 1))
    rw [List.foldl_cons, List.forall_mem_cons]
    exact ⟨by omega, by omega, others⟩

/-- Every message of a list has a slot in its table. -/
theorem Table.slot_inside (messages : List Message) :
    ∀ message ∈ messages, message.slot < Table.slotCount messages :=
  (slot_count_from messages 0).2

/-- Slots that hold messages under their own numbers give the messages by ascending numbers. -/
theorem messages_ascending (slots : List (Option Message)) (offset : Nat)
    (own : ∀ index message, slots[index]? = some (some message) → message.slot = offset + index) :
    (slots.filterMap id).Pairwise (fun message other => message.slot < other.slot) ∧
      ∀ message ∈ slots.filterMap id, offset ≤ message.slot := by
  induction slots generalizing offset with
  | nil => simp
  | cons held slots inductionHypothesis =>
    have later : ∀ index message, slots[index]? = some (some message) →
        message.slot = offset + 1 + index := by
      intro index message found
      have place := own (index + 1) message (by simpa using found)
      omega
    obtain ⟨pairs, bounds⟩ := inductionHypothesis (offset + 1) later
    cases held with
    | none => exact ⟨pairs, fun message member => Nat.le_of_succ_le (bounds message member)⟩
    | some message =>
      have first : message.slot = offset := own 0 message rfl
      refine ⟨List.pairwise_cons.mpr ⟨fun other member => ?_, pairs⟩, fun other member => ?_⟩
      · have bound := bounds other member
        omega
      · rcases List.mem_cons.mp member with rfl | member
        · omega
        · have bound := bounds other member
          omega

namespace Validated

variable {messages : List Message}

/-- Different messages of a validated list have different slots. -/
theorem slots_distinct (validated : Validated messages) :
    (messages.map Message.slot).Nodup := by
  rw [List.Nodup, List.pairwise_map]
  refine validated.apart.imp_of_mem fun {message other} member otherMember apart same => ?_
  exact apart.numbers (message.slot_injective other (validated.heads message member).numbered
    (validated.heads other otherMember).numbered same)

/-- The slots of a validated list hold each message under its number and nothing else. -/
theorem slot_exact (validated : Validated messages) (index : Nat) (message : Message) :
    (Table.fill messages)[index]? = some (some message) ↔
      message ∈ messages ∧ message.slot = index := by
  by_cases inside : index < Table.slotCount messages
  · have slot : (Table.fill messages)[index]? =
        some (messages.reverse.find? fun message => message.slot == index) := by
      have filled := fill_slot messages (List.replicate (Table.slotCount messages) none) index
        (by simpa using inside)
      change (Table.fill messages)[index]? = _ at filled
      simpa [inside] using filled
    rw [slot, Option.some_inj]
    constructor
    · intro found
      exact ⟨List.mem_reverse.mp (List.mem_of_find?_eq_some found),
        by simpa using List.find?_some found⟩
    · rintro ⟨member, rfl⟩
      cases found : messages.reverse.find? fun other => other.slot == message.slot with
      | none =>
        have absent := List.find?_eq_none.mp found message (List.mem_reverse.mpr member)
        simp at absent
      | some other =>
        have otherMember := List.mem_reverse.mp (List.mem_of_find?_eq_some found)
        have same : other.slot = message.slot := by simpa using List.find?_some found
        rw [List.inj_on_of_nodup_map validated.slots_distinct otherMember member same]
  · have outside : (Table.fill messages)[index]? = none := by
      rw [List.getElem?_eq_none_iff]
      have length := fill_length messages (List.replicate (Table.slotCount messages) none)
      rw [List.length_replicate] at length
      change (Table.fill messages).length = _ at length
      omega
    rw [outside]
    constructor
    · intro found
      cases found
    · rintro ⟨member, rfl⟩
      exact absurd (Table.slot_inside messages message member) inside

/-- The messages of the table of a validated list stand by ascending numbers. -/
theorem table_ascending (validated : Validated messages) :
    ((Table.mk (Table.fill messages)).messages.map fun message => message.id.toInt).Pairwise
      (· < ·) := by
  have own : ∀ (index : Nat) message, (Table.fill messages)[index]? = some (some message) →
      message.slot = 0 + index := by
    intro index message found
    rw [Nat.zero_add]
    exact ((validated.slot_exact index message).mp found).2
  have held : ∀ message ∈ (Table.fill messages).filterMap id, message ∈ messages := by
    intro message member
    obtain ⟨index, _, found⟩ := List.getElem_of_mem (by simpa using member)
    exact ((validated.slot_exact index message).mp (by simp [← found])).1
  rw [List.pairwise_map]
  refine (messages_ascending _ 0 own).1.imp_of_mem fun {message other} member otherMember less => ?_
  rw [← message.slot_number (validated.heads message (held message member)).numbered,
    ← other.slot_number (validated.heads other (held other otherMember)).numbered]
  exact_mod_cast less

/-- The messages of the table of a validated list are those of the list, each of them once. -/
theorem table_permutation (validated : Validated messages) :
    (Table.mk (Table.fill messages)).messages.Perm messages := by
  have unrepeated : messages.Nodup := validated.slots_distinct.of_map
  have ascending := validated.table_ascending
  rw [List.pairwise_map] at ascending
  have tableUnrepeated : (Table.mk (Table.fill messages)).messages.Nodup :=
    ascending.imp fun {message other} less same => by
      rw [same] at less
      exact absurd less (Int.lt_irrefl _)
  refine (List.perm_ext_iff_of_nodup tableUnrepeated unrepeated).mpr fun message => ?_
  have place : message ∈ (Table.mk (Table.fill messages)).messages ↔
      ∃ index : Nat, (Table.fill messages)[index]? = some (some message) := by
    simp [Table.messages, ← List.mem_iff_getElem?]
  rw [place]
  constructor
  · rintro ⟨index, found⟩
    exact ((validated.slot_exact index message).mp found).1
  · intro member
    exact ⟨message.slot, (validated.slot_exact message.slot message).mpr ⟨member, rfl⟩⟩

end Validated

/-- A table is built exactly from a validated list, and it is the filled table. -/
theorem Table.of_messages_iff (messages : List Message) (table : Table) :
    Table.ofMessages messages = .ok table ↔
      Validated messages ∧ table = ⟨Table.fill messages⟩ := by
  rw [Table.ofMessages, ← check_messages_accepts_iff]
  cases checkMessages messages with
  | error problem => simp [bind, Except.bind]
  | ok value => simp [bind, Except.bind, pure, Except.pure, eq_comm]

/-- The messages of a table are found under their numbers. -/
theorem Validated.get_exact {messages : List Message} (validated : Validated messages)
    (id : ProtocolId) (message : Message) :
    (Table.mk (Table.fill messages)).get? id = some message ↔
      message ∈ messages ∧ message.id = id := by
  by_cases negative : id < 0
  · simp only [Table.get?, if_pos negative, reduceCtorEq, false_iff, not_and]
    rintro member rfl
    exact absurd negative (Int16.not_lt.mpr (validated.heads message member).numbered)
  · rw [Table.get?, if_neg negative, Option.join_eq_some_iff, validated.slot_exact]
    refine and_congr_right fun member => ?_
    constructor
    · intro same
      apply Int16.toInt_inj.mp
      have numbered : 0 ≤ id.toInt := Int16.le_iff_toInt_le.mp (Int16.not_lt.mp negative)
      rw [← message.slot_number (validated.heads message member).numbered, same,
        Int16.toNatClampNeg, Int.toNat_of_nonneg numbered]
    · rintro rfl
      rfl

/-- Whether no message of a table has two fields of one name. -/
def Table.FieldsApart (table : Table) : Prop :=
  ∀ id message, table.get? id = some message →
    message.fields.Pairwise fun field other => field.name ≠ other.name

/-- Whether a table has all messages that its messages refer to. -/
def Table.IsLinked (table : Table) : Prop :=
  ∀ id message, table.get? id = some message → ∀ field ∈ message.fields,
    ∀ reference ∈ field.kind.references, (table.get? reference.id).isSome = true

/-- The fields of a message of an accepted table have distinct names. -/
theorem Table.accepted_apart {messages : List Message} {table : Table}
    (accepted : Table.ofMessages messages = .ok table) : table.FieldsApart := by
  obtain ⟨validated, rfl⟩ := (Table.of_messages_iff messages table).mp accepted
  intro id message declared
  exact validated.distinct message ((validated.get_exact id message).mp declared).1

/-- The messages that the fields of an accepted table refer to are in the table. -/
theorem Table.accepted_linked {messages : List Message} {table : Table}
    (accepted : Table.ofMessages messages = .ok table) : table.IsLinked := by
  obtain ⟨validated, rfl⟩ := (Table.of_messages_iff messages table).mp accepted
  intro id message declared field fieldMember reference member
  have held := ((validated.get_exact id message).mp declared).1
  have found := (validated.fields message held field fieldMember).declared reference member
  obtain ⟨other, otherMember, same⟩ := List.any_eq_true.mp found
  obtain ⟨sameId, _⟩ := Bool.and_eq_true_iff.mp same
  exact Option.isSome_iff_exists.mpr
    ⟨other, (validated.get_exact _ other).mpr ⟨otherMember, beq_iff_eq.mp sameId⟩⟩

end PacketSmith
