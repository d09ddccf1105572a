import PacketSmith.Proofs.Schema.Slots

/-!
# The table as an index

Slots are filled by one write for each message, in the order of the list. There are as many slots
as the largest number asks for, so that every write is inside of them, and the slot that it fills
is empty, because no message in front has the number. Nothing is written over, therefore, and the
table gives back the messages of the list as they were: all of them, by ascending numbers, and each
one under its number.
-/

namespace PacketSmith

namespace Table

/-- Slots once the messages of a list were put into empty ones, one after another. -/
def slotsAfter (count : Nat) (messages : List Message) : List (Option Message) :=
  messages.foldl (fun slots message => slots.set message.slot (some message))
    (List.replicate count none)

/-- The slots of a list are those after all of its messages. -/
theorem fill_steps (messages : List Message) :
    fill messages = slotsAfter (slotCount messages) messages :=
  rfl

/-- The next message is put into its slot, and the other slots stay as they are. -/
theorem slots_after_next (count : Nat) (front : List Message) (message : Message) :
    slotsAfter count (front ++ [message]) =
      (slotsAfter count front).set message.slot (some message) := by
  rw [slotsAfter, List.foldl_append]
  rfl

/-- Messages are put into the slots that are there. -/
theorem slots_after_length (count : Nat) (messages : List Message) :
    (slotsAfter count messages).length = count := by
  rw [slotsAfter, fill_length, List.length_replicate]

/-- The count of slots never falls, so that it ends as it began or with what a message needs. -/
theorem slot_count_cases (messages : List Message) (count : Nat) :
    messages.foldl (fun count message => max count (message.slot + 1)) count = count ∨
      ∃ message ∈ messages,
        messages.foldl (fun count message => max count (message.slot + 1)) count =
          message.slot + 1 := by
  induction messages generalizing count with
  | nil => exact Or.inl rfl
  | cons message messages inductionHypothesis =>
    rw [List.foldl_cons]
    rcases inductionHypothesis (max count (message.slot + 1)) with kept | ⟨other, member, same⟩
    · rcases Nat.le_total (message.slot + 1) count with less | more
      · exact Or.inl (kept.trans (Nat.max_eq_left less))
      · exact Or.inr ⟨message, List.mem_cons_self, kept.trans (Nat.max_eq_right more)⟩
    · exact Or.inr ⟨other, List.mem_cons_of_mem message member, same⟩

/-- There are as many slots as the message with the largest number needs. -/
theorem slot_count_reached (messages : List Message) (inhabited : messages ≠ []) :
    ∃ message ∈ messages, slotCount messages = message.slot + 1 := by
  obtain ⟨first, others, rfl⟩ := List.exists_cons_of_ne_nil inhabited
  rcases slot_count_cases (first :: others) 0 with none | found
  · have room := slot_inside (first :: others) first List.mem_cons_self
    have zero : slotCount (first :: others) = 0 := none
    omega
  · exact found

end Table

/-- The slot that a message of a validated list is put into is there, and it is empty. -/
theorem Validated.slot_fresh {front back : List Message} {message : Message}
    (validated : Validated (front ++ message :: back)) :
    (Table.slotsAfter (Table.slotCount (front ++ message :: back)) front)[message.slot]? =
      some none := by
  have inside := Table.slot_inside (front ++ message :: back) message (by simp)
  have others : ∀ other ∈ front, other.slot ≠ message.slot := by
    have distinct := validated.slots_distinct
    rw [List.map_append, List.map_cons] at distinct
    intro other member same
    exact (List.nodup_append.mp distinct).2.2 other.slot (List.mem_map_of_mem member)
      message.slot List.mem_cons_self same
  have absent : (front.reverse.find? fun other => other.slot == message.slot) = none := by
    simpa [List.find?_eq_none] using others
  rw [Table.slotsAfter, fill_slot front _ message.slot (by simpa using inside), absent]
  simp [inside]

/-- What makes a table an index of a list of messages. -/
structure Table.Indexes (table : Table) (messages : List Message) : Prop where
  /-- The table gives the messages of the list as they were, each of them once. -/
  complete : table.messages.Perm messages
  /-- It gives them by strictly ascending numbers. -/
  ascending : (table.messages.map fun message => message.id.toInt).Pairwise (· < ·)
  /-- It has the size of the list. -/
  size : table.size = messages.length
  /-- Without messages there are no slots. -/
  empty : messages = [] → table.slots = []
  /-- With messages there is one slot more than the largest number. -/
  largest : messages ≠ [] → ∃ last ∈ messages,
    (∀ message ∈ messages, message.id ≤ last.id) ∧
      (table.slots.length : Int) = last.id.toInt + 1
  /-- A slot is filled exactly if its place is the number of a message. -/
  filled : ∀ place : Nat, (∃ message, table.slots[place]? = some (some message)) ↔
    ∃ message ∈ messages, message.id.toInt = place
  /-- Under a number stands exactly the message that has the number. -/
  found : ∀ id message, table.get? id = some message ↔ message ∈ messages ∧ message.id = id
  /-- Under a number that no message has stands nothing, also where there is no slot for it. -/
  absent : ∀ id, table.get? id = none ↔ ∀ message ∈ messages, message.id ≠ id
  /-- The slots are those after all messages of the list. -/
  written : table.slots = slotsAfter table.slots.length messages
  /-- Every message fills the slot of its number, which is there and was empty until then. -/
  fresh : ∀ front message back, messages = front ++ message :: back → ∃ place : Nat,
    (place : Int) = message.id.toInt ∧
      (slotsAfter table.slots.length front)[place]? = some none ∧
      slotsAfter table.slots.length (front ++ [message]) =
        (slotsAfter table.slots.length front).set place (some message)

/-- The table of an accepted list is an index of the list: no message is lost, changed, doubled or
written over, and each one is found under its number and nowhere else. -/
theorem table_indexes (messages : List Message) (table : Table)
    (built : Table.ofMessages messages = .ok table) : table.Indexes messages := by
  obtain ⟨validated, rfl⟩ := (Table.of_messages_iff messages table).mp built
  have count : (Table.fill messages).length = Table.slotCount messages :=
    Table.slots_after_length _ messages
  have number (message : Message) (member : message ∈ messages) :
      (message.slot : Int) = message.id.toInt :=
    message.slot_number (validated.heads message member).numbered
  constructor
  case complete => exact validated.table_permutation
  case ascending => exact validated.table_ascending
  case size => exact validated.table_permutation.length_eq
  case empty =>
    rintro rfl
    rfl
  case largest =>
    intro inhabited
    obtain ⟨last, member, reached⟩ := Table.slot_count_reached messages inhabited
    refine ⟨last, member, fun message other => ?_, ?_⟩
    · have inside := Table.slot_inside messages message other
      rw [Int16.le_iff_toInt_le, ← number message other, ← number last member]
      omega
    · rw [count, reached, ← number last member]
      rfl
  case filled =>
    intro place
    simp only [validated.slot_exact]
    refine exists_congr fun message => and_congr_right fun member => ?_
    rw [← number message member, Int.natCast_inj]
  case found => exact fun id message => validated.get_exact id message
  case absent =>
    intro id
    simp only [Option.eq_none_iff_forall_ne_some, ne_eq, validated.get_exact, not_and]
  case written =>
    rw [count]
    exact Table.fill_steps messages
  case fresh =>
    rintro front message back rfl
    refine ⟨message.slot, number message (by simp), ?_, ?_⟩
    · rw [count]
      exact validated.slot_fresh
    · exact Table.slots_after_next _ front message

/-- Three messages whose numbers leave gaps and do not ascend. -/
def scatteredMessages : List Message :=
  [⟨7, "Route", [], [⟨"stops", .collection .list (.message ⟨2, "Stop"⟩), false, []⟩]⟩,
    ⟨0, "Ping", [], []⟩, ⟨2, "Stop", [], []⟩]

/-- Their table has eight slots, of which three are filled, and gives them by their numbers. -/
theorem table_indexes_scattered :
    ∃ table, Table.ofMessages scatteredMessages = .ok table ∧
      table.Indexes scatteredMessages ∧ table.slots.length = 8 ∧
      table.messages.map Message.name = ["Ping", "Stop", "Route"] ∧
      table.get? 3 = none ∧ table.get? (-1) = none ∧ table.get? 32767 = none := by
  have built : Table.ofMessages scatteredMessages = .ok ⟨Table.fill scatteredMessages⟩ := by
    decide +kernel
  exact ⟨_, built, table_indexes _ _ built, by decide +kernel, by decide +kernel,
    by decide +kernel, by decide +kernel, by decide +kernel⟩

end PacketSmith
