import PacketSmith.Proofs.Code.Execution
import PacketSmith.Proofs.Queue.Values
import PacketSmith.Proofs.Schema.Validation

/-!
# Running code that reads from a queue

A queue of tokens is a buffer: every call takes the token in front, which must be of its type, and
the buffer is exhausted when no token is left. A nested message is read by the code of its own
message, behind a token that says whether it is there; `fuel` bounds the messages inside each
other. The message that is given holds what the code assigned, and defaults for the other fields.
-/

namespace PacketSmith.Queue

open Execution (Buffer Datum)

mutual

/-- The value of what was read. -/
def ofDatum : Datum Value → Value
  | .single value => value
  | .items shape inserted => .items shape (ofItems inserted)
  | .entries inserted => .entries (ofEntries inserted)

/-- The values of items that were read. -/
def ofItems : List (Datum Value) → List Value
  | [] => []
  | item :: others => ofDatum item :: ofItems others

/-- The values of entries that were read. -/
def ofEntries : List (Datum Value × Datum Value) → List (Value × Value)
  | [] => []
  | (key, value) :: others => (ofDatum key, ofDatum value) :: ofEntries others

end

/-- A message whose code has assigned values to fields. -/
def assembled (id : ProtocolId) (declared : List Field)
    (assigned : List (String × Datum Value)) : Value :=
  .message id <| declared.map fun field =>
    (field.name, ((assigned.lookup field.name).map ofDatum).getD (.initial field.kind))

/-- The queue as a buffer, given how nested messages are read. -/
def buffer (nested : ProtocolId → List Token → Option (Value × List Token)) :
    Buffer (List Token) Value where
  scalar base
    | token :: rest => if token.base = base then some (.scalar token, rest) else none
    | [] => none
  size
    | .int size :: rest => if 0 ≤ size then some (size.toNat, rest) else none
    | _ => none
  message := nested
  exhausted := List.isEmpty

/-- Read a nested message of a table, given a buffer for what is inside it. -/
def readNested (table : Table) (inside : Buffer (List Token) Value) (id : ProtocolId)
    (queue : List Token) : Option (Value × List Token) := do
  let declared ← table.get? id
  match queue with
  | .bool false :: rest => return (.absent, rest)
  | .bool true :: rest =>
    let (assigned, rest) ←
      (Execution.run inside (readFields 0 declared.fields) ⟨rest, fun _ => none, []⟩).assigned?
    return (assembled id declared.fields assigned, rest)
  | _ => none

/-- The queue as a buffer, from which messages of a table are read. -/
def reader (table : Table) : Nat → Buffer (List Token) Value
  | 0 => buffer fun _ _ => none
  | fuel + 1 => buffer (readNested table (reader table fuel))

/-- A token is read as a scalar of its type. -/
@[simp] theorem reader_scalar (table : Table) (fuel : Nat) (token : Token) (rest : List Token) :
    (reader table fuel).scalar token.base (token :: rest) = some (.scalar token, rest) := by
  cases fuel <;> simp [reader, buffer]

/-- A size is read as it was written. -/
@[simp] theorem reader_size (table : Table) (fuel size : Nat) (rest : List Token) :
    (reader table fuel).size (.int size :: rest) = some (size, rest) := by
  cases fuel <;> simp [reader, buffer]

/-- A queue is exhausted when it is empty. -/
theorem reader_exhausted (table : Table) (fuel : Nat) :
    (reader table fuel).exhausted = List.isEmpty := by
  cases fuel <;> rfl

/-- A message that is not there is read as no message. -/
theorem read_nested_absent (table : Table) (inside : Buffer (List Token) Value)
    (id : ProtocolId) (declared : Message) (found : table.get? id = some declared)
    (rest : List Token) :
    readNested table inside id (.bool false :: rest) = some (.absent, rest) := by
  simp [readNested, found]

/-- A message that is there has the values that are decoded for its fields. -/
theorem read_nested_present (table : Table) (inside : Buffer (List Token) Value)
    (id : ProtocolId) (declared : Message) (found : table.get? id = some declared)
    (queue : List Token) :
    readNested table inside id (.bool true :: queue) =
      (Execution.decodeFields inside declared.fields queue).map fun (assigned, rest) =>
        (assembled id declared.fields assigned, rest) := by
  simp only [readNested, found, Option.bind_eq_bind, Option.bind_some,
    Execution.run_read_fields]
  cases Execution.decodeFields inside declared.fields queue <;> rfl

/-- A message to which a front part of its fields was assigned has the defaults of the others. -/
theorem assembled_exact (id : ProtocolId) (front back : List Field)
    (assigned : List (String × Datum Value))
    (distinct : (front ++ back).Pairwise fun field other => field.name ≠ other.name)
    (named : assigned.map Prod.fst = front.map Field.name) :
    assembled id (front ++ back) assigned =
      .message id ((assigned.map fun entry => (entry.1, ofDatum entry.2)) ++
        back.map fun field => (field.name, Value.initial field.kind)) := by
  obtain ⟨frontApart, _, across⟩ := List.pairwise_append.mp distinct
  have found := lookup_distinct assigned (Value.entries_apart frontApart named)
  have first : (front.map fun field =>
      (field.name, ((assigned.lookup field.name).map ofDatum).getD (.initial field.kind))) =
        assigned.map fun entry => (entry.1, ofDatum entry.2) := by
    refine List.ext_getElem (by simpa using (congrArg List.length named).symm) ?_
    intro index inFront inAssigned
    simp only [List.length_map] at inFront inAssigned
    have same : (assigned[index]).1 = (front[index]).name := by
      have names := List.getElem_of_eq named (by simpa using inAssigned)
      simpa using names
    have value := found _ (List.getElem_mem inAssigned)
    simp [← same, value]
  have second : (back.map fun field =>
      (field.name, ((assigned.lookup field.name).map ofDatum).getD (.initial field.kind))) =
        back.map fun field => (field.name, Value.initial field.kind) := by
    refine List.map_congr_left fun field member => ?_
    have absent : assigned.lookup field.name = none := by
      rw [List.lookup_eq_none_iff]
      intro entry entryMember
      have inFront : entry.1 ∈ front.map Field.name := by
        rw [← named]
        exact List.mem_map_of_mem entryMember
      obtain ⟨other, otherMember, same⟩ := List.mem_map.mp inFront
      rw [← same, bne_iff_ne]
      exact (across other otherMember field member).symm
    rw [absent]
    rfl
  rw [assembled, List.map_append, first, second]

/-- A message is read with the fields that it lacks, if those that it has are read in front of what
is behind it. -/
theorem read_nested_exact (table : Table) (inside : Buffer (List Token) Value) (id : ProtocolId)
    (latest : Message) (front back : List Field) (fields : List (String × Value))
    (assigned : List (String × Datum Value)) (rest : List Token)
    (found : table.get? id = some latest) (parts : latest.fields = front ++ back)
    (distinct : latest.fields.Pairwise fun field other => field.name ≠ other.name)
    (named : fields.map Prod.fst = front.map Field.name)
    (read : Execution.decodeFields inside latest.fields (Value.fieldsTokens fields ++ rest) =
      some (assigned, rest))
    (grown : assigned.map (fun entry => (entry.1, ofDatum entry.2)) =
      Value.grownFields table fields) :
    readNested table inside id (.bool true :: (Value.fieldsTokens fields ++ rest)) =
      some ((Value.message id fields).grown table, rest) := by
  have names : assigned.map Prod.fst = front.map Field.name := by
    have same := congrArg (List.map Prod.fst) grown
    rw [List.map_map] at same
    rw [← named, ← Value.grown_fields_named table fields, ← same]
    rfl
  have whole : assembled id latest.fields assigned = (Value.message id fields).grown table := by
    rw [parts] at distinct ⊢
    rw [assembled_exact id front back assigned distinct names, grown, Value.grown,
      Value.missing_exact found parts named]
  rw [read_nested_present table inside id latest found, read, ← whole]
  rfl

/-- Items are read one after another, if each of them is read in front of the others. -/
theorem several_items (decodeItem : List Token → Option (Datum Value × List Token))
    (table : Table) (held : List Value) (rest : List Token)
    (each : ∀ item ∈ held, ∀ behind, item.LacksLast table behind →
      ∃ datum, decodeItem (item.tokens ++ behind) = some (datum, behind) ∧
        ofDatum datum = item.grown table)
    (last : Value.ItemsLackLast table held rest) :
    ∃ data, Execution.several decodeItem held.length (Value.itemsTokens held ++ rest) =
        some (data, rest) ∧ ofItems data = Value.grownItems table held := by
  induction held with
  | nil => exact ⟨[], rfl, rfl⟩
  | cons item others inductionHypothesis =>
    obtain ⟨first, remaining⟩ := List.forall_mem_cons.mp each
    obtain ⟨datum, read, grown⟩ := first _ last.1
    obtain ⟨data, readOthers, grownOthers⟩ := inductionHypothesis remaining last.2
    refine ⟨datum :: data, ?_, ?_⟩
    · simp [Execution.several, Value.itemsTokens, read, readOthers]
    · rw [ofItems, grown, grownOthers, Value.grownItems]

/-- Entries are read one after another, if each key and each value is read in front of what is
behind it. -/
theorem several_entries (decodeKey decodeValue : List Token → Option (Datum Value × List Token))
    (table : Table) (held : List (Value × Value)) (rest : List Token)
    (keys : ∀ entry ∈ held, ∀ behind, entry.1.LacksLast table behind →
      ∃ datum, decodeKey (entry.1.tokens ++ behind) = some (datum, behind) ∧
        ofDatum datum = entry.1.grown table)
    (values : ∀ entry ∈ held, ∀ behind, entry.2.LacksLast table behind →
      ∃ datum, decodeValue (entry.2.tokens ++ behind) = some (datum, behind) ∧
        ofDatum datum = entry.2.grown table)
    (last : Value.EntriesLackLast table held rest) :
    ∃ data, Execution.several (Execution.both decodeKey decodeValue) held.length
        (Value.entriesTokens held ++ rest) = some (data, rest) ∧
      ofEntries data = Value.grownEntries table held := by
  induction held with
  | nil => exact ⟨[], rfl, rfl⟩
  | cons entry others inductionHypothesis =>
    obtain ⟨firstKey, otherKeys⟩ := List.forall_mem_cons.mp keys
    obtain ⟨firstValue, otherValues⟩ := List.forall_mem_cons.mp values
    obtain ⟨key, value⟩ := entry
    obtain ⟨keyDatum, readKey, grownKey⟩ := firstKey _ last.1
    obtain ⟨valueDatum, readValue, grownValue⟩ := firstValue _ last.2.1
    obtain ⟨data, readOthers, grownOthers⟩ :=
      inductionHypothesis otherKeys otherValues last.2.2
    refine ⟨(keyDatum, valueDatum) :: data, ?_, ?_⟩
    · simp [Execution.several, Execution.both, Value.entriesTokens, readKey, readValue, readOthers]
    · rw [ofEntries, grownKey, grownValue, grownOthers, Value.grownEntries]

/-- Fields are read in front of fields that are not there, if these are appended and the queue ends
in front of them. -/
theorem decode_fields (inside : Buffer (List Token) Value)
    (exhausted : inside.exhausted = List.isEmpty) (table : Table) (front back : List Field)
    (fields : List (String × Value)) (rest : List Token)
    (named : fields.map Prod.fst = front.map Field.name)
    (each : ∀ pair ∈ front.zip fields, ∀ behind, pair.2.2.LacksLast table behind →
      ∃ datum, Execution.decode inside pair.1.kind (pair.2.2.tokens ++ behind) =
          some (datum, behind) ∧ ofDatum datum = pair.2.2.grown table)
    (last : Value.FieldsLackLast table fields rest) (ends : back ≠ [] → rest = [])
    (appended : ∀ field ∈ back, field.appended = true) :
    ∃ assigned, Execution.decodeFields inside (front ++ back)
        (Value.fieldsTokens fields ++ rest) = some (assigned, rest) ∧
      assigned.map (fun entry => (entry.1, ofDatum entry.2)) = Value.grownFields table fields := by
  induction front generalizing fields with
  | nil =>
    rw [List.map_nil, List.map_eq_nil_iff] at named
    subst named
    cases back with
    | nil => exact ⟨[], rfl, rfl⟩
    | cons field others =>
      have guarded : field.appended = true := appended field List.mem_cons_self
      have empty : rest = [] := ends (List.cons_ne_nil _ _)
      subst empty
      exact ⟨[], by simp [Execution.decodeFields, guarded, exhausted, Value.fieldsTokens], rfl⟩
  | cons field front inductionHypothesis =>
    cases fields with
    | nil => cases named
    | cons entry fields =>
      obtain ⟨sameName, others⟩ := List.cons.inj named
      obtain ⟨first, remaining⟩ := List.forall_mem_cons.mp each
      obtain ⟨name, value⟩ := entry
      obtain ⟨datum, read, grown⟩ := first _ last.1
      obtain ⟨assigned, readOthers, grownOthers⟩ :=
        inductionHypothesis fields others remaining last.2
      have goesOn : inside.exhausted (value.tokens ++ (Value.fieldsTokens fields ++ rest)) =
          false := by
        simp [exhausted, value.tokens_inhabited]
      refine ⟨(field.name, datum) :: assigned, ?_, ?_⟩
      · simp [Execution.decodeFields, Value.fieldsTokens, goesOn, read, readOthers]
      · simp only [List.map_cons, grown, grownOthers, Value.grownFields]
        exact congrArg₂ _ (congrArg₂ _ sameName.symm rfl) rfl

end PacketSmith.Queue
