import PacketSmith.Proofs.Code.Temporaries
import PacketSmith.Proofs.Queue.Values
import PacketSmith.Proofs.Schema.Slots

/-!
# Running code that writes

Code that writes a message is run with the fields of the message and the temporaries in scope, and
gives the tokens that it appends to the queue. A nested message is written by the code of its own
message, behind a token that says that it is there; `fuel` bounds the messages inside each other.

Writing a value that fits appends exactly the tokens of the value (`write_exact`).
-/

namespace PacketSmith.Queue

/-- The values in scope. -/
structure Scope where
  /-- The values of expressions from outside. -/
  expressions : String → Option Value
  /-- The values of temporaries. -/
  memory : Temporary → Option Value

namespace Scope

/-- The value of an operand. -/
def valueOf? (scope : Scope) : Operand → Option Value
  | .expression written => scope.expressions written
  | .temporary numbered => scope.memory numbered

/-- A scope with a value in a temporary. -/
def store (scope : Scope) (temporary : Temporary) (value : Value) : Scope :=
  { scope with
    memory := fun other => if other = temporary then some value else scope.memory other }

/-- The scope in which the code of a message is run: its fields are expressions. -/
def ofFields (fields : List (String × Value)) : Scope where
  expressions written :=
    (fields.map fun (name, value) => ("message." ++ name, value)).lookup written
  memory _ := none

/-- A temporary has the value that was stored in it. -/
@[simp] theorem value_stored (scope : Scope) (temporary : Temporary) (value : Value) :
    (scope.store temporary value).valueOf? (.temporary temporary) = some value := by
  simp [valueOf?, store]

/-- Other temporaries have the values that they had. -/
theorem value_kept (scope : Scope) (temporary other : Temporary) (value : Value)
    (different : other ≠ temporary) :
    (scope.store temporary value).valueOf? (.temporary other) =
      scope.valueOf? (.temporary other) := by
  simp [valueOf?, store, different]

end Scope

section Run

variable (nested : ProtocolId → Value → Option (List Token))

/-- The tokens that a statement appends, given what writing nested messages appends. -/
def appended (scope : Scope) : Statement → Option (List Token)
  | .writeScalar base value =>
    match scope.valueOf? value with
    | some (.scalar token) => if token.base = base then some [token] else none
    | _ => none
  | .writeSize container =>
    match scope.valueOf? container with
    | some (.items _ held) => some [.int held.length]
    | some (.entries held) => some [.int held.length]
    | _ => none
  | .writeMessage reference value => (scope.valueOf? value).bind (nested reference.id)
  | _ => none

/-- The tokens of several runs in a row. -/
def inRow {Item : Type} (run : Item → Option (List Token)) : List Item → Option (List Token)
  | [] => some []
  | item :: items => do return (← run item) ++ (← inRow run items)

/-- The tokens that a loop appends, given what its body appends. -/
def looped (body : Scope → Option (List Token)) (scope : Scope) : Header → Option (List Token)
  | .forEachElement shape element container =>
    match scope.valueOf? container with
    | some (.items kept held) =>
      if kept = shape then inRow (fun item => body (scope.store element item)) held else none
    | _ => none
  | .forEachEntry key value container =>
    match scope.valueOf? container with
    | some (.entries held) =>
      inRow (fun entry => body ((scope.store key entry.1).store value entry.2)) held
    | _ => none
  | _ => none

/-- The tokens that code appends. -/
def write : Code → Scope → Option (List Token)
  | .done, _ => some []
  | .line statement rest, scope => do
    return (← appended nested scope statement) ++ (← write rest scope)
  | .block header body rest, scope => do
    return (← looped (write body) scope header) ++ (← write rest scope)

end Run

/-- The tokens that writing a message of a table appends. -/
def writer (table : Table) : Nat → ProtocolId → Value → Option (List Token)
  | 0, _, _ => none
  | fuel + 1, id, value =>
    match table.get? id, value with
    | some _, .absent => some [.bool false]
    | some declared, .message number fields =>
      if number = id then
        (write (writer table fuel) (writeFields 0 declared.fields) (.ofFields fields)).map
          (.bool true :: ·)
      else none
    | _, _ => none

/-- Code after code appends its tokens behind those of the first. -/
theorem write_append (nested : ProtocolId → Value → Option (List Token)) (front back : Code)
    (scope : Scope) :
    write nested (front ++ back) scope =
      (write nested front scope).bind fun first =>
        (write nested back scope).map (first ++ ·) := by
  induction front with
  | done =>
    rw [write, Option.bind_some]
    change write nested back scope = _
    simp
  | line statement rest inductionHypothesis =>
    change write nested (.line statement (rest ++ back)) scope = _
    rw [write, write, inductionHypothesis]
    cases appended nested scope statement <;> cases write nested rest scope <;>
      cases write nested back scope <;> simp
  | block header body rest _ inductionHypothesis =>
    change write nested (.block header body (rest ++ back)) scope = _
    rw [write, write, inductionHypothesis]
    cases looped (write nested body) scope header <;> cases write nested rest scope <;>
      cases write nested back scope <;> simp

/-- Runs in a row append the tokens of items, if each of them appends the tokens of its own. -/
theorem in_row_items (run : Value → Option (List Token)) (held : List Value)
    (each : ∀ item ∈ held, run item = some item.tokens) :
    inRow run held = some (Value.itemsTokens held) := by
  induction held with
  | nil => rfl
  | cons item others inductionHypothesis =>
    obtain ⟨first, rest⟩ := List.forall_mem_cons.mp each
    rw [inRow, first, inductionHypothesis rest]
    rfl

/-- Runs in a row append the tokens of entries, if each of them appends those of its own. -/
theorem in_row_entries (run : Value × Value → Option (List Token)) (held : List (Value × Value))
    (each : ∀ entry ∈ held, run entry = some (entry.1.tokens ++ entry.2.tokens)) :
    inRow run held = some (Value.entriesTokens held) := by
  induction held with
  | nil => rfl
  | cons entry others inductionHypothesis =>
    obtain ⟨first, rest⟩ := List.forall_mem_cons.mp each
    rw [inRow, first, inductionHypothesis rest]
    simp [Value.entriesTokens]

/-- Writing fields appends the tokens of the values in scope, field by field. -/
theorem write_fields (nested : ProtocolId → Value → Option (List Token)) (scope : Scope)
    (declared : List Field) (fields : List (String × Value)) (next : Nat)
    (named : fields.map Prod.fst = declared.map Field.name)
    (each : ∀ pair ∈ declared.zip fields, ∀ next,
      write nested (pair.1.writeCode next) scope = some pair.2.2.tokens) :
    write nested (writeFields next declared) scope = some (Value.fieldsTokens fields) := by
  induction declared generalizing fields next with
  | nil =>
    rw [List.map_nil, List.map_eq_nil_iff] at named
    subst named
    rfl
  | cons field declared inductionHypothesis =>
    cases fields with
    | nil => cases named
    | cons entry fields =>
      obtain ⟨first, others⟩ := List.forall_mem_cons.mp each
      rw [writeFields, write_append, first next,
        inductionHypothesis fields _ (List.cons.inj named).2 others]
      rfl

/-- The fields of a message are in scope under their names. -/
theorem fields_in_scope (declared : List Field) (fields : List (String × Value))
    (distinct : declared.Pairwise fun field other => field.name ≠ other.name)
    (named : fields.map Prod.fst = declared.map Field.name) :
    ∀ pair ∈ declared.zip fields,
      (Scope.ofFields fields).valueOf? (.expression pair.1.valueText) = some pair.2.2 := by
  have apart : (fields.map fun (name, value) => ("message." ++ name, value)).Pairwise
      fun entry other => entry.1 ≠ other.1 := by
    rw [List.pairwise_map]
    refine (Value.entries_apart distinct named).imp fun different same => different ?_
    simpa [← String.toList_inj] using same
  rintro ⟨field, name, value⟩ member
  have same : name = field.name := Value.zip_named declared fields named _ member
  have found := lookup_distinct _ apart ("message." ++ name, value)
    (List.mem_map_of_mem (List.of_mem_zip member).2)
  rw [same] at found
  exact found

/-- Writing a value that fits appends its tokens.

Proof: induction on how the value fits. -/
theorem write_exact {table : Table} (distinct : table.FieldsApart)
    {kind : Kind} {value : Value} (fits : value.Fits table kind) (fuel next : Nat)
    (operand : Operand) (scope : Scope) (enough : value.tokens.length ≤ fuel)
    (held : scope.valueOf? operand = some value) :
    write (writer table fuel) (kind.writeCode operand next) scope = some value.tokens := by
  induction fits generalizing fuel next operand scope with
  | scalar token => simp [Kind.writeCode, write, appended, held, Value.tokens]
  | items shape element items each inductionHypothesis =>
    simp only [Value.tokens, Value.items_tokens, List.length_cons] at enough
    have body : ∀ item ∈ items,
        write (writer table fuel) (element.writeCode (.temporary ⟨.element, next⟩) (next + 1))
          (scope.store ⟨.element, next⟩ item) = some item.tokens := by
      intro item member
      have within := Value.length_le_all Value.tokens items item member
      exact inductionHypothesis item member fuel _ _ _ (by omega) (Scope.value_stored _ _ _)
    have loop := in_row_items _ items body
    simp [Kind.writeCode, write, appended, looped, held, loop, Value.tokens]
  | entries key value entries keys values keyHypothesis valueHypothesis =>
    simp only [Value.tokens, Value.entries_tokens, List.length_cons] at enough
    have body : ∀ entry ∈ entries,
        write (writer table fuel)
          (key.writeCode (.temporary ⟨.key, next⟩) (next + 2) ++
            value.writeCode (.temporary ⟨.value, next + 1⟩) (next + 2 + key.writeTemporaries))
          ((scope.store ⟨.key, next⟩ entry.1).store ⟨.value, next + 1⟩ entry.2) =
            some (entry.1.tokens ++ entry.2.tokens) := by
      intro entry member
      have within := Value.length_le_all (fun entry => entry.1.tokens ++ entry.2.tokens)
        entries entry member
      simp only [List.length_append] at within
      have keyHeld : ((scope.store ⟨.key, next⟩ entry.1).store ⟨.value, next + 1⟩ entry.2).valueOf?
          (.temporary ⟨.key, next⟩) = some entry.1 := by
        rw [Scope.value_kept _ _ _ _ (by simp), Scope.value_stored]
      rw [write_append,
        keyHypothesis entry member fuel _ _ _ (by omega) keyHeld,
        valueHypothesis entry member fuel _ _ _ (by omega) (Scope.value_stored _ _ _)]
      rfl
    have loop := in_row_entries _ entries body
    simp [Kind.writeCode, write, appended, looped, held, loop, Value.tokens]
  | absent reference declared =>
    simp only [Value.tokens, List.length_singleton] at enough
    obtain ⟨fuel, rfl⟩ : ∃ less, fuel = less + 1 := ⟨fuel - 1, by omega⟩
    obtain ⟨message, found⟩ := Option.isSome_iff_exists.mp declared
    simp [Kind.writeCode, write, appended, held, writer, found, Value.tokens]
  | message reference message fields declared named each inductionHypothesis =>
    simp only [Value.tokens, List.length_cons] at enough
    obtain ⟨fuel, rfl⟩ : ∃ less, fuel = less + 1 := ⟨fuel - 1, by omega⟩
    have found := fields_in_scope message.fields fields (distinct _ _ declared) named
    have inside := write_fields (writer table fuel) (.ofFields fields) message.fields fields 0 named
      fun pair member next => by
        have within := Value.length_le_all (fun field : String × Value => field.2.tokens) fields
          pair.2 (List.of_mem_zip member).2
        rw [← Value.fields_tokens] at within
        exact inductionHypothesis pair member fuel next _ _ (by omega) (found pair member)
    simp [Kind.writeCode, write, appended, held, writer, declared, inside, Value.tokens]

end PacketSmith.Queue
