import PacketSmith.Proofs.Code.Temporaries

/-!
# Running code that reads

Code that reads a message is run on a machine: a buffer in some state, a memory of temporaries
and the fields assigned so far. The buffer is any buffer, given by what its calls return. A
container is what was put into it, in order; what a set or a map makes of repeated items is
its own matter. Values are not written here, so that statements that write get stuck.

Beside the machine stands the decoding of a kind, which reads a value directly. Running the
code of a kind reads exactly this value and leaves it in the temporary that the code promises,
without touching the temporaries that were there before. A block of fields therefore assigns to
each field what is decoded for the field.
-/

namespace PacketSmith.Execution

variable {State Value : Type}

/-- A buffer, as its calls show it. A call can fail. -/
structure Buffer (State Value : Type) where
  /-- Read a scalar. -/
  scalar : Scalar → State → Option (Value × State)
  /-- Read the number of items of a container. -/
  size : State → Option (Nat × State)
  /-- Read a nested message. -/
  message : ProtocolId → State → Option (Value × State)
  /-- Whether nothing is left to read. -/
  exhausted : State → Bool

/-- A value of a field. -/
inductive Datum (Value : Type) where
  /-- A scalar or a nested message. -/
  | single (value : Value)
  /-- What was put into a collection, in order. -/
  | items (shape : Collection) (inserted : List (Datum Value))
  /-- What was put into a map, in order. -/
  | entries (inserted : List (Datum Value × Datum Value))

/-- What a temporary holds. -/
inductive Cell (Value : Type) where
  /-- A number of items, or how many of them were read. -/
  | count (number : Nat)
  /-- A value. -/
  | datum (datum : Datum Value)

/-- A machine between two statements. -/
structure Machine (State Value : Type) where
  /-- The state of the buffer. -/
  state : State
  /-- What the temporaries hold. -/
  memory : Temporary → Option (Cell Value)
  /-- The fields assigned so far, in order. -/
  packet : List (String × Datum Value)

/-- Store something in a temporary. -/
def Machine.store (machine : Machine State Value) (temporary : Temporary) (cell : Cell Value) :
    Machine State Value :=
  { machine with
    memory := fun other => if other = temporary then some cell else machine.memory other }

/-- How a run ends. -/
inductive Outcome (State Value : Type) where
  /-- A call failed, or a temporary does not hold what a statement needs. -/
  | stuck
  /-- The code was left with the message as it is. -/
  | left (machine : Machine State Value)
  /-- The end of the code was reached. -/
  | running (machine : Machine State Value)

/-- Go on where the end of the code was reached. -/
def Outcome.andThen (outcome : Outcome State Value)
    (next : Machine State Value → Outcome State Value) : Outcome State Value :=
  match outcome with
  | stuck => stuck
  | left machine => left machine
  | running machine => next machine

/-- Store what a call returned. -/
def received (machine : Machine State Value) (temporary : Temporary)
    (returned : Option (Cell Value × State)) : Outcome State Value :=
  match returned with
  | some (cell, state) => .running ({ machine with state := state }.store temporary cell)
  | none => .stuck

/-- Run a statement. -/
def step (buffer : Buffer State Value) (machine : Machine State Value) :
    Statement → Outcome State Value
  | .readScalar base result =>
    received machine result <| (buffer.scalar base machine.state).map
      fun (value, state) => (.datum (.single value), state)
  | .readSize size =>
    received machine size <| (buffer.size machine.state).map
      fun (number, state) => (.count number, state)
  | .readMessage reference result =>
    received machine result <| (buffer.message reference.id machine.state).map
      fun (value, state) => (.datum (.single value), state)
  | .makeCollection shape _ result size =>
    match machine.memory size with
    | some (.count _) => .running (machine.store result (.datum (.items shape [])))
    | _ => .stuck
  | .makeMap _ _ result size =>
    match machine.memory size with
    | some (.count _) => .running (machine.store result (.datum (.entries [])))
    | _ => .stuck
  | .insertElement shape result item =>
    match machine.memory result, machine.memory item with
    | some (.datum (.items kept inserted)), some (.datum datum) =>
      if kept = shape then
        .running (machine.store result (.datum (.items shape (inserted ++ [datum]))))
      else .stuck
    | _, _ => .stuck
  | .insertEntry result key value =>
    match machine.memory result, machine.memory key, machine.memory value with
    | some (.datum (.entries inserted)), some (.datum keyDatum), some (.datum valueDatum) =>
      .running (machine.store result (.datum (.entries (inserted ++ [(keyDatum, valueDatum)]))))
    | _, _, _ => .stuck
  | .assignField field value =>
    match machine.memory value with
    | some (.datum datum) => .running { machine with packet := machine.packet ++ [(field, datum)] }
    | _ => .stuck
  | .returnMessage => .left machine
  | .writeScalar _ _ | .writeSize _ | .writeMessage _ _ => .stuck

/-- Run a body several times over, with the number of the run in a temporary. -/
def loop (index : Temporary) (body : Machine State Value → Outcome State Value) (first : Nat) :
    Nat → Machine State Value → Outcome State Value
  | 0, machine => .running machine
  | count + 1, machine =>
    (body (machine.store index (.count first))).andThen (loop index body (first + 1) count)

/-- Run a block, given how its body runs. -/
def enter (buffer : Buffer State Value) (body : Machine State Value → Outcome State Value)
    (machine : Machine State Value) : Header → Outcome State Value
  | .forIndex index size =>
    match machine.memory size with
    | some (.count number) => loop index body 0 number machine
    | _ => .stuck
  | .whenExhausted => if buffer.exhausted machine.state then body machine else .running machine
  | .forEachElement _ _ _ | .forEachEntry _ _ _ => .stuck

/-- Run code. -/
def run (buffer : Buffer State Value) : Code → Machine State Value → Outcome State Value
  | .done, machine => .running machine
  | .line statement rest, machine => (step buffer machine statement).andThen (run buffer rest)
  | .block header body rest, machine =>
    (enter buffer (run buffer body) machine header).andThen (run buffer rest)

/-- Decode several items in a row. -/
def several {Item : Type} (decodeItem : State → Option (Item × State)) :
    Nat → State → Option (List Item × State)
  | 0, state => some ([], state)
  | count + 1, state => do
    let (item, state) ← decodeItem state
    let (items, state) ← several decodeItem count state
    return (item :: items, state)

/-- Decode one item and then another. -/
def both {First Second : Type} (decodeFirst : State → Option (First × State))
    (decodeSecond : State → Option (Second × State)) (state : State) :
    Option ((First × Second) × State) := do
  let (first, state) ← decodeFirst state
  let (second, state) ← decodeSecond state
  return ((first, second), state)

/-- The value of a kind at the front of a buffer, and the buffer behind it. -/
def decode (buffer : Buffer State Value) : Kind → State → Option (Datum Value × State)
  | .scalar base, state => (buffer.scalar base state).map fun (value, state) => (.single value, state)
  | .collection shape element, state => do
    let (number, state) ← buffer.size state
    let (inserted, state) ← several (decode buffer element) number state
    return (.items shape inserted, state)
  | .map key value, state => do
    let (number, state) ← buffer.size state
    let (inserted, state) ← several (both (decode buffer key) (decode buffer value)) number state
    return (.entries inserted, state)
  | .message reference, state =>
    (buffer.message reference.id state).map fun (value, state) => (.single value, state)

/-- The values of fields at the front of a buffer. An appended field and those behind it are left
out when the buffer ends in front of it. -/
def decodeFields (buffer : Buffer State Value) :
    List Field → State → Option (List (String × Datum Value) × State)
  | [], state => some ([], state)
  | field :: fields, state =>
    if field.appended && buffer.exhausted state then some ([], state)
    else do
      let (datum, state) ← decode buffer field.kind state
      let (assigned, state) ← decodeFields buffer fields state
      return ((field.name, datum) :: assigned, state)

/-- Where the end of the code was reached, a run goes on. -/
@[simp] theorem running_and_then (machine : Machine State Value)
    (next : Machine State Value → Outcome State Value) :
    (Outcome.running machine).andThen next = next machine := rfl

/-- A run that is stuck stays stuck. -/
@[simp] theorem stuck_and_then (next : Machine State Value → Outcome State Value) :
    (Outcome.stuck : Outcome State Value).andThen next = .stuck := rfl

/-- A run that has left stays where it is. -/
@[simp] theorem left_and_then (machine : Machine State Value)
    (next : Machine State Value → Outcome State Value) :
    (Outcome.left machine).andThen next = .left machine := rfl

/-- A run behind which nothing follows ends as it ends. -/
@[simp] theorem and_then_running (outcome : Outcome State Value) :
    outcome.andThen .running = outcome := by
  cases outcome <;> rfl

/-- Nothing at all runs to its end at once. -/
@[simp] theorem run_done (buffer : Buffer State Value) : run buffer .done = Outcome.running := by
  funext machine
  rfl

/-- Going on twice is going on with both in a row. -/
theorem and_then_assoc (outcome : Outcome State Value)
    (first second : Machine State Value → Outcome State Value) :
    (outcome.andThen first).andThen second =
      outcome.andThen fun machine => (first machine).andThen second := by
  cases outcome <;> rfl

/-- Code after code runs behind it. -/
theorem run_append (buffer : Buffer State Value) (front back : Code)
    (machine : Machine State Value) :
    run buffer (front ++ back) machine = (run buffer front machine).andThen (run buffer back) := by
  induction front generalizing machine with
  | done => rfl
  | line statement rest inductionHypothesis =>
    have others : run buffer (rest ++ back) = fun machine =>
        (run buffer rest machine).andThen (run buffer back) := funext inductionHypothesis
    simp [run, and_then_assoc, others]
  | block header body rest _ inductionHypothesis =>
    have others : run buffer (rest ++ back) = fun machine =>
        (run buffer rest machine).andThen (run buffer back) := funext inductionHypothesis
    simp [run, and_then_assoc, others]

/-- A temporary holds what was stored in it. -/
@[simp] theorem memory_stored (machine : Machine State Value) (temporary : Temporary)
    (cell : Cell Value) : (machine.store temporary cell).memory temporary = some cell := by
  simp [Machine.store]

/-- Other temporaries hold what they held before. -/
theorem memory_kept (machine : Machine State Value) (temporary other : Temporary)
    (cell : Cell Value) (different : other ≠ temporary) :
    (machine.store temporary cell).memory other = machine.memory other := by
  simp [Machine.store, different]

/-- Temporaries with smaller numbers hold what they held before. -/
theorem memory_below (machine : Machine State Value) (stored temporary : Temporary)
    (cell : Cell Value) (smaller : temporary.number < stored.number) :
    (machine.store stored cell).memory temporary = machine.memory temporary := by
  apply memory_kept
  rintro rfl
  exact absurd smaller (Nat.lt_irrefl temporary.number)

/-- Storing leaves the buffer as it is. -/
@[simp] theorem state_stored (machine : Machine State Value) (temporary : Temporary)
    (cell : Cell Value) : (machine.store temporary cell).state = machine.state := rfl

/-- Storing assigns no field. -/
@[simp] theorem packet_stored (machine : Machine State Value) (temporary : Temporary)
    (cell : Cell Value) : (machine.store temporary cell).packet = machine.packet := rfl

/-- What a machine has come to: a buffer, and a temporary with a value. All temporaries with
small numbers are as they were, and no field was assigned. -/
structure Reached (before after : Machine State Value) (below : Nat) (result : Temporary)
    (cell : Cell Value) (state : State) : Prop where
  /-- The buffer is in this state. -/
  buffered : after.state = state
  /-- The temporary holds this. -/
  stored : after.memory result = some cell
  /-- Temporaries with smaller numbers hold what they held. -/
  kept : ∀ temporary : Temporary, temporary.number < below →
    after.memory temporary = before.memory temporary
  /-- No field was assigned. -/
  assigned : after.packet = before.packet

/-- What is reached from where a machine has come to is reached from the machine. -/
theorem Reached.trans {before middle after : Machine State Value} {below higher : Nat}
    {first second : Temporary} {cell other : Cell Value} {state last : State}
    (reached : Reached before middle below first cell state)
    (next : Reached middle after higher second other last) (order : below ≤ higher) :
    Reached before after below second other last := by
  refine ⟨next.buffered, next.stored, ?_, next.assigned.trans reached.assigned⟩
  intro temporary small
  rw [next.kept temporary (by omega), reached.kept temporary small]

/-- Storing a result behind what a machine has come to keeps the temporaries in front of the
result. -/
theorem Reached.store {before after : Machine State Value} {below next : Nat}
    {source : Temporary} {cell : Cell Value} {state : State}
    (reached : Reached before after below source cell state) (result : Temporary)
    (stored : Cell Value) (order : next ≤ below) (fresh : next ≤ result.number) :
    Reached before (after.store result stored) next result stored state := by
  refine ⟨reached.buffered, memory_stored _ _ _, ?_, reached.assigned⟩
  intro temporary small
  rw [memory_below _ _ _ _ (by omega), reached.kept temporary (by omega)]

/-- Whether a run stores what is expected, or gets stuck where nothing is. -/
def Delivers (outcome : Outcome State Value) (before : Machine State Value) (below : Nat)
    (result : Temporary) : Option (Cell Value × State) → Prop
  | none => outcome = .stuck
  | some (cell, state) =>
    ∃ after, outcome = .running after ∧ Reached before after below result cell state

/-- A call whose result is stored delivers what it returned. -/
theorem received_delivers (machine : Machine State Value) (below : Nat) (result : Temporary)
    (returned : Option (Cell Value × State)) (fresh : below ≤ result.number) :
    Delivers (received machine result returned) machine below result returned := by
  cases returned with
  | none => rfl
  | some pair =>
    obtain ⟨cell, state⟩ := pair
    refine ⟨_, rfl, rfl, memory_stored _ _ _, ?_, rfl⟩
    intro temporary small
    exact memory_below _ _ _ _ (by omega)

/-- What is delivered from a machine is delivered from another one with the same small
temporaries and the same fields. -/
theorem delivers_from (outcome : Outcome State Value) (before other : Machine State Value)
    (below : Nat) (result : Temporary) (expected : Option (Cell Value × State))
    (same : ∀ temporary : Temporary, temporary.number < below →
      other.memory temporary = before.memory temporary)
    (packet : other.packet = before.packet)
    (delivers : Delivers outcome other below result expected) :
    Delivers outcome before below result expected := by
  cases expected with
  | none => exact delivers
  | some pair =>
    obtain ⟨after, ran, reached⟩ := delivers
    exact ⟨after, ran, reached.buffered, reached.stored,
      fun temporary small => (reached.kept temporary small).trans (same temporary small),
      reached.assigned.trans packet⟩

/-- A loop whose body puts one item after another into a container delivers the container with
all of them.

Proof: induction on the number of runs. The invariant is that the container holds the items
so far; the body and the counter of the loop use other temporaries. -/
theorem loop_delivers {Item : Type} (decodeItem : State → Option (Item × State))
    (hold : List Item → Cell Value) (result index : Temporary) (below : Nat)
    (body : Machine State Value → Outcome State Value)
    (different : result ≠ index) (fresh : below ≤ index.number)
    (delivers : ∀ machine inserted, machine.memory result = some (hold inserted) →
      Delivers (body machine) machine below result
        ((decodeItem machine.state).map fun (item, state) => (hold (inserted ++ [item]), state)))
    (count first : Nat) (machine : Machine State Value) (inserted : List Item)
    (held : machine.memory result = some (hold inserted)) :
    Delivers (loop index body first count machine) machine below result
      ((several decodeItem count machine.state).map
        fun (items, state) => (hold (inserted ++ items), state)) := by
  induction count generalizing first machine inserted with
  | zero => exact ⟨machine, rfl, rfl, by simpa using held, fun _ _ => rfl, rfl⟩
  | succ count inductionHypothesis =>
    have counted : (machine.store index (.count first)).memory result = some (hold inserted) := by
      rw [memory_kept _ _ _ _ different, held]
    have once := delivers _ inserted counted
    rw [state_stored] at once
    simp only [loop, several, bind, Option.bind]
    cases decoded : decodeItem machine.state with
    | none =>
      rw [decoded] at once
      have stuck : body (machine.store index (.count first)) = .stuck := once
      rw [stuck]
      rfl
    | some pair =>
      obtain ⟨item, state⟩ := pair
      rw [decoded] at once
      obtain ⟨middle, ran, reached⟩ := once
      have others := inductionHypothesis (first + 1) middle (inserted ++ [item]) reached.stored
      rw [reached.buffered] at others
      have same : ∀ temporary : Temporary, temporary.number < below →
          middle.memory temporary = machine.memory temporary := by
        intro temporary small
        rw [reached.kept temporary small, memory_below _ _ _ _ (by omega)]
      have whole := delivers_from _ machine middle below result _ same reached.assigned others
      rw [ran, running_and_then]
      dsimp only
      cases rest : several decodeItem count state with
      | none =>
        rw [rest] at whole
        exact whole
      | some pair =>
        rw [rest] at whole
        simpa using whole

/-- What is expected of code that reads a value of a kind. -/
def expected (buffer : Buffer State Value) (kind : Kind) (state : State) :
    Option (Cell Value × State) :=
  (decode buffer kind state).map fun (datum, state) => (.datum datum, state)

/-- A collection is expected to hold as many elements as its size says. -/
theorem expected_collection (buffer : Buffer State Value) (shape : Collection) (element : Kind)
    (state : State) :
    expected buffer (.collection shape element) state =
      ((buffer.size state).bind fun (number, state) =>
        several (decode buffer element) number state).map
          fun (items, state) => (.datum (.items shape items), state) := by
  simp only [expected, decode, bind, Option.bind]
  cases buffer.size state with
  | none => rfl
  | some pair =>
    dsimp only
    cases several (decode buffer element) pair.1 pair.2 <;> rfl

/-- A map is expected to hold as many entries as its size says. -/
theorem expected_map (buffer : Buffer State Value) (key value : Kind) (state : State) :
    expected buffer (.map key value) state =
      ((buffer.size state).bind fun (number, state) =>
        several (both (decode buffer key) (decode buffer value)) number state).map
          fun (items, state) => (.datum (.entries items), state) := by
  simp only [expected, decode, bind, Option.bind]
  cases buffer.size state with
  | none => rfl
  | some pair =>
    dsimp only
    cases several (both (decode buffer key) (decode buffer value)) pair.1 pair.2 <;> rfl

/-- One run of the body for a collection puts the next element behind those that are there. -/
theorem element_delivers (buffer : Buffer State Value) (shape : Collection) (element : Kind)
    (next : Nat) (machine : Machine State Value) (inserted : List (Datum Value))
    (reads : ∀ machine, Delivers (run buffer (element.readCode (next + 3)) machine) machine
      (next + 3) (element.readResult (next + 3)) (expected buffer element machine.state))
    (held : machine.memory ⟨.result, next + 1⟩ = some (.datum (.items shape inserted))) :
    Delivers
      (run buffer (element.readCode (next + 3) ++ .line (.insertElement shape ⟨.result, next + 1⟩
        (element.readResult (next + 3))) .done) machine)
      machine next ⟨.result, next + 1⟩
      ((decode buffer element machine.state).map fun (item, state) =>
        (.datum (.items shape (inserted ++ [item])), state)) := by
  have read := reads machine
  rw [run_append]
  cases decoded : decode buffer element machine.state with
  | none =>
    rw [expected, decoded] at read
    have stuck : run buffer (element.readCode (next + 3)) machine = .stuck := read
    rw [stuck]
    rfl
  | some pair =>
    obtain ⟨item, state⟩ := pair
    rw [expected, decoded] at read
    obtain ⟨middle, ran, reached⟩ := read
    have container : middle.memory ⟨.result, next + 1⟩ =
        some (.datum (.items shape inserted)) := by
      rw [reached.kept _ (by simp), held]
    refine ⟨middle.store ⟨.result, next + 1⟩ (.datum (.items shape (inserted ++ [item]))), ?_, ?_⟩
    · simp [ran, run, step, container, reached.stored]
    · exact reached.store _ _ (by omega) (Nat.le_succ next)

/-- One run of the body for a map puts the next entry behind those that are there. The key
waits in its temporary while the value is read, because the value takes other temporaries. -/
theorem entry_delivers (buffer : Buffer State Value) (key value : Kind) (next : Nat)
    (machine : Machine State Value) (inserted : List (Datum Value × Datum Value))
    (readsKey : ∀ machine, Delivers (run buffer (key.readCode (next + 3)) machine) machine
      (next + 3) (key.readResult (next + 3)) (expected buffer key machine.state))
    (readsValue : ∀ machine, Delivers
      (run buffer (value.readCode (next + 3 + key.readTemporaries)) machine) machine
      (next + 3 + key.readTemporaries) (value.readResult (next + 3 + key.readTemporaries))
      (expected buffer value machine.state))
    (held : machine.memory ⟨.result, next + 1⟩ = some (.datum (.entries inserted))) :
    Delivers
      (run buffer (key.readCode (next + 3) ++ (value.readCode (next + 3 + key.readTemporaries) ++
        .line (.insertEntry ⟨.result, next + 1⟩ (key.readResult (next + 3))
          (value.readResult (next + 3 + key.readTemporaries))) .done)) machine)
      machine next ⟨.result, next + 1⟩
      ((both (decode buffer key) (decode buffer value) machine.state).map fun (item, state) =>
        (.datum (.entries (inserted ++ [item])), state)) := by
  have first := readsKey machine
  rw [run_append, both]
  simp only [bind, Option.bind]
  cases decodedKey : decode buffer key machine.state with
  | none =>
    rw [expected, decodedKey] at first
    have stuck : run buffer (key.readCode (next + 3)) machine = .stuck := first
    rw [stuck]
    rfl
  | some pair =>
    obtain ⟨keyDatum, keyState⟩ := pair
    rw [expected, decodedKey] at first
    obtain ⟨middle, ranKey, reachedKey⟩ := first
    have second := readsValue middle
    rw [expected, reachedKey.buffered] at second
    rw [ranKey, running_and_then, run_append]
    dsimp only
    cases decodedValue : decode buffer value keyState with
    | none =>
      rw [decodedValue] at second
      have stuck : run buffer (value.readCode (next + 3 + key.readTemporaries)) middle = .stuck :=
        second
      rw [stuck]
      rfl
    | some pair =>
      obtain ⟨valueDatum, state⟩ := pair
      rw [decodedValue] at second
      obtain ⟨last, ranValue, reachedValue⟩ := second
      have waiting : last.memory (key.readResult (next + 3)) = some (.datum keyDatum) := by
        rw [reachedValue.kept _ (key.read_result_range (next + 3)).2, reachedKey.stored]
      have reached := reachedKey.trans reachedValue (Nat.le_add_right _ _)
      have container : last.memory ⟨.result, next + 1⟩ = some (.datum (.entries inserted)) := by
        rw [reached.kept _ (by simp), held]
      refine ⟨last.store ⟨.result, next + 1⟩
        (.datum (.entries (inserted ++ [(keyDatum, valueDatum)]))), ?_, ?_⟩
      · simp [ranValue, run, step, container, waiting, reachedValue.stored]
      · exact reached.store _ _ (by omega) (Nat.le_succ next)

/-- Code that reads a size, makes a container and fills it in a loop delivers the container,
whatever the container is. -/
theorem container_delivers {Item : Type} (buffer : Buffer State Value)
    (decodeItem : State → Option (Item × State)) (hold : List Item → Datum Value)
    (make : Statement) (body : Code) (next : Nat) (machine : Machine State Value)
    (made : ∀ machine : Machine State Value, ∀ number,
      machine.memory ⟨.size, next⟩ = some (.count number) →
        step buffer machine make = .running (machine.store ⟨.result, next + 1⟩ (.datum (hold []))))
    (fills : ∀ machine inserted,
      machine.memory ⟨.result, next + 1⟩ = some (.datum (hold inserted)) →
        Delivers (run buffer body machine) machine next ⟨.result, next + 1⟩
          ((decodeItem machine.state).map fun (item, state) =>
            (.datum (hold (inserted ++ [item])), state))) :
    Delivers
      (run buffer (.line (.readSize ⟨.size, next⟩) (.line make
        (.block (.forIndex ⟨.index, next + 2⟩ ⟨.size, next⟩) body .done))) machine)
      machine next ⟨.result, next + 1⟩
      (((buffer.size machine.state).bind fun (number, state) =>
        several decodeItem number state).map fun (items, state) => (.datum (hold items), state)) := by
  cases size : buffer.size machine.state with
  | none => simp [run, step, size, received, Delivers]
  | some pair =>
    obtain ⟨number, state⟩ := pair
    let sized := { machine with state := state }.store ⟨.size, next⟩ (.count number)
    let prepared := sized.store ⟨.result, next + 1⟩ (.datum (hold []))
    have counted : prepared.memory ⟨.size, next⟩ = some (.count number) := by
      rw [memory_kept _ _ _ _ (by simp), memory_stored]
    have looped := loop_delivers decodeItem (fun items => .datum (hold items)) ⟨.result, next + 1⟩
      ⟨.index, next + 2⟩ next (run buffer body) (by simp) (by simp) fills number 0 prepared []
      (memory_stored _ _ _)
    have whole : run buffer (.line (.readSize ⟨.size, next⟩) (.line make
        (.block (.forIndex ⟨.index, next + 2⟩ ⟨.size, next⟩) body .done))) machine =
        loop ⟨.index, next + 2⟩ (run buffer body) 0 number prepared := by
      have first : step buffer machine (.readSize ⟨.size, next⟩) = .running sized := by
        simp [step, size, received, sized]
      have second : step buffer sized make = .running prepared :=
        made sized number (memory_stored _ _ _)
      rw [run, first, running_and_then, run, second, running_and_then, run, enter, counted,
        run_done, and_then_running]
    rw [whole]
    apply delivers_from _ machine prepared _ _ _ _ rfl looped
    intro temporary small
    rw [memory_below _ _ _ _ (Nat.lt_succ_of_lt small), memory_below _ _ _ _ small]

/-- Running the code that reads a kind decodes a value of the kind and leaves it in the temporary
that the code promises.

Proof: induction on the kind. The code of a container is that of its size, of making it and of a
loop, and the induction hypotheses say what one run of the body does. -/
theorem read_code_delivers (buffer : Buffer State Value) (kind : Kind) (next : Nat)
    (machine : Machine State Value) :
    Delivers (run buffer (kind.readCode next) machine) machine next (kind.readResult next)
      (expected buffer kind machine.state) := by
  induction kind generalizing next machine with
  | scalar base =>
    rw [Kind.readCode, run, run_done, and_then_running, step]
    have call := received_delivers machine next ⟨.result, next⟩
      ((buffer.scalar base machine.state).map
        fun (value, state) => (.datum (.single value), state)) (Nat.le_refl next)
    simpa [expected, decode, Option.map_map, Function.comp_def, Kind.readResult] using call
  | collection shape element inductionHypothesis =>
    have container := container_delivers buffer (decode buffer element) (.items shape)
      (.makeCollection shape element ⟨.result, next + 1⟩ ⟨.size, next⟩)
      (element.readCode (next + 3) ++ .line (.insertElement shape ⟨.result, next + 1⟩
        (element.readResult (next + 3))) .done) next machine
      (fun machine number counted => by simp [step, counted])
      (fun machine inserted held => element_delivers buffer shape element next machine inserted
        (inductionHypothesis (next + 3)) held)
    rw [expected_collection]
    exact container
  | map key value keyHypothesis valueHypothesis =>
    have container := container_delivers buffer (both (decode buffer key) (decode buffer value))
      .entries (.makeMap key value ⟨.result, next + 1⟩ ⟨.size, next⟩)
      (key.readCode (next + 3) ++ (value.readCode (next + 3 + key.readTemporaries) ++
        .line (.insertEntry ⟨.result, next + 1⟩ (key.readResult (next + 3))
          (value.readResult (next + 3 + key.readTemporaries))) .done)) next machine
      (fun machine number counted => by simp [step, counted])
      (fun machine inserted held => entry_delivers buffer key value next machine inserted
        (keyHypothesis (next + 3)) (valueHypothesis (next + 3 + key.readTemporaries)) held)
    rw [expected_map]
    exact container
  | message reference =>
    rw [Kind.readCode, run, run_done, and_then_running, step]
    have call := received_delivers machine next ⟨.result, next⟩
      ((buffer.message reference.id machine.state).map
        fun (value, state) => (.datum (.single value), state)) (Nat.le_refl next)
    simpa [expected, decode, Option.map_map, Function.comp_def, Kind.readResult] using call

/-- The guard leaves the code where the buffer ends and does nothing otherwise. -/
theorem run_guard (buffer : Buffer State Value) (machine : Machine State Value) :
    run buffer exhaustionGuard machine =
      if buffer.exhausted machine.state then .left machine else .running machine := by
  simp only [exhaustionGuard, run, enter]
  split <;> rfl

/-- The fields that a run has assigned when it ends, and the buffer then. -/
def Outcome.assigned? : Outcome State Value → Option (List (String × Datum Value) × State)
  | stuck => none
  | left machine | running machine => some (machine.packet, machine.state)

/-- A value that was read is assigned to its field. -/
theorem run_value (buffer : Buffer State Value) (field : Field) (next : Nat)
    (machine : Machine State Value) :
    match decode buffer field.kind machine.state with
    | none => run buffer (field.kind.readCode next ++
        .line (.assignField field.name (field.kind.readResult next)) .done) machine = .stuck
    | some (datum, state) => ∃ after, run buffer (field.kind.readCode next ++
        .line (.assignField field.name (field.kind.readResult next)) .done) machine =
          .running after ∧
        after.state = state ∧ after.packet = machine.packet ++ [(field.name, datum)] := by
  have read := read_code_delivers buffer field.kind next machine
  rw [expected] at read
  rw [run_append]
  cases decoded : decode buffer field.kind machine.state with
  | none =>
    rw [decoded] at read
    have stuck : run buffer (field.kind.readCode next) machine = .stuck := read
    simp only [stuck, stuck_and_then]
  | some pair =>
    obtain ⟨datum, state⟩ := pair
    rw [decoded] at read
    obtain ⟨middle, ran, reached⟩ := read
    refine ⟨{ middle with packet := middle.packet ++ [(field.name, datum)] }, ?_,
      reached.buffered, ?_⟩
    · simp [ran, run, step, reached.stored]
    · rw [reached.assigned]

/-- Running the code that reads fields assigns to each of them what is decoded for it, in order,
up to the first appended field in front of which the buffer ends.

Proof: induction on the fields. What was assigned before stays, and the numbers of temporaries
do not matter. -/
theorem run_read_fields (buffer : Buffer State Value) (fields : List Field) (next : Nat)
    (machine : Machine State Value) :
    (run buffer (readFields next fields) machine).assigned? =
      (decodeFields buffer fields machine.state).map fun (assigned, state) =>
        (machine.packet ++ assigned, state) := by
  induction fields generalizing next machine with
  | nil => simp [readFields, decodeFields, Outcome.assigned?]
  | cons field fields inductionHypothesis =>
    have guarded : run buffer (if field.appended then exhaustionGuard else .done) machine =
        if field.appended && buffer.exhausted machine.state then .left machine
        else .running machine := by
      cases field.appended with
      | false => simp
      | true => simpa using run_guard buffer machine
    rw [readFields, Field.readCode, run_append, run_append, guarded, decodeFields]
    by_cases ends : (field.appended && buffer.exhausted machine.state) = true
    · simp [ends, Outcome.assigned?]
    · have value := run_value buffer field next machine
      simp only [ends, Bool.false_eq_true, if_false, running_and_then, bind, Option.bind]
      cases decoded : decode buffer field.kind machine.state with
      | none =>
        rw [decoded] at value
        simp only [value, stuck_and_then]
        rfl
      | some pair =>
        obtain ⟨datum, state⟩ := pair
        rw [decoded] at value
        obtain ⟨after, ran, same, packet⟩ := value
        rw [ran, running_and_then, inductionHypothesis, same, packet]
        dsimp only
        cases decodeFields buffer fields state with
        | none => rfl
        | some rest => simp [pure]

end PacketSmith.Execution
