import PacketSmith.Proofs.Code.Calls
import PacketSmith.Proofs.Code.Emission

/-!
# What emitted code moves over the wire

The plan of a kind says what its values are on the wire: a scalar is one item, a container is
its size and then, one level deeper, what its parts are, and a nested message is one item with
its number. Writing and reading follow this plan in both languages, line by line, for
every message and any nesting.
-/

namespace PacketSmith.Wire

/-- The plan of a kind at a depth. -/
def plan (depth : Int) : Kind → List Operation
  | .scalar base => [⟨depth, .scalar base⟩]
  | .collection _ element => ⟨depth, .scalar .int⟩ :: plan (depth + 1) element
  | .map key value => ⟨depth, .scalar .int⟩ :: (plan (depth + 1) key ++ plan (depth + 1) value)
  | .message reference => [⟨depth, .packet reference.id.toInt⟩]

/-- The plan of a message: those of its fields in order. -/
def messagePlan (message : Message) : List Operation :=
  message.fields.flatMap fun field => plan 0 field.kind

/-- Writing a value makes the calls of the plan, and none that reads. -/
theorem calls_write_code (direction : Direction) (depth : Int) (kind : Kind) (value : Operand)
    (next : Nat) :
    callsOf direction depth (kind.writeCode value next) =
      if direction = .write then plan depth kind else [] := by
  induction kind generalizing depth value next with
  | scalar base => cases direction <;> rfl
  | collection shape element inductionHypothesis =>
    cases direction <;> simp [Kind.writeCode, callsOf, moved, plan, inductionHypothesis]
  | map key entry keyHypothesis entryHypothesis =>
    cases direction <;>
      simp [Kind.writeCode, callsOf, moved, plan, calls_append, keyHypothesis, entryHypothesis]
  | message reference => cases direction <;> rfl

/-- Reading a value makes the calls of the plan, and none that writes. -/
theorem calls_read_code (direction : Direction) (depth : Int) (kind : Kind) (next : Nat) :
    callsOf direction depth (kind.readCode next) =
      if direction = .read then plan depth kind else [] := by
  induction kind generalizing depth next with
  | scalar base => cases direction <;> rfl
  | collection shape element inductionHypothesis =>
    cases direction <;>
      simp [Kind.readCode, callsOf, moved, plan, calls_append, inductionHypothesis]
  | map key entry keyHypothesis entryHypothesis =>
    cases direction <;>
      simp [Kind.readCode, callsOf, moved, plan, calls_append, keyHypothesis, entryHypothesis]
  | message reference => cases direction <;> rfl

/-- Writing fields in order makes the calls of their plans in order. -/
theorem calls_write_fields (direction : Direction) (next : Nat) (fields : List Field) :
    callsOf direction 0 (writeFields next fields) =
      if direction = .write then fields.flatMap fun field => plan 0 field.kind else [] := by
  induction fields generalizing next with
  | nil => cases direction <;> rfl
  | cons field fields inductionHypothesis =>
    rw [writeFields, Field.writeCode, calls_append, calls_write_code, inductionHypothesis]
    cases direction <;> rfl

/-- Reading fields in order makes the calls of their plans in order. A guard makes none of
them, and neither does an assignment. -/
theorem calls_read_fields (direction : Direction) (next : Nat) (fields : List Field) :
    callsOf direction 0 (readFields next fields) =
      if direction = .read then fields.flatMap fun field => plan 0 field.kind else [] := by
  induction fields generalizing next with
  | nil => cases direction <;> rfl
  | cons field fields inductionHypothesis =>
    have guard : callsOf direction 0 (if field.appended then exhaustionGuard else .done) = [] := by
      split <;> rfl
    rw [readFields, Field.readCode, calls_append, calls_append, calls_append, guard,
      calls_read_code, inductionHypothesis]
    cases direction <;> simp [callsOf, moved]

end PacketSmith.Wire

namespace PacketSmith

/-- The code that the emitter of one direction holds at the end. -/
def Message.emitted (language : Language) (direction : Wire.Direction) (message : Message) :
    String :=
  match direction with
  | .write => (message.writeEmitter language).code
  | .read => (message.readEmitter language).code

namespace Wire

/-- Emitted code makes the calls of the plan in its own direction and none in the other. -/
theorem operations_emitted (language : Language) (direction other : Direction) (message : Message)
    (names : ∀ field ∈ message.fields, Name.isIdentifier field.name = true)
    (references : ∀ field ∈ message.fields, field.kind.NamesIdentifiers) :
    operationsIn language other (message.emitted language direction) =
      if other = direction then messagePlan message else [] := by
  cases direction with
  | write =>
    have plain := write_fields_plain 0 message.fields names
    rw [Message.emitted, message.write_emitter_code, operationsIn, Message.writeLines,
      lines_of_render _ _ (Code.lines_plain _ _ _ plain), operations_lines _ _ _ _ plain,
      Int.sub_self, calls_write_fields]
    rfl
  | read =>
    have plain := read_fields_plain 0 message.fields names references
    rw [Message.emitted, message.read_emitter_code, operationsIn, Message.readLines,
      lines_of_render _ _ (Code.lines_plain _ _ _ plain), operations_lines _ _ _ _ plain,
      Int.sub_self, calls_read_fields]
    rfl

/-- Writing and reading make the same calls at the same depths, and both languages do. What
they have in common is the plan of the message. Written code reads nothing, and reading code
writes nothing. -/
theorem wire_symmetric (message : Message)
    (names : ∀ field ∈ message.fields, Name.isIdentifier field.name = true)
    (references : ∀ field ∈ message.fields, field.kind.NamesIdentifiers) :
    (∀ language, operationsIn language .write (message.emitted language .write) =
      operationsIn language .read (message.emitted language .read)) ∧
    (∀ direction, operationsIn .go direction (message.emitted .go direction) =
      operationsIn .python direction (message.emitted .python direction)) ∧
    (∀ language direction,
      operationsIn language direction (message.emitted language direction) =
        messagePlan message) ∧
    ∀ language direction other, other ≠ direction →
      operationsIn language other (message.emitted language direction) = [] := by
  have emitted (language : Language) (direction : Direction) :
      operationsIn language direction (message.emitted language direction) =
        messagePlan message := by
    rw [operations_emitted language direction direction message names references, if_pos rfl]
  refine ⟨?_, ?_, emitted, ?_⟩
  · intro language
    rw [emitted, emitted]
  · intro direction
    rw [emitted, emitted]
  · intro language direction other different
    rw [operations_emitted language direction other message names references, if_neg different]

/-- A message with nested containers, a nested message and an appended field. -/
def routeMessage : Message :=
  { id := 7, name := "route", docs := []
    fields := [
      { name := "stops", appended := false, docs := []
        kind := .map (.scalar .string) (.collection .list (.message ⟨2, "Stop"⟩)) },
      { name := "tags", appended := true, docs := []
        kind := .collection .set (.scalar .byte) }] }

/-- The calls for a message with nested containers, from written code and from reading code. -/
theorem wire_symmetric_route :
    ((∀ field ∈ routeMessage.fields, Name.isIdentifier field.name = true) ∧
      ∀ field ∈ routeMessage.fields, field.kind.NamesIdentifiers) ∧
    operationsIn .go .write (routeMessage.emitted .go .write) =
      operationsIn .go .read (routeMessage.emitted .go .read) ∧
    operationsIn .python .read (routeMessage.emitted .python .read) =
      [⟨0, .scalar .int⟩, ⟨1, .scalar .string⟩, ⟨1, .scalar .int⟩, ⟨2, .packet 2⟩,
       ⟨0, .scalar .int⟩, ⟨1, .scalar .byte⟩] := by
  have names : ∀ field ∈ routeMessage.fields, Name.isIdentifier field.name = true := by decide
  have references : ∀ field ∈ routeMessage.fields, field.kind.NamesIdentifiers := by
    simp only [routeMessage, Kind.NamesIdentifiers, Kind.references, List.forall_mem_cons]
    decide
  obtain ⟨symmetric, _, planned, _⟩ := wire_symmetric routeMessage names references
  exact ⟨⟨names, references⟩, symmetric .go, planned .python .read⟩

end Wire
end PacketSmith
