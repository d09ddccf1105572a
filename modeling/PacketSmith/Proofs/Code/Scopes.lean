import PacketSmith.Proofs.Code.Temporaries

/-!
# Scopes of temporaries

A statement declares the temporary to which it gives a value first, and makes use of others. The
first line of a loop declares the temporaries of the loop, and only the body sees them. In code
that writes or reads fields every temporary is declared once, under numbers taken in order, and
whatever is made use of was declared in the same block or in one around it. Nothing is declared
in vain: a temporary for a value that is written is written, and one for a value that is read is
stored.
-/

namespace PacketSmith

/-- The temporaries that a statement declares. -/
def Statement.declares : Statement → List Temporary
  | .readScalar _ result | .readSize result | .readMessage _ result => [result]
  | .makeCollection _ _ result _ | .makeMap _ _ result _ => [result]
  | .writeScalar _ _ | .writeSize _ | .writeMessage _ _ => []
  | .insertElement _ _ _ | .insertEntry _ _ _ | .assignField _ _ | .returnMessage => []

/-- The temporaries, declared before, of which a statement makes use. -/
def Statement.uses : Statement → List Temporary
  | .writeScalar _ value | .writeSize value | .writeMessage _ value => value.temporaries
  | .readScalar _ _ | .readSize _ | .readMessage _ _ | .returnMessage => []
  | .makeCollection _ _ _ size | .makeMap _ _ _ size => [size]
  | .insertElement _ result item => [result, item]
  | .insertEntry result key value => [result, key, value]
  | .assignField _ value => [value]

/-- The temporaries that a header declares, for its block only. -/
def Header.declares : Header → List Temporary
  | .forEachElement _ element _ => [element]
  | .forEachEntry key value _ => [key, value]
  | .forIndex index _ => [index]
  | .whenExhausted => []

/-- The temporaries, declared before, of which a header makes use. -/
def Header.uses : Header → List Temporary
  | .forEachElement _ _ container | .forEachEntry _ _ container => container.temporaries
  | .forIndex _ size => [size]
  | .whenExhausted => []

/-- The temporaries that a header declares and makes use of by itself. -/
def Header.counts : Header → List Temporary
  | .forIndex index _ => [index]
  | .forEachElement _ _ _ | .forEachEntry _ _ _ | .whenExhausted => []

namespace Code

/-- The temporaries that a code declares, at any depth. -/
def declares : Code → List Temporary
  | done => []
  | line statement rest => statement.declares ++ rest.declares
  | block header body rest => header.declares ++ (body.declares ++ rest.declares)

/-- The temporaries that a code declares for what follows it. -/
def leaves : Code → List Temporary
  | done => []
  | line statement rest => statement.declares ++ rest.leaves
  | block _ _ rest => rest.leaves

/-- The temporaries of which a code makes use, at any depth. -/
def uses : Code → List Temporary
  | done => []
  | line statement rest => statement.uses ++ rest.uses
  | block header body rest => header.uses ++ (header.counts ++ (body.uses ++ rest.uses))

/-- Whether whatever is made use of is declared in front of it, in the same block or in one around
it, or stands in a list. -/
def Scoped (outer : List Temporary) : Code → Prop
  | done => True
  | line statement rest =>
    (∀ temporary ∈ statement.uses, temporary ∈ outer) ∧ rest.Scoped (outer ++ statement.declares)
  | block header body rest =>
    (∀ temporary ∈ header.uses, temporary ∈ outer) ∧
      body.Scoped (outer ++ header.declares) ∧ rest.Scoped outer

/-- Code after code declares what both declare. -/
@[simp] theorem declares_append (front back : Code) :
    (front ++ back).declares = front.declares ++ back.declares := by
  induction front with
  | done => rfl
  | line statement rest inductionHypothesis => simp [declares, inductionHypothesis]
  | block header body rest _ inductionHypothesis => simp [declares, inductionHypothesis]

/-- Code after code makes use of what both make use of. -/
@[simp] theorem uses_append (front back : Code) :
    (front ++ back).uses = front.uses ++ back.uses := by
  induction front with
  | done => rfl
  | line statement rest inductionHypothesis => simp [uses, inductionHypothesis]
  | block header body rest _ inductionHypothesis => simp [uses, inductionHypothesis]

/-- Code after code may make use of what the code in front leaves. -/
theorem scoped_append (outer : List Temporary) (front back : Code) :
    (front ++ back).Scoped outer ↔ front.Scoped outer ∧ back.Scoped (outer ++ front.leaves) := by
  induction front generalizing outer with
  | done => simp [Scoped, leaves]
  | line statement rest inductionHypothesis =>
    simp [Scoped, leaves, inductionHypothesis, and_assoc]
  | block header body rest _ inductionHypothesis =>
    simp [Scoped, leaves, inductionHypothesis, and_assoc]

end Code

/-! ## Values -/

/-- Writing a value declares its temporaries under numbers taken in order. -/
theorem Kind.write_code_declares (kind : Kind) (value : Operand) (next : Nat) :
    (kind.writeCode value next).declares.map Temporary.number =
      List.range' next kind.writeTemporaries := by
  induction kind generalizing value next with
  | scalar base | message reference => rfl
  | collection shape element inductionHypothesis =>
    simp only [writeCode, Code.declares, Statement.declares, Header.declares, List.nil_append,
      List.append_nil, List.singleton_append, List.map_cons, inductionHypothesis,
      writeTemporaries]
    rw [Nat.add_comm 1, List.range'_succ]
  | map key entry keyHypothesis entryHypothesis =>
    simp only [writeCode, Code.declares, Code.declares_append, Statement.declares,
      Header.declares, List.nil_append, List.append_nil, List.cons_append, List.map_cons,
      List.map_append, keyHypothesis, entryHypothesis, writeTemporaries]
    rw [show 2 + key.writeTemporaries + entry.writeTemporaries =
        key.writeTemporaries + entry.writeTemporaries + 1 + 1 by omega,
      List.range'_succ, List.range'_succ, ← List.range'_append_1]

/-- Writing a value leaves nothing for what follows. -/
@[simp] theorem Kind.write_code_leaves (kind : Kind) (value : Operand) (next : Nat) :
    (kind.writeCode value next).leaves = [] := by
  cases kind <;> rfl

/-- Writing a value makes use of what is declared in it, and of the value. -/
theorem Kind.write_code_scoped (kind : Kind) (value : Operand) (next : Nat)
    (outer : List Temporary) (held : ∀ temporary ∈ value.temporaries, temporary ∈ outer) :
    (kind.writeCode value next).Scoped outer := by
  induction kind generalizing value next outer with
  | scalar base | message reference => exact ⟨held, trivial⟩
  | collection shape element inductionHypothesis =>
    have body := inductionHypothesis (.temporary ⟨.element, next⟩) (next + 1)
      (outer ++ [⟨.element, next⟩]) (by simp [Operand.temporaries])
    simpa [writeCode, Code.Scoped, Statement.uses, Statement.declares, Header.uses,
      Header.declares] using ⟨held, body⟩
  | map key entry keyHypothesis entryHypothesis =>
    have keys := keyHypothesis (.temporary ⟨.key, next⟩) (next + 2)
      (outer ++ [⟨.key, next⟩, ⟨.value, next + 1⟩]) (by simp [Operand.temporaries])
    have entries := entryHypothesis (.temporary ⟨.value, next + 1⟩)
      (next + 2 + key.writeTemporaries) (outer ++ [⟨.key, next⟩, ⟨.value, next + 1⟩])
      (by simp [Operand.temporaries])
    simpa [writeCode, Code.Scoped, Code.scoped_append, Statement.uses, Statement.declares,
      Header.uses, Header.declares] using ⟨held, keys, entries⟩

/-- Writing a value makes use of the value, and of whatever is declared in it. -/
theorem Kind.write_code_uses (kind : Kind) (value : Operand) (next : Nat) :
    value.temporaries ⊆ (kind.writeCode value next).uses ∧
      (kind.writeCode value next).declares ⊆ (kind.writeCode value next).uses := by
  induction kind generalizing value next with
  | scalar base | message reference =>
    exact ⟨List.subset_append_left _ _, List.nil_subset _⟩
  | collection shape element inductionHypothesis =>
    obtain ⟨item, inner⟩ := inductionHypothesis (.temporary ⟨.element, next⟩) (next + 1)
    have itself := item (List.mem_singleton_self _)
    simp only [writeCode, Code.uses, Code.declares, Statement.uses, Statement.declares,
      Header.uses, Header.declares, Header.counts, List.nil_append, List.append_nil,
      List.singleton_append, List.cons_subset]
    refine ⟨List.subset_append_left _ _, ?_, ?_⟩
    · exact List.mem_append_right _ (List.mem_append_right _ itself)
    · exact List.Subset.trans (List.Subset.trans inner (List.subset_append_right _ _))
        (List.subset_append_right _ _)
  | map key entry keyHypothesis entryHypothesis =>
    obtain ⟨keyItem, keyInner⟩ := keyHypothesis (.temporary ⟨.key, next⟩) (next + 2)
    obtain ⟨entryItem, entryInner⟩ := entryHypothesis (.temporary ⟨.value, next + 1⟩)
      (next + 2 + key.writeTemporaries)
    have keyItself := keyItem (List.mem_singleton_self _)
    have entryItself := entryItem (List.mem_singleton_self _)
    simp only [writeCode, Code.uses, Code.declares, Code.uses_append, Code.declares_append,
      Statement.uses, Statement.declares, Header.uses, Header.declares, Header.counts,
      List.nil_append, List.append_nil, List.cons_append, List.cons_subset, List.append_subset]
    refine ⟨List.subset_append_left _ _, ?_, ?_, ?_, ?_⟩
    · exact List.mem_append_right _ (List.mem_append_right _ (List.mem_append_left _ keyItself))
    · exact List.mem_append_right _ (List.mem_append_right _ (List.mem_append_right _ entryItself))
    · exact fun _ member => List.mem_append_right _
        (List.mem_append_right _ (List.mem_append_left _ (keyInner member)))
    · exact fun _ member => List.mem_append_right _
        (List.mem_append_right _ (List.mem_append_right _ (entryInner member)))

/-- Reading a value declares its temporaries under numbers taken in order. -/
theorem Kind.read_code_declares (kind : Kind) (next : Nat) :
    (kind.readCode next).declares.map Temporary.number =
      List.range' next kind.readTemporaries := by
  induction kind generalizing next with
  | scalar base | message reference => rfl
  | collection shape element inductionHypothesis =>
    simp only [readCode, Code.declares, Code.declares_append, Statement.declares, Header.declares,
      List.append_nil, List.singleton_append, List.map_cons, inductionHypothesis,
      readTemporaries]
    rw [Nat.add_comm 3, List.range'_succ, List.range'_succ, List.range'_succ]
  | map key entry keyHypothesis entryHypothesis =>
    simp only [readCode, Code.declares, Code.declares_append, Statement.declares,
      Header.declares, List.append_nil, List.singleton_append, List.map_cons,
      List.map_append, keyHypothesis, entryHypothesis, readTemporaries]
    rw [show 3 + key.readTemporaries + entry.readTemporaries =
        key.readTemporaries + entry.readTemporaries + 1 + 1 + 1 by omega,
      List.range'_succ, List.range'_succ, List.range'_succ, ← List.range'_append_1]

/-- Reading a value leaves the temporary that holds it. -/
theorem Kind.read_result_left (kind : Kind) (next : Nat) :
    kind.readResult next ∈ (kind.readCode next).leaves := by
  cases kind <;> simp [readResult, readCode, Code.leaves, Statement.declares]

/-- Reading a value makes use of what is declared in it. -/
theorem Kind.read_code_scoped (kind : Kind) (next : Nat) (outer : List Temporary) :
    (kind.readCode next).Scoped outer := by
  induction kind generalizing next outer with
  | scalar base | message reference => exact ⟨List.forall_mem_nil _, trivial⟩
  | collection shape element inductionHypothesis =>
    have item := element.read_result_left (next + 3)
    simp [readCode, Code.Scoped, Code.scoped_append, Statement.uses, Statement.declares,
      Header.uses, Header.declares, inductionHypothesis, item]
  | map key entry keyHypothesis entryHypothesis =>
    have keyItem := key.read_result_left (next + 3)
    have entryItem := entry.read_result_left (next + 3 + key.readTemporaries)
    simp [readCode, Code.Scoped, Code.scoped_append, Statement.uses, Statement.declares,
      Header.uses, Header.declares, keyHypothesis, entryHypothesis, keyItem, entryItem]

/-- Reading a value makes use of whatever is declared in it, except perhaps of the temporary that
holds the value. -/
theorem Kind.read_code_uses (kind : Kind) (next : Nat) :
    (kind.readCode next).declares ⊆ kind.readResult next :: (kind.readCode next).uses := by
  induction kind generalizing next with
  | scalar base | message reference => exact List.Subset.refl _
  | collection shape element inductionHypothesis =>
    have result : (collection shape element).readResult next = ⟨.result, next + 1⟩ := rfl
    intro temporary member
    simp only [readCode, Code.declares, Code.declares_append, Statement.declares, Header.declares,
      List.append_nil, List.singleton_append, List.mem_cons] at member
    simp only [result, readCode, Code.uses, Code.uses_append, Statement.uses, Header.uses,
      Header.counts, List.nil_append, List.append_nil, List.singleton_append, List.mem_cons,
      List.mem_append]
    rcases member with rfl | rfl | rfl | inner
    · simp
    · simp
    · simp
    · rcases List.mem_cons.mp (inductionHypothesis (next + 3) inner) with rfl | used
      · simp
      · simp [used]
  | map key entry keyHypothesis entryHypothesis =>
    have result : (map key entry).readResult next = ⟨.result, next + 1⟩ := rfl
    intro temporary member
    simp only [readCode, Code.declares, Code.declares_append, Statement.declares, Header.declares,
      List.append_nil, List.singleton_append, List.mem_cons, List.mem_append] at member
    simp only [result, readCode, Code.uses, Code.uses_append, Statement.uses, Header.uses,
      Header.counts, List.nil_append, List.append_nil, List.singleton_append, List.mem_cons,
      List.mem_append]
    rcases member with rfl | rfl | rfl | inner | inner
    · simp
    · simp
    · simp
    · rcases List.mem_cons.mp (keyHypothesis (next + 3) inner) with rfl | used
      · simp
      · simp [used]
    · rcases List.mem_cons.mp (entryHypothesis _ inner) with rfl | used
      · simp
      · simp [used]

/-! ## Fields -/

/-- The numbers of temporaries that writing fields takes. -/
def writtenTemporaries : List Field → Nat
  | [] => 0
  | field :: fields => field.kind.writeTemporaries + writtenTemporaries fields

/-- The numbers of temporaries that reading fields takes. -/
def readTemporaries : List Field → Nat
  | [] => 0
  | field :: fields => field.kind.readTemporaries + readTemporaries fields

/-- Whether the temporaries of a code are in order: from one number on, so many of them. -/
structure Code.IsTidy (code : Code) (next count : Nat) : Prop where
  /-- Each number is declared once, in order. -/
  numbered : code.declares.map Temporary.number = List.range' next count
  /-- Whatever is made use of is declared before. -/
  declared : ∀ outer, code.Scoped outer
  /-- Whatever is declared is made use of. -/
  used : code.declares ⊆ code.uses

/-- Nothing is in order. -/
theorem Code.tidy_done (next : Nat) : Code.done.IsTidy next 0 :=
  ⟨rfl, fun _ => trivial, List.Subset.refl _⟩

/-- Code after code is in order if both are, and if the second takes its numbers behind those of
the first. -/
theorem Code.IsTidy.append {front back : Code} {next count further : Nat}
    (tidy : front.IsTidy next count) (others : back.IsTidy (next + count) further) :
    (front ++ back).IsTidy next (count + further) := by
  constructor
  case numbered =>
    rw [Code.declares_append, List.map_append, tidy.numbered, others.numbered,
      List.range'_append_1]
  case declared =>
    exact fun outer => (Code.scoped_append _ _ _).mpr ⟨tidy.declared _, others.declared _⟩
  case used =>
    rw [Code.declares_append, Code.uses_append]
    exact List.append_subset.mpr ⟨fun _ member => List.mem_append_left _ (tidy.used member),
      fun _ member => List.mem_append_right _ (others.used member)⟩

/-- The temporaries of a field that is written are in order. -/
theorem Field.write_code_tidy (field : Field) (next : Nat) :
    (field.writeCode next).IsTidy next field.kind.writeTemporaries :=
  ⟨field.kind.write_code_declares _ _,
    fun outer => field.kind.write_code_scoped _ _ outer (List.forall_mem_nil _),
    (field.kind.write_code_uses _ _).2⟩

/-- The temporaries of a field that is read are in order: the one that holds the value is
stored. -/
theorem Field.read_code_tidy (field : Field) (next : Nat) :
    (field.readCode next).IsTidy next field.kind.readTemporaries := by
  have guard : (if field.appended then exhaustionGuard else Code.done).IsTidy next 0 := by
    split
    · exact ⟨rfl, fun _ => ⟨List.forall_mem_nil _, ⟨List.forall_mem_nil _, trivial⟩, trivial⟩,
        List.nil_subset _⟩
    · exact Code.tidy_done next
  have value : (field.kind.readCode next ++
      .line (.assignField field.name (field.kind.readResult next)) .done).IsTidy next
        field.kind.readTemporaries := by
    constructor
    case numbered =>
      simp [Code.declares, Statement.declares, field.kind.read_code_declares next]
    case declared =>
      intro outer
      have left := field.kind.read_result_left next
      simp [Code.scoped_append, Code.Scoped, Statement.uses, field.kind.read_code_scoped, left]
    case used =>
      intro temporary member
      simp only [Code.declares_append, Code.declares, Statement.declares, List.append_nil]
        at member
      simp only [Code.uses_append, Code.uses, Statement.uses, List.append_nil, List.mem_append,
        List.mem_singleton]
      exact (List.mem_cons.mp (field.kind.read_code_uses next member)).symm
  have whole := guard.append (by simpa using value)
  rwa [Nat.zero_add] at whole

/-- The temporaries of fields that are written are in order. -/
theorem write_fields_tidy (next : Nat) (fields : List Field) :
    (writeFields next fields).IsTidy next (writtenTemporaries fields) := by
  induction fields generalizing next with
  | nil => exact Code.tidy_done next
  | cons field fields inductionHypothesis =>
    have whole := (field.write_code_tidy next).append (inductionHypothesis _)
    exact whole

/-- The temporaries of fields that are read are in order. -/
theorem read_fields_tidy (next : Nat) (fields : List Field) :
    (readFields next fields).IsTidy next (readTemporaries fields) := by
  induction fields generalizing next with
  | nil => exact Code.tidy_done next
  | cons field fields inductionHypothesis =>
    have whole := (field.read_code_tidy next).append (inductionHypothesis _)
    exact whole

end PacketSmith
