import PacketSmith.Render
import PacketSmith.Proofs.Typing.Rules
import PacketSmith.Proofs.Code.Spelling
import PacketSmith.Proofs.Code.Temporaries
import PacketSmith.Proofs.Schema.Slots

/-!
# Generated Go is well typed

Generated code is a Go program (`Code.go_lines`). Code that writes a value passes every method of
the buffer what it takes, and code that reads a value leaves it in a variable of the type that is
declared for the field, whatever is nested in the kind; the blocks of messages put this together,
with the guards of appended fields (`emitted_well_typed`).
-/

namespace PacketSmith

/-! ## Kinds as types -/

/-- The type of a kind. -/
def Kind.goType : Kind → Go.ValueType
  | scalar base => .named (base.typeName .go)
  | collection .array element | collection .list element => .slice element.goType
  | collection .set element => .map element.goType .bool
  | map key value => .map key.goType value.goType
  | message reference => .pointer (.named (reference.typeName .go))

/-- The type of a kind is written as the type of its fields. -/
theorem Kind.go_type_text (kind : Kind) : kind.goType.text = kind.typeName .go := by
  induction kind with
  | scalar base => rfl
  | collection shape element inductionHypothesis =>
    cases shape with
    | array | list => simp only [goType, Go.ValueType.text, typeName, inductionHypothesis]
    | set =>
      simp only [goType, Go.ValueType.text, Go.ValueType.bool, typeName, inductionHypothesis,
        String.append_assoc]
      rfl
  | map key value keyHypothesis valueHypothesis =>
    simp only [goType, Go.ValueType.text, typeName, keyHypothesis, valueHypothesis]
  | message reference => simp only [goType, Go.ValueType.text, typeName]

example : (Kind.map (.scalar .string) (.collection .set (.scalar .long))).goType.text =
    "map[string]map[int64]bool" := by decide

/-- The keys of all maps can be compared where sets and maps hold scalars. -/
theorem Kind.go_type_formed (kind : Kind) (hashed : kind.IsHashed) : kind.goType.IsFormed := by
  have scalar_comparable (inner : Kind) (hashable : inner.tag.isHashable = true) :
      inner.goType.IsComparable := by
    cases inner with
    | scalar base => exact True.intro
    | collection shape element | map key value | message reference => cases hashable
  induction kind with
  | scalar base => exact True.intro
  | collection shape element inductionHypothesis =>
    cases shape with
    | array | list => exact inductionHypothesis hashed.2
    | set => exact ⟨scalar_comparable _ (hashed.1 rfl), inductionHypothesis hashed.2,
      True.intro⟩
  | map key value keyHypothesis valueHypothesis =>
    exact ⟨scalar_comparable _ hashed.1, keyHypothesis hashed.2.1, valueHypothesis hashed.2.2⟩
  | message reference => exact True.intro

/-! ## Code as a program -/

/-- The statement that is written for a statement. -/
def Statement.go : Statement → Go.Statement
  | writeScalar base value => .perform ("Write" ++ base.method .go) [.name value.text]
  | writeSize container => .perform "WriteInt" [.length container.text]
  | writeMessage reference value =>
    .perform "WritePacket" [.name value.text, .constant reference.id.toInt]
  | readScalar base result => .define result.text (.call ("Read" ++ base.method .go) [])
  | readSize size => .define size.text (.call "ReadInt" [])
  | readMessage reference result =>
    .defineAsserted result.text (.call "ReadPacket" [.constant reference.id.toInt])
      (Kind.message reference).goType
  | makeCollection .array element result size | makeCollection .list element result size =>
    .define result.text (.make (.slice element.goType) [.constant 0, .name size.text])
  | makeCollection .set element result size =>
    .define result.text (.make (.map element.goType .bool) [.name size.text])
  | makeMap key value result size =>
    .define result.text (.make (.map key.goType value.goType) [.name size.text])
  | insertElement .array result item | insertElement .list result item =>
    .assign result.text (.append result.text (.name item.text))
  | insertElement .set result item => .assignEntry result.text (.name item.text) .truth
  | insertEntry result key value => .assignEntry result.text (.name key.text) (.name value.text)
  | assignField field value => .assign ("packet." ++ field) (.atom (.name value.text))
  | returnMessage => .leave (.name "packet")

/-- The first line of a block that is written for one. -/
def Header.go : Header → Go.Header
  | forEachElement .array element container | forEachElement .list element container =>
    .eachItem element.text container.text
  | forEachElement .set element container => .eachKey element.text container.text
  | forEachEntry key value container => .eachEntry key.text value.text container.text
  | forIndex index size => .count index.text size.text
  | whenExhausted => .whenNot "IsReadable"

/-- The program that is written for a code. -/
def Code.go : Code → Go.Program
  | done => .done
  | line statement rest => .line statement.go rest.go
  | block header body rest => .block header.go body.go rest.go

/-- The lines of a program at a depth. -/
def Go.Program.lines (depth : Nat) : Go.Program → List Line
  | .done => []
  | .line statement rest => ⟨depth, statement.text⟩ :: rest.lines depth
  | .block header body rest =>
    ⟨depth, header.text⟩ :: body.lines (depth + 1) ++ ⟨depth, "\x7d"⟩ :: rest.lines depth

/-- A statement is spelled as its Go statement is written. -/
theorem Statement.go_text (statement : Statement) : statement.go.text = statement.text .go := by
  have zero : (Int.repr 0).toList = ['0'] := by decide
  rw [← String.toList_inj, text_fragments]
  cases statement with
  | makeCollection shape element result size =>
    cases shape <;>
      simp [go, Go.Statement.text, Go.Expression.text, Go.argumentsText, Go.Atom.text,
        Text.joinWith, fragments, Text.Fragment.text, Go.ValueType.text, Go.ValueType.bool,
        Kind.go_type_text, zero]
  | insertElement shape result item =>
    cases shape <;>
      simp [go, Go.Statement.text, Go.Expression.text, Go.Atom.text, fragments, Text.Fragment.text]
  | readMessage reference result =>
    simp only [go, Go.Statement.text, Kind.go_type_text]
    simp [Go.Expression.text, Go.argumentsText, Go.Atom.text, Text.joinWith, fragments,
      Text.Fragment.text, ProtocolId.literal]
  | _ =>
    simp [go, Go.Statement.text, Go.Expression.text, Go.argumentsText, Go.Atom.text,
      Text.joinWith, fragments, Text.Fragment.text, ProtocolId.literal, Go.ValueType.text,
      Kind.go_type_text]

/-- The first line of a block is spelled as its Go line is written. -/
theorem Header.go_text (header : Header) : header.go.text = header.text .go := by
  rw [← String.toList_inj, text_fragments]
  cases header with
  | forEachElement shape element container =>
    cases shape <;> simp [go, Go.Header.text, fragments, Text.Fragment.text]
  | _ =>
    simp [go, Go.Header.text, fragments, Text.Fragment.text, Go.Expression.text, Go.argumentsText,
      Text.joinWith]

/-- Code is spelled as its Go program is written. -/
theorem Code.go_lines (code : Code) (depth : Nat) : code.go.lines depth = code.lines .go depth := by
  induction code generalizing depth with
  | done => rfl
  | line statement rest inductionHypothesis =>
    simp only [go, Go.Program.lines, lines, Statement.go_text, inductionHypothesis]
  | block header body rest bodyHypothesis restHypothesis =>
    simp [go, Go.Program.lines, lines, Header.go_text, bodyHypothesis, restHypothesis,
      Language.closing]

/-- Code after code is program after program. -/
theorem Code.go_append (front back : Code) : (front ++ back).go = front.go ++ back.go := by
  induction front with
  | done => rfl
  | line statement rest inductionHypothesis =>
    exact congrArg (Go.Program.line statement.go) inductionHypothesis
  | block header body rest _ inductionHypothesis =>
    exact congrArg (Go.Program.block header.go body.go) inductionHypothesis

/-! ## Methods of the buffer -/

/-- A method is declared by the line of the bundled buffer that has a number. -/
theorem Go.declares_at {method : String} {signature : Signature} (number : Nat)
    (read : Template.Bundled.goBuffer[number]?.bind Signature.ofLine? = some (method, signature)) :
    Declares method signature := by
  obtain ⟨line, stands, declares⟩ := Option.bind_eq_some_iff.mp read
  exact ⟨line, List.mem_of_getElem? stands, declares⟩

/-- The method that writes a scalar takes its type. -/
theorem Scalar.write_method (base : Scalar) :
    Go.Declares ("Write" ++ base.method .go) ⟨[.named (base.typeName .go)], none⟩ := by
  cases base with
  | bool => exact Go.declares_at 89 (by decide +kernel)
  | byte => exact Go.declares_at 101 (by decide +kernel)
  | short => exact Go.declares_at 109 (by decide +kernel)
  | int => exact Go.declares_at 147 (by decide +kernel)
  | long => exact Go.declares_at 155 (by decide +kernel)
  | float => exact Go.declares_at 178 (by decide +kernel)
  | double => exact Go.declares_at 186 (by decide +kernel)
  | char => exact Go.declares_at 208 (by decide +kernel)
  | string => exact Go.declares_at 194 (by decide +kernel)

/-- The method that reads a scalar gives its type. -/
theorem Scalar.read_method (base : Scalar) :
    Go.Declares ("Read" ++ base.method .go) ⟨[], some (.named (base.typeName .go))⟩ := by
  cases base with
  | bool => exact Go.declares_at 97 (by decide +kernel)
  | byte => exact Go.declares_at 105 (by decide +kernel)
  | short => exact Go.declares_at 114 (by decide +kernel)
  | int => exact Go.declares_at 151 (by decide +kernel)
  | long => exact Go.declares_at 164 (by decide +kernel)
  | float => exact Go.declares_at 182 (by decide +kernel)
  | double => exact Go.declares_at 190 (by decide +kernel)
  | char => exact Go.declares_at 217 (by decide +kernel)
  | string => exact Go.declares_at 199 (by decide +kernel)

/-- The method that writes a message takes anything and a message number. -/
theorem write_packet_method : Go.Declares "WritePacket" ⟨[.any, .int16], none⟩ :=
  Go.declares_at 237 (by decide +kernel)

/-- The method that reads a message takes a message number and gives anything. -/
theorem read_packet_method : Go.Declares "ReadPacket" ⟨[.int16], some .any⟩ :=
  Go.declares_at 241 (by decide +kernel)

/-- Whether something is left to read is a truth value. -/
theorem is_readable_method : Go.Declares "IsReadable" ⟨[], some .bool⟩ :=
  Go.declares_at 54 (by decide +kernel)

/-! ## Variables in scope -/

namespace Go.Environment

/-- A variable that was declared last is found first. -/
theorem type_of_declared (frame : List (String × ValueType)) (outer : Environment)
    (name : String) (type : ValueType) :
    typeOf? (((name, type) :: frame) :: outer) name = some type := by
  simp [typeOf?]

/-- A block that does not declare a variable leaves it as it is. -/
theorem type_of_behind (frame others : List (String × ValueType)) (outer : Environment)
    (name : String) (isNew : IsNew name frame) :
    typeOf? ((frame ++ others) :: outer) name = typeOf? (others :: outer) name := by
  induction frame with
  | nil => rfl
  | cons entry frame inductionHypothesis =>
    have other : (name == entry.1) = false :=
      beq_eq_false_iff_ne.mpr (Ne.symm (isNew entry List.mem_cons_self))
    have behind := inductionHypothesis fun entry member =>
      isNew entry (List.mem_cons_of_mem _ member)
    obtain ⟨declared, type⟩ := entry
    simpa [typeOf?, List.lookup_cons, other] using behind

/-- A block that does not declare a variable leaves it as it is outside. -/
theorem type_of_outside (frame : List (String × ValueType)) (outer : Environment) (name : String)
    (isNew : IsNew name frame) : typeOf? (frame :: outer) name = typeOf? outer name := by
  have behind := type_of_behind frame [] outer name isNew
  rwa [List.append_nil] at behind

end Go.Environment

/-- Different temporaries have different names. -/
theorem Temporary.text_distinct {first second : Temporary} (different : first ≠ second) :
    first.text ≠ second.text :=
  fun same => different (first.text_injective second same)

/-! ## Writing -/

/-- A variable of the type of a container has a length. -/
theorem Kind.length_fits (kind : Kind) (environment : Go.Environment) (name : String)
    (typed : environment.typeOf? name = some kind.goType)
    (container : kind.tag ≠ .message ∧ ∀ base, kind.tag ≠ .scalar base) :
    Go.Fits environment (.length name) .int := by
  cases kind with
  | scalar base => exact absurd rfl (container.2 base)
  | collection shape element =>
    cases shape with
    | array | list => exact .sliceLength name _ typed
    | set => exact .mapLength name _ _ typed
  | map key value => exact .mapLength name _ _ typed
  | message reference => exact absurd rfl container.1

/-- The statement that writes the size of a container is typed. -/
theorem write_size_checks (environment : Go.Environment) (container : Operand)
    (sized : Go.Fits environment (.length container.text) .int) :
    (Statement.writeSize container).go.Checks environment environment :=
  .perform _ _ _ _ _ (Scalar.write_method .int) (.cons sized .nil)

/-- Code that writes a value of the type of a kind is typed, and declares nothing that is in scope
behind it.

Proof: induction on the kind. A loop declares its variables as what the container holds, and the
body sees them in front of everything else. -/
theorem Kind.write_code_checks (kind : Kind) (value : Operand) (next : Nat)
    (environment : Go.Environment) (typed : environment.typeOf? value.text = some kind.goType) :
    (kind.writeCode value next).go.Checks environment environment := by
  induction kind generalizing value next environment with
  | scalar base =>
    exact .line _ _ _ _ _
      (.perform _ _ _ _ _ base.write_method (.cons (.same _ _ typed) .nil)) (.done _)
  | collection shape element inductionHypothesis =>
    have sized := Kind.length_fits _ environment value.text typed (by simp [tag])
    let item : Temporary := ⟨.element, next⟩
    have inner := inductionHypothesis (.temporary item) (next + 1)
      ([] :: [(item.text, element.goType)] :: environment)
      (Go.Environment.type_of_declared _ _ _ _)
    have bound : Go.Binds environment (Header.forEachElement shape item value).go
        [(item.text, element.goType)] := by
      cases shape with
      | array | list => exact .eachItem _ _ _ typed
      | set => exact .eachKey _ _ _ _ typed
    exact .line _ _ _ _ _ (write_size_checks environment value sized)
      (.block _ _ _ _ _ _ _ bound inner (.done _))
  | map key entry keyHypothesis entryHypothesis =>
    have sized := Kind.length_fits _ environment value.text typed (by simp [tag])
    let keyItem : Temporary := ⟨.key, next⟩
    let entryItem : Temporary := ⟨.value, next + 1⟩
    have apart : keyItem.text ≠ entryItem.text :=
      Temporary.text_distinct (by simp [keyItem, entryItem])
    let inside : Go.Environment :=
      [] :: [(keyItem.text, key.goType), (entryItem.text, entry.goType)] :: environment
    have keyInner := keyHypothesis (.temporary keyItem) (next + 2) inside
      (Go.Environment.type_of_declared _ _ _ _)
    have entryTyped : inside.typeOf? entryItem.text = some entry.goType :=
      (Go.Environment.type_of_behind [(keyItem.text, key.goType)] _ _ _
        (by simpa [Go.IsNew] using apart)).trans (Go.Environment.type_of_declared _ _ _ _)
    have entryInner := entryHypothesis (.temporary entryItem) (next + 2 + key.writeTemporaries)
      inside entryTyped
    have both := keyInner.append entryInner
    rw [← Code.go_append] at both
    exact .line _ _ _ _ _ (write_size_checks environment value sized)
      (.block _ _ _ _ _ _ _ (.eachEntry _ _ _ _ _ apart typed) both (.done _))
  | message reference =>
    have low := Int16.le_toInt reference.id
    have high := Int16.toInt_lt reference.id
    exact .line _ _ _ _ _ (.perform _ _ _ _ _ write_packet_method
      (.cons (.boxed _ _ typed) (.cons (.int16 _ low (by omega)) .nil))) (.done _)

/-! ## Reading -/

/-- Variables with their types, and in front of them the size of a container that is read. -/
abbrev sizedFrame (next : Nat) (frame : List (String × Go.ValueType)) :
    List (String × Go.ValueType) :=
  ((⟨.size, next⟩ : Temporary).text, .int) :: frame

/-- Variables with their types, and in front of them a container that is read and its size. -/
abbrev madeFrame (next : Nat) (made : Go.ValueType) (frame : List (String × Go.ValueType)) :
    List (String × Go.ValueType) :=
  ((⟨.result, next + 1⟩ : Temporary).text, made) :: sizedFrame next frame

/-- What code that reads a value declares, the variable with the value in front. -/
def Kind.readFrame (next : Nat) (kind : Kind) : List (String × Go.ValueType) :=
  match kind with
  | scalar _ | message _ => [((⟨.result, next⟩ : Temporary).text, kind.goType)]
  | collection _ _ | map _ _ => madeFrame next kind.goType []

/-- Whether no temporary with a number from one on is declared. -/
def IsFree (first : Nat) (frame : List (String × Go.ValueType)) : Prop :=
  ∀ temporary : Temporary, first ≤ temporary.number → Go.IsNew temporary.text frame

/-- Code that reads a value declares only temporaries of its own. -/
theorem Kind.read_frame_new (kind : Kind) (next : Nat) (temporary : Temporary)
    (outside : temporary.number < next ∨ next + kind.readTemporaries ≤ temporary.number) :
    Go.IsNew temporary.text (kind.readFrame next) := by
  have other (own : Temporary) (notBefore : next ≤ own.number)
      (notBehind : own.number < next + kind.readTemporaries) : own.text ≠ temporary.text :=
    Temporary.text_distinct (by rintro rfl; omega)
  cases kind with
  | scalar base | message reference =>
    simpa [Go.IsNew, readFrame] using other ⟨.result, next⟩ (Nat.le_refl _) (Nat.lt_succ_self _)
  | collection shape element | map key value =>
    have result := other ⟨.result, next + 1⟩ (by simp) (by simp only [readTemporaries]; omega)
    have size := other ⟨.size, next⟩ (Nat.le_refl _) (by simp only [readTemporaries]; omega)
    simpa [Go.IsNew, readFrame] using And.intro result size

/-- The value that was read is in a variable of the type of its kind. -/
theorem Kind.read_frame_result (kind : Kind) (next : Nat) (frame : List (String × Go.ValueType))
    (outer : Go.Environment) :
    Go.Environment.typeOf? ((kind.readFrame next ++ frame) :: outer) (kind.readResult next).text =
      some kind.goType := by
  cases kind <;> exact Go.Environment.type_of_declared _ _ _ _

/-- The variables around the body of the loop that reads the items of a container. -/
abbrev loopScope (next : Nat) (made : Go.ValueType) (frame : List (String × Go.ValueType))
    (outer : Go.Environment) : Go.Environment :=
  [((⟨.index, next + 2⟩ : Temporary).text, .int)] :: madeFrame next made frame :: outer

/-- The body of the loop sees the container, if it does not declare the name anew. -/
theorem loop_scope_result (next : Nat) (made : Go.ValueType)
    (inside frame : List (String × Go.ValueType)) (outer : Go.Environment)
    (isNew : Go.IsNew (⟨.result, next + 1⟩ : Temporary).text inside) :
    Go.Environment.typeOf? (inside :: loopScope next made frame outer)
      (⟨.result, next + 1⟩ : Temporary).text = some made := by
  have index : (⟨.index, next + 2⟩ : Temporary).text ≠ (⟨.result, next + 1⟩ : Temporary).text :=
    Temporary.text_distinct (by simp)
  rw [Go.Environment.type_of_outside _ _ _ isNew,
    Go.Environment.type_of_outside _ _ _ (by simpa [Go.IsNew] using index),
    Go.Environment.type_of_declared]

/-- The statement that makes a container is typed behind the one that reads its size. -/
theorem define_container_checks (next : Nat) (made : Go.ValueType)
    (frame : List (String × Go.ValueType)) (outer : Go.Environment) (free : IsFree next frame)
    (value : Go.Expression)
    (typed : ∀ environment : Go.Environment,
      environment.typeOf? (⟨.size, next⟩ : Temporary).text = some .int →
        Go.HasType environment value made) :
    (Go.Statement.define (⟨.result, next + 1⟩ : Temporary).text value).Checks
      (sizedFrame next frame :: outer) (madeFrame next made frame :: outer) := by
  have isNew : Go.IsNew (⟨.result, next + 1⟩ : Temporary).text (sizedFrame next frame) :=
    List.forall_mem_cons.mpr ⟨Temporary.text_distinct (by simp), free _ (by simp)⟩
  exact .define _ _ _ _ _ isNew (typed _ (Go.Environment.type_of_declared _ _ _ _))

/-- The code that reads a container is typed if the container is made in the scope of its size,
and the body is typed in the scope of both. -/
theorem container_checks (next : Nat) (made : Go.ValueType)
    (frame : List (String × Go.ValueType)) (outer inside : Go.Environment)
    (free : IsFree next frame) (make : Statement) (body : Code)
    (makes : make.go.Checks (sizedFrame next frame :: outer) (madeFrame next made frame :: outer))
    (inner : body.go.Checks ([] :: loopScope next made frame outer) inside) :
    (Code.line (.readSize ⟨.size, next⟩) (.line make
        (.block (.forIndex ⟨.index, next + 2⟩ ⟨.size, next⟩) body .done))).go.Checks
      (frame :: outer) (madeFrame next made frame :: outer) := by
  have apart : (⟨.result, next + 1⟩ : Temporary).text ≠ (⟨.size, next⟩ : Temporary).text :=
    Temporary.text_distinct (by simp)
  have sized : Go.Environment.typeOf? (madeFrame next made frame :: outer)
      (⟨.size, next⟩ : Temporary).text = some .int :=
    (Go.Environment.type_of_behind [(_, made)] _ _ _ (by simpa [Go.IsNew] using apart)).trans
      (Go.Environment.type_of_declared _ _ _ _)
  exact .line _ _ _ _ _ (.define _ _ _ _ _ (free _ (Nat.le_refl _))
      (.call _ _ _ _ (Scalar.read_method .int) .nil))
    (.line _ _ _ _ _ makes (.block _ _ _ _ _ _ _ (.count _ _ sized) inner (.done _)))

/-- The statement that makes a collection is typed behind the one that reads its size. -/
theorem make_collection_checks (shape : Collection) (element : Kind) (next : Nat)
    (frame : List (String × Go.ValueType)) (outer : Go.Environment) (free : IsFree next frame) :
    (Statement.makeCollection shape element ⟨.result, next + 1⟩ ⟨.size, next⟩).go.Checks
      (sizedFrame next frame :: outer)
      (madeFrame next (Kind.collection shape element).goType frame :: outer) := by
  cases shape with
  | array | list =>
    exact define_container_checks next _ frame outer free _ fun _ sized => .makeSlice _ _ _
      (.cons (.int 0 (by decide) (by decide)) (.cons (.same _ _ sized) .nil))
  | set =>
    exact define_container_checks next _ frame outer free _ fun _ sized => .makeMap _ _ _
      (.cons (.same _ _ sized) .nil)

/-- The statement that puts an element into a collection is typed where both have their types. -/
theorem insert_element_checks (shape : Collection) (element : Kind) (environment : Go.Environment)
    (result item : Temporary)
    (container : environment.typeOf? result.text = some (Kind.collection shape element).goType)
    (typed : environment.typeOf? item.text = some element.goType) :
    (Statement.insertElement shape result item).go.Checks environment environment := by
  cases shape with
  | array | list => exact .assign _ _ _ _ container (.append _ _ _ container (.same _ _ typed))
  | set => exact .assignEntry _ _ _ _ _ _ container (.same _ _ typed) .truth

/-- Code that reads a value of a kind is typed where its temporaries are not declared, and leaves
the value in a variable of the type of the kind.

Proof: induction on the kind. The parts of a container are read in a block of their own, which
sees the container; what was read of a key stays in scope while the value is read. -/
theorem Kind.read_code_checks (kind : Kind) (next : Nat) (frame : List (String × Go.ValueType))
    (outer : Go.Environment) (free : IsFree next frame) :
    (kind.readCode next).go.Checks (frame :: outer) ((kind.readFrame next ++ frame) :: outer) := by
  induction kind generalizing next frame outer with
  | scalar base =>
    exact .line _ _ _ _ _ (.define _ _ _ _ _ (free _ (Nat.le_refl _))
      (.call _ _ _ _ base.read_method .nil)) (.done _)
  | collection shape element inductionHypothesis =>
    let made := (collection shape element).goType
    let around := loopScope next made frame outer
    have read := inductionHypothesis (next + 3) [] around fun _ _ => List.forall_mem_nil _
    have item := element.read_frame_result (next + 3) [] around
    rw [List.append_nil] at read item
    have container := loop_scope_result next made (element.readFrame (next + 3)) frame outer
      (element.read_frame_new _ _ (Or.inl (by simp)))
    have insert := insert_element_checks shape element _ ⟨.result, next + 1⟩
      (element.readResult (next + 3)) container item
    have body := read.append (.line _ _ _ _ _ insert (.done _))
    exact container_checks next made frame outer _ free _ _
      (make_collection_checks shape element next frame outer free)
      (by rw [Code.go_append]; exact body)
  | map key entry keyHypothesis entryHypothesis =>
    let made := (map key entry).goType
    let around := loopScope next made frame outer
    let entryNext := next + 3 + key.readTemporaries
    have readKey := keyHypothesis (next + 3) [] around fun _ _ => List.forall_mem_nil _
    have keyed := key.read_frame_result (next + 3) [] around
    rw [List.append_nil] at readKey keyed
    have readEntry := entryHypothesis entryNext (key.readFrame (next + 3)) around
      fun temporary behind => key.read_frame_new _ _ (Or.inr behind)
    have stored := entry.read_frame_result entryNext (key.readFrame (next + 3)) around
    -- The entry is read in the block of the key, but under other names.
    rw [← Go.Environment.type_of_behind (entry.readFrame entryNext) _ _ _
      (entry.read_frame_new _ _ (Or.inl (key.read_result_range (next + 3)).2))] at keyed
    have container := loop_scope_result next made
      (entry.readFrame entryNext ++ key.readFrame (next + 3)) frame outer
      (List.forall_mem_append.mpr
        ⟨entry.read_frame_new _ _ (Or.inl (by simp only [entryNext]; omega)),
          key.read_frame_new _ _ (Or.inl (by simp))⟩)
    have insert := Go.Statement.Checks.assignEntry _ _ _ _ _ _ container (.same _ _ keyed)
      (.same _ _ stored)
    have body := readKey.append (readEntry.append (.line _ _ _ _ _ insert (.done _)))
    exact container_checks next made frame outer _ free _ _
      (define_container_checks next made frame outer free _ fun _ sized => .makeMap _ _ _
        (.cons (.same _ _ sized) .nil))
      (by rw [Code.go_append, Code.go_append]; exact body)
  | message reference =>
    have low := Int16.le_toInt reference.id
    have high := Int16.toInt_lt reference.id
    exact .line _ _ _ _ _ (.defineAsserted _ _ _ _ _ (free _ (Nat.le_refl _))
      (.call _ _ _ _ read_packet_method (.cons (.int16 _ low (by omega)) .nil))) (.done _)

/-! ## Kinds and blocks -/

/-- What it means that the code for a kind is well typed. -/
structure Kind.IsWellTyped (kind : Kind) : Prop where
  /-- The type is the one that fields of the kind are declared with. -/
  declared : ∀ field : Field, field.kind = kind →
    field.declaration .go (field.kind.typeName .go) = field.name ++ " " ++ kind.goType.text
  /-- The keys of its maps can be compared, if sets and maps hold scalars as they have to. -/
  formed : kind.IsHashed → kind.goType.IsFormed
  /-- Writing a value of the type adds a typed program, which declares nothing for what follows. -/
  writes : ∀ (emitter : Emitter) (value : String) (depth : Nat) (environment : Go.Environment),
    emitter.language = .go → environment.typeOf? value = some kind.goType →
      let program := (kind.writeCode (.expression value) emitter.next).go
      (emitter.write value depth kind).lines = emitter.lines ++ program.lines depth ∧
        program.Checks environment environment
  /-- Reading a value, where nothing has the names of coming temporaries, adds a typed program.
  The expression that is given has the type, and coming temporaries are free again. -/
  reads : ∀ (emitter : Emitter) (depth : Nat) (frame : List (String × Go.ValueType))
    (outer : Go.Environment), emitter.language = .go → IsFree emitter.next frame →
      let program := (kind.readCode emitter.next).go
      let after := kind.readFrame emitter.next ++ frame
      (emitter.read depth kind).1.lines = emitter.lines ++ program.lines depth ∧
        program.Checks (frame :: outer) (after :: outer) ∧
        Go.Environment.typeOf? (after :: outer) (emitter.read depth kind).2 =
          some kind.goType ∧
        IsFree (emitter.read depth kind).1.next after

/-- Temporaries stay free behind code that reads a value. -/
theorem Kind.read_frame_free (kind : Kind) (next : Nat) (frame : List (String × Go.ValueType))
    (free : IsFree next frame) :
    IsFree (next + kind.readTemporaries) (kind.readFrame next ++ frame) :=
  fun temporary behind => List.forall_mem_append.mpr
    ⟨kind.read_frame_new _ _ (Or.inr behind), free _ (by omega)⟩

/-- The code for every kind is well typed, whatever is nested in it. -/
theorem Kind.is_well_typed (kind : Kind) : kind.IsWellTyped where
  declared field same := by
    rw [same, Field.declaration, Kind.go_type_text]
  formed := kind.go_type_formed
  writes emitter value depth environment language typed := by
    constructor
    · rw [Code.go_lines, ← language]
      rfl
    · exact kind.write_code_checks (.expression value) emitter.next environment typed
  reads emitter depth frame outer language free := by
    refine ⟨?lines, kind.read_code_checks _ _ _ free, kind.read_frame_result _ _ _,
      kind.read_frame_free _ _ free⟩
    case lines =>
      rw [Code.go_lines, ← language]
      rfl

/-- The fields of a message as variables, with what stands in front of each name. -/
def fieldScope (front : String) (fields : List Field) : List (String × Go.ValueType) :=
  fields.map fun field => (front ++ field.name, field.kind.goType)

/-- Every field has the type of its kind, if no two fields have one name. -/
theorem field_scope_found (front : String) (fields : List Field)
    (distinct : fields.Pairwise fun field other => field.name ≠ other.name) :
    ∀ field ∈ fields,
      (fieldScope front fields).lookup (front ++ field.name) = some field.kind.goType := by
  have apart : (fieldScope front fields).Pairwise fun entry other => entry.1 ≠ other.1 := by
    rw [fieldScope, List.pairwise_map]
    refine distinct.imp fun different same => different ?_
    simpa [← String.toList_inj] using same
  intro field member
  exact lookup_distinct _ apart (front ++ field.name, field.kind.goType)
    (List.mem_map_of_mem member)

/-- Code that writes fields is typed where the fields have the types of their kinds. -/
theorem write_fields_check (fields : List Field) (next : Nat) (environment : Go.Environment)
    (typed : ∀ field ∈ fields, environment.typeOf? field.valueText = some field.kind.goType) :
    (writeFields next fields).go.Checks environment environment := by
  induction fields generalizing next with
  | nil => exact .done _
  | cons field fields inductionHypothesis =>
    obtain ⟨first, others⟩ := List.forall_mem_cons.mp typed
    have front := field.kind.write_code_checks (.expression field.valueText) next environment first
    have back := inductionHypothesis (next + field.kind.writeTemporaries) others
    rw [writeFields, Code.go_append]
    exact front.append back

/-- No temporary has the name of the message that is read, or of one of its fields. -/
theorem Temporary.text_no_packet (temporary : Temporary) (behind : String) :
    temporary.text ≠ "packet" ++ behind := by
  intro same
  obtain ⟨role, number⟩ := temporary
  have heads := congrArg (fun text : String => text.toList.head?) same
  cases role <;> simp [text, Role.word] at heads

/-- Reading a value does not hide the message that is read. -/
theorem Kind.read_frame_hides_no_packet (kind : Kind) (next : Nat) (behind : String) :
    Go.IsNew ("packet" ++ behind) (kind.readFrame next) := by
  cases kind <;> simp [Go.IsNew, readFrame, Temporary.text_no_packet]

/-- The guard in front of an appended field is typed where the message is in scope. -/
theorem exhaustion_guard_checks (environment : Go.Environment) (type : Go.ValueType)
    (packet : environment.typeOf? "packet" = some type) :
    exhaustionGuard.go.Checks environment environment :=
  .block _ _ _ _ _ _ _ (.whenNot _ is_readable_method)
    (.line _ _ _ _ _ (.leave _ _ (.boxed _ type packet)) (.done _)) (.done _)

/-- Code that reads fields is typed where its temporaries are free and the fields have the types of
their kinds, whichever of them may be missing. -/
theorem read_fields_check (fields : List Field) (next : Nat)
    (frame : List (String × Go.ValueType)) (outer : Go.Environment) (free : IsFree next frame)
    (seen : ∀ behind, Go.IsNew ("packet" ++ behind) frame) (type : Go.ValueType)
    (packet : outer.typeOf? "packet" = some type)
    (typed : ∀ field ∈ fields,
      outer.typeOf? ("packet" ++ ("." ++ field.name)) = some field.kind.goType) :
    ∃ after, (readFields next fields).go.Checks (frame :: outer) (after :: outer) := by
  induction fields generalizing next frame with
  | nil => exact ⟨frame, .done _⟩
  | cons field fields inductionHypothesis =>
    obtain ⟨first, others⟩ := List.forall_mem_cons.mp typed
    let after := field.kind.readFrame next ++ frame
    have seenAfter (behind : String) : Go.IsNew ("packet" ++ behind) after :=
      List.forall_mem_append.mpr ⟨field.kind.read_frame_hides_no_packet next behind, seen behind⟩
    have guard : (if field.appended then exhaustionGuard else Code.done).go.Checks (frame :: outer)
        (frame :: outer) := by
      split
      · refine exhaustion_guard_checks _ type ?_
        rw [Go.Environment.type_of_outside _ _ _ (by simpa using seen ""), packet]
      · exact .done _
    have read := field.kind.read_code_checks next frame outer free
    have assign : (Statement.assignField field.name (field.kind.readResult next)).go.Checks
        (after :: outer) (after :: outer) := by
      refine .assign _ _ _ _ ?_ (.name _ _ (field.kind.read_frame_result next frame outer))
      rw [show "packet." = "packet" ++ "." from rfl, String.append_assoc,
        Go.Environment.type_of_outside _ _ _ (seenAfter _), first]
    obtain ⟨last, rest⟩ := inductionHypothesis (next + field.kind.readTemporaries) after
      (field.kind.read_frame_free next frame free) seenAfter others
    refine ⟨last, ?_⟩
    rw [readFields, Field.readCode, Code.go_append, Code.go_append, Code.go_append]
    exact (guard.append (read.append (.line _ _ _ _ _ assign (.done _)))).append rest

/-- What is in scope where the fields of a message are read: the message and its fields. -/
def Message.packetScope (message : Message) : List (String × Go.ValueType) :=
  ("packet", .pointer (.named message.typeName)) :: fieldScope "packet." message.fields

/-- What it means that the blocks of a message are well typed. -/
structure Message.IsWellTyped (message : Message) : Prop where
  /-- The block that writes the fields is a program, typed where the message that is written has
  fields of the declared types, and declares nothing for what follows. -/
  writes : ∃ program : Go.Program, message.writeLines .go = program.lines 1 ∧
    program.Checks [fieldScope "message." message.fields] [fieldScope "message." message.fields]
  /-- The block that reads the fields is a program, typed where the message that is read has fields
  of the declared types. -/
  reads : ∃ program : Go.Program, message.readLines .go = program.lines 1 ∧
    ∃ after, program.Checks [[], message.packetScope] [after, message.packetScope]

/-- The blocks of a message are well typed if no two of its fields have one name. -/
theorem Message.is_well_typed (message : Message)
    (distinct : message.fields.Pairwise fun field other => field.name ≠ other.name) :
    message.IsWellTyped := by
  constructor
  case writes =>
    refine ⟨_, (Code.go_lines (writeFields 0 message.fields) 1).symm, ?_⟩
    apply write_fields_check
    intro field member
    rw [Go.Environment.typeOf?, List.flatten_singleton]
    exact field_scope_found "message." message.fields distinct field member
  case reads =>
    refine ⟨_, (Code.go_lines (readFields 0 message.fields) 1).symm, ?_⟩
    refine read_fields_check _ _ _ _ (fun _ _ => List.forall_mem_nil _)
      (fun _ => List.forall_mem_nil _) _ (Go.Environment.type_of_declared _ _ _ _) ?_
    intro field member
    have found := field_scope_found "packet." message.fields distinct field member
    have other : ("packet" ++ ("." ++ field.name) == "packet") = false := by
      simp [← String.toList_inj]
    rw [Go.Environment.typeOf?, List.flatten_singleton, packetScope, List.lookup_cons, other,
      ← String.append_assoc]
    exact found

/-- What it means that all generated Go is well typed. -/
structure EmittedWellTyped : Prop where
  /-- The code for every kind is well typed, whatever is nested in it. -/
  kinds : ∀ kind : Kind, kind.IsWellTyped
  /-- The blocks of every message in a table that is made from messages are well typed, whichever
  of its fields are guarded. -/
  messages : ∀ (messages : List Message) (table : Table), Table.ofMessages messages = .ok table →
    ∀ message ∈ table.messages, message.IsWellTyped

/-- Generated Go is well typed.

Proof: the code for a kind is typed by induction on the kind, in which the parts of a container are
typed in a block of their own. The code of a block puts that of its fields in a row, and no
temporary hides the message that is read, so that the guards and assignments between them are typed
as well. -/
theorem emitted_well_typed : EmittedWellTyped where
  kinds := Kind.is_well_typed
  messages messages table accepted message member := by
    obtain ⟨validated, rfl⟩ := (Table.of_messages_iff messages table).mp accepted
    have given := validated.table_permutation.mem_iff.mp member
    exact message.is_well_typed (validated.distinct message given)

end PacketSmith
