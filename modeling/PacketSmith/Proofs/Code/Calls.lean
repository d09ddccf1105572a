import Std.Data.String.ToInt
import PacketSmith.Proofs.Code.Vocabulary

/-!
# Calls on the buffer

The calls on the buffer are read off the text of emitted code: for each line in order its
depth, what its call moves, and the number of the message for a nested message. The names of the
methods are those of the buffers that come with the library.

What is read off the text of plain code is what its statements move. A statement moves one item
at most, and the lines that open or close a block move nothing.
-/

namespace PacketSmith.Wire

/-- Whether code writes values or reads them. -/
inductive Direction where
  | write
  | read
  deriving DecidableEq, Repr

/-- What the path of a call on the buffer begins with. -/
def Direction.stem (language : Language) (direction : Direction) : String :=
  match language, direction with
  | .go, .write => "buffer.Write"
  | .go, .read => "buffer.Read"
  | .python, .write => "buffer.write_"
  | .python, .read => "buffer.read_"

/-- How many words stand between a call for a nested message and the number of the message:
the value is written first. -/
def Direction.numberPlace : Direction → Nat
  | write => 1
  | read => 0

/-- The methods for scalars, by the end of their names. -/
def scalarMethods : Language → List (String × Scalar)
  | .go => [("Bool", .bool), ("Int8", .byte), ("Short", .short), ("Int", .int), ("Long", .long),
      ("Float", .float), ("Double", .double), ("Char", .char), ("String", .string)]
  | .python => [("bool", .bool), ("byte", .byte), ("short", .short), ("int", .int),
      ("long", .long), ("float", .float), ("double", .double), ("char", .char),
      ("string", .string)]

/-- The method for nested messages, by the end of its name. -/
def packetMethod : Language → String
  | .go => "Packet"
  | .python => "packet"

/-- What a call moves. -/
inductive Item where
  /-- A scalar. -/
  | scalar (base : Scalar)
  /-- A nested message with a number. -/
  | packet (id : Int)
  /-- Something by a method that is not known. -/
  | unknown (method : List Char)
  deriving DecidableEq, Repr

/-- What a call of a method moves, given the words behind the call. -/
def itemOf (language : Language) (direction : Direction) (method : List Char)
    (behind : List (List Char)) : Item :=
  if method = (packetMethod language).toList then
    match behind[direction.numberPlace]?.bind fun word => (String.ofList word).toInt? with
    | some id => .packet id
    | none => .unknown method
  else
    match (scalarMethods language).find? fun entry => entry.1.toList == method with
    | some entry => .scalar entry.2
    | none => .unknown method

/-- The items moved by the calls among the words of a line. -/
def itemsOn (language : Language) (direction : Direction) : List (List Char) → List Item
  | [] => []
  | word :: behind =>
    match Text.afterPrefix? (direction.stem language).toList word with
    | some method => itemOf language direction method behind :: itemsOn language direction behind
    | none => itemsOn language direction behind

/-- A call: how deep its line is below the code around it, and what it moves. -/
structure Operation where
  /-- The depth of the line, counted from the depth of the block. -/
  depth : Int
  /-- What is moved. -/
  item : Item
  deriving DecidableEq, Repr

/-- The calls in the lines of a block. -/
def operationsOn (language : Language) (direction : Direction) (lines : List Line) :
    List Operation :=
  lines.flatMap fun line => (itemsOn language direction (Text.words line.text.toList)).map
    fun item => ⟨line.depth - language.layout.bodyDepth, item⟩

/-- The calls of one direction in the text of a block. -/
def operationsIn (language : Language) (direction : Direction) (code : String) : List Operation :=
  operationsOn language direction (linesOf language code)

/-- Whether a word is no call on the buffer. -/
def Quiet (word : List Char) : Prop :=
  ∀ language (direction : Direction),
    Text.afterPrefix? (direction.stem language).toList word = none

/-- A word that does not begin with the letter that calls begin with is no call. -/
theorem quiet_head (first : Char) (others : List Char) (different : first ≠ 'b') :
    Quiet (first :: others) := by
  intro language direction
  cases language <;> cases direction <;>
    simp [Direction.stem, Text.afterPrefix?, different.symm]

/-- A word without dots is no call. -/
theorem quiet_undotted (word : List Char) (undotted : '.' ∉ word) : Quiet word := by
  intro language direction
  apply Text.after_prefix_absent _ _ '.' _ undotted
  cases language <;> cases direction <;> decide

/-- Words that are no calls move nothing. -/
theorem items_quiet (language : Language) (direction : Direction) (words behind : List (List Char))
    (quiet : ∀ word ∈ words, Quiet word) :
    itemsOn language direction (words ++ behind) = itemsOn language direction behind := by
  induction words with
  | nil => rfl
  | cons word words inductionHypothesis =>
    have first : Quiet word := quiet word List.mem_cons_self
    rw [List.cons_append, itemsOn, first language direction]
    exact inductionHypothesis fun other member => quiet other (List.mem_cons_of_mem word member)

/-- Temporaries are no calls, and neither are the methods of their values. -/
theorem quiet_temporary (temporary : Temporary) (method : List Char) :
    Quiet (temporary.text.toList ++ method) := by
  obtain ⟨role, number⟩ := temporary
  cases role <;>
    (simp only [Temporary.text, Role.word, String.toList_append]; exact quiet_head _ _ (by decide))

/-- Plain operands are no calls. -/
theorem quiet_operand (operand : Operand) (plain : operand.IsPlain) :
    Quiet operand.text.toList := by
  cases operand with
  | expression written =>
    obtain ⟨name, _, rfl⟩ := plain
    rw [Operand.text, String.toList_append]
    exact quiet_head 'm' _ (by decide)
  | temporary numbered => simpa [Operand.text] using quiet_temporary numbered []

/-- Numbers of messages are no calls. -/
theorem quiet_number (id : ProtocolId) : Quiet (ProtocolId.literal id).toList := by
  apply quiet_undotted
  intro dot
  rcases id.literal_characters.2 '.' dot with sign | digit
  · exact absurd sign (by decide)
  · exact absurd digit (by decide)

/-- The words of types are no calls. -/
theorem quiet_type (language : Language) (kind : Kind) (named : kind.NamesIdentifiers) :
    ∀ word ∈ Text.words (kind.typeName language).toList, Quiet word := by
  intro word found
  apply quiet_undotted
  intro dot
  have member := Text.words_members _ word found '.' dot
  have allowed := List.all_eq_true.mp (kind.type_name_characters language named) '.' member
  exact absurd allowed (by decide)

/-- One call among words that are none moves one item, in the direction of the call. -/
theorem items_call (language : Language) (made direction : Direction)
    (front : List (List Char)) (method : List Char) (behind : List (List Char))
    (quietFront : ∀ word ∈ front, Quiet word) (quietBehind : ∀ word ∈ behind, Quiet word) :
    itemsOn language direction (front ++ ((made.stem language).toList ++ method) :: behind) =
      if made = direction then [itemOf language made method behind] else [] := by
  have nothing : itemsOn language direction behind = [] := by
    simpa [itemsOn] using items_quiet language direction behind [] quietBehind
  rw [items_quiet language direction front _ quietFront, itemsOn]
  by_cases same : made = direction
  · subst same
    simp [Text.after_prefix_append, nothing]
  · have other : Text.afterPrefix? (direction.stem language).toList
        ((made.stem language).toList ++ method) = none := by
      cases language <;> cases made <;> cases direction <;> first | rfl | exact absurd rfl same
    simp [other, nothing, same]

/-- The method of a scalar moves that scalar. -/
theorem item_scalar (language : Language) (direction : Direction) (base : Scalar)
    (behind : List (List Char)) :
    itemOf language direction (base.method language).toList behind = .scalar base := by
  cases language <;> cases base <;> rfl

/-- The method of nested messages moves the message whose number stands in its place. -/
theorem item_packet (language : Language) (direction : Direction) (id : ProtocolId)
    (behind : List (List Char))
    (place : behind[direction.numberPlace]? = some (ProtocolId.literal id).toList) :
    itemOf language direction (packetMethod language).toList behind = .packet id.toInt := by
  have number : (ProtocolId.literal id).toInt? = some id.toInt := by
    rw [ProtocolId.literal, Int.toString_eq_repr, Int.toInt?_repr]
  simp [itemOf, place, number]

/-- Words that are no calls move nothing at all. -/
theorem items_none (language : Language) (direction : Direction) (words : List (List Char))
    (quiet : ∀ word ∈ words, Quiet word) : itemsOn language direction words = [] := by
  simpa [itemsOn] using items_quiet language direction words [] quiet

/-- The text of a temporary alone is no call. -/
theorem quiet_name (temporary : Temporary) : Quiet temporary.text.toList := by
  simpa using quiet_temporary temporary []

/-- What a statement moves. -/
def moved (direction : Direction) : Statement → List Item
  | .writeScalar base _ => if Direction.write = direction then [.scalar base] else []
  | .writeSize _ => if Direction.write = direction then [.scalar .int] else []
  | .writeMessage reference _ =>
    if Direction.write = direction then [.packet reference.id.toInt] else []
  | .readScalar base _ => if Direction.read = direction then [.scalar base] else []
  | .readSize _ => if Direction.read = direction then [.scalar .int] else []
  | .readMessage reference _ =>
    if Direction.read = direction then [.packet reference.id.toInt] else []
  | _ => []

/-- The writing of a scalar moves the scalar. -/
theorem items_write_scalar (language : Language) (direction : Direction) (base : Scalar)
    (value : Operand) (plain : value.IsPlain) :
    itemsOn language direction ((Statement.writeScalar base value).words language) =
      moved direction (.writeScalar base value) := by
  have called : (Statement.writeScalar base value).words language =
      [] ++ ((Direction.write.stem language).toList ++ (base.method language).toList) ::
        [value.text.toList] := by cases language <;> rfl
  rw [called, items_call _ _ _ _ _ _ (by simp) (by simpa using quiet_operand value plain),
    item_scalar, moved]

/-- The writing of a size moves an integer. -/
theorem items_write_size (language : Language) (direction : Direction) (container : Operand)
    (plain : container.IsPlain) :
    itemsOn language direction ((Statement.writeSize container).words language) =
      moved direction (.writeSize container) := by
  have operand := quiet_operand container plain
  have called : ∃ behind, (∀ word ∈ behind, Quiet word) ∧
      (Statement.writeSize container).words language =
        [] ++ ((Direction.write.stem language).toList ++ (Scalar.int.method language).toList) ::
          behind := by
    cases language with
    | go =>
      refine ⟨["len".toList, container.text.toList], ?_, rfl⟩
      simpa using ⟨quiet_undotted _ (by decide), operand⟩
    | python =>
      refine ⟨["0".toList, "if".toList, container.text.toList, "is".toList, "None".toList,
        "else".toList, "len".toList, container.text.toList], ?_, rfl⟩
      simp [operand, quiet_undotted]
  obtain ⟨behind, quietBehind, called⟩ := called
  rw [called, items_call _ _ _ _ _ _ (by simp) quietBehind, item_scalar, moved]

/-- The writing of a nested message moves the message with its number. -/
theorem items_write_message (language : Language) (direction : Direction) (reference : Reference)
    (value : Operand) (plain : value.IsPlain) :
    itemsOn language direction ((Statement.writeMessage reference value).words language) =
      moved direction (.writeMessage reference value) := by
  have quietBehind : ∀ word ∈ [value.text.toList, (ProtocolId.literal reference.id).toList],
      Quiet word := by
    simpa using ⟨quiet_operand value plain, quiet_number reference.id⟩
  have called : (Statement.writeMessage reference value).words language =
      [] ++ ((Direction.write.stem language).toList ++ (packetMethod language).toList) ::
        [value.text.toList, (ProtocolId.literal reference.id).toList] := by
    cases language <;> rfl
  rw [called, items_call _ _ _ _ _ _ (by simp) quietBehind,
    item_packet language .write reference.id _ rfl, moved]

/-- The reading of a scalar moves the scalar. -/
theorem items_read_scalar (language : Language) (direction : Direction) (base : Scalar)
    (result : Temporary) :
    itemsOn language direction ((Statement.readScalar base result).words language) =
      moved direction (.readScalar base result) := by
  have called : (Statement.readScalar base result).words language =
      [result.text.toList] ++
        ((Direction.read.stem language).toList ++ (base.method language).toList) :: [] := by
    cases language <;> rfl
  rw [called, items_call _ _ _ _ _ _ (by simpa using quiet_name result) (by simp), item_scalar,
    moved]

/-- The reading of a size moves an integer. -/
theorem items_read_size (language : Language) (direction : Direction) (size : Temporary) :
    itemsOn language direction ((Statement.readSize size).words language) =
      moved direction (.readSize size) := by
  have called : (Statement.readSize size).words language =
      [size.text.toList] ++
        ((Direction.read.stem language).toList ++ (Scalar.int.method language).toList) :: [] := by
    cases language <;> rfl
  rw [called, items_call _ _ _ _ _ _ (by simpa using quiet_name size) (by simp), item_scalar,
    moved]

/-- The reading of a nested message moves the message with its number. -/
theorem items_read_message (language : Language) (direction : Direction) (reference : Reference)
    (result : Temporary) (plain : Name.isIdentifier reference.name = true) :
    itemsOn language direction ((Statement.readMessage reference result).words language) =
      moved direction (.readMessage reference result) := by
  have called : ∃ front behind, (∀ word ∈ front, Quiet word) ∧ (∀ word ∈ behind, Quiet word) ∧
      (Statement.readMessage reference result).words language =
        front ++ ((Direction.read.stem language).toList ++ (packetMethod language).toList) ::
          ((ProtocolId.literal reference.id).toList :: behind) := by
    cases language with
    | go =>
      have type := quiet_type .go (.message reference) (by
        simp [Kind.NamesIdentifiers, Kind.references, plain])
      rw [Statement.words]
      generalize Text.words ((Kind.message reference).typeName .go).toList = typeWords at type ⊢
      refine ⟨[result.text.toList, "_".toList], ".".toList :: typeWords, ?_, ?_, rfl⟩
      · simpa using ⟨quiet_name result, quiet_undotted _ (by decide)⟩
      · intro word member
        rcases List.mem_cons.mp member with rfl | member
        · exact quiet_head '.' [] (by decide)
        · exact type word member
    | python =>
      exact ⟨[result.text.toList], [], by simpa using quiet_name result, by simp, rfl⟩
  obtain ⟨front, behind, quietFront, quietBehind, called⟩ := called
  have quietAll : ∀ word ∈ (ProtocolId.literal reference.id).toList :: behind, Quiet word := by
    simpa using ⟨quiet_number reference.id, quietBehind⟩
  rw [called, items_call _ _ _ _ _ _ quietFront quietAll,
    item_packet language .read reference.id _ rfl, moved]

/-- The making of a collection calls nothing. -/
theorem quiet_make_collection (language : Language) (shape : Collection) (element : Kind)
    (result size : Temporary) (named : element.NamesIdentifiers) :
    ∀ word ∈ (Statement.makeCollection shape element result size).words language, Quiet word := by
  have type := quiet_type language element named
  have fixed (word : String) (undotted : '.' ∉ word.toList) : Quiet word.toList :=
    quiet_undotted _ undotted
  have make := fixed "make" (by decide)
  have zero := fixed "0" (by decide)
  have map := fixed "map" (by decide)
  have bool := fixed "bool" (by decide)
  have set := fixed "set" (by decide)
  cases language <;> cases shape <;>
    simp only [Statement.words, List.forall_mem_append, List.forall_mem_cons, quiet_name, make,
      zero, map, bool, set, true_and, and_true, List.not_mem_nil, false_implies, implies_true] <;>
    exact type

/-- The making of a map calls nothing. -/
theorem quiet_make_map (language : Language) (key value : Kind) (result size : Temporary)
    (keyNamed : key.NamesIdentifiers) (valueNamed : value.NamesIdentifiers) :
    ∀ word ∈ (Statement.makeMap key value result size).words language, Quiet word := by
  have make : Quiet "make".toList := quiet_undotted _ (by decide)
  have map : Quiet "map".toList := quiet_undotted _ (by decide)
  cases language with
  | go =>
    simp only [Statement.words, List.forall_mem_append, List.forall_mem_cons, quiet_name, make,
      map, true_and, and_true, List.not_mem_nil, false_implies, implies_true]
    exact ⟨quiet_type .go key keyNamed, quiet_type .go value valueNamed⟩
  | python => simpa [Statement.words] using quiet_name result

/-- Putting an element into a collection calls nothing on the buffer. -/
theorem quiet_insert_element (language : Language) (shape : Collection)
    (result item : Temporary) :
    ∀ word ∈ (Statement.insertElement shape result item).words language, Quiet word := by
  have append : Quiet "append".toList := quiet_undotted _ (by decide)
  have true : Quiet "true".toList := quiet_undotted _ (by decide)
  cases language <;> cases shape <;>
    simp only [Statement.words, List.forall_mem_cons, quiet_name, quiet_temporary, append, true,
      and_true, List.not_mem_nil, false_implies, implies_true]

/-- The text of a plain statement shows what the statement moves. -/
theorem items_statement (language : Language) (direction : Direction) (statement : Statement)
    (plain : statement.IsPlain) :
    itemsOn language direction (Text.words (statement.text language).toList) =
      moved direction statement := by
  rw [statement.words_text language plain]
  cases statement with
  | writeScalar base value => exact items_write_scalar language direction base value plain
  | writeSize container => exact items_write_size language direction container plain
  | writeMessage reference value =>
    exact items_write_message language direction reference value plain
  | readScalar base result => exact items_read_scalar language direction base result
  | readSize size => exact items_read_size language direction size
  | readMessage reference result =>
    exact items_read_message language direction reference result plain
  | makeCollection shape element result size =>
    exact items_none language direction _
      (quiet_make_collection language shape element result size plain)
  | makeMap key value result size =>
    exact items_none language direction _
      (quiet_make_map language key value result size plain.1 plain.2)
  | insertElement shape result item =>
    exact items_none language direction _ (quiet_insert_element language shape result item)
  | insertEntry result key value =>
    apply items_none
    simp [Statement.words, quiet_name]
  | assignField field value =>
    apply items_none
    simpa [Statement.words, quiet_name] using quiet_head 'p' _ (by decide)
  | returnMessage =>
    apply items_none
    simpa [Statement.words] using
      ⟨quiet_head 'r' _ (by decide), quiet_head 'p' _ (by decide)⟩

/-- The first line of a plain block moves nothing. -/
theorem items_header (language : Language) (direction : Direction) (header : Header)
    (plain : header.IsPlain) :
    itemsOn language direction (Text.words (header.text language).toList) = [] := by
  rw [header.words_text language plain]
  apply items_none
  have fixed (word : String) (undotted : '.' ∉ word.toList) : Quiet word.toList :=
    quiet_undotted _ undotted
  cases header with
  | forEachElement shape element container =>
    have operand := quiet_operand container plain
    cases language <;> cases shape <;> simp [Header.words, quiet_name, operand, quiet_undotted]
  | forEachEntry key value container =>
    have operand := quiet_operand container plain
    cases language with
    | go => simp [Header.words, quiet_name, operand, quiet_undotted]
    | python =>
      simpa [Header.words, quiet_name, operand, quiet_undotted] using quiet_head '.' _ (by decide)
  | forIndex index size => cases language <;> simp [Header.words, quiet_name, quiet_undotted]
  | whenExhausted =>
    have asksGo : Quiet "buffer.IsReadable".toList := by
      intro language direction
      cases language <;> cases direction <;> decide
    have asksPython : Quiet "buffer.is_readable".toList := by
      intro language direction
      cases language <;> cases direction <;> decide
    cases language with
    | go =>
      simp only [Header.words, List.forall_mem_cons, asksGo, fixed "if" (by decide), true_and,
        List.not_mem_nil, false_implies, implies_true]
    | python =>
      simp only [Header.words, List.forall_mem_cons, asksPython, fixed "if" (by decide),
        fixed "not" (by decide), true_and, List.not_mem_nil, false_implies, implies_true]

/-- The lines that close a block move nothing. -/
theorem operations_closing (language : Language) (direction : Direction) (depth : Nat) :
    operationsOn language direction (language.closing depth) = [] := by
  rw [operationsOn, List.flatMap_eq_nil_iff]
  intro line member
  rw [closing_words language depth line member]
  rfl

/-- The calls that code makes, with its first level at a depth. -/
def callsOf (direction : Direction) (depth : Int) : Code → List Operation
  | .done => []
  | .line statement rest =>
    (moved direction statement).map (fun item => ⟨depth, item⟩) ++ callsOf direction depth rest
  | .block _ body rest => callsOf direction (depth + 1) body ++ callsOf direction depth rest

/-- The calls of code after code are those of both. -/
theorem calls_append (direction : Direction) (depth : Int) (front back : Code) :
    callsOf direction depth (front ++ back) =
      callsOf direction depth front ++ callsOf direction depth back := by
  induction front generalizing depth with
  | done => rfl
  | line statement rest inductionHypothesis => simp [callsOf, inductionHypothesis]
  | block header body rest _ inductionHypothesis => simp [callsOf, inductionHypothesis]

/-- The calls in lines after lines are those in both. -/
theorem operations_append (language : Language) (direction : Direction) (front back : List Line) :
    operationsOn language direction (front ++ back) =
      operationsOn language direction front ++ operationsOn language direction back := by
  simp [operationsOn]

/-- The calls that can be read off the lines of plain code are those that the code makes.

Proof: induction on the code. A body stands one level deeper in its lines as it does in the
code, and what closes it moves nothing. -/
theorem operations_lines (language : Language) (direction : Direction) (depth : Nat)
    (code : Code) (plain : code.IsPlain) :
    operationsOn language direction (code.lines language depth) =
      callsOf direction (depth - language.layout.bodyDepth) code := by
  induction code generalizing depth with
  | done => rfl
  | line statement rest inductionHypothesis =>
    have others := inductionHypothesis depth plain.2
    have first := items_statement language direction statement plain.1
    simp only [operationsOn] at others
    simp [operationsOn, Code.lines, callsOf, first, others]
  | block header body rest bodyHypothesis restHypothesis =>
    have opening : operationsOn language direction [⟨depth, header.text language⟩] = [] := by
      simp [operationsOn, items_header language direction header plain.1]
    have deeper : ((depth + 1 : Nat) : Int) - language.layout.bodyDepth =
        depth - language.layout.bodyDepth + 1 := by omega
    have inside := bodyHypothesis (depth + 1) plain.2.1
    have others := restHypothesis depth plain.2.2
    rw [Code.lines, ← List.singleton_append, operations_append, operations_append,
      operations_append, opening, inside, operations_closing, others, deeper]
    simp [callsOf]

end PacketSmith.Wire
