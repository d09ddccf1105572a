import PacketSmith.Code.Fields
import PacketSmith.Proofs.Code.Lines
import PacketSmith.Proofs.TypeName

/-!
# How code is spelled

The text of a statement or header consists of fixed texts, of words that come from
outside (names, temporaries, numbers, methods) and, in one language, of types. This module
lists the parts of each text and proves that they make up the text. Whatever is said
afterwards about the words of code is read off these lists.

Names from outside have to be identifiers. Such code is *plain*: its lines can be read back.
-/

namespace PacketSmith

open Text (Fragment isWordCharacter)

/-- The digits of a number are digits. -/
theorem number_characters (number : Nat) :
    (toString number).toList ≠ [] ∧
      ∀ character ∈ (toString number).toList, character.isDigit = true := by
  simp only [Nat.toString_eq_repr, Nat.toList_repr]
  exact ⟨Nat.toDigits_ne_nil, fun character member =>
    Nat.isDigit_of_mem_toDigits (by decide) (by decide) member⟩

/-- Digits belong to words of code. -/
theorem digit_word (character : Char) (digit : character.isDigit = true) :
    isWordCharacter character = true := by
  simp [isWordCharacter, Char.isAlphanum, digit]

/-- The name of a temporary is one word of code. -/
theorem Temporary.text_word (temporary : Temporary) :
    temporary.text.toList ≠ [] ∧
      ∀ character ∈ temporary.text.toList, isWordCharacter character = true := by
  have digits := (number_characters temporary.number).2
  have role : ∀ character ∈ temporary.role.word.toList, isWordCharacter character = true := by
    apply List.all_eq_true.mp
    cases temporary.role <;> decide
  constructor
  · simp [Temporary.text]
  · intro character member
    simp only [Temporary.text, String.toList_append, List.mem_append] at member
    rcases member with member | member
    · exact role character member
    · exact digit_word character (digits character member)

/-- The number of a message is written in digits, and perhaps a sign. -/
theorem ProtocolId.literal_characters (id : ProtocolId) :
    (ProtocolId.literal id).toList ≠ [] ∧
      ∀ character ∈ (ProtocolId.literal id).toList, character = '-' ∨ character.isDigit = true := by
  simp only [ProtocolId.literal, Int.toString_eq_repr, Int.repr_eq_if]
  split
  · obtain ⟨inhabited, digits⟩ := number_characters id.toInt.toNat
    rw [Nat.toString_eq_repr] at inhabited digits
    exact ⟨inhabited, fun character member => Or.inr (digits character member)⟩
  · have digits := (number_characters (-id.toInt).toNat).2
    rw [Nat.toString_eq_repr] at digits
    constructor
    · simp
    · intro character member
      rw [String.toList_append] at member
      rcases List.mem_append.mp member with sign | member
      · exact Or.inl (by simpa using sign)
      · exact Or.inr (digits character member)

/-- The number of a message is one word of code, with its sign. -/
theorem ProtocolId.literal_word (id : ProtocolId) :
    (ProtocolId.literal id).toList ≠ [] ∧
      ∀ character ∈ (ProtocolId.literal id).toList, isWordCharacter character = true := by
  obtain ⟨inhabited, characters⟩ := id.literal_characters
  constructor
  · exact inhabited
  · intro character member
    rcases characters character member with rfl | digit
    · decide
    · exact digit_word character digit

/-- The name of a method of the buffer is one word of code. -/
theorem Scalar.method_word (language : Language) (scalar : Scalar) :
    (scalar.method language).toList ≠ [] ∧
      ∀ character ∈ (scalar.method language).toList, isWordCharacter character = true := by
  cases language <;> cases scalar <;> exact ⟨by decide, List.all_eq_true.mp (by decide)⟩

/-- The expression of a field of the message that is written is one word of code. -/
theorem field_expression_word (name : String) (identifier : Name.isIdentifier name = true) :
    ("message." ++ name).toList ≠ [] ∧
      ∀ character ∈ ("message." ++ name).toList, isWordCharacter character = true := by
  have front : ∀ character ∈ "message.".toList, isWordCharacter character = true :=
    List.all_eq_true.mp (by decide)
  constructor
  · simp
  · intro character member
    rw [String.toList_append] at member
    rcases List.mem_append.mp member with member | member
    · exact front character member
    · exact (Name.identifier_word name identifier).2 character member

/-- Whether an operand is a temporary or a field, named by an identifier, of the message. -/
def Operand.IsPlain : Operand → Prop
  | .expression written => ∃ name, Name.isIdentifier name = true ∧ written = "message." ++ name
  | .temporary _ => True

/-- A plain operand is one word of code. -/
theorem Operand.text_word (operand : Operand) (plain : operand.IsPlain) :
    operand.text.toList ≠ [] ∧
      ∀ character ∈ operand.text.toList, isWordCharacter character = true := by
  cases operand with
  | expression written =>
    obtain ⟨name, identifier, rfl⟩ := plain
    exact field_expression_word name identifier
  | temporary numbered => exact numbered.text_word

namespace Statement

/-- Whether the names from outside in a statement are identifiers. -/
def IsPlain : Statement → Prop
  | writeScalar _ value | writeSize value | writeMessage _ value => value.IsPlain
  | readMessage reference _ => Name.isIdentifier reference.name = true
  | makeCollection _ element _ _ => element.NamesIdentifiers
  | makeMap key value _ _ => key.NamesIdentifiers ∧ value.NamesIdentifiers
  | assignField field _ => Name.isIdentifier field = true
  | readScalar _ _ | readSize _ | insertElement _ _ _ | insertEntry _ _ _ | returnMessage => True

/-- The parts of the text of a statement. -/
def fragments (language : Language) : Statement → List Fragment
  | writeScalar base value =>
    match language with
    | .go => [.fixed "buffer.Write", .run (base.method .go).toList, .fixed "(",
        .run value.text.toList, .fixed ")"]
    | .python => [.fixed "buffer.write_", .run (base.method .python).toList, .fixed "(",
        .run value.text.toList, .fixed ")"]
  | writeSize container =>
    match language with
    | .go => [.fixed "buffer.WriteInt(len(", .run container.text.toList, .fixed "))"]
    | .python => [.fixed "buffer.write_int(0 if ", .run container.text.toList,
        .fixed " is None else len(", .run container.text.toList, .fixed "))"]
  | writeMessage reference value =>
    match language with
    | .go => [.fixed "buffer.WritePacket(", .run value.text.toList, .fixed ", ",
        .run (ProtocolId.literal reference.id).toList, .fixed ")"]
    | .python => [.fixed "buffer.write_packet(", .run value.text.toList, .fixed ", ",
        .run (ProtocolId.literal reference.id).toList, .fixed ")"]
  | readScalar base result =>
    match language with
    | .go => [.run result.text.toList, .fixed " := buffer.Read", .run (base.method .go).toList,
        .fixed "()"]
    | .python => [.run result.text.toList, .fixed " = buffer.read_",
        .run (base.method .python).toList, .fixed "()"]
  | readSize size =>
    match language with
    | .go => [.run size.text.toList, .fixed " := buffer.ReadInt()"]
    | .python => [.run size.text.toList, .fixed " = buffer.read_int()"]
  | readMessage reference result =>
    match language with
    | .go => [.run result.text.toList, .fixed ", _ := buffer.ReadPacket(",
        .run (ProtocolId.literal reference.id).toList, .fixed ").(",
        .phrase ((Kind.message reference).typeName .go).toList ')']
    | .python => [.run result.text.toList, .fixed " = buffer.read_packet(",
        .run (ProtocolId.literal reference.id).toList, .fixed ")"]
  | makeCollection shape element result size =>
    match language, shape with
    | .go, .array | .go, .list => [.run result.text.toList, .fixed " := make([]",
        .phrase (element.typeName .go).toList ',', .fixed " 0, ", .run size.text.toList, .fixed ")"]
    | .go, .set => [.run result.text.toList, .fixed " := make(map[",
        .phrase (element.typeName .go).toList ']', .fixed "bool, ", .run size.text.toList,
        .fixed ")"]
    | .python, .array | .python, .list => [.run result.text.toList, .fixed " = []"]
    | .python, .set => [.run result.text.toList, .fixed " = set()"]
  | makeMap key value result size =>
    match language with
    | .go => [.run result.text.toList, .fixed " := make(map[",
        .phrase (key.typeName .go).toList ']', .phrase (value.typeName .go).toList ',',
        .fixed " ", .run size.text.toList, .fixed ")"]
    | .python => [.run result.text.toList, .fixed " = \x7b\x7d"]
  | insertElement shape result item =>
    match language, shape with
    | .go, .array | .go, .list => [.run result.text.toList, .fixed " = append(",
        .run result.text.toList, .fixed ", ", .run item.text.toList, .fixed ")"]
    | .go, .set => [.run result.text.toList, .fixed "[", .run item.text.toList,
        .fixed "] = true"]
    | .python, .array | .python, .list => [.run result.text.toList, .fixed ".append(",
        .run item.text.toList, .fixed ")"]
    | .python, .set => [.run result.text.toList, .fixed ".add(", .run item.text.toList,
        .fixed ")"]
  | insertEntry result key value => [.run result.text.toList, .fixed "[", .run key.text.toList,
      .fixed "] = ", .run value.text.toList]
  | assignField field value => [.fixed "packet.", .run field.toList, .fixed " = ",
      .run value.text.toList]
  | returnMessage => [.fixed "return packet"]

/-- The parts of a statement make up its text. -/
theorem text_fragments (language : Language) (statement : Statement) :
    (statement.text language).toList = (statement.fragments language).flatMap Fragment.text := by
  cases statement with
  | makeCollection shape element result size =>
    cases language <;> cases shape <;>
      (delta Statement.text; dsimp only [fragments]; simp [Fragment.text])
  | insertElement shape result item =>
    cases language <;> cases shape <;>
      (delta Statement.text; dsimp only [fragments]; simp [Fragment.text])
  | _ =>
    cases language <;> (delta Statement.text; dsimp only [fragments]; simp [Fragment.text])

/-- In plain statements the parts from outside are words. -/
theorem fragments_proper (language : Language) (statement : Statement)
    (plain : statement.IsPlain) :
    ∀ fragment ∈ statement.fragments language, fragment.IsProper := by
  have temporary (numbered : Temporary) : (Fragment.run numbered.text.toList).IsProper :=
    numbered.text_word
  have number (id : ProtocolId) : (Fragment.run (ProtocolId.literal id).toList).IsProper :=
    id.literal_word
  have method (base : Scalar) : (Fragment.run (base.method language).toList).IsProper :=
    base.method_word language
  cases statement with
  | writeScalar base value | writeSize value | writeMessage reference value =>
    have operand : (Fragment.run value.text.toList).IsProper := value.text_word plain
    cases language <;> simp [fragments, operand, method, number]
  | assignField field value =>
    have name : (Fragment.run field.toList).IsProper := Name.identifier_word field plain
    simp [fragments, name, temporary]
  | makeCollection shape element result size =>
    cases language <;> cases shape <;> simp [fragments, temporary] <;> decide
  | insertElement shape result item =>
    cases language <;> cases shape <;> simp [fragments, temporary]
  | makeMap key value result size =>
    cases language <;> simp [fragments, temporary]
    decide
  | readMessage reference result =>
    cases language <;> simp [fragments, temporary, number]
    decide
  | readScalar base result =>
    cases language <;> simp [fragments, temporary, method]
  | readSize size => cases language <;> simp [fragments, temporary]
  | insertEntry result key value => simp [fragments, temporary]
  | returnMessage => simp [fragments]

end Statement

namespace Header

/-- Whether the names from outside in a header are identifiers. -/
def IsPlain : Header → Prop
  | forEachElement _ _ container | forEachEntry _ _ container => container.IsPlain
  | forIndex _ _ | whenExhausted => True

/-- The parts of the text of a header. -/
def fragments (language : Language) : Header → List Fragment
  | forEachElement shape element container =>
    match language, shape with
    | .go, .array | .go, .list => [.fixed "for _, ", .run element.text.toList,
        .fixed " := range ", .run container.text.toList, .fixed " \x7b"]
    | .go, .set => [.fixed "for ", .run element.text.toList, .fixed " := range ",
        .run container.text.toList, .fixed " \x7b"]
    | .python, _ => [.fixed "for ", .run element.text.toList, .fixed " in ",
        .run container.text.toList, .fixed " or ():"]
  | forEachEntry key value container =>
    match language with
    | .go => [.fixed "for ", .run key.text.toList, .fixed ", ", .run value.text.toList,
        .fixed " := range ", .run container.text.toList, .fixed " \x7b"]
    | .python => [.fixed "for ", .run key.text.toList, .fixed ", ", .run value.text.toList,
        .fixed " in (", .run container.text.toList, .fixed " or \x7b\x7d).items():"]
  | forIndex index size =>
    match language with
    | .go => [.fixed "for ", .run index.text.toList, .fixed " := 0; ", .run index.text.toList,
        .fixed " < ", .run size.text.toList, .fixed "; ", .run index.text.toList, .fixed "++ \x7b"]
    | .python => [.fixed "for ", .run index.text.toList, .fixed " in range(",
        .run size.text.toList, .fixed "):"]
  | whenExhausted =>
    match language with
    | .go => [.fixed "if !buffer.IsReadable() \x7b"]
    | .python => [.fixed "if not buffer.is_readable():"]

/-- The parts of a header make up its text. -/
theorem text_fragments (language : Language) (header : Header) :
    (header.text language).toList = (header.fragments language).flatMap Fragment.text := by
  cases header with
  | forEachElement shape element container =>
    cases language <;> cases shape <;>
      (delta Header.text; dsimp only [fragments]; simp [Fragment.text])
  | _ => cases language <;> (delta Header.text; dsimp only [fragments]; simp [Fragment.text])

/-- In plain headers the parts from outside are words. -/
theorem fragments_proper (language : Language) (header : Header) (plain : header.IsPlain) :
    ∀ fragment ∈ header.fragments language, fragment.IsProper := by
  have temporary (numbered : Temporary) : (Fragment.run numbered.text.toList).IsProper :=
    numbered.text_word
  cases header with
  | forEachElement shape element container =>
    have operand : (Fragment.run container.text.toList).IsProper := container.text_word plain
    cases language <;> cases shape <;> simp [fragments, operand, temporary]
  | forEachEntry key value container =>
    have operand : (Fragment.run container.text.toList).IsProper := container.text_word plain
    cases language <;> simp [fragments, operand, temporary]
  | forIndex index size => cases language <;> simp [fragments, temporary]
  | whenExhausted => cases language <;> simp [fragments]

end Header
end PacketSmith
