import Std.Data.String.ToInt
import PacketSmith.Render
import PacketSmith.Proofs.Code.Spelling
import PacketSmith.Proofs.Text.Joined

/-!
# The registrations of a manager

A manager file holds a block of registrations. The block is the statements of the declared
messages in slot order, line by line, and nothing else. What a statement registers can be read
off its words: a number and a type, which in one language is the name of a module as well.
-/

namespace PacketSmith

open Text (Fragment)

/-- What a statement of a manager registers. -/
structure Registration where
  /-- The number. -/
  id : Int
  /-- The type under the number. -/
  typeName : String
  deriving DecidableEq, Repr

namespace Registration

/-- The registration that words of a line make, if they make one. -/
def ofWords? (language : Language) (words : List (List Char)) : Option Registration :=
  match language, words with
  | .go, [table, number, make, type] =>
    if table = "Protocols".toList ∧ make = "new".toList then
      (String.ofList number).toInt?.map fun id => ⟨id, String.ofList type⟩
    else none
  | .python, [table, number, load, '.' :: module, package, '.' :: type] =>
    if table = "protocols".toList ∧ load = "import_module".toList ∧
        package = "__package__".toList ∧ module = type then
      (String.ofList number).toInt?.map fun id => ⟨id, String.ofList type⟩
    else none
  | _, _ => none

/-- The registrations in the lines of a block. A line that makes none is listed as such. -/
def listed (language : Language) (block : String) : List (Option Registration) :=
  ((Text.splitWhere (fun character => character == '\n') block.toList).filter
    fun line => !line.isEmpty).map fun line => ofWords? language (Text.words line)

end Registration

namespace Message

/-- What the manager registers for a message. -/
def entry (message : Message) : Registration :=
  ⟨message.id.toInt, message.typeName⟩

/-- The parts of the statement that registers a message. -/
def registrationFragments (language : Language) (message : Message) : List Fragment :=
  match language with
  | .go => [.fixed "Protocols[", .run (ProtocolId.literal message.id).toList, .fixed "] = new(",
      .run message.typeName.toList, .fixed ")"]
  | .python => [.fixed "protocols[", .run (ProtocolId.literal message.id).toList,
      .fixed "] = import_module(\".", .run message.typeName.toList, .fixed "\", __package__).",
      .run message.typeName.toList]

/-- The parts of a registration make up its text. -/
theorem registration_fragments (language : Language) (message : Message) :
    (message.registration language).toList =
      (message.registrationFragments language).flatMap Fragment.text := by
  cases language <;>
    (delta Message.registration; dsimp only [registrationFragments]; simp [Fragment.text, typeName])

/-- The type of a message is one word of code, if its name is an identifier and has one. -/
theorem type_word (message : Message) (named : Name.isIdentifier message.name = true)
    (typed : message.typeName ≠ "") :
    message.typeName.toList ≠ [] ∧
      ∀ character ∈ message.typeName.toList, Text.isWordCharacter character = true := by
  constructor
  · simpa using typed
  · intro character member
    apply Name.alphanumeric_word
    exact Name.pascal_characters message.name named character member

/-- The parts of a registration that come from outside are words. -/
theorem registration_proper (language : Language) (message : Message)
    (named : Name.isIdentifier message.name = true) (typed : message.typeName ≠ "") :
    ∀ fragment ∈ message.registrationFragments language, fragment.IsProper := by
  have number : (Fragment.run (ProtocolId.literal message.id).toList).IsProper :=
    message.id.literal_word
  have type : (Fragment.run message.typeName.toList).IsProper := message.type_word named typed
  cases language <;> simp [registrationFragments, number, type]

/-- The statement that registers a message says its number and its type. -/
theorem registration_read (language : Language) (message : Message)
    (named : Name.isIdentifier message.name = true) (typed : message.typeName ≠ "") :
    Registration.ofWords? language (Text.words (message.registration language).toList) =
      some message.entry := by
  have number : (ProtocolId.literal message.id).toInt? = some message.id.toInt := by
    rw [ProtocolId.literal, Int.toString_eq_repr, Int.toInt?_repr]
  rw [registration_fragments,
    Text.words_fragments _ (message.registration_proper language named typed)]
  cases language <;>
    simp [registrationFragments, Fragment.words, Fragment.wordsFrom, Fragment.scanned,
      Text.scanned, Text.isWordCharacter, Registration.ofWords?, number, entry]

end Message

/-- Indentation is blank, belongs to no word and ends no line. -/
theorem indentation_class (language : Language) (depth : Nat) :
    ∀ character ∈ (repeated language.layout.indent depth).toList,
      Text.isBlank character = true ∧ Text.isWordCharacter character = false ∧
        (character == '\n') = false := by
  have levels : language.layout.indent.toList.all (fun character =>
      Text.isBlank character && (!Text.isWordCharacter character && character != '\n')) = true := by
    cases language <;> decide
  intro character member
  have level := List.all_eq_true.mp levels character (repeated_members _ _ character member)
  simpa using level

/-- Whether the name of a message is an identifier that generates a type. -/
def Message.IsNamed (message : Message) : Prop :=
  Name.isIdentifier message.name = true ∧ message.typeName ≠ ""

end PacketSmith
