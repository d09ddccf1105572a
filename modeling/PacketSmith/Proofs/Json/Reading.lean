import Mathlib.Data.Nat.Digits.Lemmas
import PacketSmith.Json.Printer
import PacketSmith.Json.Reader
import PacketSmith.Proofs.Text.Search

/-!
# Printed JSON is read back

A value that is printed over several lines is read back as it was, whatever stands behind it,
unless that would go on with a number at its end. Values are those that have a printed form: their
texts are texts, and their numbers are integers.

The argument follows the printer. A character of a text is read back from what stands for it, a
number from its digits, and a container from its parts; the indentation in front of each part is
skipped. What bounds the work of the reader is the length of the printed text.
-/

namespace PacketSmith.Json

/-! ## Texts -/

/-- A digit in base sixteen is read back. -/
theorem hex_digit_read : ∀ value < 16, hexDigit? (hexCharacter value) = some value := by
  decide

/-- A control character is read back from the digits of its number. -/
theorem read_control (part : PartialText) (character : Char) (rest : List Char)
    (control : character.toNat < 0x20) :
    readText part ('\\' :: 'u' :: '0' :: '0' :: hexCharacter (character.toNat / 16) ::
      hexCharacter (character.toNat % 16) :: rest) = readText (part.push character) rest := by
  have unit : hexUnit? '0' '0' (hexCharacter (character.toNat / 16))
      (hexCharacter (character.toNat % 16)) = some character.toNat := by
    have zero : hexDigit? '0' = some 0 := by decide
    simp only [hexUnit?, zero, hex_digit_read _ (by omega : character.toNat / 16 < 16),
      hex_digit_read _ (by omega : character.toNat % 16 < 16), bind, Option.bind, pure]
    exact congrArg some (by omega)
  have pushed : part.pushUnit character.toNat = part.push character := by
    have low : ¬ (0xdc00 ≤ character.toNat) := by omega
    have high : ¬ (0xd800 ≤ character.toNat) := by omega
    simp [PartialText.pushUnit, low, high]
  rw [readText, unit]
  simp only [pushed]

/-- A character that needs no escape is read as it is. -/
theorem read_unescaped (part : PartialText) (character : Char) (rest : List Char)
    (unquoted : character ≠ '"') (unmarked : character ≠ '\\')
    (printable : ¬ character.toNat < 0x20) :
    readText part (character :: rest) = readText (part.push character) rest := by
  rw [readText.eq_5 part character rest unquoted (fun _ _ _ _ _ same _ => unmarked same)
    (fun _ _ same _ => unmarked same)]
  rw [if_neg printable]

/-- A character is read back from what stands for it inside a text. -/
theorem read_character (part : PartialText) (character : Char) (rest : List Char) :
    readText part (printedCharacter character ++ rest) = readText (part.push character) rest := by
  unfold printedCharacter
  simp only [beq_iff_eq]
  repeat' split
  all_goals first
    | (subst character; rfl)
    | skip
  · exact read_control part character rest (by assumption)
  · apply read_unescaped <;> assumption

/-- Characters are read back one after another, up to the closing quotation mark. -/
theorem read_characters (read : List Char) (characters rest : List Char) :
    readText ⟨read, none, true⟩ (characters.flatMap printedCharacter ++ '"' :: rest) =
      some (some (String.ofList (read.reverse ++ characters)), rest) := by
  induction characters generalizing read with
  | nil => simp [readText, PartialText.finish]
  | cons character characters inductionHypothesis =>
    rw [List.flatMap_cons, List.append_assoc, read_character]
    have others := inductionHypothesis (character :: read)
    simpa [PartialText.push] using others

/-- A text is read back from its printed form, behind the opening quotation mark. -/
theorem read_printed_text (value : String) (rest : List Char) :
    readText .start (value.toList.flatMap printedCharacter ++ '"' :: rest) =
      some (some value, rest) := by
  have whole := read_characters [] value.toList rest
  simpa [PartialText.start] using whole

/-! ## Numbers -/

/-- Whether a character goes on with a number. -/
def goesOn (character : Char) : Bool :=
  character.isDigit || character == '.' || character == 'e' || character == 'E'

/-- Whether what stands behind a value does not go on with a number. -/
def EndsNumber (rest : List Char) : Prop :=
  ∀ character ∈ rest.head?, goesOn character = false

/-- Decimal digits are taken off the front of a text that goes on otherwise. -/
theorem take_digits_front (digits rest : List Char)
    (all : ∀ digit ∈ digits, digit.isDigit = true) (ends : EndsNumber rest) :
    takeDigits (digits ++ rest) = (digits, rest) := by
  have stops : ∀ character ∈ rest.head?, character.isDigit = false := by
    intro character first
    have other := ends character first
    simp only [goesOn, Bool.or_eq_false_iff] at other
    exact other.1.1.1
  have taken : rest.takeWhile Char.isDigit = [] := by
    cases rest with
    | nil => rfl
    | cons first rest => simp [stops first rfl]
  rw [takeDigits, List.takeWhile_append_of_pos all, List.dropWhile_append_of_pos all,
    Text.drop_while_unchanged _ _ stops, taken, List.append_nil]

/-- The digits of a number write the number. -/
theorem decimal_digits (value : Nat) : decimal (Nat.toDigits 10 value) = value := by
  have read : Nat.ofDigitChars 10 (Nat.toDigits 10 value) 0 = value :=
    Nat.ofDigitChars_ten_toDigits
  simpa [Nat.ofDigitChars, decimal, Nat.mul_comm] using read

/-- The digits of a number do not begin with a zero, unless the number is zero. -/
theorem digits_head (value : Nat) (positive : 0 < value) :
    (Nat.toDigits 10 value).head? ≠ some '0' := by
  induction value using Nat.strongRecOn with
  | ind value inductionHypothesis =>
    by_cases small : value < 10
    · have nonzero : ∀ digit < 10, 0 < digit → Nat.digitChar digit ≠ '0' := by decide
      rw [Nat.toDigits_of_lt_base small]
      simpa using nonzero value small positive
    · have front := inductionHypothesis (value / 10) (by omega) (by omega)
      rw [Nat.toDigits_of_base_le (by decide) (by omega), List.head?_append]
      cases head : (Nat.toDigits 10 (value / 10)).head? with
      | none => exact absurd (List.head?_eq_none_iff.mp head) Nat.toDigits_ne_nil
      | some first =>
        rw [head] at front
        simpa using front

/-- An integer is read back from its digits, behind its sign. -/
theorem read_digits (negative : Bool) (value : Nat) (rest : List Char) (ends : EndsNumber rest) :
    readNumber negative (Nat.toDigits 10 value ++ rest) =
      some (⟨negative, true, value, 0⟩, rest) := by
  have digits : ∀ digit ∈ Nat.toDigits 10 value, digit.isDigit = true := fun digit member =>
    Nat.isDigit_of_mem_toDigits (by decide) (by decide) member
  have inhabited : (Nat.toDigits 10 value).isEmpty = false := by
    simp [Nat.toDigits_ne_nil]
  have led : ((Nat.toDigits 10 value).head? == some '0' &&
      (Nat.toDigits 10 value).length != 1) = false := by
    rcases Nat.eq_zero_or_pos value with rfl | positive
    · rfl
    · simp [digits_head value positive]
  have noFraction : readFraction rest = some (none, rest) := by
    cases rest with
    | nil => rfl
    | cons first rest =>
      have other := ends first rfl
      have notPoint : first ≠ '.' := by
        rintro rfl
        exact absurd other (by decide)
      rw [readFraction]
      exact fun _ same => notPoint (List.cons.inj same).1
  have noExponent : readExponent rest = some (none, rest) := by
    cases rest with
    | nil => rfl
    | cons first rest =>
      have other := ends first rfl
      simp only [goesOn, Bool.or_eq_false_iff] at other
      simp [readExponent, other.1.2, other.2]
  simp [readNumber, take_digits_front _ _ digits ends, inhabited, led, noFraction, noExponent,
    decimal_digits]

/-! ## Values -/

/-- Whether a value has a printed form: its texts and names are texts, and its numbers are
integers. -/
inductive IsWritten : Json → Prop where
  | null : IsWritten .null
  | bool (value : Bool) : IsWritten (.bool value)
  | number (negative : Bool) (digits : Nat) : IsWritten (.number ⟨negative, true, digits, 0⟩)
  | text (value : String) : IsWritten (.text (some value))
  | array (items : List Json) (written : ∀ item ∈ items, IsWritten item) :
      IsWritten (.array items)
  | object (members : List (Option String × Json))
      (named : ∀ member ∈ members, ∃ name, member.1 = some name)
      (written : ∀ member ∈ members, IsWritten member.2) : IsWritten (.object members)

/-- Whether a value is read back from its printed form, whatever is behind it. -/
def ReadsBack (value : Json) : Prop :=
  ∀ depth fuel rest, (printed depth value).length < fuel → EndsNumber rest →
    readValue fuel (printed depth value ++ rest) = some (value, rest)

/-- Blanks are skipped. -/
theorem skip_blanks (blanks text : List Char) (blank : blanks.all isSpace = true) :
    skipSpace (blanks ++ text) = skipSpace text := by
  rw [skipSpace, List.dropWhile_append_of_pos (List.all_eq_true.mp blank), skipSpace]

/-- Indentation consists of blanks. -/
theorem line_break_blank (depth : Nat) : (lineBreak depth).all isSpace = true := by
  rw [List.all_eq_true]
  intro character member
  rcases List.mem_cons.mp member with rfl | member
  · rfl
  · rw [List.eq_of_mem_replicate member]
    rfl

/-- A character that is no blank is not skipped. -/
theorem skip_nothing (character : Char) (text : List Char) (solid : isSpace character = false) :
    skipSpace (character :: text) = character :: text := by
  simp [skipSpace, solid]

/-- Blanks may stand in front of a value. -/
theorem read_value_behind (fuel : Nat) (blanks text : List Char)
    (blank : blanks.all isSpace = true) :
    readValue fuel (blanks ++ text) = readValue fuel text := by
  cases fuel with
  | zero => rfl
  | succ fuel => simp only [readValue, skip_blanks blanks text blank]

/-- Items may be indented. -/
theorem read_items_indented (fuel depth : Nat) (text : List Char) :
    readItems fuel (lineBreak depth ++ text) = readItems fuel text := by
  cases fuel with
  | zero => rfl
  | succ fuel => simp only [readItems, read_value_behind _ _ _ (line_break_blank depth)]

/-- Members may be indented. -/
theorem read_members_indented (fuel depth : Nat) (text : List Char) :
    readMembers fuel (lineBreak depth ++ text) = readMembers fuel text := by
  cases fuel with
  | zero => rfl
  | succ fuel => simp only [readMembers, skip_blanks _ _ (line_break_blank depth)]

/-- A digit is no blank and none of the characters that open or close other values. -/
theorem digit_head (character : Char) (digit : character.isDigit = true) :
    isSpace character = false ∧
      ∀ other ∈ ['"', '[', ']', '\x7b', '-', 'n', 't', 'f'], character ≠ other := by
  have apart (other : Char) (notDigit : other.isDigit = false) : character ≠ other := by
    rintro rfl
    exact absurd digit (by simp [notDigit])
  constructor
  · simp [isSpace, apart ' ' rfl, apart '\n' rfl, apart '\t' rfl, apart '\r' rfl]
  · have others : ['"', '[', ']', '\x7b', '-', 'n', 't', 'f'].all (fun other => !other.isDigit) =
        true := rfl
    intro other member
    exact apart other (by simpa using List.all_eq_true.mp others other member)

/-- The digits of a number begin with a digit. -/
theorem digits_cons (value : Nat) :
    ∃ first others, Nat.toDigits 10 value = first :: others ∧ first.isDigit = true := by
  obtain ⟨first, others, same⟩ := List.exists_cons_of_ne_nil
    (Nat.toDigits_ne_nil : Nat.toDigits 10 value ≠ [])
  exact ⟨first, others, same, Nat.isDigit_of_mem_toDigits (by decide) (by decide)
    (same ▸ List.mem_cons_self : first ∈ Nat.toDigits 10 value)⟩

/-- A printed value does not begin with a blank, nor with a closing bracket. -/
theorem printed_head {value : Json} (written : value.IsWritten) (depth : Nat) :
    ∃ first others, printed depth value = first :: others ∧ isSpace first = false ∧
      first ≠ ']' := by
  cases written with
  | null | text => exact ⟨_, _, rfl, by decide, by decide⟩
  | bool value => cases value <;> exact ⟨_, _, rfl, by decide, by decide⟩
  | number negative digits =>
    cases negative with
    | true => exact ⟨_, _, rfl, by decide, by decide⟩
    | false =>
      obtain ⟨first, others, same, digit⟩ := digits_cons digits
      obtain ⟨solid, apart⟩ := digit_head first digit
      exact ⟨first, others, by simp [printed, printedNumber, same], solid, apart ']' (by simp)⟩
  | array items => cases items <;> exact ⟨_, _, rfl, by decide, by decide⟩
  | object members => cases members <;> exact ⟨_, _, rfl, by decide, by decide⟩

/-- A character that does not go on with a number ends it. -/
theorem ends_number (character : Char) (rest : List Char) (ends : goesOn character = false) :
    EndsNumber (character :: rest) := by
  intro first same
  cases same
  exact ends

/-- A line break ends a number. -/
theorem line_break_ends (depth : Nat) (rest : List Char) : EndsNumber (lineBreak depth ++ rest) :=
  ends_number '\n' _ rfl

/-- A number is read back from its printed form. -/
theorem number_reads_back (negative : Bool) (digits : Nat) :
    ReadsBack (.number ⟨negative, true, digits, 0⟩) := by
  intro depth fuel rest room ends
  obtain ⟨fuel, rfl⟩ := Nat.exists_eq_add_of_lt room
  have read := read_digits negative digits rest ends
  cases negative with
  | true =>
    have form : printed depth (.number ⟨true, true, digits, 0⟩) ++ rest =
        '-' :: (Nat.toDigits 10 digits ++ rest) := by simp [printed, printedNumber]
    rw [form, readValue, skip_nothing _ _ rfl]
    simp [read]
  | false =>
    obtain ⟨first, others, same, digit⟩ := digits_cons digits
    obtain ⟨solid, apart⟩ := digit_head first digit
    have form : printed depth (.number ⟨false, true, digits, 0⟩) ++ rest =
        first :: (others ++ rest) := by simp [printed, printedNumber, same]
    rw [same, List.cons_append] at read
    rw [form, readValue, skip_nothing _ _ solid]
    split
    all_goals first
      | (rename_i equal; exact absurd (List.cons.inj equal).1 (apart _ (by simp)))
      | skip
    simp [read]

/-- The items of an array are read back up to the closing bracket.

Proof: induction on the items behind the first one. -/
theorem read_items (first : Json) (items : List Json) (depth fuel : Nat) (rest : List Char)
    (back : ∀ item ∈ first :: items, ReadsBack item)
    (room : (printed (depth + 1) first ++ printedItems depth items).length + 1 < fuel) :
    readItems fuel (printed (depth + 1) first ++ (printedItems depth items ++
      (lineBreak depth ++ ']' :: rest))) = some (first :: items, rest) := by
  induction items generalizing first fuel with
  | nil =>
    cases fuel with
    | zero => omega
    | succ fuel =>
      have read := back first List.mem_cons_self (depth + 1) fuel (lineBreak depth ++ ']' :: rest)
        (by simp [printedItems] at room; omega) (line_break_ends _ _)
      rw [readItems, printedItems, List.nil_append, read]
      simp [skip_blanks _ _ (line_break_blank depth), skip_nothing ']' rest rfl]
  | cons next items inductionHypothesis =>
    cases fuel with
    | zero => omega
    | succ fuel =>
      simp only [printedItems, List.length_append, List.length_cons] at room
      obtain ⟨behind, same⟩ : ∃ behind, behind = printed (depth + 1) next ++
        (printedItems depth items ++ (lineBreak depth ++ ']' :: rest)) := ⟨_, rfl⟩
      have form : printedItems depth (next :: items) ++ (lineBreak depth ++ ']' :: rest) =
          ',' :: (lineBreak (depth + 1) ++ behind) := by
        simp [printedItems, same]
      have read := back first List.mem_cons_self (depth + 1) fuel
        (',' :: (lineBreak (depth + 1) ++ behind)) (by omega) (ends_number ',' _ rfl)
      have others := inductionHypothesis next fuel
        (fun item member => back item (List.mem_cons_of_mem first member))
        (by simp only [List.length_append]; omega)
      rw [← same] at others
      rw [form, readItems, read]
      simp [skip_nothing ',' _ rfl, read_items_indented, others]

/-- A member is read back, with the members behind a comma or up to a closing brace.

The name is read first; the blank behind the colon is in front of the value. -/
theorem read_member (name : String) (value : Json) (depth fuel : Nat) (behind tail : List Char)
    (members : List (Option String × Json)) (back : ReadsBack value)
    (room : (printed (depth + 1) value).length < fuel) (ends : EndsNumber behind)
    (after : (skipSpace behind = '\x7d' :: tail ∧ members = []) ∨
      ∃ rest, skipSpace behind = ',' :: rest ∧ readMembers fuel rest = some (members, tail)) :
    readMembers (fuel + 1) (printedText (some name) ++
      (':' :: ' ' :: (printed (depth + 1) value ++ behind))) =
        some ((some name, value) :: members, tail) := by
  obtain ⟨colon, same⟩ : ∃ colon, colon = ':' :: ' ' :: (printed (depth + 1) value ++ behind) :=
    ⟨_, rfl⟩
  have form : printedText (some name) ++ colon =
      '"' :: (name.toList.flatMap printedCharacter ++ '"' :: colon) := by
    simp [printedText]
  have read : readValue fuel (' ' :: (printed (depth + 1) value ++ behind)) =
      some (value, behind) := by
    rw [← List.singleton_append, read_value_behind fuel [' '] _ rfl]
    exact back (depth + 1) fuel behind room ends
  rw [← same, form, readMembers, skip_nothing '"' _ rfl]
  obtain ⟨closing, rfl⟩ | ⟨rest, comma, others⟩ := after
  · simp [read_printed_text, same, skip_nothing ':' _ rfl, read, closing]
  · simp [read_printed_text, same, skip_nothing ':' _ rfl, read, comma, others]

/-- The members of an object are read back up to the closing brace.

Proof: induction on the members behind the first one. -/
theorem read_members (name : String) (value : Json) (members : List (Option String × Json))
    (depth fuel : Nat) (rest : List Char) (valueBack : ReadsBack value)
    (named : ∀ member ∈ members, ∃ name, member.1 = some name)
    (back : ∀ member ∈ members, ReadsBack member.2)
    (room : (printedText (some name) ++ printed (depth + 1) value ++
      printedMembers depth members).length < fuel) :
    readMembers fuel (printedText (some name) ++ (':' :: ' ' :: (printed (depth + 1) value ++
      (printedMembers depth members ++ (lineBreak depth ++ '\x7d' :: rest))))) =
      some ((some name, value) :: members, rest) := by
  induction members generalizing name value fuel with
  | nil =>
    cases fuel with
    | zero => omega
    | succ fuel =>
      have text : 0 < (printedText (some name)).length := by simp [printedText]
      simp only [List.length_append] at room
      have closing : skipSpace (lineBreak depth ++ '\x7d' :: rest) = '\x7d' :: rest := by
        rw [skip_blanks _ _ (line_break_blank depth), skip_nothing '\x7d' rest rfl]
      exact read_member name value depth fuel _ rest [] valueBack (by omega)
        (line_break_ends _ _) (.inl ⟨closing, rfl⟩)
  | cons next members inductionHypothesis =>
    cases fuel with
    | zero => omega
    | succ fuel =>
      obtain ⟨nextKey, nextValue⟩ := next
      obtain ⟨nextName, rfl⟩ : ∃ name, nextKey = some name := named _ List.mem_cons_self
      have text : 0 < (printedText (some name)).length := by simp [printedText]
      simp only [printedMembers, List.length_append, List.length_cons] at room
      obtain ⟨behind, same⟩ : ∃ behind, behind = printedText (some nextName) ++
        (':' :: ' ' :: (printed (depth + 1) nextValue ++
          (printedMembers depth members ++ (lineBreak depth ++ '\x7d' :: rest)))) := ⟨_, rfl⟩
      have form : printedMembers depth ((some nextName, nextValue) :: members) ++
          (lineBreak depth ++ '\x7d' :: rest) = ',' :: (lineBreak (depth + 1) ++ behind) := by
        simp [printedMembers, same]
      have others := inductionHypothesis nextName nextValue fuel
        (back _ List.mem_cons_self)
        (fun member found => named member (List.mem_cons_of_mem _ found))
        (fun member found => back member (List.mem_cons_of_mem _ found))
        (by simp only [List.length_append]; omega)
      rw [← same] at others
      rw [form]
      refine read_member name value depth fuel _ rest _ valueBack (by omega)
        (ends_number ',' _ rfl) (.inr ⟨_, skip_nothing ',' _ rfl, ?_⟩)
      rw [read_members_indented, others]

/-- An array with items is read back if they are.

The reader passes over the indentation behind the opening bracket, and what follows is no closing
bracket. -/
theorem array_reads_back (first : Json) (items : List Json) (depth fuel : Nat) (rest : List Char)
    (written : first.IsWritten) (back : ∀ item ∈ first :: items, ReadsBack item)
    (room : (printed depth (.array (first :: items))).length < fuel + 1) :
    readValue (fuel + 1) (printed depth (.array (first :: items)) ++ rest) =
      some (.array (first :: items), rest) := by
  simp only [printed, List.length_append, List.length_cons] at room
  obtain ⟨character, others, head, solid, inside⟩ := printed_head written (depth + 1)
  have read := read_items first items depth fuel rest back
    (by simp only [List.length_append]; omega)
  have form : printed depth (.array (first :: items)) ++ rest =
      '[' :: (lineBreak (depth + 1) ++ (printed (depth + 1) first ++
        (printedItems depth items ++ (lineBreak depth ++ ']' :: rest)))) := by
    simp [printed]
  rw [form, readValue, skip_nothing '[' _ rfl]
  simp only [skip_blanks _ _ (line_break_blank (depth + 1))]
  rw [head, List.cons_append, skip_nothing _ _ solid]
  rw [head, List.cons_append] at read
  split
  · rename_i equal
    exact absurd (List.cons.inj equal).1 inside
  · simp [read]

/-- An object with members is read back if their values are. -/
theorem object_reads_back (name : String) (value : Json) (members : List (Option String × Json))
    (depth fuel : Nat) (rest : List Char)
    (named : ∀ member ∈ members, ∃ name, member.1 = some name)
    (back : ∀ member ∈ (some name, value) :: members, ReadsBack member.2)
    (room : (printed depth (.object ((some name, value) :: members))).length < fuel + 1) :
    readValue (fuel + 1) (printed depth (.object ((some name, value) :: members)) ++ rest) =
      some (.object ((some name, value) :: members), rest) := by
  simp only [printed, List.length_append, List.length_cons] at room
  have read := read_members name value members depth fuel rest
    (back _ List.mem_cons_self) named
    (fun member found => back member (List.mem_cons_of_mem _ found))
    (by simp only [List.length_append]; omega)
  have form : printed depth (.object ((some name, value) :: members)) ++ rest =
      '\x7b' :: (lineBreak (depth + 1) ++ (printedText (some name) ++
        (':' :: ' ' :: (printed (depth + 1) value ++ (printedMembers depth members ++
          (lineBreak depth ++ '\x7d' :: rest)))))) := by
    simp [printed]
  rw [form, readValue, skip_nothing '\x7b' _ rfl]
  simp only [skip_blanks _ _ (line_break_blank (depth + 1))]
  obtain ⟨text, quoted⟩ : ∃ text, printedText (some name) = '"' :: text := ⟨_, rfl⟩
  rw [quoted, List.cons_append] at read ⊢
  rw [skip_nothing '"' _ rfl]
  simp [read]

/-- Every value with a printed form is read back from it.

Proof: induction on the value. -/
theorem reads_back {value : Json} (written : value.IsWritten) : ReadsBack value := by
  induction written with
  | null =>
    intro depth fuel rest room ends
    cases fuel with
    | zero => omega
    | succ fuel => simp [printed, readValue, skip_nothing 'n' _ rfl, readWord]
  | bool value =>
    intro depth fuel rest room ends
    cases fuel with
    | zero => omega
    | succ fuel =>
      cases value <;>
        simp [printed, readValue, skip_nothing 't' _ rfl, skip_nothing 'f' _ rfl, readWord]
  | number negative digits => exact number_reads_back negative digits
  | text value =>
    intro depth fuel rest room ends
    cases fuel with
    | zero => omega
    | succ fuel =>
      simp [printed, printedText, readValue, skip_nothing '"' _ rfl, read_printed_text]
  | array items written inductionHypothesis =>
    intro depth fuel rest room ends
    cases fuel with
    | zero => omega
    | succ fuel =>
      cases items with
      | nil => simp [printed, readValue, skip_nothing '[' _ rfl, skip_nothing ']' _ rfl]
      | cons first items =>
        exact array_reads_back first items depth fuel rest (written first List.mem_cons_self)
          inductionHypothesis room
  | object members named written inductionHypothesis =>
    intro depth fuel rest room ends
    cases fuel with
    | zero => omega
    | succ fuel =>
      cases members with
      | nil => simp [printed, readValue, skip_nothing '\x7b' _ rfl, skip_nothing '\x7d' _ rfl]
      | cons member members =>
        obtain ⟨key, value⟩ := member
        obtain ⟨name, rfl⟩ : ∃ name, key = some name := named _ List.mem_cons_self
        exact object_reads_back name value members depth fuel rest
          (fun member found => named member (List.mem_cons_of_mem _ found)) inductionHypothesis room

/-- A printed text is the text of the value that was printed, also with blanks behind it. -/
theorem of_text_pretty {value : Json} (written : value.IsWritten) (behind : String)
    (blank : behind.toList.all isSpace = true) : ofText? (value.pretty ++ behind) = some value := by
  have characters : (value.pretty ++ behind).toList = printed 0 value ++ behind.toList := by
    simp [pretty]
  have ends : EndsNumber behind.toList := by
    intro character first
    have space := List.all_eq_true.mp blank character (List.mem_of_mem_head? first)
    simp only [isSpace, Bool.or_eq_true, beq_iff_eq, or_assoc] at space
    rcases space with rfl | rfl | rfl | rfl <;> rfl
  have skipped : skipSpace behind.toList = [] := by
    have nothing := skip_blanks behind.toList [] blank
    rwa [List.append_nil] at nothing
  rw [ofText?]
  simp only [characters]
  rw [reads_back written 0 _ _ (by simp only [List.length_append]; omega) ends]
  simp [skipped]

end PacketSmith.Json
