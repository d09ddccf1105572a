import Mathlib.Tactic.SplitIfs
import PacketSmith.Archive.Bytes

/-!
# The order of bytes

Texts are ordered by their characters. Where two texts first differ, the bytes of the greater
character are greater at the first byte in which they differ, and there is one before the end of
either. The bytes of texts are therefore ordered as the texts are.
-/

namespace PacketSmith.Text

/-- Whether two lists of bytes differ before the end of either, and the first is less where they
do so for the first time. -/
def IsLess (first second : List UInt8) : Prop :=
  ∃ common byte other rest otherRest, first = common ++ byte :: rest ∧
    second = common ++ other :: otherRest ∧ byte < other

/-- What follows two lists of bytes follows behind the first difference. -/
theorem IsLess.lt {first second : List UInt8} (less : IsLess first second)
    (rest otherRest : List UInt8) : first ++ rest < second ++ otherRest := by
  obtain ⟨common, byte, other, behind, otherBehind, rfl, rfl, smaller⟩ := less
  induction common with
  | nil => exact List.Lex.rel smaller
  | cons shared common inductionHypothesis => exact List.Lex.cons inductionHypothesis

/-- Bytes of less numbers are less, below the number of bytes. -/
theorem byte_less {number other : Nat} (less : number < other) (small : other < 256) :
    UInt8.ofNat number < UInt8.ofNat other := by
  rw [UInt8.lt_iff_toNat_lt, UInt8.toNat_ofNat', UInt8.toNat_ofNat']
  omega

/-- Lists of bytes differ at once if the first bytes do. -/
theorem IsLess.first {number other : Nat} (rest otherRest : List UInt8) (less : number < other)
    (small : other < 256) :
    IsLess (UInt8.ofNat number :: rest) (UInt8.ofNat other :: otherRest) :=
  ⟨[], _, _, rest, otherRest, rfl, rfl, byte_less less small⟩

/-- Lists of bytes differ behind what they share. -/
theorem IsLess.behind {first second : List UInt8} (shared : UInt8) (less : IsLess first second) :
    IsLess (shared :: first) (shared :: second) := by
  obtain ⟨common, byte, other, rest, otherRest, rfl, rfl, smaller⟩ := less
  exact ⟨shared :: common, byte, other, rest, otherRest, rfl, rfl, smaller⟩

/-- Lists of bytes differ if their first bytes do, or else what is behind them. -/
theorem IsLess.next {number other : Nat} {rest otherRest : List UInt8} (order : number ≤ other)
    (small : other < 256) (less : number = other → IsLess rest otherRest) :
    IsLess (UInt8.ofNat number :: rest) (UInt8.ofNat other :: otherRest) := by
  rcases Nat.lt_or_eq_of_le order with smaller | rfl
  · exact .first rest otherRest smaller small
  · exact (less rfl).behind _

/-- The bytes of characters are ordered as the characters are.

Proof: a character with fewer bytes has a less first byte. Of two characters with as many bytes,
which hold the digits of their numbers with base 64, the bytes differ where the digits do. -/
theorem encode_less (character other : Char) (less : character < other) :
    IsLess (String.utf8EncodeChar character) (String.utf8EncodeChar other) := by
  have smaller : character.val.toNat < other.val.toNat := less
  have bounded : other.val.toNat < 1114112 := by
    rcases other.valid with low | high
    · omega
    · exact high.2
  rw [String.utf8EncodeChar, String.utf8EncodeChar]
  generalize character.val.toNat = number at *
  generalize other.val.toNat = greater at *
  split_ifs
  -- With fewer bytes, or one byte each, the first bytes decide. What is left are two, three and
  -- four bytes each.
  all_goals try first
    | exact .first _ _ (by omega) (by omega)
    | omega
  · exact .next (by omega) (by omega) fun _ => .first _ _ (by omega) (by omega)
  · exact .next (by omega) (by omega) fun _ => .next (by omega) (by omega) fun _ =>
      .first _ _ (by omega) (by omega)
  · exact .next (by omega) (by omega) fun _ => .next (by omega) (by omega) fun _ =>
      .next (by omega) (by omega) fun _ => .first _ _ (by omega) (by omega)

/-- The bytes of a text are those of its characters. -/
theorem bytes_characters (text : String) :
    Content.textBytes text = text.toList.flatMap String.utf8EncodeChar := by
  obtain ⟨characters, rfl⟩ : ∃ characters, text = String.ofList characters := ⟨text.toList, by simp⟩
  rw [Content.textBytes, String.toUTF8_eq_toByteArray, String.toByteArray_ofList, List.utf8Encode,
    List.toList_data_toByteArray, String.toList_ofList]

/-- The bytes of texts are ordered as the texts are.

Proof: induction on how the texts are ordered. -/
theorem bytes_lt (text other : String) (less : text < other) :
    Content.textBytes text < Content.textBytes other := by
  have order : List.Lex (· < ·) text.toList other.toList := less
  rw [bytes_characters, bytes_characters]
  generalize text.toList = characters at order
  generalize other.toList = otherCharacters at order
  induction order with
  | @nil character rest =>
    obtain ⟨byte, bytes, encoded⟩ :=
      List.exists_cons_of_ne_nil (String.utf8EncodeChar_ne_nil (c := character))
    rw [List.flatMap_cons, encoded]
    exact List.Lex.nil
  | cons _ inductionHypothesis =>
    rw [List.flatMap_cons, List.flatMap_cons]
    exact List.append_left_lt inductionHypothesis
  | rel smaller => exact (encode_less _ _ smaller).lt _ _

end PacketSmith.Text
