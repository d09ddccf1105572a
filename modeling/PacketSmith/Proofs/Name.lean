import PacketSmith.Name
import PacketSmith.Proofs.Text.Split
import PacketSmith.Proofs.Text.Words

/-!
# The characters of names

An identifier holds ASCII letters, digits and underscores. Its Pascal-case form holds letters
and digits only, and does not begin with a small letter. What a rule about single
characters says is checked on the ASCII characters one by one.
-/

namespace PacketSmith.Name

/-- A property of every ASCII character, checked on their numbers. -/
theorem ascii_property (property : Char → Prop)
    (checked : ∀ number < 128, property (Char.ofNat number)) (character : Char)
    (ascii : character.toNat < 128) : property character :=
  Char.ofNat_toNat character ▸ checked character.toNat ascii

/-- Letters and digits are ASCII characters. -/
theorem alphanumeric_ascii (character : Char) (alphanumeric : character.isAlphanum = true) :
    character.toNat < 128 := by
  have ranges : ((65 ≤ character.toNat ∧ character.toNat ≤ 90) ∨
      (97 ≤ character.toNat ∧ character.toNat ≤ 122)) ∨
      (48 ≤ character.toNat ∧ character.toNat ≤ 57) := by
    delta Char.isAlphanum Char.isAlpha Char.isUpper Char.isLower Char.isDigit at alphanumeric
    simp only [Bool.or_eq_true, Bool.and_eq_true, decide_eq_true_eq] at alphanumeric
    exact alphanumeric
  omega

/-- Letters and digits belong to words of code. -/
theorem alphanumeric_word (character : Char) (alphanumeric : character.isAlphanum = true) :
    Text.isWordCharacter character = true := by
  simp [Text.isWordCharacter, alphanumeric]

/-- The uppercase form of a letter or digit is one letter or digit, and no small letter. -/
theorem uppercase_alphanumeric (character : Char) (alphanumeric : character.isAlphanum = true) :
    Text.uppercase character = [character.toUpper] ∧ character.toUpper.isAlphanum = true ∧
      character.toUpper.isLower = false := by
  have ascii := alphanumeric_ascii character alphanumeric
  have form : Text.uppercase character = [character.toUpper] := by
    have below : character.toNat < 0x80 := ascii
    simp only [Text.uppercase, below, if_true]
  have kept : character.isAlphanum = true →
      character.toUpper.isAlphanum = true ∧ character.toUpper.isLower = false :=
    ascii_property
      (fun c => c.isAlphanum = true → c.toUpper.isAlphanum = true ∧ c.toUpper.isLower = false)
      (by decide +kernel) character ascii
  exact ⟨form, kept alphanumeric⟩

/-- An identifier is a first character and others, each of its class. -/
theorem identifier_parts (name : String) (identifier : isIdentifier name = true) :
    ∃ first others, name.toList = first :: others ∧ isInitial first = true ∧
      ∀ character ∈ others, isSubsequent character = true := by
  unfold isIdentifier at identifier
  cases characters : name.toList with
  | nil => simp [characters, isIdentifierText] at identifier
  | cons first others =>
    rw [characters] at identifier
    have parts : isInitial first = true ∧ others.all isSubsequent = true := by
      simpa [isIdentifierText] using identifier
    exact ⟨first, others, rfl, parts.1, List.all_eq_true.mp parts.2⟩

/-- Every character of an identifier may stand inside one. -/
theorem identifier_characters (name : String) (identifier : isIdentifier name = true) :
    ∀ character ∈ name.toList, isSubsequent character = true := by
  obtain ⟨first, others, characters, initial, subsequent⟩ := identifier_parts name identifier
  intro character member
  rw [characters] at member
  rcases List.mem_cons.mp member with rfl | member
  · have either : character.isAlpha = true ∨ (character == '_') = true := by
      simpa [isInitial] using initial
    rcases either with letter | underscore
    · simp [isSubsequent, Char.isAlphanum, letter]
    · simp [isSubsequent, underscore]
  · exact subsequent character member

/-- The characters of identifiers belong to words of code, and none is a dot or minus sign. -/
theorem subsequent_word (character : Char) (subsequent : isSubsequent character = true) :
    Text.isWordCharacter character = true ∧ character ≠ '.' ∧ character ≠ '-' := by
  have either : character.isAlphanum = true ∨ (character == '_') = true := by
    simpa [isSubsequent] using subsequent
  refine ⟨?_, ?_, ?_⟩
  · rcases either with alphanumeric | underscore
    · exact alphanumeric_word character alphanumeric
    · simp [Text.isWordCharacter, underscore]
  · rintro rfl
    revert either
    decide
  · rintro rfl
    revert either
    decide

/-- An identifier is one word of code. -/
theorem identifier_word (name : String) (identifier : isIdentifier name = true) :
    name.toList ≠ [] ∧
      ∀ character ∈ name.toList, Text.isWordCharacter character = true := by
  obtain ⟨first, others, characters, _, _⟩ := identifier_parts name identifier
  constructor
  · simp [characters]
  · intro character member
    exact (subsequent_word character (identifier_characters name identifier character member)).1

/-- A character of an identifier that separates no words is a letter or digit. -/
theorem inner_alphanumeric (character : Char) (subsequent : isSubsequent character = true)
    (inner : separatesWords character = false) : character.isAlphanum = true := by
  have either : character.isAlphanum = true ∨ (character == '_') = true := by
    simpa [isSubsequent] using subsequent
  rcases either with alphanumeric | underscore
  · exact alphanumeric
  · simp [separatesWords, underscore] at inner

/-- A capitalized word of letters and digits holds letters and digits, and does not begin
with a small letter. -/
theorem capitalized_characters (word : List Char)
    (alphanumeric : ∀ character ∈ word, character.isAlphanum = true) :
    (∀ character ∈ capitalized word, character.isAlphanum = true) ∧
      ∀ character ∈ (capitalized word).head?, character.isLower = false := by
  cases word with
  | nil => simp [capitalized]
  | cons first others =>
    obtain ⟨form, kept, capital⟩ :=
      uppercase_alphanumeric first (alphanumeric first List.mem_cons_self)
    constructor
    · intro character member
      have place : character = first.toUpper ∨ character ∈ others := by
        simpa [capitalized, form] using member
      rcases place with rfl | member
      · exact kept
      · exact alphanumeric character (List.mem_cons_of_mem first member)
    · intro character begins
      have same : first.toUpper = character := by simpa [capitalized, form] using begins
      exact same ▸ capital

/-- The words of an identifier hold letters and digits only. -/
theorem identifier_words (name : String) (identifier : isIdentifier name = true) :
    ∀ word ∈ Text.splitWhere separatesWords name.toList,
      ∀ character ∈ word, character.isAlphanum = true := by
  intro word member character held
  obtain ⟨stands, inner⟩ := Text.split_where_members separatesWords name.toList word member
    character held
  exact inner_alphanumeric character (identifier_characters name identifier character stands) inner

/-- The Pascal-case form of an identifier holds letters and digits only. -/
theorem pascal_characters (name : String) (identifier : isIdentifier name = true) :
    ∀ character ∈ (pascal name).toList, character.isAlphanum = true := by
  intro character member
  simp only [pascal, pascalText, String.toList_ofList, List.mem_flatMap] at member
  obtain ⟨word, found, held⟩ := member
  exact (capitalized_characters word (identifier_words name identifier word found)).1 character held

/-- The first character of pieces put together is the first of the first piece that has one. -/
theorem head_of_parts (parts : List (List Char)) (character : Char)
    (begins : character ∈ (parts.flatten).head?) :
    ∃ part ∈ parts, character ∈ part.head? := by
  induction parts with
  | nil => simp at begins
  | cons part parts inductionHypothesis =>
    cases part with
    | nil =>
      obtain ⟨other, member, first⟩ := inductionHypothesis (by simpa using begins)
      exact ⟨other, List.mem_cons_of_mem _ member, first⟩
    | cons first others => exact ⟨first :: others, List.mem_cons_self, by simpa using begins⟩

/-- The Pascal-case form of an identifier does not begin with a small letter. -/
theorem pascal_capital (name : String) (identifier : isIdentifier name = true) :
    ∀ character ∈ (pascal name).toList.head?, character.isLower = false := by
  intro character begins
  simp only [pascal, pascalText, String.toList_ofList, List.flatMap] at begins
  obtain ⟨part, member, first⟩ := head_of_parts _ character begins
  obtain ⟨word, found, rfl⟩ := List.mem_map.mp member
  have characters := capitalized_characters word (identifier_words name identifier word found)
  exact characters.2 character first

/-- It has no small letter at the beginning, whether there is something in it or not. -/
theorem pascal_not_small (name : String) (identifier : isIdentifier name = true) :
    ¬ (pascal name).toList.head?.any Char.isLower = true := by
  intro small
  cases begins : (pascal name).toList.head? with
  | none => simp [begins] at small
  | some first =>
    have capital := pascal_capital name identifier first begins
    simp [begins, capital] at small

end PacketSmith.Name
