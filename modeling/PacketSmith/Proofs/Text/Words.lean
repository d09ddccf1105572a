import PacketSmith.Text.Search

/-!
# The words of code

A word of code is a longest run of letters, digits, underscores, dots and minus signs, so
that a dotted path and a signed number are words. Everything else stands between words.

A text that is put together from fixed texts and from parts that are not known in advance
is a list of fragments. `Fragment.words` finds the words of such a list without looking into the
unknown parts, and `words_fragments` says that they are the words of the text.
-/

namespace PacketSmith.Text

/-- Whether a character belongs to words. -/
def isWordCharacter (character : Char) : Bool :=
  character.isAlphanum || character == '_' || character == '.' || character == '-'

/-- Go through a text with the beginning of a word at hand, if there is one: the words that
end inside the text, and the word that is still open at its end. -/
def scanned (opened : Option (List Char)) : List Char → List (List Char) × Option (List Char)
  | [] => ([], opened)
  | character :: text =>
    if isWordCharacter character then scanned (some (opened.getD [] ++ [character])) text
    else
      let (found, last) := scanned none text
      (opened.toList ++ found, last)

/-- The words of a text that goes on behind the beginning of a word. -/
def wordsFrom (opened : Option (List Char)) (text : List Char) : List (List Char) :=
  (scanned opened text).1 ++ (scanned opened text).2.toList

/-- The words of a text. -/
def words (text : List Char) : List (List Char) :=
  wordsFrom none text

/-- A text in two parts is gone through in two steps. -/
theorem scanned_append (opened : Option (List Char)) (front back : List Char) :
    scanned opened (front ++ back) =
      ((scanned opened front).1 ++ (scanned (scanned opened front).2 back).1,
        (scanned (scanned opened front).2 back).2) := by
  induction front generalizing opened with
  | nil => rfl
  | cons character front inductionHypothesis =>
    simp only [List.cons_append, scanned]
    split <;> simp [inductionHypothesis]

/-- A run of word characters belongs to one word. -/
theorem scanned_run (opened : Option (List Char)) (run : List Char) (inhabited : run ≠ [])
    (solid : ∀ character ∈ run, isWordCharacter character = true) :
    scanned opened run = ([], some (opened.getD [] ++ run)) := by
  induction run generalizing opened with
  | nil => exact absurd rfl inhabited
  | cons character run inductionHypothesis =>
    have first : isWordCharacter character = true := solid character List.mem_cons_self
    simp only [scanned, first, if_true]
    cases run with
    | nil => rfl
    | cons next run =>
      rw [inductionHypothesis _ (List.cons_ne_nil next run) fun other member =>
        solid other (List.mem_cons_of_mem character member)]
      simp

/-- Words do not go on across any other character. Every word is therefore on one side. -/
theorem words_append (front back : List Char) (mark : Char)
    (between : isWordCharacter mark = false) :
    words (front ++ mark :: back) = words front ++ words back := by
  simp [words, wordsFrom, scanned_append, scanned, between]

/-- What belongs to no word makes no difference in front of a text. -/
theorem words_padding (padding text : List Char)
    (between : ∀ character ∈ padding, isWordCharacter character = false) :
    words (padding ++ text) = words text := by
  induction padding with
  | nil => rfl
  | cons character padding inductionHypothesis =>
    have others := inductionHypothesis fun other member =>
      between other (List.mem_cons_of_mem character member)
    have first := words_append [] (padding ++ text) character
      (between character List.mem_cons_self)
    rw [List.cons_append, ← others]
    exact first

/-- A run of word characters is one word. -/
theorem words_run (run : List Char) (inhabited : run ≠ [])
    (solid : ∀ character ∈ run, isWordCharacter character = true) : words run = [run] := by
  simp [words, wordsFrom, scanned_run none run inhabited solid]

/-- What is found holds the open beginning, or characters of the text. -/
theorem scanned_members (opened : Option (List Char)) (text : List Char) :
    ∀ word ∈ wordsFrom opened text, ∀ character ∈ word,
      character ∈ opened.getD [] ∨ character ∈ text := by
  induction text generalizing opened with
  | nil =>
    intro word found character held
    cases opened with
    | none => simp [wordsFrom, scanned] at found
    | some run =>
      have same : word = run := by simpa [wordsFrom, scanned] using found
      exact Or.inl (same ▸ held)
  | cons first text inductionHypothesis =>
    intro word found character held
    by_cases inside : isWordCharacter first = true
    · have later : word ∈ wordsFrom (some (opened.getD [] ++ [first])) text := by
        simpa [wordsFrom, scanned, inside] using found
      rcases inductionHypothesis _ word later character held with begun | stands
      · rcases List.mem_append.mp begun with begun | begun
        · exact Or.inl begun
        · exact Or.inr (List.mem_cons.mpr (Or.inl (List.mem_singleton.mp begun)))
      · exact Or.inr (List.mem_cons_of_mem first stands)
    · have split : word ∈ opened.toList ∨ word ∈ wordsFrom none text := by
        simpa [wordsFrom, scanned, inside, or_assoc] using found
      rcases split with begun | later
      · have same : opened = some word := by simpa using begun
        exact Or.inl (by simpa [same] using held)
      · rcases inductionHypothesis none word later character held with begun | stands
        · simp at begun
        · exact Or.inr (List.mem_cons_of_mem first stands)

/-- Words hold characters of the text only. -/
theorem words_members (text : List Char) :
    ∀ word ∈ words text, ∀ character ∈ word, character ∈ text := by
  intro word found character held
  simpa using scanned_members none text word found character held

/-- A part of a text. -/
inductive Fragment where
  /-- Characters known in advance. -/
  | fixed (text : String)
  /-- A run of word characters. -/
  | run (text : List Char)
  /-- Any text, with a character behind it that belongs to no word. -/
  | phrase (text : List Char) (closing : Char)

namespace Fragment

/-- The characters of a fragment. -/
def text : Fragment → List Char
  | fixed text => text.toList
  | run text => text
  | phrase text closing => text ++ [closing]

/-- Whether a fragment is what it says it is. -/
def IsProper : Fragment → Prop
  | fixed _ => True
  | run text => text ≠ [] ∧ ∀ character ∈ text, isWordCharacter character = true
  | phrase _ closing => isWordCharacter closing = false

/-- Nothing is asked of characters known in advance. -/
@[simp] theorem fixed_proper (text : String) : (fixed text).IsProper := trivial

/-- Of a phrase only the character behind it matters. -/
@[simp] theorem phrase_proper (text : List Char) (closing : Char) :
    (phrase text closing).IsProper ↔ isWordCharacter closing = false := Iff.rfl

/-- Go through a fragment, without looking into the parts that are not known in advance. -/
def scanned (opened : Option (List Char)) : Fragment → List (List Char) × Option (List Char)
  | fixed text => Text.scanned opened text.toList
  | run text => ([], some (opened.getD [] ++ text))
  | phrase text _ => (wordsFrom opened text, none)

/-- The words of fragments behind the beginning of a word. -/
def wordsFrom (opened : Option (List Char)) : List Fragment → List (List Char)
  | [] => opened.toList
  | fragment :: fragments =>
    (fragment.scanned opened).1 ++ wordsFrom (fragment.scanned opened).2 fragments

/-- The words of fragments. -/
def words (fragments : List Fragment) : List (List Char) :=
  wordsFrom none fragments

/-- Going through a fragment is going through its characters. -/
theorem scanned_exact (opened : Option (List Char)) (fragment : Fragment)
    (proper : fragment.IsProper) :
    Text.scanned opened fragment.text = fragment.scanned opened := by
  cases fragment with
  | fixed text => rfl
  | run text => exact scanned_run opened text proper.1 proper.2
  | phrase text closing =>
    have between : isWordCharacter closing = false := proper
    simp [Fragment.text, Fragment.scanned, scanned_append, Text.scanned, between, Text.wordsFrom]

/-- The words found in fragments are the words of their text. -/
theorem words_from_exact (opened : Option (List Char)) (fragments : List Fragment)
    (proper : ∀ fragment ∈ fragments, fragment.IsProper) :
    Text.wordsFrom opened (fragments.flatMap text) = wordsFrom opened fragments := by
  induction fragments generalizing opened with
  | nil => rfl
  | cons fragment fragments inductionHypothesis =>
    have first := scanned_exact opened fragment (proper fragment List.mem_cons_self)
    have others := inductionHypothesis (fragment.scanned opened).2 fun other member =>
      proper other (List.mem_cons_of_mem fragment member)
    simp only [Text.wordsFrom] at others
    simp only [Text.wordsFrom, List.flatMap_cons, scanned_append, first, wordsFrom, ← others,
      List.append_assoc]

end Fragment

/-- The words of a text of fragments. -/
theorem words_fragments (fragments : List Fragment)
    (proper : ∀ fragment ∈ fragments, fragment.IsProper) :
    words (fragments.flatMap Fragment.text) = Fragment.words fragments :=
  Fragment.words_from_exact none fragments proper

end PacketSmith.Text
