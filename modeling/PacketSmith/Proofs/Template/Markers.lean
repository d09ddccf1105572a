import Mathlib.Data.List.TakeWhile
import PacketSmith.Proofs.Rendering

/-!
# Markers in texts

A marker stands in a text wherever a name of small letters and underscores is between double
braces. This is a matter of the text alone. The parts of a template cut its text at markers, and
what is compared here are the two: which of the markers that stand in a text are markers of the
cut. Behind an even number of opening braces all of them are, and behind an odd number none is,
because two braces that do not begin a marker are taken together.
-/

namespace PacketSmith
namespace Template

/-! ## Markers of a text -/

/-- Whether a name can stand in a marker. -/
structure IsMarkerName (name : List Char) : Prop where
  /-- It is not empty. -/
  inhabited : name ≠ []
  /-- It consists of small letters and underscores. -/
  letters : ∀ character ∈ name, 'a' ≤ character ∧ character ≤ 'z' ∨ character = '_'

/-- A marker as it is written. -/
def markerText (name : List Char) : List Char :=
  '\x7b' :: '\x7b' :: (name ++ ['\x7d', '\x7d'])

/-- Whether the marker of a name stands in a text, between what is in front of it and what is
behind it. -/
structure StandsIn (text front name back : List Char) : Prop where
  /-- The name can stand in a marker. -/
  named : IsMarkerName name
  /-- The three together are the text. -/
  whole : text = front ++ (markerText name ++ back)

/-- The number of opening braces that a text ends with. -/
def openingRun (front : List Char) : Nat :=
  (front.reverse.takeWhile (· == '\x7b')).length

/-- The characters of marker names are the small letters and the underscore. -/
theorem name_character_iff (character : Char) :
    isNameCharacter character = true ↔
      'a' ≤ character ∧ character ≤ 'z' ∨ character = '_' := by
  rw [isNameCharacter]
  delta Char.isLower
  simp only [Bool.or_eq_true, Bool.and_eq_true, decide_eq_true_eq, beq_iff_eq]
  rfl

/-- No brace is a character of marker names. -/
theorem IsMarkerName.braceless {name : List Char} (named : IsMarkerName name) :
    '\x7b' ∉ name ∧ '\x7d' ∉ name :=
  ⟨fun member => absurd (named.letters _ member) (by decide),
    fun member => absurd (named.letters _ member) (by decide)⟩

/-- A marker begins exactly where a name and two closing braces follow. -/
theorem marker_after_iff (text name behind : List Char) :
    markerAfter? text = some (name, behind) ↔
      IsMarkerName name ∧ text = name ++ '\x7d' :: '\x7d' :: behind := by
  constructor
  · intro found
    have whole := List.takeWhile_append_dropWhile (p := isNameCharacter) (l := text)
    have letters : ∀ character ∈ text.takeWhile isNameCharacter,
        isNameCharacter character = true := fun character => List.mem_takeWhile_imp
    unfold markerAfter? at found
    split at found
    · rename_i first others rest taken dropped
      cases found
      rw [taken] at whole letters
      rw [dropped] at whole
      exact ⟨⟨List.cons_ne_nil _ _,
        fun character member => (name_character_iff character).mp (letters character member)⟩,
        whole.symm⟩
    · cases found
  · rintro ⟨named, rfl⟩
    have letters : ∀ character ∈ name, isNameCharacter character = true :=
      fun character member => (name_character_iff character).mpr (named.letters character member)
    obtain ⟨first, others, rfl⟩ := List.exists_cons_of_ne_nil named.inhabited
    have closed : isNameCharacter '\x7d' = false := by decide
    have taken : (first :: others ++ '\x7d' :: '\x7d' :: behind).takeWhile isNameCharacter =
        first :: others := by
      rw [List.takeWhile_append_of_pos letters]
      simp [closed]
    have dropped : (first :: others ++ '\x7d' :: '\x7d' :: behind).dropWhile isNameCharacter =
        '\x7d' :: '\x7d' :: behind := by
      rw [List.dropWhile_append_of_pos letters]
      simp [closed]
    rw [markerAfter?, taken, dropped]
    rfl

/-! ## Opening braces at the end of a text -/

/-- A character that is no opening brace ends the run of those in front of it. -/
theorem opening_run_behind (front back : List Char) (mark : Char) (other : mark ≠ '\x7b') :
    openingRun (front ++ mark :: back) = openingRun back := by
  have reversed : (front ++ mark :: back).reverse = back.reverse ++ (mark :: front.reverse) := by
    simp
  rw [openingRun, openingRun, reversed, List.takeWhile_append]
  split
  · rename_i full
    simpa [other] using full.symm
  · rfl

/-- The run is as long as the text at most. -/
theorem opening_run_bound (front : List Char) : openingRun front ≤ front.length := by
  simpa [openingRun] using (List.takeWhile_sublist (· == '\x7b') (l := front.reverse)).length_le

/-- An opening brace in front of a text is one of the run exactly if the text is all opening
braces. -/
theorem opening_run_open (front : List Char) :
    openingRun ('\x7b' :: front) =
      if openingRun front = front.length then openingRun front + 1 else openingRun front := by
  rw [openingRun, openingRun, List.reverse_cons, List.takeWhile_append, List.length_reverse]
  split
  · rename_i full
    simp [full]
  · rfl

/-- Two opening braces in front of a text are both in the run or neither of them is. -/
theorem opening_run_braces (front : List Char) :
    openingRun ('\x7b' :: '\x7b' :: front) % 2 = openingRun front % 2 := by
  have bound := opening_run_bound front
  rw [opening_run_open, opening_run_open, List.length_cons]
  split <;> split <;> omega

/-- A marker ends the run in front of it. -/
theorem opening_run_marker (name rest : List Char) :
    openingRun (markerText name ++ rest) = openingRun rest := by
  have parted : markerText name ++ rest =
      '\x7b' :: '\x7b' :: (name ++ ['\x7d']) ++ '\x7d' :: rest := by
    simp [markerText]
  rw [parted]
  exact opening_run_behind _ _ _ (by decide)

/-! ## Where markers stand -/

/-- In an empty text no marker stands. -/
theorem stands_in_nothing (front name back : List Char) : ¬ StandsIn [] front name back := by
  rintro ⟨_, whole⟩
  simp [markerText] at whole

/-- In one character no marker stands. -/
theorem stands_in_character (character : Char) (front name back : List Char) :
    ¬ StandsIn [character] front name back := by
  rintro ⟨_, whole⟩
  have lengths := congrArg List.length whole
  simp [markerText] at lengths
  omega

/-- Behind a character that does not begin two opening braces, the markers of a text are those of
the rest of it. -/
theorem stands_behind_character (first second : Char) (rest front name back : List Char)
    (other : ¬(first = '\x7b' ∧ second = '\x7b')) :
    StandsIn (first :: second :: rest) front name back ↔
      ∃ later, front = first :: later ∧ StandsIn (second :: rest) later name back := by
  constructor
  · rintro ⟨named, whole⟩
    cases front with
    | nil =>
      simp only [markerText, List.nil_append, List.cons_append, List.cons.injEq] at whole
      exact absurd ⟨whole.1, whole.2.1⟩ other
    | cons character later =>
      obtain ⟨rfl, remaining⟩ := List.cons.inj whole
      exact ⟨later, rfl, named, remaining⟩
  · rintro ⟨later, rfl, named, whole⟩
    exact ⟨named, by rw [whole]; rfl⟩

/-- A character that does not begin two opening braces is not in the run in front of a marker. -/
theorem opening_run_character (first second : Char) (rest later name back : List Char)
    (other : ¬(first = '\x7b' ∧ second = '\x7b'))
    (standing : StandsIn (second :: rest) later name back) :
    openingRun (first :: later) = openingRun later := by
  by_cases brace : first = '\x7b'
  · subst brace
    have different : second ≠ '\x7b' := fun same => other ⟨rfl, same⟩
    cases later with
    | nil => exact absurd (List.cons.inj standing.whole).1 different
    | cons character later =>
      obtain ⟨rfl, _⟩ := List.cons.inj standing.whole
      exact (opening_run_behind ['\x7b'] later _ different).trans
        (opening_run_behind [] later _ different).symm
  · exact opening_run_behind [] later first brace

/-- In front of the rest of a text stand at most two markers with a brace of two opening ones: the
one that begins with both, and the one that begins with the second. -/
theorem stands_behind_braces (rest front name back : List Char)
    (standing : StandsIn ('\x7b' :: '\x7b' :: rest) front name back) :
    front = [] ∧ markerAfter? rest = some (name, back) ∨
      front = ['\x7b'] ∧ rest = '\x7b' :: (name ++ '\x7d' :: '\x7d' :: back) ∨
        ∃ later, front = '\x7b' :: '\x7b' :: later ∧ StandsIn rest later name back := by
  obtain ⟨named, whole⟩ := standing
  rcases front with _ | ⟨first, _ | ⟨second, later⟩⟩
  · simp only [markerText, List.nil_append, List.cons_append, List.append_assoc,
      List.cons.injEq, true_and] at whole
    exact Or.inl ⟨rfl, (marker_after_iff rest name back).mpr ⟨named, by simpa using whole⟩⟩
  · simp only [markerText, List.cons_append, List.nil_append, List.append_assoc,
      List.cons.injEq] at whole
    obtain ⟨rfl, _, remaining⟩ := whole
    exact Or.inr (Or.inl ⟨rfl, by simpa using remaining⟩)
  · simp only [List.cons_append, List.cons.injEq] at whole
    obtain ⟨rfl, rfl, remaining⟩ := whole
    exact Or.inr (Or.inr ⟨later, rfl, named, remaining⟩)

/-- Behind a text without opening braces, the markers of a whole text are those of the rest. -/
theorem stands_behind_plain (plain rest front name back : List Char) (free : '\x7b' ∉ plain)
    (standing : StandsIn (plain ++ rest) front name back) :
    ∃ later, front = plain ++ later ∧ StandsIn rest later name back := by
  obtain ⟨named, whole⟩ := standing
  rcases List.append_eq_append_iff.mp whole with ⟨later, rfl, remaining⟩ | ⟨tail, rfl, remaining⟩
  · exact ⟨later, rfl, named, remaining⟩
  · cases tail with
    | nil => exact ⟨[], by simp, named, by simpa using remaining.symm⟩
    | cons mark tail =>
      -- The marker would begin inside of the text without opening braces.
      obtain ⟨rfl, _⟩ := List.cons.inj remaining
      simp at free

/-- The markers of a text that begins with a marker are this one and those behind it. -/
theorem stands_behind_marker (first behind front name back : List Char)
    (named : IsMarkerName first) :
    StandsIn (markerText first ++ behind) front name back ↔
      front = [] ∧ name = first ∧ back = behind ∨
        ∃ later, front = markerText first ++ later ∧ StandsIn behind later name back := by
  have parted (rest : List Char) : markerText first ++ rest =
      '\x7b' :: '\x7b' :: (first ++ ['\x7d', '\x7d'] ++ rest) := rfl
  have found : markerAfter? (first ++ ['\x7d', '\x7d'] ++ behind) = some (first, behind) :=
    (marker_after_iff _ _ _).mpr ⟨named, by simp⟩
  have free : '\x7b' ∉ first ++ ['\x7d', '\x7d'] := by simp [named.braceless.1]
  constructor
  · intro standing
    rw [parted] at standing
    rcases stands_behind_braces _ _ _ _ standing with
      ⟨rfl, begun⟩ | ⟨_, overlapping⟩ | ⟨later, rfl, inside⟩
    · cases found.symm.trans begun
      exact Or.inl ⟨rfl, rfl, rfl⟩
    · obtain ⟨character, others, rfl⟩ := List.exists_cons_of_ne_nil named.inhabited
      obtain ⟨rfl, _⟩ := List.cons.inj overlapping
      simp at free
    · obtain ⟨further, rfl, behindIt⟩ := stands_behind_plain _ _ _ _ _ free inside
      exact Or.inr ⟨further, (parted further).symm, behindIt⟩
  · rintro (⟨rfl, rfl, rfl⟩ | ⟨later, rfl, standing⟩)
    · exact ⟨named, rfl⟩
    · exact ⟨standing.named, by rw [standing.whole, List.append_assoc]⟩

/-- Markers never overlap: of two that do not begin at the same place, one ends before the other
begins. -/
theorem StandsIn.apart {text front name back otherFront other otherBack : List Char}
    (standing : StandsIn text front name back)
    (further : StandsIn text otherFront other otherBack)
    (before : front.length < otherFront.length) :
    front ++ markerText name <+: otherFront := by
  have same : front ++ (markerText name ++ back) =
      otherFront ++ (markerText other ++ otherBack) := standing.whole ▸ further.whole
  have begins : front <+: otherFront :=
    List.prefix_of_prefix_length_le (same ▸ List.prefix_append _ _)
      (List.prefix_append _ _) (Nat.le_of_lt before)
  obtain ⟨later, rfl⟩ := begins
  rw [List.append_assoc, List.append_cancel_left_eq] at same
  have inside : StandsIn (markerText name ++ back) later other otherBack := ⟨further.named, same⟩
  rcases (stands_behind_marker _ _ _ _ _ standing.named).mp inside with ⟨rfl, _⟩ | ⟨rest, rfl, _⟩
  · simp at before
  · exact ⟨rest, by simp⟩

end Template
end PacketSmith
