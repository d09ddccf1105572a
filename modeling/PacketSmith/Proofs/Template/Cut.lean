import PacketSmith.Proofs.Template.Markers

/-!
# Texts cut at markers

A cut of a text gives the markers at which it is cut and the literals around them; put together
they are the text. The parts of a template are a cut of its text. Which markers this cut has is
said by their places: a marker that stands in the text is one of the cut exactly if the number of
opening braces in front of it is even. A marker behind an odd number is inside of a literal.
-/

namespace PacketSmith
namespace Template

/-- A text cut at markers. -/
structure Cut where
  /-- The literals in front of markers, each with the name of the marker behind it. -/
  marked : List (List Char × List Char)
  /-- The literal behind the last marker. -/
  last : List Char
  deriving DecidableEq, Repr

namespace Cut

/-- The text that is cut. -/
def text (cut : Cut) : List Char :=
  (cut.marked.flatMap fun (literal, name) => literal ++ markerText name) ++ cut.last

/-- The names of the markers, in order. -/
def names (cut : Cut) : List (List Char) :=
  cut.marked.map Prod.snd

/-- The literals, in order. -/
def literals (cut : Cut) : List (List Char) :=
  cut.marked.map Prod.fst ++ [cut.last]

/-- The literals, with the text of a value in the place of each marker. -/
def filled (value : List Char → List Char) (cut : Cut) : List Char :=
  (cut.marked.flatMap fun (literal, name) => literal ++ value name) ++ cut.last

/-- Whether the text is cut at the marker of a name, between what is in front of it and what is
behind it. -/
def HasMarker (cut : Cut) (front name back : List Char) : Prop :=
  ∃ before literal after, cut.marked = before ++ (literal, name) :: after ∧
    front = text ⟨before, literal⟩ ∧ back = text ⟨after, cut.last⟩

/-- The cut of a text with one more character in front. -/
def push (single : Char) (cut : Cut) : Cut :=
  match cut.marked with
  | [] => ⟨[], single :: cut.last⟩
  | (literal, name) :: marked => ⟨(single :: literal, name) :: marked, cut.last⟩

/-- The cut of a text with one more marker in front. -/
def mark (name : List Char) (cut : Cut) : Cut :=
  ⟨([], name) :: cut.marked, cut.last⟩

/-- The cut that parts make. -/
def ofParts : List TemplatePart → Cut
  | [] => ⟨[], []⟩
  | .character single :: parts => (ofParts parts).push single
  | .marker name :: parts => (ofParts parts).mark name

/-- The cut of a text at the markers among its parts. -/
def ofText (text : List Char) : Cut :=
  ofParts (parts text)

/-! ## One character, one marker -/

/-- What is filled with the markers themselves is the text. -/
theorem filled_markers (cut : Cut) : cut.filled markerText = cut.text :=
  rfl

/-- A character in front stays in front, whatever the markers are filled with. -/
theorem filled_push (value : List Char → List Char) (single : Char) (cut : Cut) :
    (cut.push single).filled value = single :: cut.filled value := by
  rcases cut with ⟨_ | ⟨⟨literal, name⟩, marked⟩, last⟩ <;> simp [push, filled]

/-- A marker in front is filled first. -/
theorem filled_mark (value : List Char → List Char) (name : List Char) (cut : Cut) :
    (cut.mark name).filled value = value name ++ cut.filled value := by
  simp [mark, filled]

/-- A character in front of a cut is one of its text. -/
theorem text_push (single : Char) (cut : Cut) : (cut.push single).text = single :: cut.text :=
  filled_push markerText single cut

/-- A marker in front of a cut is one of its text. -/
theorem text_mark (name : List Char) (cut : Cut) :
    (cut.mark name).text = markerText name ++ cut.text :=
  filled_mark markerText name cut

/-- A character brings no name. -/
theorem names_push (single : Char) (cut : Cut) : (cut.push single).names = cut.names := by
  rcases cut with ⟨_ | ⟨⟨literal, name⟩, marked⟩, last⟩ <;> rfl

/-- A character moves the places of markers by one. -/
theorem has_marker_push (single : Char) (cut : Cut) (front name back : List Char) :
    (cut.push single).HasMarker front name back ↔
      ∃ later, front = single :: later ∧ cut.HasMarker later name back := by
  rcases cut with ⟨_ | ⟨⟨literal, first⟩, marked⟩, last⟩
  · simp [push, HasMarker]
  · constructor
    · rintro ⟨before, between, after, whole, rfl, rfl⟩
      cases before with
      | nil =>
        obtain ⟨same, rfl⟩ := List.cons.inj whole
        obtain ⟨rfl, rfl⟩ := Prod.mk.inj same
        exact ⟨literal, rfl, [], literal, marked, rfl, rfl, rfl⟩
      | cons head before =>
        obtain ⟨rfl, rfl⟩ := List.cons.inj whole
        exact ⟨_, rfl, (literal, first) :: before, between, after, rfl, rfl, rfl⟩
    · rintro ⟨_, rfl, before, between, after, whole, rfl, rfl⟩
      cases before with
      | nil =>
        obtain ⟨same, rfl⟩ := List.cons.inj whole
        obtain ⟨rfl, rfl⟩ := Prod.mk.inj same
        exact ⟨[], single :: literal, marked, rfl, rfl, rfl⟩
      | cons head before =>
        obtain ⟨rfl, rfl⟩ := List.cons.inj whole
        exact ⟨(single :: literal, first) :: before, between, after, rfl, rfl, rfl⟩

/-- A marker moves the places of markers by its length, and has the first of them. -/
theorem has_marker_mark (first : List Char) (cut : Cut) (front name back : List Char) :
    (cut.mark first).HasMarker front name back ↔
      front = [] ∧ name = first ∧ back = cut.text ∨
        ∃ later, front = markerText first ++ later ∧ cut.HasMarker later name back := by
  constructor
  · rintro ⟨before, between, after, whole, rfl, rfl⟩
    cases before with
    | nil =>
      obtain ⟨same, rfl⟩ := List.cons.inj whole
      obtain ⟨rfl, rfl⟩ := Prod.mk.inj same
      exact Or.inl ⟨rfl, rfl, rfl⟩
    | cons head before =>
      obtain ⟨rfl, marked⟩ := List.cons.inj whole
      exact Or.inr ⟨text ⟨before, between⟩, by simp [text],
        before, between, after, marked, rfl, rfl⟩
  · rintro (⟨rfl, rfl, rfl⟩ | ⟨_, rfl, before, between, after, whole, rfl, rfl⟩)
    · exact ⟨[], [], cut.marked, rfl, rfl, rfl⟩
    · exact ⟨([], first) :: before, between, after, congrArg (([], first) :: ·) whole,
        by simp [text], rfl⟩

/-- A name of a cut is one of a marker at some place. -/
theorem mem_names_iff (cut : Cut) (name : List Char) :
    name ∈ cut.names ↔ ∃ front back, cut.HasMarker front name back := by
  constructor
  · intro member
    obtain ⟨⟨literal, _⟩, held, rfl⟩ := List.mem_map.mp member
    obtain ⟨before, after, whole⟩ := List.append_of_mem held
    exact ⟨_, _, before, literal, after, whole, rfl, rfl⟩
  · rintro ⟨_, _, before, literal, after, whole, _⟩
    exact List.mem_map.mpr ⟨(literal, name), by simp [whole], rfl⟩

/-- What a cut is filled with depends on the values of its names only. -/
theorem filled_congr (cut : Cut) (value other : List Char → List Char)
    (same : ∀ name ∈ cut.names, value name = other name) : cut.filled value = cut.filled other := by
  have parts : ∀ entry ∈ cut.marked, entry.1 ++ value entry.2 = entry.1 ++ other entry.2 :=
    fun entry member => by rw [same entry.2 (List.mem_map_of_mem member)]
  rw [filled, filled, List.flatMap_congr parts]

/-- A literal stays as it is, whatever the markers are filled with. -/
theorem literal_filled (cut : Cut) (value : List Char → List Char) :
    ∀ literal ∈ cut.literals, literal <:+: cut.filled value := by
  intro literal member
  rcases List.mem_append.mp member with within | behind
  · obtain ⟨⟨first, name⟩, held, rfl⟩ := List.mem_map.mp within
    obtain ⟨before, after, whole⟩ := List.append_of_mem held
    exact ⟨Cut.filled value ⟨before, []⟩, value name ++ Cut.filled value ⟨after, cut.last⟩,
      by simp [filled, whole]⟩
  · obtain rfl := List.mem_singleton.mp behind
    exact (List.suffix_append _ _).isInfix

/-- A marker that stands in the text of a cut is one of the cut, or it is inside of a literal.

Proof: by induction on the markers of the cut. A marker that begins in the first literal ends there,
because it does not overlap the marker behind the literal. -/
theorem marker_or_literal (cut : Cut) (named : ∀ name ∈ cut.names, IsMarkerName name)
    (front name back : List Char) (standing : StandsIn cut.text front name back) :
    cut.HasMarker front name back ∨ ∃ literal ∈ cut.literals, markerText name <:+: literal := by
  obtain ⟨marked, last⟩ := cut
  induction marked generalizing front with
  | nil =>
    exact Or.inr ⟨last, by simp [literals], front, back, by simpa [text] using standing.whole.symm⟩
  | cons entry marked inductionHypothesis =>
    obtain ⟨literal, first⟩ := entry
    have whole : text ⟨(literal, first) :: marked, last⟩ =
        literal ++ (markerText first ++ text ⟨marked, last⟩) := by simp [text]
    have firstNamed : IsMarkerName first := named first (by simp [names])
    have firstStands : StandsIn (text ⟨(literal, first) :: marked, last⟩) literal first
        (text ⟨marked, last⟩) := ⟨firstNamed, whole⟩
    by_cases within : front.length < literal.length
    · obtain ⟨rest, ended⟩ := standing.apart firstStands within
      exact Or.inr ⟨literal, by simp [literals], front, rest, by simpa using ended⟩
    · have begins : literal <+: front :=
        List.prefix_of_prefix_length_le (whole ▸ List.prefix_append _ _)
          (standing.whole ▸ List.prefix_append _ _) (Nat.le_of_not_lt within)
      obtain ⟨later, rfl⟩ := begins
      have behind : StandsIn (markerText first ++ text ⟨marked, last⟩) later name back :=
        ⟨standing.named, by
          simpa [whole] using standing.whole⟩
      rcases (stands_behind_marker _ _ _ _ _ firstNamed).mp behind with
        ⟨rfl, rfl, rfl⟩ | ⟨rest, rfl, inside⟩
      · exact Or.inl ⟨[], literal, marked, rfl, by simp [text], rfl⟩
      · rcases inductionHypothesis rest
          (fun name member => named name (List.mem_cons_of_mem _ member)) inside with
          ⟨before, between, after, split, rfl, rfl⟩ | ⟨held, member, holds⟩
        · exact Or.inl ⟨(literal, first) :: before, between, after,
            congrArg ((literal, first) :: ·) split, by simp [text], rfl⟩
        · exact Or.inr ⟨held, List.mem_cons_of_mem _ member, holds⟩

/-! ## The cut of a text -/

/-- The cut of a text that begins with a marker. -/
theorem of_text_marker (rest name behind : List Char)
    (found : markerAfter? rest = some (name, behind)) :
    ofText ('\x7b' :: '\x7b' :: rest) = (ofText behind).mark name := by
  rw [ofText, parts_marker rest name behind found]
  rfl

/-- The cut of a text that begins with two opening braces which do not begin a marker. -/
theorem of_text_braces (rest : List Char) (found : markerAfter? rest = none) :
    ofText ('\x7b' :: '\x7b' :: rest) = ((ofText rest).push '\x7b').push '\x7b' := by
  rw [ofText, parts_braces rest found]
  rfl

/-- The cut of a text that begins with a character which is not the first of two opening
braces. -/
theorem of_text_character (first second : Char) (rest : List Char)
    (other : ¬(first == '\x7b' && second == '\x7b') = true) :
    ofText (first :: second :: rest) = (ofText (second :: rest)).push first := by
  rw [ofText, parts_character first second rest other]
  rfl

/-- The cut of a single character. -/
theorem of_text_single (single : Char) : ofText [single] = ⟨[], [single]⟩ := by
  simp [ofText, parts, ofParts, push]

/-- The cut of nothing. -/
theorem of_text_nothing : ofText [] = ⟨[], []⟩ := by
  simp [ofText, parts, ofParts]

/-- The cut of a text is one of the text. -/
theorem text_of_text (characters : List Char) : (ofText characters).text = characters := by
  induction characters using parts.induct with
  | case1 => rw [of_text_nothing]; rfl
  | case2 single => rw [of_text_single]; rfl
  | case3 first second rest braces name behind found _ inductionHypothesis =>
    obtain ⟨rfl, rfl⟩ : first = '\x7b' ∧ second = '\x7b' := by simpa using braces
    obtain ⟨_, rfl⟩ := (marker_after_iff rest name behind).mp found
    rw [of_text_marker _ _ _ found, text_mark, inductionHypothesis]
    simp [markerText]
  | case4 first second rest braces found inductionHypothesis =>
    obtain ⟨rfl, rfl⟩ : first = '\x7b' ∧ second = '\x7b' := by simpa using braces
    rw [of_text_braces rest found, text_push, text_push, inductionHypothesis]
  | case5 first second rest other inductionHypothesis =>
    rw [of_text_character first second rest other, text_push, inductionHypothesis]

/-- The markers of the cut of a text are those that stand in the text behind an even number of
opening braces.

Proof: by induction on the parts. A marker that is a part has nothing in front of it, and ends the
opening braces in front of all markers behind it. Two braces that do not begin a marker are in
front of all markers behind them, so that the number stays even or odd; the only marker that begins
with the second of them has one brace in front. Any other character counts only if it is an opening
brace, and then something else is between it and the next marker. -/
theorem of_text_has_marker_iff (characters front name back : List Char) :
    (ofText characters).HasMarker front name back ↔
      StandsIn characters front name back ∧ openingRun front % 2 = 0 := by
  induction characters using parts.induct generalizing front with
  | case1 =>
    rw [of_text_nothing]
    simp [HasMarker, stands_in_nothing]
  | case2 single =>
    rw [of_text_single]
    simp [HasMarker, stands_in_character]
  | case3 first second rest braces first' behind found _ inductionHypothesis =>
    obtain ⟨rfl, rfl⟩ : first = '\x7b' ∧ second = '\x7b' := by simpa using braces
    obtain ⟨named, rfl⟩ := (marker_after_iff rest first' behind).mp found
    have parted : '\x7b' :: '\x7b' :: (first' ++ '\x7d' :: '\x7d' :: behind) =
        markerText first' ++ behind := by simp [markerText]
    rw [of_text_marker _ _ _ found, has_marker_mark, text_of_text, parted,
      stands_behind_marker _ _ _ _ _ named, or_and_right]
    refine or_congr (iff_self_and.mpr ?_) ?_
    · rintro ⟨rfl, _⟩
      rfl
    · simp only [inductionHypothesis, exists_and_right.symm, and_assoc]
      refine exists_congr fun later => and_congr_right ?_
      rintro rfl
      rw [opening_run_marker]
  | case4 first second rest braces found inductionHypothesis =>
    obtain ⟨rfl, rfl⟩ : first = '\x7b' ∧ second = '\x7b' := by simpa using braces
    rw [of_text_braces rest found, has_marker_push]
    simp only [has_marker_push, inductionHypothesis]
    constructor
    · rintro ⟨_, rfl, later, rfl, standing, even⟩
      exact ⟨⟨standing.named, congrArg ('\x7b' :: '\x7b' :: ·) standing.whole⟩,
        (opening_run_braces later).trans even⟩
    · rintro ⟨standing, even⟩
      rcases stands_behind_braces _ _ _ _ standing with
        ⟨_, begun⟩ | ⟨rfl, _⟩ | ⟨later, rfl, inside⟩
      · cases found.symm.trans begun
      · exact absurd even (by decide)
      · exact ⟨_, rfl, later, rfl, inside, (opening_run_braces later).symm.trans even⟩
  | case5 first second rest other inductionHypothesis =>
    have apart : ¬(first = '\x7b' ∧ second = '\x7b') := by simpa using other
    rw [of_text_character first second rest other, has_marker_push,
      stands_behind_character _ _ _ _ _ _ apart]
    simp only [inductionHypothesis, exists_and_right.symm, and_assoc]
    refine exists_congr fun later => and_congr_right ?_
    rintro rfl
    refine and_congr_right fun standing => ?_
    rw [opening_run_character first second rest later name back apart standing]

end Cut
end Template
end PacketSmith
