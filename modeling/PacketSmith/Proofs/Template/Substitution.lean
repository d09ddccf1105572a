import PacketSmith.Proofs.Template.Cut
import PacketSmith.Proofs.Text.Search

/-!
# What rendering puts in the place of markers

Rendering fills the cut of a template: the first value listed for a name stands in the place of
each marker of the name, and the literals stay. It fails at the first marker without a value, and
only there. A search that looks for two opening braces, then for two closing ones, and goes on
behind what it has found, renders the same; it ends because what is left is shorter each time.

The cut loses and invents nothing. But it has only the markers behind an even number of opening
braces: one behind an odd number is inside of a literal and stays in what is rendered, whatever
the values are.
-/

namespace PacketSmith
namespace Template

/-- Whether a value is listed for a name. -/
def HasValue (values : List (String × String)) (name : List Char) : Prop :=
  ∃ value, valueOf? values (String.ofList name) = some value

/-- The text of the first value listed for a name. A name without a value has no text. -/
def valueText (values : List (String × String)) (name : List Char) : List Char :=
  ((valueOf? values (String.ofList name)).getD "").toList

/-! ## Filling a cut -/

/-- The first name of a cut for which no value is listed. -/
def Cut.missing? (values : List (String × String)) (cut : Cut) : Option (List Char) :=
  cut.names.find? fun name => (valueOf? values (String.ofList name)).isNone

/-- No name is missing exactly if a value is listed for every one. -/
theorem Cut.missing_none_iff (values : List (String × String)) (cut : Cut) :
    cut.missing? values = none ↔ ∀ name ∈ cut.names, HasValue values name := by
  simp only [missing?, List.find?_eq_none, HasValue, Bool.not_eq_true,
    Option.isNone_eq_false_iff, Option.isSome_iff_exists]

/-- A name is the first one missing exactly if it has no value and every name in front of it has
one. -/
theorem Cut.missing_some_iff (values : List (String × String)) (cut : Cut) (name : List Char) :
    cut.missing? values = some name ↔
      ∃ before after, cut.names = before ++ name :: after ∧
        (∀ other ∈ before, HasValue values other) ∧ ¬ HasValue values name := by
  have valued_iff (name : List Char) :
      HasValue values name ↔ (valueOf? values (String.ofList name)).isNone = false := by
    rw [HasValue, Option.isNone_eq_false_iff, Option.isSome_iff_exists]
  simp only [missing?, List.find?_eq_some_iff_append, valued_iff, Bool.not_eq_false,
    Bool.not_eq_eq_eq_not, Bool.not_true, ← exists_and_left]
  exact exists_congr fun before => exists_congr fun after => by tauto

/-- Parts are filled as their cut, unless one of its names has no value: then the first such name
is reported. -/
theorem fill_all_cut (path : String) (values : List (String × String))
    (parts : List TemplatePart) :
    fillAll path values parts =
      match (Cut.ofParts parts).missing? values with
      | some name => .error (.unresolvedMarker path (String.ofList name))
      | none => .ok ((Cut.ofParts parts).filled (valueText values)) := by
  induction parts with
  | nil => rfl
  | cons part parts inductionHypothesis =>
    rw [fillAll, inductionHypothesis]
    cases part with
    | character single =>
      have same : ((Cut.ofParts parts).push single).missing? values =
          (Cut.ofParts parts).missing? values := by
        rw [Cut.missing?, Cut.names_push, Cut.missing?]
      rw [Cut.ofParts, same, Cut.filled_push, fill]
      cases (Cut.ofParts parts).missing? values <;> rfl
    | marker name =>
      rw [Cut.ofParts, Cut.filled_mark, fill]
      cases listed : valueOf? values (String.ofList name) with
      | none =>
        have first : ((Cut.ofParts parts).mark name).missing? values = some name := by
          simp [Cut.missing?, Cut.mark, Cut.names, listed]
        rw [first]
        rfl
      | some value =>
        have same : ((Cut.ofParts parts).mark name).missing? values =
            (Cut.ofParts parts).missing? values := by
          simp [Cut.missing?, Cut.mark, Cut.names, listed]
        rw [same, valueText, listed]
        cases (Cut.ofParts parts).missing? values <;> rfl

/-- A template is rendered exactly if every marker of its cut has a value, and then the cut is
filled with the values. -/
theorem render_accepts_iff (template : Template) (values : List (String × String))
    (rendered : String) :
    template.render values = .ok rendered ↔
      (∀ name ∈ (Cut.ofText template.text.toList).names, HasValue values name) ∧
        rendered.toList = (Cut.ofText template.text.toList).filled (valueText values) := by
  rw [render, fill_all_cut, ← Cut.ofText, ← Cut.missing_none_iff]
  cases (Cut.ofText template.text.toList).missing? values with
  | some name => simp [bind, Except.bind]
  | none =>
    simp [bind, Except.bind, pure, Except.pure, ← String.toList_inj, eq_comm]

/-- A template is refused exactly for the first marker of its cut that has no value. -/
theorem render_refuses_iff (template : Template) (values : List (String × String))
    (failure : Failure) :
    template.render values = .error failure ↔
      ∃ before name after, (Cut.ofText template.text.toList).names = before ++ name :: after ∧
        (∀ other ∈ before, HasValue values other) ∧ ¬ HasValue values name ∧
          failure = .unresolvedMarker template.path (String.ofList name) := by
  have first_iff : (∃ name, (Cut.ofText template.text.toList).missing? values = some name ∧
      failure = .unresolvedMarker template.path (String.ofList name)) ↔
      ∃ before name after, (Cut.ofText template.text.toList).names = before ++ name :: after ∧
        (∀ other ∈ before, HasValue values other) ∧ ¬ HasValue values name ∧
          failure = .unresolvedMarker template.path (String.ofList name) := by
    simp only [Cut.missing_some_iff]
    constructor
    · rintro ⟨name, ⟨before, after, whole, valued, missing⟩, rfl⟩
      exact ⟨before, name, after, whole, valued, missing, rfl⟩
    · rintro ⟨before, name, after, whole, valued, missing, rfl⟩
      exact ⟨name, ⟨before, after, whole, valued, missing⟩, rfl⟩
  rw [← first_iff, render, fill_all_cut, ← Cut.ofText]
  cases (Cut.ofText template.text.toList).missing? values with
  | some name => simp [bind, Except.bind, eq_comm]
  | none => simp [bind, Except.bind, pure, Except.pure]

/-! ## The search for braces -/

/-- What is rendered by searching a text: behind what is done, everything up to the next two
opening braces is kept. A name between them and the next two closing ones is replaced; anything
else is kept, and so is everything if one of the two is missing. -/
def search (path : String) (values : List (String × String)) (done rest : List Char) :
    Except Failure (List Char) :=
  match _opened : Text.cutAt? ['\x7b', '\x7b'] rest with
  | none => .ok (done ++ rest)
  | some (before, after) =>
    match _closed : Text.cutAt? ['\x7d', '\x7d'] after with
    | none => .ok (done ++ rest)
    | some (name, behind) =>
      if !name.isEmpty && name.all isNameCharacter then
        match valueOf? values (String.ofList name) with
        | some value => search path values (done ++ before ++ value.toList) behind
        | none => .error (.unresolvedMarker path (String.ofList name))
      else search path values (done ++ before ++ ['\x7b', '\x7b']) after
termination_by rest.length
decreasing_by
  · rw [Text.cut_whole _ _ _ _ _opened, Text.cut_whole _ _ _ _ _closed]
    simp only [List.length_append, List.length_cons]
    omega
  · rw [Text.cut_whole _ _ _ _ _opened]
    simp only [List.length_append, List.length_cons]
    omega

/-- Characters in front of parts stay in front of what the parts are filled with. -/
theorem fill_all_characters (path : String) (values : List (String × String))
    (characters : List Char) (parts : List TemplatePart) :
    fillAll path values (characters.map .character ++ parts) =
      (fillAll path values parts).map (characters ++ ·) := by
  induction characters with
  | nil => cases found : fillAll path values parts <;> simp [found, Except.map]
  | cons single characters inductionHypothesis =>
    rw [List.map_cons, List.cons_append, fillAll, inductionHypothesis]
    cases fillAll path values parts <;> rfl

/-- A character that does not begin two opening braces is a part of its own. -/
theorem parts_apart (character : Char) (rest : List Char)
    (unopened : Text.afterPrefix? ['\x7b', '\x7b'] (character :: rest) = none) :
    parts (character :: rest) = .character character :: parts rest := by
  cases rest with
  | nil => simp [parts]
  | cons second rest =>
    refine parts_character character second rest fun braces => ?_
    obtain ⟨rfl, rfl⟩ : character = '\x7b' ∧ second = '\x7b' := by simpa using braces
    simp [Text.afterPrefix?] at unopened

/-- Without two opening braces, all parts of a text are characters. -/
theorem parts_unopened (text : List Char) (unopened : Text.cutAt? ['\x7b', '\x7b'] text = none) :
    parts text = text.map .character := by
  induction text with
  | nil => simp [parts]
  | cons character text inductionHypothesis =>
    rw [Text.cutAt?] at unopened
    split at unopened
    · cases unopened
    · rename_i apart
      rw [parts_apart character text apart,
        inductionHypothesis (Option.map_eq_none_iff.mp unopened), List.map_cons]

/-- In front of the first two opening braces, all parts of a text are characters. -/
theorem parts_opened (text before after : List Char)
    (opened : Text.cutAt? ['\x7b', '\x7b'] text = some (before, after)) :
    parts text = before.map .character ++ parts ('\x7b' :: '\x7b' :: after) := by
  induction text generalizing before with
  | nil => cases opened
  | cons character text inductionHypothesis =>
    rw [Text.cutAt?] at opened
    split at opened
    · rename_i rest found
      cases opened
      rw [(Text.after_prefix_iff _ _ _).mp found]
      rfl
    · rename_i apart
      obtain ⟨⟨front, rest⟩, found, same⟩ := Option.map_eq_some_iff.mp opened
      cases same
      rw [parts_apart character text apart, inductionHypothesis front found]
      rfl

/-- A marker begins exactly where a name is in front of the first two closing braces. -/
theorem marker_after_closed (text name behind : List Char) :
    markerAfter? text = some (name, behind) ↔
      Text.cutAt? ['\x7d', '\x7d'] text = some (name, behind) ∧
        (!name.isEmpty && name.all isNameCharacter) = true := by
  have named_iff : IsMarkerName name ↔ (!name.isEmpty && name.all isNameCharacter) = true := by
    constructor
    · intro named
      simpa [named.inhabited, name_character_iff] using named.letters
    · intro named
      obtain ⟨inhabited, letters⟩ : name ≠ [] ∧ ∀ character ∈ name,
        isNameCharacter character = true := by simpa using named
      exact ⟨inhabited, fun character member =>
        (name_character_iff character).mp (letters character member)⟩
  rw [marker_after_iff, ← named_iff]
  constructor
  · rintro ⟨named, rfl⟩
    exact ⟨Text.cut_behind name behind ['\x7d'] '\x7d' named.braceless.2, named⟩
  · rintro ⟨closed, named⟩
    exact ⟨named, Text.cut_whole _ _ _ _ closed⟩

/-- Without two closing braces, all parts of a text are characters. -/
theorem parts_unclosed (text : List Char) (unclosed : ¬ ['\x7d', '\x7d'] <:+: text) :
    parts text = text.map .character := by
  induction text using parts.induct with
  | case1 => simp [parts]
  | case2 single => simp [parts]
  | case3 first second rest braces name behind found _ _ =>
    obtain ⟨_, rfl⟩ := (marker_after_iff rest name behind).mp found
    exact absurd ⟨first :: second :: name, behind, by simp⟩ unclosed
  | case4 first second rest braces found inductionHypothesis =>
    obtain ⟨rfl, rfl⟩ : first = '\x7b' ∧ second = '\x7b' := by simpa using braces
    rw [parts_braces rest found, inductionHypothesis fun inside =>
      unclosed (inside.trans ⟨['\x7b', '\x7b'], [], by simp⟩)]
    rfl
  | case5 first second rest other inductionHypothesis =>
    rw [parts_character first second rest other, inductionHypothesis fun inside =>
      unclosed (inside.trans ⟨[first], [], by simp⟩)]
    rfl

/-- Searching a text renders what its parts are filled with, behind what is done.

Proof: by induction on the search. Everything in front of the next two opening braces is made of
characters, and so is everything if nothing closes behind them. Otherwise a marker begins there
exactly if the name is one, and two braces that do not begin a marker are characters. -/
theorem search_exact (path : String) (values : List (String × String)) (done rest : List Char) :
    search path values done rest =
      (fillAll path values (parts rest)).map (done ++ ·) := by
  have characters (text : List Char) :
      fillAll path values (text.map .character) = .ok text := by
    simpa [fillAll, Except.map] using fill_all_characters path values text []
  have opening (done before : List Char) (parts : List TemplatePart) :
      (fillAll path values (before.map .character ++ parts)).map (done ++ ·) =
        (fillAll path values parts).map (done ++ before ++ ·) := by
    rw [fill_all_characters]
    cases fillAll path values parts <;> simp [Except.map]
  fun_induction search path values done rest with
  | case1 done rest opened =>
    rw [parts_unopened rest opened, characters]
    rfl
  | case2 done rest before after opened closed =>
    have none : markerAfter? after = none := by
      cases found : markerAfter? after with
      | none => rfl
      | some marker => cases closed.symm.trans ((marker_after_closed after _ _).mp found).1
    have kept : parts ('\x7b' :: '\x7b' :: after) =
        ('\x7b' :: '\x7b' :: after).map .character := by
      rw [parts_braces after none, parts_unclosed after ((Text.cut_none_iff _ _).mp closed)]
      rfl
    rw [parts_opened rest before after opened, kept, opening, characters,
      Text.cut_whole _ _ _ _ opened]
    simp [Except.map]
  | case3 done rest before after opened name behind closed named value listed inductionHypothesis =>
    have found := (marker_after_closed after name behind).mpr ⟨closed, named⟩
    rw [parts_opened rest before after opened, parts_marker after name behind found, opening _ _,
      inductionHypothesis, fillAll, fill, listed]
    cases fillAll path values (parts behind) <;>
      simp [bind, Except.bind, pure, Except.pure, Except.map]
  | case4 done rest before after opened name behind closed named unlisted =>
    have found := (marker_after_closed after name behind).mpr ⟨closed, named⟩
    rw [parts_opened rest before after opened, parts_marker after name behind found, opening _ _,
      fillAll, fill, unlisted]
    rfl
  | case5 done rest before after opened name behind closed other inductionHypothesis =>
    have none : markerAfter? after = none := by
      cases found : markerAfter? after with
      | none => rfl
      | some marker =>
        obtain ⟨same, named⟩ := (marker_after_closed after _ _).mp found
        cases closed.symm.trans same
        exact absurd named other
    have braces : parts ('\x7b' :: '\x7b' :: after) =
        ['\x7b', '\x7b'].map .character ++ parts after :=
      parts_braces after none
    rw [parts_opened rest before after opened, braces, opening _ _, opening _ _,
      inductionHypothesis]

/-! ## Rendering as a whole -/

/-- The names of the cut of a text are those of markers that stand in the text. -/
theorem of_text_names (characters name : List Char)
    (member : name ∈ (Cut.ofText characters).names) :
    ∃ front back, StandsIn characters front name back := by
  obtain ⟨front, back, held⟩ := ((Cut.ofText characters).mem_names_iff name).mp member
  exact ⟨front, back, ((Cut.of_text_has_marker_iff characters front name back).mp held).1⟩

/-- What is to be said of rendering a template with values. -/
structure RendersExactly (template : Template) (values : List (String × String)) : Prop where
  /-- Rendering is the search for braces, which always ends. -/
  searched : template.render values =
    (search template.path values [] template.text.toList).map String.ofList
  /-- What is rendered are the literals of a cut of the text, with the first value listed for its
  name in the place of each marker. -/
  rendered : ∀ rendered, template.render values = .ok rendered →
    ∃ cut : Cut, cut.text = template.text.toList ∧
      (∀ name ∈ cut.names, IsMarkerName name ∧ HasValue values name) ∧
        rendered.toList = cut.filled (valueText values)
  /-- With the markers themselves for values the text is unchanged. -/
  unchanged : (∀ front name back, StandsIn template.text.toList front name back →
      valueOf? values (String.ofList name) = some (String.ofList (markerText name))) →
    template.render values = .ok template.text
  /-- Without markers the text is unchanged. -/
  unmarked : (∀ front name back, ¬ StandsIn template.text.toList front name back) →
    template.render values = .ok template.text
  /-- A failure names the template and a marker that stands in its text and has no value. -/
  refused : ∀ failure, template.render values = .error failure →
    ∃ front name back, StandsIn template.text.toList front name back ∧ ¬ HasValue values name ∧
      failure = .unresolvedMarker template.path (String.ofList name)

/-- Rendering loses and invents nothing: the literals around markers and the values of the markers
are what is rendered, and nothing else, in order. -/
theorem renders_exactly (template : Template) (values : List (String × String)) :
    RendersExactly template values := by
  have unchanged (listed : ∀ front name back, StandsIn template.text.toList front name back →
      valueOf? values (String.ofList name) = some (String.ofList (markerText name))) :
      template.render values = .ok template.text := by
    have valued : ∀ name ∈ (Cut.ofText template.text.toList).names,
        valueOf? values (String.ofList name) = some (String.ofList (markerText name)) := by
      intro name member
      obtain ⟨front, back, standing⟩ := of_text_names _ _ member
      exact listed front name back standing
    refine (render_accepts_iff _ _ _).mpr ⟨fun name member => ⟨_, valued name member⟩, ?_⟩
    have same := (Cut.ofText template.text.toList).filled_congr (valueText values) markerText
      fun name member => by simp [valueText, valued name member]
    rw [same, Cut.filled_markers, Cut.text_of_text]
  constructor
  case searched =>
    rw [search_exact, render]
    cases fillAll template.path values (parts template.text.toList) <;> rfl
  case rendered =>
    intro rendered accepted
    obtain ⟨valued, filled⟩ := (render_accepts_iff _ _ _).mp accepted
    refine ⟨_, Cut.text_of_text _, fun name member => ⟨?_, valued name member⟩, filled⟩
    obtain ⟨front, back, standing⟩ := of_text_names _ _ member
    exact standing.named
  case unchanged => exact unchanged
  case unmarked =>
    exact fun unmarked => unchanged fun front name back standing =>
      absurd standing (unmarked front name back)
  case refused =>
    intro failure failed
    obtain ⟨before, name, after, whole, _, missing, reported⟩ :=
      (render_refuses_iff _ _ _).mp failed
    obtain ⟨front, back, standing⟩ :=
      of_text_names template.text.toList name (by rw [whole]; simp)
    exact ⟨front, name, back, standing, missing, reported⟩

/-- What is to be said of the markers of a template and of a cut of its text. -/
structure MarkersReplaced (template : Template) (cut : Cut) : Prop where
  /-- The cut is one of the text. -/
  whole : cut.text = template.text.toList
  /-- No two markers that stand in the text overlap. -/
  apart : ∀ front name back otherFront other otherBack,
    StandsIn template.text.toList front name back →
      StandsIn template.text.toList otherFront other otherBack →
        front.length < otherFront.length → front ++ markerText name <+: otherFront
  /-- The cut has exactly the markers that stand in the text behind an even number of opening
  braces. -/
  markers : ∀ front name back, cut.HasMarker front name back ↔
    StandsIn template.text.toList front name back ∧ openingRun front % 2 = 0
  /-- The template is rendered exactly if every marker of the cut has a value, and then the first
  value of its name is in the place of each of them. -/
  accepts_iff : ∀ values rendered, template.render values = .ok rendered ↔
    (∀ name ∈ cut.names, HasValue values name) ∧ rendered.toList = cut.filled (valueText values)
  /-- Otherwise the first marker of the cut without a value is reported. -/
  refuses_iff : ∀ values failure, template.render values = .error failure ↔
    ∃ before name after, cut.names = before ++ name :: after ∧
      (∀ other ∈ before, HasValue values other) ∧ ¬ HasValue values name ∧
        failure = .unresolvedMarker template.path (String.ofList name)
  /-- If every marker stands behind an even number of opening braces, all of them are replaced: the
  cut has them all, and rendering needs a value for each. -/
  complete : (∀ front name back, StandsIn template.text.toList front name back →
      openingRun front % 2 = 0) →
    (∀ front name back, cut.HasMarker front name back ↔
      StandsIn template.text.toList front name back) ∧
    ∀ values, (∃ rendered, template.render values = .ok rendered) ↔
      ∀ front name back, StandsIn template.text.toList front name back → HasValue values name
  /-- A marker behind an odd number of opening braces stays in whatever is rendered. -/
  overlooked : ∀ front name back, StandsIn template.text.toList front name back →
    openingRun front % 2 = 1 → ∀ values rendered, template.render values = .ok rendered →
      markerText name <:+: rendered.toList

/-- Exactly the markers behind an even number of opening braces are replaced. -/
theorem markers_replaced (template : Template) :
    MarkersReplaced template (Cut.ofText template.text.toList) := by
  have markers := Cut.of_text_has_marker_iff template.text.toList
  constructor
  case whole => exact Cut.text_of_text _
  case apart =>
    exact fun _ _ _ _ _ _ standing further before => standing.apart further before
  case markers => exact markers
  case accepts_iff => exact template.render_accepts_iff
  case refuses_iff => exact template.render_refuses_iff
  case complete =>
    intro even
    have all (front name back : List Char) :
        (Cut.ofText template.text.toList).HasMarker front name back ↔
          StandsIn template.text.toList front name back := by
      rw [markers]
      exact and_iff_left_of_imp (even front name back)
    refine ⟨all, fun values => ?_⟩
    simp only [render_accepts_iff, exists_and_left, Cut.mem_names_iff, all]
    have filled : ∃ rendered : String,
        rendered.toList = (Cut.ofText template.text.toList).filled (valueText values) :=
      ⟨String.ofList _, String.toList_ofList⟩
    rw [and_iff_left filled]
    exact ⟨fun valued front name back standing => valued name ⟨front, back, standing⟩,
      fun valued name ⟨front, back, standing⟩ => valued front name back standing⟩
  case overlooked =>
    intro front name back standing odd values rendered accepted
    obtain ⟨_, filled⟩ := (render_accepts_iff _ _ _).mp accepted
    have named : ∀ name ∈ (Cut.ofText template.text.toList).names, IsMarkerName name := by
      intro name member
      obtain ⟨_, _, standing⟩ := of_text_names _ _ member
      exact standing.named
    rcases Cut.marker_or_literal _ named front name back
      ((Cut.text_of_text template.text.toList).symm ▸ standing) with held | ⟨literal, held, holds⟩
    · have even := ((markers front name back).mp held).2
      omega
    · rw [filled]
      exact holds.trans (Cut.literal_filled _ _ literal held)

/-- A template with a marker directly behind an opening brace. -/
def bracedTemplate : Template :=
  ⟨"t", "struct \x7b\x7b\x7bfields\x7d\x7d\x7d"⟩

/-- The marker stands in the text behind one opening brace, and rendering leaves it there, although
its name has a value. -/
theorem markers_replaced_braced :
    StandsIn bracedTemplate.text.toList "struct \x7b".toList "fields".toList "\x7d".toList ∧
      bracedTemplate.render [("fields", "x int")] = .ok bracedTemplate.text ∧
      markerText "fields".toList <:+: bracedTemplate.text.toList := by
  have letters : "fields".toList.all isNameCharacter = true := by decide +kernel
  have standing : StandsIn bracedTemplate.text.toList "struct \x7b".toList "fields".toList
      "\x7d".toList :=
    ⟨⟨by decide, fun character member =>
      (name_character_iff character).mp (List.all_eq_true.mp letters character member)⟩,
      by decide +kernel⟩
  have rendered : bracedTemplate.render [("fields", "x int")] = .ok bracedTemplate.text := by
    decide +kernel
  exact ⟨standing, rendered,
    (markers_replaced bracedTemplate).overlooked _ _ _ standing (by decide +kernel) _ _ rendered⟩

end Template
end PacketSmith
