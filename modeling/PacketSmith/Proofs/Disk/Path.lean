import Mathlib.Data.List.TakeWhile
import PacketSmith.Disk
import PacketSmith.Proofs.Text.Joined

/-!
# Where paths lead

The segments of a path lead from a location to another one, whatever stands there: names lead
down, two dots lead up, and the rest leads nowhere. The first segments of a path lead up from the
root or from the current directory to the place where the path starts, and the others are its
route. The beginnings of the route lead to the places that the path leads through; the paths above
a path, of which directories may have to be made, lead to such places or have no route.
-/

namespace PacketSmith.Path

/-- Where a path leads. -/
def location (here : Location) (path : String) : Location :=
  walk (start here path) (route path)

/-- Whether segments lead from a location through a place: a beginning of them leads there. -/
def Passes (location : Location) (segments : List String) (place : Location) : Prop :=
  ∃ front, front <+: segments ∧ walk location front = place

/-- Whether a path leads through a place. -/
def LeadsThrough (here : Location) (path : String) (place : Location) : Prop :=
  Passes (start here path) (route path) place

/-- Whether a text is a name: one segment that leads down. -/
def isName (text : String) : Bool :=
  !text.toList.contains '/' && !isNothing text && text != ".."

/-- The segments of a path to which another path is joined. -/
def stem (path : String) : List String :=
  if path.isEmpty then []
  else if path.toList.getLast? == some '/' then (segments path).dropLast
  else segments path

/-- The route that is left of a path to which another path is joined. -/
def way (path : String) : List String :=
  (stem path).dropWhile climbs

/-- Segments lead on from where those in front of them lead. -/
theorem walk_append (location : Location) (front back : List String) :
    walk location (front ++ back) = walk (walk location front) back := by
  induction front generalizing location with
  | nil => rfl
  | cons segment front inductionHypothesis =>
    simp only [List.cons_append, walk, inductionHypothesis]
    split
    · rfl
    · split <;> rfl

/-- Segments that name nothing lead nowhere. -/
theorem walk_nothing (location : Location) (segments : List String)
    (nothing : ∀ segment ∈ segments, isNothing segment = true) :
    walk location segments = location := by
  induction segments with
  | nil => rfl
  | cons segment segments inductionHypothesis =>
    rw [List.forall_mem_cons] at nothing
    rw [walk, if_pos nothing.1]
    exact inductionHypothesis nothing.2

/-- What is passed behind the first segment is passed. -/
theorem Passes.behind {location next place : Location} {segment : String} {others : List String}
    (first : walk location [segment] = next) (rest : Passes next others place) :
    Passes location (segment :: others) place := by
  obtain ⟨front, beginning, reached⟩ := rest
  refine ⟨segment :: front, (List.prefix_cons_inj segment).mpr beginning, ?_⟩
  rw [← List.singleton_append, walk_append, first, reached]

/-- Where a path leads, from where its segments lead from. -/
theorem location_segments (here : Location) (path : String) :
    location here path = walk (origin here path) (segments path) := by
  rw [location, start, route, ← walk_append, List.takeWhile_append_dropWhile]

/-- The route of a path begins with a segment that leads down. -/
theorem route_descends (path first : String) (others : List String)
    (parts : route path = first :: others) : climbs first = false := by
  have head := List.head?_dropWhile_not climbs (segments path)
  rw [route] at parts
  simpa [parts] using head

/-- Segments without two dots lead down by all that they name. -/
theorem walk_plain (location : Location) (segments : List String) (plain : ".." ∉ segments) :
    walk location segments = location ++ segments.filter fun segment => !isNothing segment := by
  induction segments generalizing location with
  | nil => simp [walk]
  | cons segment segments inductionHypothesis =>
    rw [List.mem_cons, not_or] at plain
    rw [walk]
    by_cases nothing : isNothing segment = true
    · simp [nothing, inductionHypothesis _ plain.2]
    · simp [nothing, Ne.symm plain.1, inductionHypothesis _ plain.2]

/-- What makes a text a name. -/
theorem name_parts (text : String) (name : isName text = true) :
    '/' ∉ text.toList ∧ isNothing text = false ∧ text ≠ ".." := by
  simpa [isName, and_assoc] using name

/-- A name does not climb. -/
theorem name_descends (name : String) (named : isName name = true) : climbs name = false := by
  obtain ⟨_, something, down⟩ := name_parts name named
  simp [climbs, something, down]

/-- A name leads down. -/
theorem walk_name (location : Location) (name : String) (named : isName name = true) :
    walk location [name] = location ++ [name] := by
  obtain ⟨_, something, down⟩ := name_parts name named
  simp [walk, something, down]

/-- A path has segments, the empty path too. -/
theorem segments_nonempty (path : String) : segments path ≠ [] := by
  simpa [segments] using Text.split_where_nonempty _ path.toList

/-- No segment has a slash in it. -/
theorem segments_slashless (path : String) : ∀ segment ∈ segments path, '/' ∉ segment.toList := by
  intro segment member slash
  obtain ⟨piece, held, rfl⟩ := List.mem_map.mp member
  rw [String.toList_ofList] at slash
  have apart := (Text.split_where_members (fun character => character == '/') path.toList piece held
    '/' slash).2
  simp at apart

/-- A slash between two paths separates their segments. -/
theorem segments_append (front back : String) :
    segments (front ++ "/" ++ back) = segments front ++ segments back := by
  have split := Text.split_where_append (fun character => character == '/') front.toList
    back.toList '/' (by simp)
  simp [segments, split]

/-- A text without a slash is its only segment. -/
theorem segments_whole (text : String) (slashless : '/' ∉ text.toList) :
    segments text = [text] := by
  have whole := Text.split_where_whole (fun character => character == '/') text.toList
    fun character member => by
      simp only [beq_eq_false_iff_ne]
      rintro rfl
      exact slashless member
  simp [segments, whole]

/-- Segments put together have themselves as segments. -/
theorem segments_joined (parts : List String) (inhabited : parts ≠ [])
    (slashless : ∀ part ∈ parts, '/' ∉ part.toList) :
    segments (Text.joinWith "/" parts) = parts := by
  obtain ⟨first, others, rfl⟩ := List.exists_cons_of_ne_nil inhabited
  have whole : ∀ part ∈ first :: others, ∀ character ∈ part.toList, (character == '/') = false := by
    intro part member character held
    rw [beq_eq_false_iff_ne]
    rintro rfl
    exact slashless part member held
  have cut := Text.split_join (fun character => character == '/') '/' (by simp) [] (by simp) first
    others whole
  have between : String.ofList ['/'] = "/" := rfl
  rw [between] at cut
  simp [segments, cut]

/-- A text in front of the first of several pieces. -/
theorem joined_front (between front first : String) (pieces : List String) :
    Text.joinWith between ((front ++ first) :: pieces) =
      front ++ Text.joinWith between (first :: pieces) := by
  cases pieces <;> simp [Text.joinWith, String.append_assoc]

/-- The segments of a path, put together, are the path. -/
theorem joined_segments (path : String) : Text.joinWith "/" (segments path) = path := by
  obtain ⟨text, rfl⟩ : ∃ text, path = String.ofList text := ⟨path.toList, by simp⟩
  induction text with
  | nil => rfl
  | cons character text inductionHypothesis =>
    obtain ⟨piece, pieces, split⟩ := List.exists_cons_of_ne_nil
      (Text.split_where_nonempty (fun character => character == '/') text)
    simp only [segments, String.toList_ofList, split, List.map_cons] at inductionHypothesis
    simp only [segments, String.toList_ofList, Text.splitWhere, split]
    by_cases slash : character = '/'
    · subst slash
      have apart := congrArg (fun rest => "/" ++ rest) inductionHypothesis
      simpa [Text.joinWith, String.ofList_cons] using apart
    · have front := joined_front "/" (String.singleton character) (String.ofList piece)
        (pieces.map String.ofList)
      rw [inductionHypothesis] at front
      simpa [slash, String.ofList_cons] using front

/-- The kinds of paths to which others are joined: the empty one, those that end in a slash, and
those behind which a slash is put. -/
theorem stem_cases (base : String) :
    (base = "" ∧ stem base = []) ∨
    (∃ front, base = front ++ "/" ++ "" ∧ stem base = segments front) ∨
    (base.isEmpty = false ∧ base.toList.getLast? ≠ some '/' ∧ stem base = segments base) := by
  by_cases empty : base = ""
  · left
    exact ⟨empty, by simp [stem, empty]⟩
  by_cases slash : base.toList.getLast? = some '/'
  · right
    left
    obtain ⟨front, text⟩ := List.getLast?_eq_some_iff.mp slash
    have whole : base = String.ofList front ++ "/" ++ "" := by
      rw [← String.toList_inj]
      simp [text]
    refine ⟨String.ofList front, whole, ?_⟩
    have parts : segments base = segments (String.ofList front) ++ [""] := by
      rw [whole, segments_append]
      rfl
    simp [stem, empty, slash, parts]
  · right
    right
    exact ⟨by simpa using empty, slash, by simp [stem, empty, slash]⟩

/-- The segments of a path that is joined to another. -/
theorem segments_join (base path : String) (relative : isAbsolute path = false) :
    segments (join base path) = stem base ++ segments path := by
  rcases stem_cases base with ⟨rfl, stem⟩ | ⟨front, rfl, stem⟩ | ⟨inhabited, unslashed, stem⟩
  · simp [join, relative, stem]
  · have both : join (front ++ "/" ++ "") path = front ++ "/" ++ path := by
      simp [join, relative]
    rw [both, segments_append, stem]
  · have both : join base path = base ++ "/" ++ path := by
      simp [join, relative, inhabited, unslashed]
    rw [both, segments_append, stem]

/-- A path is its stem, but for segments that name nothing. -/
theorem stem_padding (path : String) :
    ∃ padding, segments path = stem path ++ padding ∧
      ∀ segment ∈ padding, isNothing segment = true := by
  rcases stem_cases path with ⟨rfl, stem⟩ | ⟨front, rfl, stem⟩ | ⟨_, _, stem⟩
  · exact ⟨[""], by rw [stem]; rfl, by simp [isNothing]⟩
  · exact ⟨[""], by rw [segments_append, stem]; rfl, by simp [isNothing]⟩
  · exact ⟨[], by simp [stem], by simp⟩

/-- Segments in front of one that does not climb climb as they do alone. -/
theorem climb_append (front others : List String) (first : String)
    (descends : climbs first = false) :
    (front ++ first :: others).takeWhile climbs = front.takeWhile climbs ∧
      (front ++ first :: others).dropWhile climbs = front.dropWhile climbs ++ first :: others := by
  induction front with
  | nil => simp [descends]
  | cons segment front inductionHypothesis =>
    by_cases up : climbs segment = true
    · simp [up, inductionHypothesis]
    · simp [up]

/-- Segments that name nothing behind others change neither where the others lead up to nor what is
left of them. -/
theorem climb_padded (front padding : List String)
    (nothing : ∀ segment ∈ padding, isNothing segment = true) :
    (∀ location, walk location ((front ++ padding).takeWhile climbs) =
      walk location (front.takeWhile climbs)) ∧
    ∃ rest, (front ++ padding).dropWhile climbs = front.dropWhile climbs ++ rest ∧
      ∀ segment ∈ rest, isNothing segment = true := by
  have climbing : ∀ segment ∈ padding, climbs segment = true :=
    fun segment member => by simp [climbs, nothing segment member]
  rw [List.takeWhile_append, List.dropWhile_append]
  constructor
  · intro location
    split
    · rename_i all
      have kept : front.takeWhile climbs = front := (List.takeWhile_prefix climbs).eq_of_length all
      rw [kept, walk_append, List.takeWhile_eq_self_iff.mpr climbing, walk_nothing _ _ nothing]
    · rfl
  · split
    · rename_i all
      rw [List.dropWhile_eq_nil_iff.mpr climbing]
      exact ⟨[], by simpa using all, by simp⟩
    · exact ⟨padding, rfl, nothing⟩

/-- A path starts where its stem does. -/
theorem start_stem (here : Location) (path : String) :
    walk (origin here path) ((stem path).takeWhile climbs) = start here path := by
  obtain ⟨padding, whole, nothing⟩ := stem_padding path
  rw [start, whole, (climb_padded (stem path) padding nothing).1]

/-- The route of a path is what is left of it when another path is joined to it, but for segments
that name nothing. -/
theorem way_padding (path : String) :
    ∃ padding, route path = way path ++ padding ∧
      ∀ segment ∈ padding, isNothing segment = true := by
  obtain ⟨padding, whole, nothing⟩ := stem_padding path
  rw [route, way, whole]
  exact (climb_padded (stem path) padding nothing).2

/-- What is left of the route when another path is joined to a path leads where the path leads. -/
theorem walk_way (here : Location) (path : String) :
    walk (start here path) (way path) = location here path := by
  obtain ⟨padding, whole, nothing⟩ := way_padding path
  rw [location, whole, walk_append, walk_nothing _ padding nothing]

/-- The segments of a path that name something. -/
def somethings (path : String) : List String :=
  (segments path).filter fun segment => !isNothing segment

/-- The stem of a path names what the path names. -/
theorem stem_somethings (path : String) :
    (stem path).filter (fun segment => !isNothing segment) = somethings path := by
  obtain ⟨padding, whole, nothing⟩ := stem_padding path
  have dropped : padding.filter (fun segment => !isNothing segment) = [] := by
    simpa [List.filter_eq_nil_iff] using nothing
  rw [somethings, whole, List.filter_append, dropped, List.append_nil]

/-- A path that is joined to another names what the two name. -/
theorem somethings_join (base path : String) (relative : isAbsolute path = false) :
    somethings (join base path) = somethings base ++ somethings path := by
  rw [somethings, segments_join base path relative, List.filter_append, stem_somethings]
  rfl

/-- A name is a relative path. -/
theorem name_relative (name : String) (named : isName name = true) : isAbsolute name = false := by
  have slashless := (name_parts name named).1
  cases text : name.toList with
  | nil => simp [isAbsolute, text]
  | cons first others =>
    rw [text] at slashless
    simp only [List.mem_cons, not_or] at slashless
    simp [isAbsolute, text, Ne.symm slashless.1]

/-- A path that is joined to another starts at the root if the other does. -/
theorem join_absolute (base path : String) (relative : isAbsolute path = false) :
    isAbsolute (join base path) = isAbsolute base := by
  cases text : base.toList with
  | nil =>
    obtain rfl : base = "" := by simpa using text
    simpa [join, relative, isAbsolute] using relative
  | cons first others =>
    have inhabited : base.isEmpty = false := by
      rw [← Bool.not_eq_true, String.isEmpty_iff]
      rintro rfl
      cases text
    rw [join, relative]
    by_cases slash : base.toList.getLast? = some '/' <;>
      simp [inhabited, isAbsolute, text] <;> split <;> simp [text]

/-- The segments of a name in another path. -/
theorem segments_inside (base name : String) (named : isName name = true) :
    segments (join base name) = stem base ++ [name] := by
  rw [segments_join base name (name_relative name named),
    segments_whole name (name_parts name named).1]

/-- Where a path starts to which another is joined that leads down at once, and its route. -/
theorem join_descending (here : Location) (base path first : String) (others : List String)
    (relative : isAbsolute path = false) (parts : segments path = first :: others)
    (descends : climbs first = false) :
    start here (join base path) = start here base ∧
      route (join base path) = way base ++ segments path := by
  obtain ⟨up, down⟩ := climb_append (stem base) others first descends
  have below : origin here (join base path) = origin here base := by
    rw [origin, origin, join_absolute base path relative]
  constructor
  · rw [start, below, segments_join base path relative, parts, up, start_stem]
  · rw [route, segments_join base path relative, parts, down, way]

/-- A path to which a name is joined starts where it did. -/
theorem start_inside (here : Location) (base name : String) (named : isName name = true) :
    start here (join base name) = start here base :=
  (join_descending here base name name [] (name_relative name named)
    (segments_whole name (name_parts name named).1) (name_descends name named)).1

/-- The route of a name in another path. -/
theorem route_inside (base name : String) (named : isName name = true) :
    route (join base name) = way base ++ [name] := by
  have whole := segments_whole name (name_parts name named).1
  have joined := (join_descending [] base name name [] (name_relative name named) whole
    (name_descends name named)).2
  rwa [whole] at joined

/-- A path in another one leads on from where the other leads. -/
theorem location_join (here : Location) (base path : String) (relative : isAbsolute path = false) :
    location here (join base path) = walk (location here base) (segments path) := by
  obtain ⟨padding, whole, nothing⟩ := stem_padding base
  rw [location_segments, location_segments, origin, join_absolute base path relative, ← origin,
    segments_join base path relative, whole, walk_append, walk_append,
    walk_nothing _ padding nothing]

/-- A name in a path leads down from where the path leads. -/
theorem location_inside (here : Location) (base name : String) (named : isName name = true) :
    location here (join base name) = location here base ++ [name] := by
  rw [location_join here base name (name_relative name named),
    segments_whole name (name_parts name named).1, walk_name _ name named]

/-- A path whose route has no two dots in it leads through places above the one to which it
leads. -/
theorem leads_through_plain (here : Location) (path : String) (plain : ".." ∉ route path)
    (place : Location) (through : LeadsThrough here path place) : place <+: location here path := by
  obtain ⟨front, ⟨back, whole⟩, rfl⟩ := through
  rw [location, ← whole, walk_append]
  rw [← whole, List.mem_append, not_or] at plain
  rw [walk_plain _ back plain.2]
  exact List.prefix_append _ _

/-- Absolute paths are those with a slash in front of everything else. -/
theorem absolute_iff (path : String) :
    isAbsolute path = true ↔ path ≠ "" ∧ (segments path).head? = some "" := by
  constructor
  · intro absolute
    obtain ⟨rest, whole⟩ : ∃ rest, path.toList = '/' :: rest := by
      rw [isAbsolute, beq_iff_eq] at absolute
      exact List.head?_eq_some_iff.mp absolute
    obtain rfl : path = "" ++ "/" ++ String.ofList rest := by
      rw [← String.toList_inj]
      simp [whole]
    refine ⟨?_, by rw [segments_append]; rfl⟩
    rw [ne_eq, ← String.toList_inj, whole]
    simp
  · rintro ⟨inhabited, first⟩
    obtain ⟨others, parts⟩ := List.head?_eq_some_iff.mp first
    have text := joined_segments path
    rw [parts] at text
    cases others with
    | nil => exact absurd text.symm inhabited
    | cons next others =>
      rw [← text]
      simp [Text.joinWith, isAbsolute]

/-- A path whose segments are the first of those of another one is absolute if the other is, unless
it is empty. -/
theorem absolute_beginning (above path : String) (beginning : segments above <+: segments path)
    (inhabited : segments above ≠ [""]) : isAbsolute above = isAbsolute path := by
  have named : ∀ other, segments other ≠ [""] → other ≠ "" := by
    rintro _ proper rfl
    exact proper rfl
  obtain ⟨rest, whole⟩ := beginning
  obtain ⟨first, others, cut⟩ := List.exists_cons_of_ne_nil (segments_nonempty above)
  have proper : segments path ≠ [""] := by
    intro empty
    rw [← whole, cut, List.cons_append, List.cons.injEq, List.append_eq_nil_iff] at empty
    exact inhabited (by rw [cut, empty.1, empty.2.1])
  have head : (segments path).head? = (segments above).head? := by
    rw [← whole, cut]
    rfl
  have both : isAbsolute above = true ↔ isAbsolute path = true := by
    rw [absolute_iff, absolute_iff, head, and_congr_left_iff]
    exact fun _ => iff_of_true (named above inhabited) (named path proper)
  exact Bool.eq_iff_iff.mpr both

/-- What is left when segments are dropped from the end is their beginning. -/
theorem drop_nothing_suffix (reversed : List String) : dropNothing reversed <:+ reversed := by
  induction reversed with
  | nil => exact List.suffix_rfl
  | cons segment others inductionHypothesis =>
    rw [dropNothing]
    split
    · exact inductionHypothesis.trans (List.suffix_cons segment others)
    · exact List.suffix_rfl

/-- Segments of which the last names something lose nothing. -/
theorem drop_nothing_named (segment : String) (others : List String)
    (something : isNothing segment = false) :
    dropNothing (segment :: others) = segment :: others := by
  simp [dropNothing, something]

/-- When segments that name nothing are dropped from the end, an empty one does not stay alone. -/
theorem drop_nothing_proper (reversed : List String) : dropNothing reversed ≠ [""] := by
  induction reversed with
  | nil => simp [dropNothing]
  | cons segment others inductionHypothesis =>
    rw [dropNothing]
    split
    · exact inductionHypothesis
    · rename_i stays
      intro alone
      simp only [List.cons.injEq] at alone
      simp [alone.1, isNothing] at stays

/-- Slashless segments, put together again, have themselves as segments. -/
theorem segments_of_reversed (reversed : List String) (inhabited : reversed ≠ [])
    (proper : reversed ≠ [""]) (slashless : ∀ segment ∈ reversed, '/' ∉ segment.toList) :
    segments (ofReversed reversed) = reversed.reverse := by
  simp only [ofReversed]
  apply segments_joined
  · simpa using inhabited
  · simpa using slashless

/-- Segments that climb lead to a place above. -/
theorem walk_climbing (location : Location) (segments : List String)
    (climbing : ∀ segment ∈ segments, climbs segment = true) :
    walk location segments <+: location := by
  induction segments generalizing location with
  | nil => exact List.prefix_rfl
  | cons segment segments inductionHypothesis =>
    rw [List.forall_mem_cons] at climbing
    rw [walk]
    split
    · exact inductionHypothesis location climbing.2
    · rename_i something
      have up : (segment == "..") = true := by
        simpa [climbs, something] using climbing.1
      rw [if_pos up]
      exact (inductionHypothesis _ climbing.2).trans (List.dropLast_prefix location)

/-- A path starts above where its segments lead from. -/
theorem start_origin (here : Location) (path : String) : start here path <+: origin here path :=
  walk_climbing _ _ fun _ member => List.mem_takeWhile_imp member

/-- Whether a path is above another one. -/
structure IsAbove (above path : String) : Prop where
  /-- The other starts where the path does, or above. -/
  start : ∀ here, start here path <+: Path.start here above
  /-- A path that leads down starts where the other does, and begins its route. -/
  route : route above ≠ [] →
    (∀ here, Path.start here above = Path.start here path) ∧ Path.route above <+: Path.route path

/-- The path of where the segments of a path lead from. -/
def root (path : String) : String :=
  if isAbsolute path then "/" else ""

/-- The path of where the segments of a path lead from starts there. -/
theorem start_root (here : Location) (path : String) :
    start here (root path) = origin here path := by
  rw [root, origin]
  split <;> rfl

/-- The path of where the segments of a path lead from has no route. -/
theorem route_root (path : String) : route (root path) = [] := by
  rw [root]
  split <;> rfl

/-- The root is above absolute paths, and the current directory above relative ones. -/
theorem root_above (path : String) : IsAbove (root path) path := by
  refine ⟨fun here => ?_, fun descends => absurd (route_root path) descends⟩
  rw [start_root]
  exact start_origin here path

/-- A path whose segments are the first of those of another one is above it. -/
theorem prefix_above (above path : String) (beginning : segments above <+: segments path)
    (same : isAbsolute above = isAbsolute path) : IsAbove above path := by
  obtain ⟨rest, whole⟩ := beginning
  have sameOrigin : ∀ here, origin here above = origin here path := fun here => by
    rw [origin, origin, same]
  by_cases descends : route above = []
  · have climbing : ∀ segment ∈ segments above, climbs segment = true := by
      rwa [route, List.dropWhile_eq_nil_iff] at descends
    refine ⟨fun here => ?_, fun more => absurd descends more⟩
    rw [start, start, ← whole, List.takeWhile_append_of_pos climbing, walk_append,
      List.takeWhile_eq_self_iff.mpr climbing, sameOrigin]
    exact walk_climbing _ _ fun _ member => List.mem_takeWhile_imp member
  · obtain ⟨first, others, parts⟩ := List.exists_cons_of_ne_nil descends
    have down := route_descends above first others parts
    -- The other path goes on behind the first segment that leads down.
    have cut : segments above = (segments above).takeWhile climbs ++ first :: others := by
      rw [← parts, route, List.takeWhile_append_dropWhile]
    have longer : segments path =
        (segments above).takeWhile climbs ++ first :: (others ++ rest) := by
      rw [← whole, ← List.cons_append, ← List.append_assoc, ← cut]
    obtain ⟨up, along⟩ :=
      climb_append ((segments above).takeWhile climbs) (others ++ rest) first down
    have climbed : ∀ segment ∈ (segments above).takeWhile climbs, climbs segment = true :=
      fun _ member => List.mem_takeWhile_imp member
    have started : ∀ here, start here above = start here path := by
      intro here
      rw [start, start, sameOrigin, longer, up, List.takeWhile_eq_self_iff.mpr climbed]
    refine ⟨fun here => (started here).symm ▸ List.prefix_rfl, fun _ => ⟨started, rest, ?_⟩⟩
    rw [parts, route, longer, along, List.dropWhile_eq_nil_iff.mpr climbed]
    simp

/-- A path without its last component is above the path. -/
theorem parent_above (path above : String) (found : parent? path = some above) :
    IsAbove above path := by
  rw [parent?] at found
  split at found
  · cases found
  · split at found
    · cases found
    · rename_i relative
      simp only [Bool.or_eq_true, not_or] at relative
      have highest := root_above path
      rw [root, if_neg relative.1] at highest
      cases found
      exact highest
  · rename_i last others _ left
    have proper := drop_nothing_proper others
    split at found
    · cases found
      exact root_above path
    · rename_i inhabited
      cases found
      have kept := drop_nothing_suffix (segments path).reverse
      rw [left] at kept
      have ending := (drop_nothing_suffix others).trans ((List.suffix_cons last others).trans kept)
      have slashless : ∀ segment ∈ dropNothing others, '/' ∉ segment.toList := fun segment member =>
        segments_slashless path segment (List.mem_reverse.mp (ending.subset member))
      have parts := segments_of_reversed _ inhabited proper slashless
      have beginning : segments (ofReversed (dropNothing others)) <+: segments path := by
        rw [parts, ← List.reverse_reverse (segments path)]
        exact List.reverse_prefix.mpr ending
      exact prefix_above _ _ beginning (absolute_beginning _ _ beginning (by simp [parts, proper]))

/-- What is above a path above another is above the other. -/
theorem above_trans (highest above path : String) (first : IsAbove highest above)
    (second : IsAbove above path) : IsAbove highest path := by
  refine ⟨fun here => (second.start here).trans (first.start here), fun descends => ?_⟩
  obtain ⟨same, beginning⟩ := first.route descends
  have further : route above ≠ [] := by
    intro nowhere
    rw [nowhere, List.prefix_nil] at beginning
    exact descends beginning
  obtain ⟨sameAgain, longer⟩ := second.route further
  exact ⟨fun here => (same here).trans (sameAgain here), beginning.trans longer⟩

/-- The ancestors of a path are above the path. -/
theorem ancestors_above (path : String) (fuel : Nat) :
    ∀ ancestor ∈ ancestors path fuel, IsAbove ancestor path := by
  induction fuel generalizing path with
  | zero => simp [ancestors]
  | succ fuel inductionHypothesis =>
    have itself : IsAbove path path := prefix_above path path List.prefix_rfl rfl
    cases found : parent? path with
    | none => simpa [ancestors, found] using itself
    | some above =>
      simp only [ancestors, found, List.forall_mem_cons]
      constructor
      · exact itself
      · intro ancestor member
        exact above_trans ancestor above path (inductionHypothesis above ancestor member)
          (parent_above path above found)

/-- A path leads through the places to which the paths above it lead that lead down. -/
theorem above_leads_through (here : Location) (above path : String) (higher : IsAbove above path)
    (descends : route above ≠ []) : LeadsThrough here path (location here above) := by
  obtain ⟨same, beginning⟩ := higher.route descends
  exact ⟨route above, beginning, by rw [location, same]⟩

/-- A path whose last segment is a name is its own stem. -/
theorem stem_named (base last : String) (front : List String)
    (ends : segments base = front ++ [last]) (directory : isName last = true) :
    stem base = segments base := by
  obtain ⟨_, something, _⟩ := name_parts last directory
  obtain ⟨padding, whole, nothing⟩ := stem_padding base
  rcases List.eq_nil_or_concat padding with rfl | ⟨padding, final, rfl⟩
  · simpa using whole.symm
  · rw [ends, List.concat_eq_append, ← List.append_assoc] at whole
    have same := List.append_inj_right' whole rfl
    simp only [List.cons.injEq, and_true] at same
    have absurdity := nothing final (by simp)
    rw [← same, something] at absurdity
    cases absurdity

/-- The directory of a name in a directory is the directory, if the directory ends in a name
itself. -/
theorem parent_inside (base last name : String) (front : List String)
    (ends : segments base = front ++ [last]) (directory : isName last = true)
    (named : isName name = true) : parent? (join base name) = some base := by
  obtain ⟨_, lastSomething, _⟩ := name_parts last directory
  obtain ⟨_, nameSomething, _⟩ := name_parts name named
  have stemmed := stem_named base last front ends directory
  have parts : (segments (join base name)).reverse = name :: last :: front.reverse := by
    rw [segments_inside base name named, stemmed, ends]
    simp
  have whole : ofReversed (last :: front.reverse) = base := by
    have proper : last :: front.reverse ≠ [""] := by
      intro same
      simp only [List.cons.injEq] at same
      simp [same.1, isNothing] at lastSomething
    have joined := joined_segments base
    rw [ends] at joined
    simpa [ofReversed, proper] using joined
  simp only [parent?, parts, drop_nothing_named name _ nameSomething,
    drop_nothing_named last _ lastSomething, whole]

end PacketSmith.Path
