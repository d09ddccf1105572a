import PacketSmith.Proofs.Disk.Along

/-!
# Making a directory and those above it

To make a directory, one goes back from it to the nearest path on which nothing is missing, and
makes the directories from there. For a path that ends in a segment that names something this is
the same as going along its route from where it starts: the path above such a path starts there
too and begins its route, so that going back only finds out where the way begins to make
directories. If the path starts in no directory, nothing is made.
-/

namespace PacketSmith
namespace Path

/-- Whether the last segment of a path names something. -/
def IsEnded (path : String) : Prop :=
  ∃ front last, segments path = front ++ [last] ∧ isNothing last = false

/-- A path that ends in something is not empty. -/
theorem IsEnded.inhabited {path : String} (ended : IsEnded path) : path ≠ "" := by
  rintro rfl
  obtain ⟨front, last, ends, something⟩ := ended
  have last : last = "" := by
    have same := congrArg List.getLast? ends
    simpa [segments_whole] using same.symm
  simp [last, isNothing] at something

/-- Dropping segments that name nothing from the end leaves nothing, a dot, or an end that names
something. -/
theorem drop_nothing_cases (reversed : List String) :
    ∃ dropped, reversed = dropped ++ dropNothing reversed ∧
      (∀ segment ∈ dropped, isNothing segment = true) ∧
      (dropNothing reversed = [] ∨ dropNothing reversed = ["."] ∨
        ∃ last others, dropNothing reversed = last :: others ∧ isNothing last = false) := by
  induction reversed with
  | nil => exact ⟨[], rfl, by simp, Or.inl rfl⟩
  | cons segment others inductionHypothesis =>
    rw [dropNothing]
    split
    · rename_i drops
      simp only [Bool.and_eq_true] at drops
      obtain ⟨dropped, whole, nothing, rest⟩ := inductionHypothesis
      refine ⟨segment :: dropped, ?_, ?_, rest⟩
      · rw [List.cons_append, ← whole]
      · exact List.forall_mem_cons.mpr ⟨drops.1, nothing⟩
    · rename_i stays
      refine ⟨[], rfl, by simp, Or.inr ?_⟩
      by_cases nothing : isNothing segment = true
      · left
        simpa [nothing, and_comm] using stays
      · right
        exact ⟨segment, others, rfl, by simpa using nothing⟩

/-- Pieces put together, cut between two of them. -/
theorem joined_append (between : String) (front back : List String) (inhabited : front ≠ [])
    (more : back ≠ []) :
    Text.joinWith between (front ++ back) =
      Text.joinWith between front ++ between ++ Text.joinWith between back := by
  induction front with
  | nil => exact absurd rfl inhabited
  | cons piece front inductionHypothesis =>
    by_cases last : front = []
    · subst last
      obtain ⟨first, others, rfl⟩ := List.exists_cons_of_ne_nil more
      rfl
    · obtain ⟨next, others, rfl⟩ := List.exists_cons_of_ne_nil last
      have rest := inductionHypothesis last
      simp only [List.cons_append, Text.joinWith] at rest ⊢
      rw [rest]
      simp [String.append_assoc]

/-- What stands above a path that ends in something: the root or the current directory, with nothing
in between but segments that name nothing, or a beginning of the path that ends in something or is a
dot. -/
theorem parent_ended (path : String) (front : List String) (last : String)
    (ends : segments path = front ++ [last]) (something : isNothing last = false) :
    ∃ above padding, parent? path = some above ∧
      (∀ segment ∈ padding, isNothing segment = true) ∧
      (above = root path ∧ front = padding ∨
        front = segments above ++ padding ∧ (above = "." ∨ IsEnded above) ∧
          ∃ rest, path = above ++ "/" ++ rest) := by
  have reversed : (segments path).reverse = last :: front.reverse := by
    rw [ends]
    simp
  obtain ⟨dropped, whole, nothing, kept⟩ := drop_nothing_cases front.reverse
  have parts : front = (dropNothing front.reverse).reverse ++ dropped.reverse := by
    rw [← List.reverse_append, ← whole, List.reverse_reverse]
  have padding : ∀ segment ∈ dropped.reverse, isNothing segment = true := by
    simpa using nothing
  by_cases none : dropNothing front.reverse = []
  · refine ⟨_, dropped.reverse, ?_, padding, Or.inl ⟨rfl, by simpa [none] using parts⟩⟩
    rw [root, parent?, reversed, drop_nothing_named last _ something]
    cases higher : front.reverse with
    | nil =>
      have relative : ¬ isAbsolute path = true := by
        rw [absolute_iff, ends, List.reverse_eq_nil_iff.mp higher]
        rintro ⟨_, head⟩
        obtain rfl : last = "" := by simpa using head
        cases something
      simp [relative, something]
    | cons next others =>
      rw [higher] at none
      simp [none]
  · -- The segments that are left are those of the path above.
    have slashless : ∀ segment ∈ dropNothing front.reverse, '/' ∉ segment.toList := by
      intro segment member
      apply segments_slashless path
      rw [ends, parts]
      simp [member]
    have proper := drop_nothing_proper front.reverse
    have above := segments_of_reversed _ none proper slashless
    have text : ofReversed (dropNothing front.reverse) =
        Text.joinWith "/" (dropNothing front.reverse).reverse := by
      rw [← joined_segments (ofReversed _), above]
    refine ⟨ofReversed (dropNothing front.reverse), dropped.reverse, ?_, padding, Or.inr
      ⟨by rw [above, ← parts], ?_, ?_⟩⟩
    · rw [parent?, reversed, drop_nothing_named last _ something]
      have more : front.reverse ≠ [] := by
        intro empty
        exact none (by rw [empty]; rfl)
      obtain ⟨next, others, more⟩ := List.exists_cons_of_ne_nil more
      obtain ⟨first, remaining, left⟩ := List.exists_cons_of_ne_nil none
      rw [more] at left ⊢
      simp [left]
    · rcases kept with empty | dot | ⟨final, others, left, named⟩
      · exact absurd empty none
      · left
        rw [text, dot]
        rfl
      · right
        exact ⟨others.reverse, final, by rw [above, left, List.reverse_cons], named⟩
    · refine ⟨Text.joinWith "/" (dropped.reverse ++ [last]), ?_⟩
      have joined := joined_segments path
      rw [ends, parts, List.append_assoc, joined_append _ _ _ (by simpa using none) (by simp),
        ← text] at joined
      exact joined.symm

/-- The route of a path that leads down, up to its last segment. -/
theorem route_last (path : String) (front : List String) (last : String)
    (ends : segments path = front ++ [last]) (descends : route path ≠ []) :
    route path = front.dropWhile climbs ++ [last] ∧
      ∀ here, start here path = walk (origin here path) (front.takeWhile climbs) := by
  have routed : route path = (front ++ [last]).dropWhile climbs := by
    rw [route, ends]
  rw [List.dropWhile_append] at routed
  split at routed
  · rename_i climbing
    rw [List.isEmpty_iff] at climbing
    have down : climbs last = false := by
      rw [← Bool.not_eq_true]
      intro up
      exact descends (by rw [routed]; simp [up])
    constructor
    · simpa [climbing, down] using routed
    · intro here
      rw [start, ends, (climb_append front [] last down).1]
  · rename_i leads
    refine ⟨routed, fun here => ?_⟩
    rw [start, ends, List.takeWhile_append, if_neg]
    intro all
    have kept := (List.takeWhile_prefix climbs (l := front)).eq_of_length all
    exact leads (by simpa using List.takeWhile_eq_self_iff.mp kept)

/-- What stands above a path that ends in something and leads down: a path that starts where the
other does, and whose route is that of the other up to its last segment, but for segments that name
nothing. -/
theorem parent_route (path : String) (front : List String) (last : String)
    (ends : segments path = front ++ [last]) (something : isNothing last = false)
    (descends : route path ≠ []) :
    ∃ above padding, parent? path = some above ∧
      (∀ here, start here above = start here path) ∧
      front.dropWhile climbs = route above ++ padding ∧
      (∀ segment ∈ padding, isNothing segment = true) ∧
      (route above = [] ∨ IsEnded above ∧ (segments above).length ≤ front.length) ∧
      (above = "" ∨ above = "/" ∨ ∃ rest, path = above ++ "/" ++ rest) := by
  obtain ⟨above, padding, parent, nothing, higher⟩ := parent_ended path front last ends something
  have started := (route_last path front last ends descends).2
  rcases higher with ⟨rfl, rfl⟩ | ⟨rfl, ended, whole⟩
  · obtain ⟨up, rest, down, restNothing⟩ := climb_padded [] front nothing
    refine ⟨root path, rest, parent, fun here => ?_, ?_, restNothing, Or.inl (route_root path), ?_⟩
    · rw [start_root, started]
      exact (up _).symm
    · rw [route_root]
      exact down
    · rw [root]
      split
      · exact Or.inr (Or.inl rfl)
      · exact Or.inl rfl
  · obtain ⟨up, rest, down, restNothing⟩ := climb_padded (segments above) padding nothing
    have beginning : segments above <+: segments path := by
      rw [ends, List.append_assoc]
      exact List.prefix_append _ _
    have inhabited : segments above ≠ [""] := by
      rcases ended with rfl | ⟨others, final, parts, named⟩
      · decide
      · intro empty
        rw [parts] at empty
        obtain rfl : final = "" := by simpa using congrArg List.getLast? empty
        cases named
    have same := absolute_beginning above path beginning inhabited
    refine ⟨above, rest, parent, fun here => ?_, down, restNothing, ?_, Or.inr (Or.inr whole)⟩
    · rw [started, up, start, origin, origin, same]
    · rcases ended with rfl | ended
      · exact Or.inl rfl
      · exact Or.inr ⟨ended, by simp⟩

/-- A path has at most one segment more than characters. -/
theorem segments_length (path : String) : (segments path).length ≤ path.length + 1 := by
  rw [segments, List.length_map, ← String.length_toList]
  induction path.toList with
  | nil => simp [Text.splitWhere]
  | cons character text inductionHypothesis =>
    obtain ⟨piece, pieces, split⟩ := List.exists_cons_of_ne_nil
      (Text.split_where_nonempty (fun character => character == '/') text)
    rw [split] at inductionHypothesis
    simp only [Text.splitWhere, split]
    split <;> simp at inductionHypothesis ⊢ <;> omega

end Path

namespace Disk

/-- The outcome of making directories as a disk and whether it succeeded. -/
def outcome (made : Disk × Except Fault Unit) : Disk × Bool :=
  (made.1, made.2.isOk)

/-- Making one directory makes what is at the end of its path. -/
theorem make_each_single (disk : Disk) (path : String) :
    outcome (disk.makeEach [path]) = disk.madeAt (disk.resolve path) := by
  rw [makeEach, makeDirectory, isDirectory]
  cases disk.resolve path with
  | error fault => rfl
  | ok destination => cases destination <;> rfl

/-- Directories are made one after the other. -/
theorem make_each_append (disk : Disk) (front back : List String) :
    disk.makeEach (front ++ back) =
      match disk.makeEach front with
      | (made, .ok ()) => made.makeEach back
      | (made, .error fault) => (made, .error fault) := by
  induction front generalizing disk with
  | nil => rfl
  | cons path front inductionHypothesis =>
    rw [List.cons_append, makeEach, makeEach]
    cases disk.makeDirectory path with
    | ok made => exact inductionHypothesis made
    | error fault =>
      by_cases stands : disk.isDirectory path = true
      · simp only [stands, if_true]
        exact inductionHypothesis disk
      · simp [stands]

/-- The paths found before those that are looked at stay behind them. -/
theorem unmade_behind (disk : Disk) (made paths : List String) :
    disk.unmade made paths = disk.unmade [] paths ++ made := by
  induction paths generalizing made with
  | nil => rfl
  | cons path paths inductionHypothesis =>
    rw [unmade, unmade]
    split
    · rfl
    · split
      · rw [inductionHypothesis (path :: made), inductionHypothesis [path]]
        simp
      · rfl

/-- What stands above a usable path is usable, unless it is empty. -/
theorem IsUsable.above {above path : String} (usable : IsUsable path) (inhabited : above ≠ "")
    (whole : above = "" ∨ above = "/" ∨ ∃ rest, path = above ++ "/" ++ rest) : IsUsable above := by
  rcases whole with rfl | rfl | ⟨rest, rfl⟩
  · exact absurd rfl inhabited
  · exact ⟨by decide, by decide, by decide⟩
  · have clean := usable.clean
    have short := usable.short
    simp only [String.toList_append, List.any_append, Bool.or_eq_false_iff] at clean
    simp only [String.utf8ByteSize_append] at short
    exact ⟨clean.1.1, inhabited, by omega⟩

/-- Making a directory fails for something missing where following its path does. -/
theorem make_directory_missing (disk : Disk) (path : String) :
    disk.makeDirectory path = .error .missing ↔ disk.resolve path = .error .missing := by
  rw [makeDirectory]
  cases disk.resolve path with
  | error fault => simp [bind, Except.bind]
  | ok destination => cases destination <;> simp [bind, Except.bind]

/-- A path on which something is missing is looked at together with those above it. -/
theorem unmade_missing (disk : Disk) (made paths : List String) (path : String)
    (inhabited : path ≠ "") (missing : disk.resolve path = .error .missing) :
    disk.unmade made (path :: paths) = disk.unmade (path :: made) paths := by
  rw [unmade, if_neg (by simpa using inhabited), (disk.make_directory_missing path).mpr missing]

/-- A path on which nothing is missing is the last that is looked at. -/
theorem unmade_found (disk : Disk) (made paths : List String) (path : String)
    (inhabited : path ≠ "") (found : disk.resolve path ≠ .error .missing) :
    disk.unmade made (path :: paths) = path :: made := by
  rw [unmade, if_neg (by simpa using inhabited)]
  split
  · rename_i failed
    exact absurd ((disk.make_directory_missing path).mp failed) found
  · rfl

/-- Nothing is made for a path without a route that starts in a directory. -/
theorem make_nowhere {disk : Disk} (path : String) (fuel : Nat) (nowhere : Path.route path = [])
    (usable : path ≠ "" → IsUsable path) (stands : disk.HasStart path) :
    outcome (disk.makeEach (disk.unmade [] (Path.ancestors path fuel))) = (disk, true) := by
  cases fuel with
  | zero => rfl
  | succ fuel =>
    by_cases empty : path = ""
    · subst empty
      rfl
    · have resolved := (usable empty).resolve stands
      rw [nowhere] at resolved
      rw [Path.ancestors, unmade_found _ _ _ _ empty (by simp [resolved, follow]), make_each_single,
        resolved]
      rfl

/-- Where the way along a route is gone up to its last segment, making the directory of the path is
going on by this segment. -/
theorem make_last {disk between : Disk} {path last : String} {front : List String}
    (usable : IsUsable path) (stands : disk.HasStart path)
    (route : Path.route path = front ++ [last]) (something : Path.isNothing last = false)
    (along : Along disk (Path.start disk.here path) front between true) :
    outcome (between.makeEach [path]) =
      between.makeAlong (Path.walk (Path.start disk.here path) front) [last] := by
  have stillStands : between.HasStart path := by
    rw [HasStart, along.grows.here]
    exact along.grows.stays _ _ stands
  have followed := usable.resolve stillStands
  rw [along.grows.here, route, (along.leads rfl).follow_append] at followed
  rw [make_each_single, followed, between.make_along_single _ last something]

/-- Making the directories above a path and the directory itself is going along the route of the
path, if it starts in a directory.

Proof: induction on the number of paths that are looked at. If nothing is missing on the way to the
directory, it alone is made. Otherwise those above it are made first, which is going along the route
up to its last segment, and from there on a single segment is left. -/
theorem make_ancestors_along {disk : Disk} (tree : disk.IsTree) (path : String) (fuel : Nat)
    (usable : IsUsable path) (ended : Path.IsEnded path) (stands : disk.HasStart path)
    (enough : (Path.segments path).length ≤ fuel) :
    outcome (disk.makeEach (disk.unmade [] (Path.ancestors path fuel))) =
      disk.makeAlong (Path.start disk.here path) (Path.route path) := by
  induction fuel generalizing path with
  | zero =>
    obtain ⟨front, last, ends, _⟩ := ended
    simp [ends] at enough
  | succ fuel inductionHypothesis =>
    obtain ⟨front, last, ends, something⟩ := ended
    by_cases missing : disk.resolve path = .error .missing
    · -- The directories above the path are made first.
      have descends : Path.route path ≠ [] := by
        intro nowhere
        rw [usable.resolve stands, nowhere] at missing
        cases missing
      obtain ⟨above, padding, parent, same, parts, nothing, higher, whole⟩ :=
        Path.parent_route path front last ends something descends
      have aboveStands : disk.HasStart above := by
        rw [HasStart, same]
        exact stands
      have first : outcome (disk.makeEach (disk.unmade [] (Path.ancestors above fuel))) =
          disk.makeAlong (Path.start disk.here path) (front.dropWhile Path.climbs) := by
        rw [parts, make_along_padded _ _ _ _ nothing, ← same]
        rcases higher with nowhere | ⟨aboveEnded, fewer⟩
        · rw [nowhere]
          exact make_nowhere above fuel nowhere (fun inhabited => usable.above inhabited whole)
            aboveStands
        · apply inductionHypothesis above (usable.above aboveEnded.inhabited whole) aboveEnded
            aboveStands
          simp only [ends, List.length_append, List.length_singleton] at enough
          omega
      have paths : Path.ancestors path (fuel + 1) = path :: Path.ancestors above fuel := by
        rw [Path.ancestors, parent]
      have route := (Path.route_last path front last ends descends).1
      rw [paths, unmade_missing _ _ _ _ usable.inhabited missing, unmade_behind, make_each_append,
        route, make_along_append, ← first]
      cases made : disk.makeEach (disk.unmade [] (Path.ancestors above fuel)) with
      | mk between result =>
        cases result with
        | error fault => rfl
        | ok value =>
          have along : Along disk (Path.start disk.here path) (front.dropWhile Path.climbs) between
              true := by
            have gone := make_along_exact tree _ (front.dropWhile Path.climbs) stands
            rwa [← first, made] at gone
          exact make_last usable stands route something along
    · -- Nothing is missing, and the directory is made alone.
      rw [Path.ancestors, unmade_found _ _ _ _ usable.inhabited missing, make_each_single,
        usable.resolve stands]
      rw [usable.resolve stands] at missing
      exact (make_along_follow _ _ _ missing).symm

/-- Nothing is made for a path that starts in no directory, because those above it start there or
below. -/
theorem make_directories_astray {disk : Disk} (tree : disk.IsTree) (path : String)
    (inhabited : path ≠ "") (absent : ¬ disk.HasStart path) :
    outcome (disk.makeDirectories path) = (disk, false) := by
  obtain ⟨front, found, among⟩ := disk.unmade_path path path.length inhabited
  rw [makeDirectories, found]
  obtain ⟨first, others, whole⟩ := List.exists_cons_of_ne_nil
    (List.append_ne_nil_of_right_ne_nil front (List.cons_ne_nil path []))
  rw [whole] at among ⊢
  have higher := Path.ancestors_above path _ first (among first List.mem_cons_self)
  have astray : ¬ disk.HasStart first :=
    fun stands => absent (tree.higher (higher.start disk.here) stands)
  cases resolved : disk.resolve first with
  | error fault => simp [makeEach, makeDirectory, isDirectory, resolved, bind, Except.bind, outcome,
      Except.isOk, Except.toBool]
  | ok destination => exact absurd ((disk.resolve_iff first destination).mp resolved).stands astray

/-- Making a directory and those above it is going the way of its path. -/
theorem make_directories_along {disk : Disk} (tree : disk.IsTree) (path : String)
    (usable : IsUsable path) (ended : Path.IsEnded path) :
    outcome (disk.makeDirectories path) =
      disk.makeWay (Path.start disk.here path) (Path.route path) := by
  by_cases stands : disk.HasStart path
  · rw [make_way_from _ stands]
    exact make_ancestors_along tree path _ usable ended stands (Path.segments_length path)
  · rw [make_directories_astray tree path usable.inhabited stands, make_way_astray _ stands]

end Disk
end PacketSmith
