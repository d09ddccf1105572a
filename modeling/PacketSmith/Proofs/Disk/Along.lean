import PacketSmith.Proofs.Disk.Directories

/-!
# Going along a path and making what is missing

One can go along the segments of a path and make each directory that is missing on the way. Such a
way can be cut anywhere. When its end is reached, it has left directories exactly where it passes;
when it is blocked by a file, it is blocked again at the same place. Where nothing is missing it
does what following the segments says. The way of a path begins where the path starts, and is
blocked if no directory is there.
-/

namespace PacketSmith

namespace Disk

/-- What the tests along a path say about a segment that leads down. -/
theorem IsStep.of_tests {segment : String} (something : ¬ Path.isNothing segment = true)
    (down : ¬ (segment == "..") = true) (short : ¬ segment.utf8ByteSize > longestName) :
    IsStep segment :=
  ⟨by simpa using something, by simpa using down, Nat.not_lt.mp short⟩

/-- A step leads down. -/
theorem IsStep.walk {location : Location} {segment : String} (step : IsStep segment) :
    Path.walk location [segment] = location ++ [segment] := by
  simp [Path.walk, step.something, step.down]

/-- Go along segments from a location and make the directories that are missing; and whether the
end is reached. -/
def makeAlong (disk : Disk) (location : Location) : List String → Disk × Bool
  | [] => (disk, true)
  | segment :: others =>
    if Path.isNothing segment then makeAlong disk location others
    else if segment == ".." then makeAlong disk location.dropLast others
    else if segment.utf8ByteSize > longestName then (disk, false)
    else
      let next := location ++ [segment]
      match disk.node? next with
      | some .directory => makeAlong disk next others
      | some (.file _) => (disk, false)
      | none => makeAlong (disk.put next .directory) next others

/-- A segment that names nothing is passed over. -/
theorem make_along_nothing (disk : Disk) (location : Location) (segment : String)
    (others : List String) (nothing : Path.isNothing segment = true) :
    disk.makeAlong location (segment :: others) = disk.makeAlong location others := by
  rw [makeAlong, if_pos nothing]

/-- Two dots lead up. -/
theorem make_along_up (disk : Disk) (location : Location) (others : List String) :
    disk.makeAlong location (".." :: others) = disk.makeAlong location.dropLast others := by
  simp [makeAlong, Path.isNothing]

/-- A name leads into the directory that stands or is made. -/
theorem make_along_step (disk : Disk) (location : Location) (segment : String)
    (others : List String) (step : IsStep segment) :
    disk.makeAlong location (segment :: others) =
      match disk.node? (location ++ [segment]) with
      | some .directory => disk.makeAlong (location ++ [segment]) others
      | some (.file _) => (disk, false)
      | none =>
        (disk.put (location ++ [segment]) .directory).makeAlong (location ++ [segment]) others := by
  simp [makeAlong, step.something, step.down, Nat.not_lt.mpr step.short]

/-- Segments that name nothing are passed over. -/
theorem make_along_padding (disk : Disk) (location : Location) (segments : List String)
    (nothing : ∀ segment ∈ segments, Path.isNothing segment = true) :
    disk.makeAlong location segments = (disk, true) := by
  induction segments with
  | nil => rfl
  | cons segment segments inductionHypothesis =>
    rw [List.forall_mem_cons] at nothing
    rw [make_along_nothing _ _ _ _ nothing.1, inductionHypothesis nothing.2]

/-- The way along segments goes on behind their first part. -/
theorem make_along_append (disk : Disk) (location : Location) (front back : List String) :
    disk.makeAlong location (front ++ back) =
      match disk.makeAlong location front with
      | (made, true) => made.makeAlong (Path.walk location front) back
      | (made, false) => (made, false) := by
  fun_induction makeAlong disk location front with
  | case1 => rfl
  | case2 disk location segment others nothing inductionHypothesis =>
    rw [List.cons_append, make_along_nothing _ _ _ _ nothing, inductionHypothesis, Path.walk,
      if_pos nothing]
  | case3 disk location segment others something dots inductionHypothesis =>
    obtain rfl : segment = ".." := by simpa using dots
    rw [List.cons_append, make_along_up, inductionHypothesis]
    simp [Path.walk, Path.isNothing]
  | case4 disk location segment others something dots long =>
    simp [makeAlong, something, dots, long]
  | case5 disk location segment others something dots short next stands inductionHypothesis =>
    have step := IsStep.of_tests something dots short
    rw [List.cons_append, make_along_step _ _ _ _ step, stands]
    simpa [Path.walk, step.something, step.down] using inductionHypothesis
  | case6 disk location segment others something dots short next content stands =>
    have step := IsStep.of_tests something dots short
    rw [List.cons_append, make_along_step _ _ _ _ step, stands]
  | case7 disk location segment others something dots short next stands inductionHypothesis =>
    have step := IsStep.of_tests something dots short
    rw [List.cons_append, make_along_step _ _ _ _ step, stands]
    simpa [Path.walk, step.something, step.down] using inductionHypothesis

/-- Segments that name nothing at the end of a way change nothing. -/
theorem make_along_padded (disk : Disk) (location : Location) (segments padding : List String)
    (nothing : ∀ segment ∈ padding, Path.isNothing segment = true) :
    disk.makeAlong location (segments ++ padding) = disk.makeAlong location segments := by
  rw [make_along_append]
  split
  · rename_i made whole
    rw [whole, make_along_padding _ _ _ nothing]
  · rename_i made whole
    rw [whole]

/-- What is true of a way along segments. -/
structure Along (disk : Disk) (location : Location) (segments : List String) (after : Disk)
    (reached : Bool) : Prop where
  /-- The disk stays a tree. -/
  tree : after.IsTree
  /-- Directories on the way are new, and nothing else. -/
  grows : Grows (Path.Passes location segments) disk after
  /-- If the end is reached, the segments lead there from now on. -/
  leads : reached = true → after.Leads location segments (.directory (Path.walk location segments))
  /-- To go the same way again makes nothing. -/
  again : after.makeAlong location segments = (after, reached)

/-- Going along segments makes directories on the way, and has the same end when it is done
again.

Proof: induction along the way. A directory that is made stays while the rest is made, so that the
way back to it is the same from then on. -/
theorem make_along_exact {disk : Disk} (tree : disk.IsTree) (location : Location)
    (segments : List String) (inside : disk.node? location = some .directory) :
    Along disk location segments (disk.makeAlong location segments).1
      (disk.makeAlong location segments).2 := by
  fun_induction makeAlong disk location segments with
  | case1 disk location =>
    exact ⟨tree, Grows.refl _ _, fun _ => .arrived location, rfl⟩
  | case2 disk location segment others nothing inductionHypothesis =>
    have rest := inductionHypothesis tree inside
    have stay : Path.walk location [segment] = location := by
      simp [Path.walk, nothing]
    refine ⟨rest.tree, rest.grows.widen fun place => Path.Passes.behind stay, ?_, ?_⟩
    · intro reached
      rw [Path.walk, if_pos nothing]
      exact .passed location segment others _ nothing (rest.leads reached)
    · rw [make_along_nothing _ _ _ _ nothing, rest.again]
  | case3 disk location segment others something dots inductionHypothesis =>
    obtain rfl : segment = ".." := by simpa using dots
    have rest := inductionHypothesis tree (tree.up location inside)
    have up : Path.walk location [".."] = location.dropLast := by
      simp [Path.walk, Path.isNothing]
    refine ⟨rest.tree, rest.grows.widen fun place => Path.Passes.behind up, ?_, ?_⟩
    · intro reached
      have leads := Leads.up location others _ (rest.leads reached)
      simpa [Path.walk, Path.isNothing] using leads
    · rw [make_along_up, rest.again]
  | case4 disk location segment others something dots long =>
    refine ⟨tree, Grows.refl _ _, by simp, ?_⟩
    simp [makeAlong, something, dots, long]
  | case5 disk location segment others something dots short next stands inductionHypothesis =>
    have step := IsStep.of_tests something dots short
    have rest := inductionHypothesis tree stands
    refine ⟨rest.tree, rest.grows.widen fun place => Path.Passes.behind step.walk, ?_, ?_⟩
    · intro reached
      have there := rest.grows.stays _ _ stands
      have leads := Leads.down location segment others _ step there (rest.leads reached)
      simpa [Path.walk, step.something, step.down] using leads
    · rw [make_along_step _ _ _ _ step, rest.grows.stays _ _ stands]
      exact rest.again
  | case6 disk location segment others something dots short next content stands =>
    have step := IsStep.of_tests something dots short
    refine ⟨tree, Grows.refl _ _, by simp, ?_⟩
    rw [make_along_step _ _ _ _ step, stands]
  | case7 disk location segment others something dots short next stands inductionHypothesis =>
    have step := IsStep.of_tests something dots short
    have treeMade : (disk.put next .directory).IsTree :=
      tree.put location segment .directory inside (Or.inl rfl)
    have made : (disk.put next .directory).node? next = some .directory := by
      rw [node_put _ _ _ _ (by simp [next]), if_pos rfl]
    have rest := inductionHypothesis treeMade made
    have there := rest.grows.stays _ _ made
    have first : Grows (Path.Passes location (segment :: others)) disk
        (disk.put next .directory) := by
      refine ⟨rfl, fun place => ?_⟩
      rw [node_put _ _ _ _ (by simp [next])]
      split
      · rename_i same
        subst same
        exact Or.inr ⟨stands, rfl, [segment], by simp, step.walk⟩
      · exact Or.inl rfl
    refine ⟨rest.tree, first.trans (rest.grows.widen fun place => Path.Passes.behind step.walk),
      ?_, ?_⟩
    · intro reached
      have leads := Leads.down location segment others _ step there (rest.leads reached)
      simpa [Path.walk, step.something, step.down] using leads
    · rw [make_along_step _ _ _ _ step, there]
      exact rest.again

/-- What is made at the end of a way that can be followed, and whether the end is a directory
then. -/
def madeAt (disk : Disk) : Except Fault Destination → Disk × Bool
  | .ok (.directory _) => (disk, true)
  | .ok (.free place _) => (disk.put place .directory, true)
  | .ok (.file _ _) | .error _ => (disk, false)

/-- Following segments is the same on disks that agree where the segments pass. -/
theorem follow_agrees {disk twin : Disk} (location : Location) (segments : List String)
    (agree : ∀ place, Path.Passes location segments place →
      disk.node? place = twin.node? place) :
    disk.follow location segments = twin.follow location segments := by
  induction segments generalizing location with
  | nil => rfl
  | cons segment others inductionHypothesis =>
    have behind : ∀ next, Path.walk location [segment] = next → ∀ place,
        Path.Passes next others place → disk.node? place = twin.node? place :=
      fun next first place passes => agree place (passes.behind first)
    rw [follow, follow]
    by_cases nothing : Path.isNothing segment = true
    · rw [if_pos nothing, if_pos nothing]
      exact inductionHypothesis location (behind _ (by simp [Path.walk, nothing]))
    by_cases dots : (segment == "..") = true
    · have up := inductionHypothesis location.dropLast
        (behind _ (by simp [Path.walk, nothing, dots]))
      rw [if_neg nothing, if_neg nothing, if_pos dots, if_pos dots, up]
    by_cases long : segment.utf8ByteSize > longestName
    · simp [nothing, dots, long]
    · have step := IsStep.of_tests nothing dots long
      have same : disk.node? (location ++ [segment]) = twin.node? (location ++ [segment]) :=
        agree _ ⟨[segment], by simp, step.walk⟩
      have down := inductionHypothesis (location ++ [segment]) (behind _ step.walk)
      rw [if_neg nothing, if_neg nothing, if_neg dots, if_neg dots, if_neg long, if_neg long]
      simp only [same, down]

/-- Going along segments on which nothing is missing makes the last directory at most. -/
theorem make_along_follow (disk : Disk) (location : Location) (segments : List String)
    (found : disk.follow location segments ≠ .error .missing) :
    disk.makeAlong location segments = disk.madeAt (disk.follow location segments) := by
  fun_induction follow disk location segments with
  | case1 => rfl
  | case2 location segment others nothing inductionHypothesis =>
    rw [make_along_nothing _ _ _ _ nothing]
    exact inductionHypothesis found
  | case3 location segment others something dots inductionHypothesis =>
    obtain rfl : segment = ".." := by simpa using dots
    rw [make_along_up]
    exact inductionHypothesis found
  | case4 location segment others something dots long =>
    simp [makeAlong, something, dots, long, madeAt]
  | case5 location segment others something dots short next stands inductionHypothesis =>
    rw [make_along_step _ _ _ _ (IsStep.of_tests something dots short), stands]
    exact inductionHypothesis found
  | case6 location segment others something dots short next content stands last =>
    rw [make_along_step _ _ _ _ (IsStep.of_tests something dots short), stands]
    rfl
  | case7 location segment others something dots short next content stands last =>
    rw [make_along_step _ _ _ _ (IsStep.of_tests something dots short), stands]
    rfl
  | case8 location segment others something dots short next stands last =>
    rw [make_along_step _ _ _ _ (IsStep.of_tests something dots short), stands]
    have nothing : ∀ other ∈ others, Path.isNothing other = true := by
      intro other member
      simp only [List.all_eq_true, beq_iff_eq] at last
      simp [last other member, Path.isNothing]
    exact make_along_padding _ _ others nothing
  | case9 => exact absurd rfl found

/-- A way that leads to a directory has nothing missing on it. -/
theorem make_along_leads {disk : Disk} {location place : Location} {segments : List String}
    (leads : disk.Leads location segments (.directory place)) :
    disk.makeAlong location segments = (disk, true) := by
  have followed := (follow_iff _ _ _ _).mpr leads
  rw [make_along_follow _ _ _ (by simp [followed]), followed]
  rfl

/-- Going along one segment that names something makes what is at its end. -/
theorem make_along_single (disk : Disk) (location : Location) (segment : String)
    (something : Path.isNothing segment = false) :
    disk.makeAlong location [segment] = disk.madeAt (disk.follow location [segment]) := by
  by_cases found : disk.follow location [segment] = .error .missing
  · rw [found]
    rw [follow, something] at found
    simp only [Bool.false_eq_true, if_false] at found
    split at found
    · simp [follow] at found
    · split at found
      · cases found
      · split at found <;> simp [follow] at found
  · exact make_along_follow disk location [segment] found

/-- A way that leads to a directory leads there again when some directories on it are gone. -/
theorem make_along_over {disk fewer : Disk} {location place : Location} {segments : List String}
    (leads : disk.Leads location segments (.directory place))
    (gone : ∀ other, disk.node? other = some .directory →
      fewer.node? other = some .directory ∨ fewer.node? other = none) :
    (fewer.makeAlong location segments).2 = true := by
  generalize reached : Destination.directory place = directory at leads
  induction leads generalizing fewer with
  | arrived => rfl
  | passed location segment others destination nothing _ inductionHypothesis =>
    rw [make_along_nothing _ _ _ _ nothing]
    exact inductionHypothesis gone reached
  | up location others destination _ inductionHypothesis =>
    rw [make_along_up]
    exact inductionHypothesis gone reached
  | down location segment others destination step stands _ inductionHypothesis =>
    rw [make_along_step _ _ _ _ step]
    rcases gone _ stands with stays | goes
    · rw [stays]
      exact inductionHypothesis gone reached
    · rw [goes]
      refine inductionHypothesis (fun other there => ?_) reached
      rw [node_put _ _ _ _ (by simp)]
      split
      · exact Or.inl rfl
      · exact gone other there
  | file => cases reached
  | free => cases reached

/-! ## Ways from the start of a path -/

/-- A path leads to the same on disks with the same current directory that agree where the path
leads through. -/
theorem resolve_agrees {disk twin : Disk} (path : String) (same : disk.here = twin.here)
    (agree : ∀ place, Path.LeadsThrough disk.here path place →
      disk.node? place = twin.node? place) : disk.resolve path = twin.resolve path := by
  have first := agree (Path.start disk.here path) ⟨[], List.nil_prefix, rfl⟩
  have rest := follow_agrees (Path.start disk.here path) (Path.route path) agree
  rw [resolve, resolve, ← same, first, rest]

/-- Go along segments from a place and make the directories that are missing, if the place is a
directory; and whether the end is reached. -/
def makeWay (disk : Disk) (start : Location) (segments : List String) : Disk × Bool :=
  if disk.node? start = some .directory then disk.makeAlong start segments else (disk, false)

variable {disk after : Disk} {start : Location} {segments : List String} {reached : Bool}

/-- From a directory one goes along the segments. -/
theorem make_way_from (segments : List String) (stands : disk.node? start = some .directory) :
    disk.makeWay start segments = disk.makeAlong start segments :=
  if_pos stands

/-- One does not go from where no directory is. -/
theorem make_way_astray (segments : List String) (absent : ¬ disk.node? start = some .directory) :
    disk.makeWay start segments = (disk, false) :=
  if_neg absent

/-- The way along segments goes on behind their first part. -/
theorem make_way_append (disk : Disk) (start : Location) (front back : List String) :
    disk.makeWay start (front ++ back) =
      match disk.makeWay start front with
      | (made, true) => made.makeAlong (Path.walk start front) back
      | (made, false) => (made, false) := by
  by_cases stands : disk.node? start = some .directory
  · rw [make_way_from _ stands, make_way_from _ stands, make_along_append]
  · rw [make_way_astray _ stands, make_way_astray _ stands]

/-- A way keeps the disk a tree and makes directories where it passes, and nothing else. -/
theorem make_way_grows (tree : disk.IsTree)
    (made : disk.makeWay start segments = (after, reached)) :
    after.IsTree ∧ Grows (Path.Passes start segments) disk after := by
  by_cases stands : disk.node? start = some .directory
  · have along := make_along_exact tree start segments stands
    rw [← make_way_from _ stands, made] at along
    exact ⟨along.tree, along.grows⟩
  · rw [make_way_astray _ stands] at made
    cases made
    exact ⟨tree, .refl _ _⟩

/-- A way whose end is reached has begun in a directory, and the segments lead to its end from now
on. -/
theorem make_way_reached (tree : disk.IsTree) (made : disk.makeWay start segments = (after, true)) :
    disk.node? start = some .directory ∧ after.node? start = some .directory ∧
      after.Leads start segments (.directory (Path.walk start segments)) := by
  by_cases stands : disk.node? start = some .directory
  · have along := make_along_exact tree start segments stands
    rw [← make_way_from _ stands, made] at along
    exact ⟨stands, along.grows.stays _ _ stands, along.leads rfl⟩
  · rw [make_way_astray _ stands] at made
    cases made

/-- To go the same way again makes nothing, and has the same end. -/
theorem make_way_again (tree : disk.IsTree)
    (made : disk.makeWay start segments = (after, reached)) :
    after.makeWay start segments = (after, reached) := by
  by_cases stands : disk.node? start = some .directory
  · have along := make_along_exact tree start segments stands
    rw [← make_way_from _ stands, made] at along
    rw [make_way_from _ (along.grows.stays _ _ stands), along.again]
  · rw [make_way_astray _ stands] at made
    cases made
    rw [make_way_astray _ stands]

/-- What a way that has been gone leaves: directories where it passes, and elsewhere what was
there. -/
theorem make_way_node (tree : disk.IsTree) (made : disk.makeWay start segments = (after, true))
    (location : Location) :
    (Path.Passes start segments location → after.node? location = some .directory) ∧
    (¬ Path.Passes start segments location → after.node? location = disk.node? location) := by
  obtain ⟨treeAfter, grows⟩ := make_way_grows tree made
  obtain ⟨_, stands, leads⟩ := make_way_reached tree made
  constructor
  · rintro ⟨front, ⟨back, rfl⟩, rfl⟩
    exact (Leads.front front back leads).stands treeAfter stands
  · intro aside
    rcases grows.node location with same | ⟨_, _, passed⟩
    · exact same
    · exact absurd passed aside

/-- A way that leads to a directory has nothing missing on it. -/
theorem make_way_leads {place : Location} (stands : disk.node? start = some .directory)
    (leads : disk.Leads start segments (.directory place)) :
    disk.makeWay start segments = (disk, true) := by
  rw [make_way_from _ stands, make_along_leads leads]

end Disk
end PacketSmith
