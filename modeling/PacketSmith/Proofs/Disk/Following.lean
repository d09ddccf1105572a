import PacketSmith.Proofs.Disk.Path
import PacketSmith.Proofs.Disk.Tree

/-!
# Following paths

Following succeeds exactly where the segments of a path lead from directory to directory, down
to a directory, a file or a free location, and ends where the segments lead whatever stands
there. Whatever leads to a directory can be gone on from there, all beginnings of it lead to
directories too, and it still leads there while directories stay.
-/

namespace PacketSmith

/-- The location to which a path leads. -/
def Destination.location : Destination → Location
  | directory location => location
  | file location _ => location
  | free location _ => location

namespace Disk

/-- Whether a segment leads down and is short enough to be looked up. -/
structure IsStep (segment : String) : Prop where
  /-- It names something. -/
  something : Path.isNothing segment = false
  /-- It does not lead up. -/
  down : segment ≠ ".."
  /-- It is not longer than names can be. -/
  short : segment.utf8ByteSize ≤ longestName

/-- How segments lead from a location to a destination. -/
inductive Leads (disk : Disk) : Location → List String → Destination → Prop where
  /-- Nothing is left to follow. -/
  | arrived (location : Location) : Leads disk location [] (.directory location)
  /-- A segment that names nothing is passed over. -/
  | passed (location : Location) (segment : String) (others : List String)
      (destination : Destination) (nothing : Path.isNothing segment = true)
      (rest : Leads disk location others destination) :
      Leads disk location (segment :: others) destination
  /-- Two dots lead up. -/
  | up (location : Location) (others : List String) (destination : Destination)
      (rest : Leads disk location.dropLast others destination) :
      Leads disk location (".." :: others) destination
  /-- A name leads down into a directory. -/
  | down (location : Location) (segment : String) (others : List String)
      (destination : Destination) (step : IsStep segment)
      (stands : disk.node? (location ++ [segment]) = some .directory)
      (rest : Leads disk (location ++ [segment]) others destination) :
      Leads disk location (segment :: others) destination
  /-- The last name leads to a file. -/
  | file (location : Location) (segment : String) (content : Content) (step : IsStep segment)
      (stands : disk.node? (location ++ [segment]) = some (.file content)) :
      Leads disk location [segment] (.file (location ++ [segment]) content)
  /-- The last name leads to nothing. -/
  | free (location : Location) (segment : String) (others : List String) (step : IsStep segment)
      (stands : disk.node? (location ++ [segment]) = none)
      (last : ∀ other ∈ others, other = "") :
      Leads disk location (segment :: others) (.free (location ++ [segment]) (!others.isEmpty))

/-- Following succeeds exactly if the segments lead to the destination. -/
theorem follow_iff (disk : Disk) (location : Location) (segments : List String)
    (destination : Destination) :
    disk.follow location segments = .ok destination ↔ disk.Leads location segments destination := by
  constructor
  · intro led
    fun_induction follow disk location segments with
    | case1 location =>
      cases led
      exact .arrived location
    | case2 location segment others nothing inductionHypothesis =>
      exact .passed location segment others destination nothing (inductionHypothesis led)
    | case3 location segment others something dots inductionHypothesis =>
      obtain rfl : segment = ".." := by simpa using dots
      exact .up location others destination (inductionHypothesis led)
    | case5 location segment others something dots short next stands inductionHypothesis =>
      have step : IsStep segment :=
        ⟨by simpa using something, by simpa using dots, Nat.not_lt.mp short⟩
      exact .down location segment others destination step stands (inductionHypothesis led)
    | case6 location segment others something dots short next content stands last =>
      have step : IsStep segment :=
        ⟨by simpa using something, by simpa using dots, Nat.not_lt.mp short⟩
      obtain rfl : others = [] := by simpa using last
      cases led
      exact .file location segment content step stands
    | case8 location segment others something dots short next stands last =>
      have step : IsStep segment :=
        ⟨by simpa using something, by simpa using dots, Nat.not_lt.mp short⟩
      cases led
      exact .free location segment others step stands (by simpa using last)
    | _ => cases led
  · intro leads
    induction leads with
    | arrived location => rfl
    | passed location segment others destination nothing _ inductionHypothesis =>
      rw [follow, if_pos nothing]
      exact inductionHypothesis
    | up location others destination _ inductionHypothesis =>
      simpa [follow, Path.isNothing] using inductionHypothesis
    | down location segment others destination step stands _ inductionHypothesis =>
      simpa [follow, step.something, step.down, Nat.not_lt.mpr step.short, stands] using
        inductionHypothesis
    | file location segment content step stands =>
      simp [follow, step.something, step.down, Nat.not_lt.mpr step.short, stands]
    | free location segment others step stands last =>
      have all : (others.all fun other => other == "") = true := by simpa using last
      simp [follow, step.something, step.down, Nat.not_lt.mpr step.short, stands, all]

/-- Whether a destination is where a disk has it. -/
def Stands (disk : Disk) : Destination → Prop
  | .directory location => disk.node? location = some .directory
  | .file location content => disk.node? location = some (.file content)
  | .free location _ => disk.node? location = none ∧
    ∃ above name, location = above ++ [name] ∧ disk.node? above = some .directory

namespace Leads

variable {disk : Disk}

/-- Segments lead where they would lead whatever stands there. -/
theorem location {start : Location} {segments : List String} {destination : Destination}
    (leads : disk.Leads start segments destination) :
    destination.location = Path.walk start segments := by
  induction leads with
  | arrived location => rfl
  | passed location segment others destination nothing _ inductionHypothesis =>
    rw [Path.walk, if_pos nothing]
    exact inductionHypothesis
  | up location others destination _ inductionHypothesis =>
    simpa [Path.walk, Path.isNothing] using inductionHypothesis
  | down location segment others destination step stands _ inductionHypothesis =>
    simpa [Path.walk, step.something, step.down] using inductionHypothesis
  | file location segment content step stands =>
    simp [Path.walk, step.something, step.down, Destination.location]
  | free location segment others step stands last =>
    have nothing : ∀ other ∈ others, Path.isNothing other = true := by
      intro other member
      simp [last other member, Path.isNothing]
    simp [Path.walk, step.something, step.down, Path.walk_nothing _ others nothing,
      Destination.location]

/-- On a tree, segments that are followed from a directory lead to what stands there. -/
theorem stands {start : Location} {segments : List String} {destination : Destination}
    (leads : disk.Leads start segments destination) (tree : disk.IsTree)
    (inside : disk.node? start = some .directory) : disk.Stands destination := by
  induction leads with
  | arrived location => exact inside
  | passed _ _ _ _ _ _ inductionHypothesis => exact inductionHypothesis inside
  | up location _ _ _ inductionHypothesis => exact inductionHypothesis (tree.up location inside)
  | down _ _ _ _ _ stands _ inductionHypothesis => exact inductionHypothesis stands
  | file _ _ _ _ stands => exact stands
  | free location segment _ _ stands _ => exact ⟨stands, location, segment, rfl, inside⟩

/-- What leads to a directory is followed on from there. -/
theorem follow_append {start place : Location} {front back : List String}
    (leads : disk.Leads start front (.directory place)) :
    disk.follow start (front ++ back) = disk.follow place back := by
  generalize reached : Destination.directory place = directory at leads
  induction leads with
  | arrived location =>
    cases reached
    rfl
  | passed location segment others destination nothing _ inductionHypothesis =>
    rw [List.cons_append, follow, if_pos nothing]
    exact inductionHypothesis reached
  | up location others destination _ inductionHypothesis =>
    simpa [follow, Path.isNothing] using inductionHypothesis reached
  | down location segment others destination step stands _ inductionHypothesis =>
    simpa [follow, step.something, step.down, Nat.not_lt.mpr step.short, stands] using
      inductionHypothesis reached
  | file => cases reached
  | free => cases reached

/-- What leads to a directory can be gone on from there. -/
theorem append {start place : Location} {front back : List String} {destination : Destination}
    (leads : disk.Leads start front (.directory place)) :
    disk.Leads start (front ++ back) destination ↔ disk.Leads place back destination := by
  rw [← follow_iff, ← follow_iff, leads.follow_append]

/-- The beginnings of what leads to a directory lead to directories. -/
theorem front {start place : Location} (front back : List String)
    (leads : disk.Leads start (front ++ back) (.directory place)) :
    disk.Leads start front (.directory (Path.walk start front)) := by
  induction front generalizing start with
  | nil => exact .arrived start
  | cons segment front inductionHypothesis =>
    generalize whole : segment :: front ++ back = segments at leads
    generalize reached : Destination.directory place = directory at leads
    cases leads with
    | passed _ _ _ _ nothing rest =>
      cases whole
      subst reached
      rw [Path.walk, if_pos nothing]
      exact .passed start segment front _ nothing (inductionHypothesis rest)
    | up _ _ _ rest =>
      cases whole
      subst reached
      simpa [Path.walk, Path.isNothing] using Leads.up start front _ (inductionHypothesis rest)
    | down _ _ _ _ step stands rest =>
      cases whole
      subst reached
      simpa [Path.walk, step.something, step.down] using
        Leads.down start segment front _ step stands (inductionHypothesis rest)
    | arrived => simp at whole
    | file => cases reached
    | free => cases reached

/-- What leads to a directory still leads there while directories stay. -/
theorem kept {start place : Location} {segments : List String} {after : Disk}
    (leads : disk.Leads start segments (.directory place))
    (stay : ∀ location, disk.node? location = some .directory →
      after.node? location = some .directory) :
    after.Leads start segments (.directory place) := by
  generalize reached : Destination.directory place = directory at leads
  induction leads with
  | arrived location => exact .arrived location
  | passed location segment others destination nothing _ inductionHypothesis =>
    exact .passed location segment others destination nothing (inductionHypothesis reached)
  | up location others destination _ inductionHypothesis =>
    exact .up location others destination (inductionHypothesis reached)
  | down location segment others destination step stands _ inductionHypothesis =>
    exact .down location segment others destination step (stay _ stands)
      (inductionHypothesis reached)
  | file => cases reached
  | free => cases reached

/-- A name that leads anywhere is short enough to be looked up. -/
theorem step {place : Location} {name : String} {destination : Destination}
    (leads : disk.Leads place [name] destination) (named : Path.isName name = true) :
    IsStep name := by
  obtain ⟨_, something, down⟩ := Path.name_parts name named
  cases leads with
  | passed _ _ _ _ nothing _ => simp [something] at nothing
  | up => exact absurd rfl down
  | down _ _ _ _ step _ _ => exact step
  | file _ _ _ step _ => exact step
  | free _ _ _ step _ _ => exact step

/-- What leads down from a place in which nothing is does not lead back to it. -/
theorem leaves {place : Location} {first : String} {others : List String}
    {destination : Destination} (leads : disk.Leads place (first :: others) destination)
    (descends : Path.climbs first = false)
    (bare : ∀ name, disk.node? (place ++ [name]) = none) : destination.location ≠ place := by
  cases leads with
  | passed _ _ _ _ nothing _ => simp [Path.climbs, nothing] at descends
  | up => simp [Path.climbs] at descends
  | down _ _ _ _ _ stands _ => simp [bare] at stands
  | file _ _ _ _ stands => simp [bare] at stands
  | free => simp [Destination.location]

/-- What leads to a free location leads to a directory once one is made there. -/
theorem made {start place : Location} {segments : List String} {onlyDirectory : Bool}
    (leads : disk.Leads start segments (.free place onlyDirectory)) (lower : place ≠ []) :
    (disk.put place .directory).Leads start segments (.directory place) := by
  have stay : ∀ location, disk.node? location = some .directory →
      (disk.put place .directory).node? location = some .directory := by
    intro location stands
    rw [node_put _ _ _ _ lower]
    split <;> simp [stands]
  generalize reached : Destination.free place onlyDirectory = destination at leads
  induction leads with
  | arrived => cases reached
  | passed location segment others destination nothing _ inductionHypothesis =>
    exact .passed location segment others _ nothing (inductionHypothesis reached)
  | up location others destination _ inductionHypothesis =>
    exact .up location others _ (inductionHypothesis reached)
  | down location segment others destination step stands _ inductionHypothesis =>
    exact .down location segment others _ step (stay _ stands) (inductionHypothesis reached)
  | file => cases reached
  | free location segment others step stands last =>
    cases reached
    have there : (disk.put (location ++ [segment]) .directory).node? (location ++ [segment]) =
        some .directory := by
      rw [node_put _ _ _ _ lower, if_pos rfl]
    have nothing : ∀ other ∈ others, Path.isNothing other = true := by
      intro other member
      simp [last other member, Path.isNothing]
    refine .down location segment others _ step there ?_
    clear there stay last
    induction others with
    | nil => exact .arrived _
    | cons other others inductionHypothesis =>
      rw [List.forall_mem_cons] at nothing
      exact .passed _ other others _ nothing.1 (inductionHypothesis nothing.2)

end Leads

/-- Nothing is missing on the way to a directory along segments without two dots. -/
theorem follow_plain {disk : Disk} (tree : disk.IsTree) (location : Location)
    (segments : List String) (plain : ".." ∉ segments)
    (stands : disk.node? (Path.walk location segments) = some .directory) :
    disk.follow location segments ≠ .error .missing := by
  induction segments generalizing location with
  | nil => simp [follow]
  | cons segment segments inductionHypothesis =>
    rw [List.mem_cons, not_or] at plain
    rw [Path.walk] at stands
    rw [follow]
    by_cases nothing : Path.isNothing segment = true
    · rw [if_pos nothing] at stands ⊢
      exact inductionHypothesis location plain.2 stands
    · have down : (segment == "..") = false := by
        simpa using Ne.symm plain.1
      rw [if_neg nothing, down] at stands ⊢
      by_cases long : segment.utf8ByteSize > longestName
      · simp [long]
      · have there : disk.node? (location ++ [segment]) = some .directory := by
          simp only [Bool.false_eq_true, if_false, Path.walk_plain _ _ plain.2] at stands
          by_cases last : segments.filter (fun segment => !Path.isNothing segment) = []
          · simpa [last] using stands
          · apply tree.above _ _ last
            rw [stands]
            simp
        simp only [Bool.false_eq_true, if_false] at stands
        simpa [long, there] using inductionHypothesis _ plain.2 stands

end Disk
end PacketSmith
