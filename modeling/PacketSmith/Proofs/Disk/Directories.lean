import PacketSmith.Proofs.Disk.Following

/-!
# Making directories

Making directories only adds directories, where nothing stood, and only at places that the path
leads through. If it succeeds, the path leads to a directory, and so does every beginning of it.
-/

namespace PacketSmith
namespace Disk

/-- Whether a path can be looked up at all. -/
structure IsUsable (path : String) : Prop where
  /-- It has no null character. -/
  clean : (path.toList.any fun character => character.toNat == 0) = false
  /-- It is not empty. -/
  inhabited : path ≠ ""
  /-- It is not too long. -/
  short : path.utf8ByteSize ≤ longestPath

/-- Whether the place where a path starts is a directory. -/
def HasStart (disk : Disk) (path : String) : Prop :=
  disk.node? (Path.start disk.here path) = some .directory

/-- How a path leads to a destination. -/
structure Reaches (disk : Disk) (path : String) (destination : Destination) : Prop where
  /-- It can be looked up. -/
  usable : IsUsable path
  /-- It starts in a directory. -/
  stands : disk.HasStart path
  /-- Its route leads to the destination from there. -/
  leads : disk.Leads (Path.start disk.here path) (Path.route path) destination

/-- A path that cannot be looked up leads nowhere, on any disk. -/
theorem resolve_unusable (disk : Disk) (path : String) (unusable : ¬ IsUsable path)
    (inhabited : path ≠ "") : disk.resolve path = .error .unusable := by
  rw [resolve]
  by_cases clean : (path.toList.any fun character => character.toNat == 0) = true
  · rw [if_pos clean]
  · rw [if_neg clean, if_neg (by simpa using inhabited)]
    by_cases short : path.utf8ByteSize ≤ longestPath
    · exact absurd ⟨by simpa using clean, inhabited, short⟩ unusable
    · rw [if_pos (Nat.lt_of_not_le short)]

/-- Where a usable path leads that starts in a directory is a matter of its route. -/
theorem IsUsable.resolve {disk : Disk} {path : String} (usable : IsUsable path)
    (stands : disk.HasStart path) :
    disk.resolve path = disk.follow (Path.start disk.here path) (Path.route path) := by
  rw [HasStart] at stands
  simp [Disk.resolve, usable.clean, usable.inhabited, Nat.not_lt.mpr usable.short, stands]

/-- A usable path that starts in no directory leads nowhere because that is missing. -/
theorem IsUsable.astray {disk : Disk} {path : String} (usable : IsUsable path)
    (absent : ¬ disk.HasStart path) : disk.resolve path = .error .missing := by
  rw [HasStart] at absent
  simp [Disk.resolve, usable.clean, usable.inhabited, Nat.not_lt.mpr usable.short, absent]

/-- A path leads to a destination exactly if it reaches it. -/
theorem resolve_iff (disk : Disk) (path : String) (destination : Destination) :
    disk.resolve path = .ok destination ↔ disk.Reaches path destination := by
  constructor
  · intro resolved
    have usable : IsUsable path := by
      by_contra unusable
      by_cases empty : path = ""
      · subst empty
        cases resolved
      · rw [disk.resolve_unusable path unusable empty] at resolved
        cases resolved
    have stands : disk.HasStart path := by
      by_contra absent
      rw [usable.astray absent] at resolved
      cases resolved
    rw [usable.resolve stands, follow_iff] at resolved
    exact ⟨usable, stands, resolved⟩
  · intro reaches
    rw [reaches.usable.resolve reaches.stands, follow_iff]
    exact reaches.leads

/-- A path leads where its text says. -/
theorem resolve_location (disk : Disk) (path : String) (destination : Destination)
    (resolved : disk.resolve path = .ok destination) :
    destination.location = Path.location disk.here path :=
  ((disk.resolve_iff path destination).mp resolved).leads.location

/-- On a tree, a path leads to what stands there. -/
theorem resolve_stands {disk : Disk} (tree : disk.IsTree) (path : String)
    (destination : Destination) (resolved : disk.resolve path = .ok destination) :
    disk.Stands destination := by
  have reaches := (disk.resolve_iff path destination).mp resolved
  exact reaches.leads.stands tree reaches.stands

/-- Nothing is missing on the path of what is a directory, if its route has no two dots in it. -/
theorem resolve_plain {disk : Disk} (tree : disk.IsTree) (path : String) (inhabited : path ≠ "")
    (plain : ".." ∉ Path.route path)
    (stands : disk.node? (Path.location disk.here path) = some .directory) :
    disk.resolve path ≠ .error .missing := by
  by_cases usable : IsUsable path
  · have started : disk.HasStart path :=
      tree.higher (Path.leads_through_plain disk.here path plain (Path.start disk.here path)
        ⟨[], List.nil_prefix, rfl⟩) stands
    rw [usable.resolve started]
    exact follow_plain tree _ _ plain stands
  · simp [disk.resolve_unusable path usable inhabited]

/-- A path that leads to a directory leads through directories only. -/
theorem leads_through_directories {disk : Disk} (tree : disk.IsTree) (path : String)
    (location place : Location) (resolved : disk.resolve path = .ok (.directory location))
    (through : Path.LeadsThrough disk.here path place) : disk.node? place = some .directory := by
  obtain ⟨front, ⟨back, whole⟩, rfl⟩ := through
  obtain ⟨_, stands, leads⟩ := (disk.resolve_iff path _).mp resolved
  rw [← whole] at leads
  exact (Leads.front front back leads).stands tree stands

/-- Whether a disk has come from another one by nothing but new directories at some places. -/
structure Grows (places : Location → Prop) (disk after : Disk) : Prop where
  /-- The current directory is the same. -/
  here : after.here = disk.here
  /-- Everywhere there is what was there, or a new directory. -/
  node : ∀ location, after.node? location = disk.node? location ∨
    disk.node? location = none ∧ after.node? location = some .directory ∧ places location

namespace Grows

variable {places : Location → Prop} {disk between after : Disk}

/-- A disk grows if nothing happens. -/
theorem refl (places : Location → Prop) (disk : Disk) : Grows places disk disk :=
  ⟨rfl, fun _ => Or.inl rfl⟩

/-- A disk that grows twice grows. -/
theorem trans (first : Grows places disk between) (second : Grows places between after) :
    Grows places disk after := by
  refine ⟨second.here.trans first.here, fun location => ?_⟩
  rcases second.node location with same | ⟨free, made, allowed⟩
  · rw [same]
    exact first.node location
  · rcases first.node location with same | ⟨_, there, _⟩
    · exact Or.inr ⟨same ▸ free, made, allowed⟩
    · rw [there] at free
      cases free

/-- What stands on a disk that grows stays. -/
theorem stays (grows : Grows places disk after) (location : Location) (node : Node)
    (stands : disk.node? location = some node) : after.node? location = some node := by
  rcases grows.node location with same | ⟨free, _, _⟩
  · rw [same, stands]
  · rw [stands] at free
    cases free

/-- A disk that grows at some places grows at more of them. -/
theorem widen {wider : Location → Prop} (grows : Grows places disk after)
    (allowed : ∀ place, places place → wider place) : Grows wider disk after := by
  refine ⟨grows.here, fun location => ?_⟩
  rcases grows.node location with same | ⟨free, made, new⟩
  · exact Or.inl same
  · exact Or.inr ⟨free, made, allowed location new⟩

end Grows

/-- Making a directory is putting one at a free location. -/
theorem make_directory_iff (disk after : Disk) (path : String) :
    disk.makeDirectory path = .ok after ↔
      ∃ location onlyDirectory, disk.resolve path = .ok (.free location onlyDirectory) ∧
        after = disk.put location .directory := by
  rw [makeDirectory]
  cases resolved : disk.resolve path with
  | error fault => simp [bind, Except.bind]
  | ok destination =>
    cases destination with
    | free location onlyDirectory =>
      simp only [bind, Except.bind, Except.ok.injEq, Destination.free.injEq]
      constructor
      · intro same
        exact ⟨location, onlyDirectory, ⟨rfl, rfl⟩, same.symm⟩
      · rintro ⟨_, _, ⟨rfl, rfl⟩, same⟩
        exact same.symm
    | _ => simp [bind, Except.bind]

/-- Making a directory adds it, where the path leads. -/
theorem make_directory_grows (places : Location → Prop) {disk after : Disk}
    (tree : disk.IsTree) (path : String)
    (allowed : Path.route path ≠ [] → places (Path.location disk.here path))
    (made : disk.makeDirectory path = .ok after) :
    after.IsTree ∧ Grows places disk after ∧
      after.resolve path = .ok (.directory (Path.location disk.here path)) := by
  obtain ⟨location, onlyDirectory, resolved, rfl⟩ := (disk.make_directory_iff after path).mp made
  have same : location = Path.location disk.here path := disk.resolve_location path _ resolved
  obtain ⟨free, above, name, parts, inside⟩ := resolve_stands tree path _ resolved
  obtain ⟨usable, stands, leads⟩ := (disk.resolve_iff path _).mp resolved
  have lower : location ≠ [] := by simp [parts]
  have descends : Path.route path ≠ [] := by
    intro nowhere
    rw [nowhere] at leads
    cases leads
  refine ⟨?_, ?_, ?_⟩
  · rw [parts]
    exact tree.put above name .directory inside (Or.inl rfl)
  · refine ⟨rfl, fun other => ?_⟩
    rw [node_put _ _ _ _ lower]
    by_cases there : other = location
    · rw [if_pos there, there]
      exact Or.inr ⟨free, rfl, same ▸ allowed descends⟩
    · rw [if_neg there]
      exact Or.inl rfl
  · rw [resolve_iff, ← same]
    refine ⟨usable, ?_, leads.made lower⟩
    change (disk.put location .directory).node? _ = _
    rw [node_put _ _ _ _ lower]
    split
    · rfl
    · exact stands

/-- Making directories adds directories where the paths lead. -/
theorem make_each_grows {places : Location → Prop} {disk after : Disk} (tree : disk.IsTree)
    (paths : List String)
    (allowed : ∀ path ∈ paths, Path.route path ≠ [] → places (Path.location disk.here path))
    (outcome : Except Fault Unit) (made : disk.makeEach paths = (after, outcome)) :
    after.IsTree ∧ Grows places disk after := by
  induction paths generalizing disk with
  | nil =>
    cases made
    exact ⟨tree, Grows.refl places _⟩
  | cons path paths inductionHypothesis =>
    rw [List.forall_mem_cons] at allowed
    rw [makeEach] at made
    cases first : disk.makeDirectory path with
    | ok between =>
      rw [first] at made
      obtain ⟨stillTree, grown, _⟩ := make_directory_grows places tree path allowed.1 first
      rw [← grown.here] at allowed
      obtain ⟨treeAfter, rest⟩ := inductionHypothesis stillTree allowed.2 made
      exact ⟨treeAfter, grown.trans rest⟩
    | error fault =>
      rw [first] at made
      simp only at made
      split at made
      · exact inductionHypothesis tree allowed.2 made
      · cases made
        exact ⟨tree, Grows.refl places _⟩

/-- After making directories, the last path leads to one. -/
theorem make_each_last {disk after : Disk} (tree : disk.IsTree) (front : List String)
    (path : String) (made : disk.makeEach (front ++ [path]) = (after, .ok ())) :
    after.resolve path = .ok (.directory (Path.location disk.here path)) := by
  induction front generalizing disk with
  | nil =>
    rw [List.nil_append, makeEach] at made
    cases first : disk.makeDirectory path with
    | ok between =>
      rw [first] at made
      cases made
      exact (make_directory_grows (fun _ => True) tree path (fun _ => trivial) first).2.2
    | error fault =>
      rw [first] at made
      simp only at made
      split at made
      · rename_i stands
        cases made
        rw [isDirectory] at stands
        split at stands
        · rename_i location resolved
          rw [resolved, ← resolve_location _ path _ resolved]
          rfl
        · cases stands
      · cases made
  | cons other front inductionHypothesis =>
    rw [List.cons_append, makeEach] at made
    cases first : disk.makeDirectory other with
    | ok between =>
      rw [first] at made
      obtain ⟨stillTree, grown, _⟩ :=
        make_directory_grows (fun _ => True) tree other (fun _ => trivial) first
      rw [← grown.here]
      exact inductionHypothesis stillTree made
    | error fault =>
      rw [first] at made
      simp only at made
      split at made
      · exact inductionHypothesis tree made
      · cases made

/-- The paths of which directories have to be made are among those looked at, and those that
were found before stay behind them. -/
theorem unmade_extends (disk : Disk) (made paths : List String) :
    ∃ front, disk.unmade made paths = front ++ made ∧ ∀ path ∈ front, path ∈ paths := by
  induction paths generalizing made with
  | nil => exact ⟨[], rfl, by simp⟩
  | cons path paths inductionHypothesis =>
    rw [unmade]
    split
    · exact ⟨[], rfl, by simp⟩
    · split
      · obtain ⟨front, same, among⟩ := inductionHypothesis (path :: made)
        refine ⟨front ++ [path], by rw [same]; simp, ?_⟩
        intro other member
        rcases List.mem_append.mp member with found | found
        · exact List.mem_cons_of_mem path (among other found)
        · obtain rfl := List.mem_singleton.mp found
          exact List.mem_cons_self
      · exact ⟨[path], rfl, by simp⟩

/-- The last of the paths of which directories have to be made for a path is the path itself. -/
theorem unmade_path (disk : Disk) (path : String) (fuel : Nat) (inhabited : path ≠ "") :
    ∃ front, disk.unmade [] (Path.ancestors path (fuel + 1)) = front ++ [path] ∧
      ∀ other ∈ front ++ [path], other ∈ Path.ancestors path (fuel + 1) := by
  obtain ⟨higher, paths⟩ : ∃ higher, Path.ancestors path (fuel + 1) = path :: higher := ⟨_, rfl⟩
  rw [paths, unmade, if_neg (by simpa using inhabited)]
  split
  · obtain ⟨front, same, among⟩ := disk.unmade_extends [path] higher
    refine ⟨front, same, ?_⟩
    simp only [List.forall_mem_append, List.mem_singleton, forall_eq]
    exact ⟨fun other member => List.mem_cons_of_mem path (among other member), List.mem_cons_self⟩
  · exact ⟨[], rfl, by simp⟩

/-- Making a directory and those above it adds directories at places that the path leads
through. If it succeeds, the path leads to a directory. -/
theorem make_directories_grows {disk after : Disk} (tree : disk.IsTree) (path : String)
    (inhabited : path ≠ "") (outcome : Except Fault Unit)
    (made : disk.makeDirectories path = (after, outcome)) :
    after.IsTree ∧ Grows (Path.LeadsThrough disk.here path) disk after ∧
      (outcome = .ok () →
        after.resolve path = .ok (.directory (Path.location disk.here path))) := by
  obtain ⟨front, same, among⟩ := disk.unmade_path path path.length inhabited
  have allowed : ∀ other ∈ front ++ [path], Path.route other ≠ [] →
      Path.LeadsThrough disk.here path (Path.location disk.here other) :=
    fun other member => Path.above_leads_through disk.here other path
      (Path.ancestors_above path _ other (among other member))
  rw [makeDirectories, same] at made
  obtain ⟨treeAfter, grown⟩ := make_each_grows tree _ allowed outcome made
  refine ⟨treeAfter, grown, fun succeeded => ?_⟩
  subst succeeded
  exact make_each_last tree front path made

end Disk
end PacketSmith
