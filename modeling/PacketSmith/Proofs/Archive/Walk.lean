import Mathlib.Data.List.Nodup
import PacketSmith.Proofs.Archive.Naming
import PacketSmith.Proofs.Disk.Changes

/-!
# The walk below a directory

The walk below a directory finds what stands there at any depth and is not a directory, whatever the
order is in which directories are listed, and finds nothing twice. A path that is too long leads to
nothing, so that the walk takes what it names for a file and looks no further.
-/

namespace PacketSmith

namespace Disk

variable {disk : Disk} {path name : String} {location : Location}

/-- Whether a path is short enough to be looked up. -/
def IsShort (path : String) : Prop :=
  path.utf8ByteSize ≤ longestPath

instance : Decidable (IsShort path) :=
  inferInstanceAs (Decidable (_ ≤ _))

/-- What is in a directory to which a path leads can be looked up if its path is short enough. -/
theorem usable_inside (usable : IsUsable path) (fileName : IsFileName name) :
    IsUsable (Path.join path name) ↔ IsShort (Path.join path name) := by
  constructor
  · exact IsUsable.short
  · intro short
    have relative := Path.name_relative name fileName.named
    obtain ⟨slash, kind, joined⟩ := Path.join_front path
    constructor
    case clean =>
      have clean := usable.clean
      simp only [List.any_eq_false, beq_iff_eq] at clean ⊢
      have between : ∀ character ∈ slash.toList, character.toNat ≠ 0 := by
        rcases kind with rfl | rfl <;> simp
      rw [joined name relative, String.toList_append, String.toList_append, List.forall_mem_append,
        List.forall_mem_append]
      exact ⟨⟨clean, between⟩, fileName.clean⟩
    case inhabited => simp [joined name relative, usable.inhabited]
    case short => exact short

/-- A name leads on from a directory to which a path leads, unless the path gets too long. -/
theorem resolve_inside (resolved : disk.resolve path = .ok (.directory location))
    (fileName : IsFileName name) (destination : Destination) :
    disk.resolve (Path.join path name) = .ok destination ↔
      IsShort (Path.join path name) ∧ disk.Leads location [name] destination := by
  obtain ⟨usable, stands, leads⟩ := (disk.resolve_iff path _).mp resolved
  have sameStart := Path.start_inside disk.here path name fileName.named
  obtain ⟨padding, whole, _⟩ := Path.way_padding path
  rw [whole] at leads
  have way := leads.front _ _
  rw [Path.walk_way, ← disk.resolve_location path _ resolved] at way
  have goesOn : disk.Leads (Path.start disk.here (Path.join path name))
      (Path.route (Path.join path name)) destination ↔ disk.Leads location [name] destination := by
    rw [sameStart, Path.route_inside path name fileName.named]
    exact way.append
  rw [disk.resolve_iff, ← usable_inside usable fileName, ← goesOn]
  constructor
  · intro reaches
    exact ⟨reaches.usable, reaches.leads⟩
  · rintro ⟨usableInside, further⟩
    refine ⟨usableInside, ?_, further⟩
    rwa [HasStart, sameStart]

/-- A name leads to a directory exactly if one stands there. -/
theorem leads_directory (step : IsStep name) (place : Location) :
    disk.Leads location [name] (.directory place) ↔
      place = location ++ [name] ∧ disk.node? (location ++ [name]) = some .directory := by
  constructor
  · intro leads
    cases leads with
    | passed _ _ _ _ nothing _ => simp [step.something] at nothing
    | up => exact absurd rfl step.down
    | down _ _ _ _ _ stands rest =>
      cases rest
      exact ⟨rfl, stands⟩
  · rintro ⟨rfl, stands⟩
    exact .down location name [] _ step stands (.arrived _)

/-- Whether the walk looks into what a name in a directory names: it is a directory whose path is
short enough. -/
def Opens (disk : Disk) (path : String) (location : Location) (name : String) : Prop :=
  disk.node? (location ++ [name]) = some .directory ∧ IsShort (Path.join path name)

instance : Decidable (disk.Opens path location name) :=
  inferInstanceAs (Decidable (_ ∧ _))

/-- The path of what is in a directory leads to a directory exactly if the walk looks into it. -/
theorem opens_iff (resolved : disk.resolve path = .ok (.directory location))
    (fileName : IsFileName name) (place : Location) :
    disk.resolve (Path.join path name) = .ok (.directory place) ↔
      place = location ++ [name] ∧ disk.Opens path location name := by
  rw [resolve_inside resolved fileName, leads_directory fileName.step, Opens, and_comm, and_assoc]

end Disk

namespace Archive

variable {disk : Disk} {listing : Listing} {path : String} {location : Location}

/-- Whether directories are listed in some order: every name in a directory is there once. -/
def IsListing (listing : Listing) (disk : Disk) : Prop :=
  ∀ location, (listing location).Perm (disk.namesIn location)

/-- The names that are listed are those under which something stands in the directory. -/
theorem IsListing.mem_iff (lists : IsListing listing disk) (location : Location) (name : String) :
    name ∈ listing location ↔ disk.node? (location ++ [name]) ≠ none := by
  rw [(lists location).mem_iff, disk.mem_names_in]

/-- No name is listed twice. -/
theorem IsListing.distinct (lists : IsListing listing disk) (proper : disk.IsProper)
    (location : Location) : (listing location).Nodup :=
  (lists location).nodup_iff.mpr (proper.names_in_distinct location)

/-- What the walk finds in a directory or further down, by the names that lead there: what stands
there and is not looked into. -/
inductive Finds (disk : Disk) : String → Location → List String → Prop where
  /-- It is in the directory. -/
  | here (path : String) (location : Location) (name : String)
      (stands : disk.node? (location ++ [name]) ≠ none)
      (closed : ¬ disk.Opens path location name) : Finds disk path location [name]
  /-- It is further down. -/
  | further (path : String) (location : Location) (name : String) (names : List String)
      (opens : disk.Opens path location name)
      (rest : Finds disk (Path.join path name) (location ++ [name]) names) :
      Finds disk path location (name :: names)

/-- What the walk finds stands on the disk. -/
theorem Finds.stands {names : List String} (finds : Finds disk path location names) :
    disk.node? (location ++ names) ≠ none := by
  induction finds with
  | here _ _ _ stands _ => exact stands
  | further _ _ _ _ _ _ inductionHypothesis => simpa using inductionHypothesis

/-- What the walk finds under a name, or what is on the way to it, stands in the directory. -/
theorem Finds.begins {name : String} {names : List String}
    (finds : Finds disk path location (name :: names)) :
    disk.node? (location ++ [name]) ≠ none := by
  cases finds with
  | here _ _ _ stands _ => exact stands
  | further _ _ _ _ opens _ => simp [opens.1]

/-- What the walk finds is reached by at least one name. -/
theorem Finds.nonempty {names : List String} (finds : Finds disk path location names) :
    names ≠ [] := by
  cases finds <;> simp

/-- What the walk finds is reached by names. -/
theorem Finds.named {names : List String} (proper : disk.IsProper)
    (finds : Finds disk path location names) : ∀ name ∈ names, Path.isName name = true :=
  fun name member => (proper.names finds.stands name (List.mem_append_right _ member)).named

/-- A path leads to a directory where it leads whatever stands there. -/
theorem directory_place (resolved : disk.resolve path = .ok (.directory location)) :
    location = Path.location disk.here path :=
  disk.resolve_location path _ resolved

/-- The path of a directory that is looked into leads there and is longer. -/
theorem opens_inside (proper : disk.IsProper)
    (resolved : disk.resolve path = .ok (.directory location)) {name : String}
    (opens : disk.Opens path location name) :
    disk.resolve (Path.join path name) = .ok (.directory (location ++ [name])) ∧
      path.utf8ByteSize < (Path.join path name).utf8ByteSize := by
  have stands : disk.node? (location ++ [name]) ≠ none := by simp [opens.1]
  have fileName := proper.names stands name (by simp)
  exact ⟨(Disk.opens_iff resolved fileName _).mpr ⟨rfl, opens⟩,
    Path.size_inside path name fileName.named⟩

/-- The paths of what the walk finds under a name in a directory: it looks into what the name names,
or finds that. -/
def filesUnder (listing : Listing) (disk : Disk) (levels : Nat) (path : String)
    (location : Location) (name : String) : List String :=
  if disk.Opens path location name then
    filesBelow listing disk levels (Path.join path name) (location ++ [name])
  else [Path.join path name]

/-- The walk goes through the names in a directory. -/
theorem files_below_next (proper : disk.IsProper) (lists : IsListing listing disk)
    (resolved : disk.resolve path = .ok (.directory location)) (levels : Nat) :
    filesBelow listing disk (levels + 1) path location =
      (listing location).flatMap (filesUnder listing disk levels path location) := by
  rw [filesBelow]
  apply List.flatMap_congr
  intro name member
  have stands := (lists.mem_iff location name).mp member
  have leads := Disk.opens_iff resolved (proper.names stands name (by simp))
  dsimp only
  rw [filesUnder]
  by_cases opens : disk.Opens path location name
  · simp [(leads _).mpr ⟨rfl, opens⟩, opens]
  · rw [if_neg opens]
    split
    · exact absurd ((leads _).mp ‹_›).2 opens
    · rfl

/-- What is found under a name that is looked into is found below what it names. -/
theorem Finds.opened {name : String} {names : List String} (opens : disk.Opens path location name) :
    Finds disk path location (name :: names) ↔
      Finds disk (Path.join path name) (location ++ [name]) names := by
  constructor
  · intro finds
    cases finds with
    | here _ _ _ _ closed => exact absurd opens closed
    | further _ _ _ _ _ rest => exact rest
  · exact .further path location name names opens

/-- What is found under a name that is not looked into is what it names. -/
theorem Finds.closed {name : String} {names : List String}
    (stands : disk.node? (location ++ [name]) ≠ none) (closed : ¬ disk.Opens path location name) :
    Finds disk path location (name :: names) ↔ names = [] := by
  constructor
  · intro finds
    cases finds with
    | here => rfl
    | further _ _ _ _ opens _ => exact absurd opens closed
  · rintro rfl
    exact .here path location name stands closed

/-- What the walk finds under a name is told by what it finds below what the name names. -/
theorem mem_files_under {levels : Nat} {name found : String}
    (stands : disk.node? (location ++ [name]) ≠ none)
    (below : disk.Opens path location name →
      (found ∈ filesBelow listing disk levels (Path.join path name) (location ++ [name]) ↔
        ∃ names, Finds disk (Path.join path name) (location ++ [name]) names ∧
          found = Path.down (Path.join path name) names)) :
    found ∈ filesUnder listing disk levels path location name ↔
      ∃ names, Finds disk path location (name :: names) ∧
        found = Path.down path (name :: names) := by
  rw [filesUnder]
  by_cases opens : disk.Opens path location name
  · simp only [if_pos opens, below opens, Finds.opened opens]
    rfl
  · simp only [if_neg opens, List.mem_singleton, Finds.closed stands opens, exists_eq_left]
    rfl

/-- What the walk finds does not depend on how directories are listed, nor on the number of levels
if there are as many as a path can have.

Proof: induction on the levels. Paths get longer from level to level, so that a path is too long to
lead anywhere when no levels are left. -/
theorem mem_files_below (proper : disk.IsProper) (lists : IsListing listing disk) (levels : Nat)
    (resolved : disk.resolve path = .ok (.directory location))
    (enough : Disk.longestPath < path.utf8ByteSize + levels) (found : String) :
    found ∈ filesBelow listing disk levels path location ↔
      ∃ names, Finds disk path location names ∧ found = Path.down path names := by
  induction levels generalizing path location with
  | zero =>
    have short := ((disk.resolve_iff path _).mp resolved).1.short
    omega
  | succ levels inductionHypothesis =>
    have under : ∀ name, disk.node? (location ++ [name]) ≠ none →
        (found ∈ filesUnder listing disk levels path location name ↔
          ∃ names, Finds disk path location (name :: names) ∧
            found = Path.down path (name :: names)) := by
      intro name stands
      refine mem_files_under stands fun opens => ?_
      obtain ⟨inner, longer⟩ := opens_inside proper resolved opens
      exact inductionHypothesis inner (by omega)
    rw [files_below_next proper lists resolved, List.mem_flatMap]
    constructor
    · rintro ⟨name, member, held⟩
      obtain ⟨names, found⟩ := (under name ((lists.mem_iff location name).mp member)).mp held
      exact ⟨name :: names, found⟩
    · rintro ⟨names, finds, found⟩
      obtain ⟨name, names, rfl⟩ := List.exists_cons_of_ne_nil finds.nonempty
      exact ⟨name, (lists.mem_iff location name).mpr finds.begins,
        (under name finds.begins).mpr ⟨names, finds, found⟩⟩

/-- Nothing is found twice.

Proof: induction on the levels. What is found under a name is at a place that begins with the place
of the directory and the name, and the names in a directory differ. -/
theorem files_below_distinct (proper : disk.IsProper) (lists : IsListing listing disk)
    (levels : Nat) (resolved : disk.resolve path = .ok (.directory location))
    (enough : Disk.longestPath < path.utf8ByteSize + levels) :
    (filesBelow listing disk levels path location).Nodup := by
  induction levels generalizing path location with
  | zero => exact List.nodup_nil
  | succ levels inductionHypothesis =>
    rw [files_below_next proper lists resolved, List.nodup_flatMap]
    have places : ∀ name ∈ listing location,
        ∀ found ∈ filesUnder listing disk levels path location name,
          ∃ names, Path.location disk.here found = location ++ name :: names := by
      intro name member found held
      have under := mem_files_under ((lists.mem_iff location name).mp member) fun opens => by
        obtain ⟨inner, longer⟩ := opens_inside proper resolved opens
        exact mem_files_below proper lists levels inner (by omega) found
      obtain ⟨names, finds, rfl⟩ := under.mp held
      refine ⟨names, ?_⟩
      rw [Path.location_down disk.here path _ (finds.named proper), directory_place resolved]
    constructor
    case left =>
      intro name _
      rw [filesUnder]
      split
      · obtain ⟨inner, longer⟩ := opens_inside proper resolved ‹_›
        exact inductionHypothesis inner (by omega)
      · exact List.nodup_singleton _
    case right =>
      refine (lists.distinct proper location).imp_of_mem ?_
      intro name other member otherMember different found held otherHeld
      obtain ⟨names, place⟩ := places name member found held
      obtain ⟨others, otherPlace⟩ := places other otherMember found otherHeld
      rw [place] at otherPlace
      exact different (List.cons.inj (List.append_cancel_left otherPlace)).1

/-! ## Files that are found -/

/-- Whether all that stands below a directory has a path that is short enough. -/
def IsShallow (disk : Disk) (path : String) (location : Location) : Prop :=
  ∀ names, disk.node? (location ++ names) ≠ none → Disk.IsShort (Path.down path names)

/-- Where all paths are short enough, the walk finds the files.

Proof: what the walk does not look into is a file if its path is short enough, and what has
something below it is a directory. -/
theorem finds_iff (proper : disk.IsProper) (shallow : IsShallow disk path location)
    (inside : disk.node? location = some .directory) (names : List String) :
    Finds disk path location names ↔
      ∃ content, disk.node? (location ++ names) = some (.file content) := by
  induction names generalizing path location with
  | nil =>
    constructor
    · intro finds
      cases finds
    · rintro ⟨content, stands⟩
      simp [inside] at stands
  | cons name names inductionHypothesis =>
    have stays : IsShallow disk (Path.join path name) (location ++ [name]) := by
      intro others stands
      exact shallow (name :: others) (by simpa using stands)
    constructor
    · intro finds
      cases finds with
      | here _ _ _ stands closed =>
        cases node : disk.node? (location ++ [name]) with
        | none => exact absurd node stands
        | some standing =>
          cases standing with
          | file content => exact ⟨content, rfl⟩
          | directory => exact absurd ⟨node, shallow [name] stands⟩ closed
      | further _ _ _ _ opens rest =>
        obtain ⟨content, stands⟩ := (inductionHypothesis stays opens.1).mp rest
        exact ⟨content, by simpa using stands⟩
    · rintro ⟨content, stands⟩
      by_cases last : names = []
      · subst last
        exact .here path location name (by simp [stands]) (by simp [Disk.Opens, stands])
      · have directory := proper.tree.above (location ++ [name]) names last (by simp [stands])
        refine .further path location name names ⟨directory, ?_⟩ ?_
        · exact shallow [name] (by simp [directory])
        · exact (inductionHypothesis stays directory).mpr ⟨content, by simpa using stands⟩

/-- Where a path is too long, the walk finds something whose path is too long. -/
theorem finds_long (proper : disk.IsProper) (short : Disk.IsShort path) (names : List String)
    (stands : disk.node? (location ++ names) ≠ none)
    (long : ¬ Disk.IsShort (Path.down path names)) :
    ∃ others, Finds disk path location others ∧ ¬ Disk.IsShort (Path.down path others) := by
  induction names generalizing path location with
  | nil => exact absurd short long
  | cons name names inductionHypothesis =>
    rw [List.append_cons] at stands
    have here : disk.node? (location ++ [name]) ≠ none := by
      by_cases last : names = []
      · simpa [last] using stands
      · simp [proper.tree.above _ names last stands]
    by_cases inner : Disk.IsShort (Path.join path name)
    · have lower : names ≠ [] := by
        rintro rfl
        exact long inner
      have directory := proper.tree.above _ names lower stands
      obtain ⟨others, finds, found⟩ := inductionHypothesis inner stands long
      exact ⟨name :: others, .further path location name others ⟨directory, inner⟩ finds, found⟩
    · exact ⟨[name], .here path location name here fun opens => inner opens.2, inner⟩

/-- What the walk finds is a file that can be read if its path is short enough. -/
theorem Finds.read {names : List String} (proper : disk.IsProper)
    (finds : Finds disk path location names)
    (resolved : disk.resolve path = .ok (.directory location))
    (short : Disk.IsShort (Path.down path names)) :
    ∃ content, disk.node? (location ++ names) = some (.file content) ∧
      disk.read (Path.down path names) = .ok content := by
  induction finds with
  | here path location name stands closed =>
    have fileName := proper.names stands name (by simp)
    cases node : disk.node? (location ++ [name]) with
    | none => exact absurd node stands
    | some standing =>
      cases standing with
      | directory => exact absurd ⟨node, short⟩ closed
      | file content =>
        have leads := (Disk.resolve_inside resolved fileName _).mpr
          ⟨short, .file location name content fileName.step node⟩
        refine ⟨content, rfl, ?_⟩
        simp [Disk.read, leads, bind, Except.bind]
  | further path location name names opens _ inductionHypothesis =>
    simpa using inductionHypothesis (opens_inside proper resolved opens).1 short

/-- What has a path that is too long cannot be read. -/
theorem read_long (long : ¬ Disk.IsShort path) : ∃ fault, disk.read path = .error fault := by
  have unresolved : ∀ destination, disk.resolve path ≠ .ok destination :=
    fun destination resolved => long ((disk.resolve_iff path destination).mp resolved).1.short
  cases resolved : disk.resolve path with
  | ok destination => exact absurd resolved (unresolved destination)
  | error fault => exact ⟨fault, by simp [Disk.read, resolved, bind, Except.bind]⟩

/-- What the walk finds is found as well on a disk on which the same stands below the directory. -/
theorem Finds.kept {after : Disk} {names : List String} (finds : Finds disk path location names)
    (same : ∀ rest, rest ≠ [] → after.node? (location ++ rest) = disk.node? (location ++ rest)) :
    Finds after path location names := by
  induction finds with
  | here path location name stands closed =>
    have node := same [name] (by simp)
    exact .here path location name (by rwa [node]) (by rwa [Disk.Opens, node])
  | further path location name names opens _ inductionHypothesis =>
    have node := same [name] (by simp)
    refine .further path location name names (by rwa [Disk.Opens, node]) (inductionHypothesis ?_)
    intro rest _
    simpa using same (name :: rest) (by simp)

end Archive
end PacketSmith
