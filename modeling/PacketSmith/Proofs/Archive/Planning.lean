import Mathlib.Data.List.Pairwise
import Mathlib.Data.List.Sort
import PacketSmith.Proofs.Archive.Walk

/-!
# What is to be packed

Directories below the output root that are apart from each other can always be walked, and all that
the walk finds can be named. The names differ, and in their order the entries do not depend on the
order in which anything was found.
-/

namespace PacketSmith.Archive

/-- Whether directories are given as the output root joined with plain paths, and none is another
one or inside another one. -/
structure Given (root : String) (relatives : List String) (disk : Disk) : Prop where
  /-- The paths from the root are plain. -/
  plain : ∀ relative ∈ relatives, Path.IsPlain relative
  /-- The directories exist. -/
  directories : ∀ relative ∈ relatives, disk.isDirectory (Path.join root relative) = true
  /-- No directory is another one or inside another one. -/
  apart : relatives.Pairwise fun relative other =>
    ¬ Path.location disk.here (Path.join root relative) <+:
        Path.location disk.here (Path.join root other) ∧
      ¬ Path.location disk.here (Path.join root other) <+:
        Path.location disk.here (Path.join root relative)

/-- An entry as it is to be packed: something that is found below one of the directories, with its
path, under its name from the root. -/
def Planned (root : String) (relatives : List String) (disk : Disk) (file : String × String) :
    Prop :=
  ∃ relative ∈ relatives, ∃ names,
    Finds disk (Path.join root relative) (Path.location disk.here (Path.join root relative)) names ∧
      file = (Text.joinWith "/" (Path.somethings relative ++ names),
        Path.down (Path.join root relative) names)

/-- Whether entries are in the order of their names, and no two have one name. -/
def IsAscending (entries : List (String × α)) : Prop :=
  entries.Pairwise fun entry other => entry.1 < other.1

/-- Sorted entries are the same entries. -/
theorem sorted_perm (entries : List (String × α)) : (sorted entries).Perm entries :=
  List.mergeSort_perm _ _

/-- Sorted entries are in the order of their names if these differ. -/
theorem sorted_ascending (entries : List (String × α)) (distinct : (entries.map Prod.fst).Nodup) :
    IsAscending (sorted entries) := by
  have order : (sorted entries).Pairwise fun entry other =>
      decide (¬ other.1 < entry.1) = true := by
    apply List.pairwise_mergeSort
    · intro first second third before after
      rw [decide_eq_true_iff, String.not_lt] at before after ⊢
      exact String.le_trans before after
    · intro first second
      rw [Bool.or_eq_true, decide_eq_true_iff, decide_eq_true_iff, String.not_lt, String.not_lt]
      exact String.le_total _ _
  have names : ((sorted entries).map Prod.fst).Nodup :=
    ((sorted_perm entries).map Prod.fst).nodup_iff.mpr distinct
  rw [List.Nodup, List.pairwise_map] at names
  refine (order.and names).imp fun ⟨later, different⟩ => ?_
  exact Std.lt_of_le_of_ne (String.not_lt.mp (of_decide_eq_true later)) different

/-- The names of entries in their order differ. -/
theorem IsAscending.distinct {entries : List (String × α)} (ascending : IsAscending entries) :
    (entries.map Prod.fst).Nodup := by
  rw [List.Nodup, List.pairwise_map]
  refine ascending.imp fun {entry other} less same => ?_
  rw [same] at less
  exact String.lt_irrefl _ less

/-- Entries in the order of their names are told by which there are. -/
theorem IsAscending.unique {entries others : List (String × α)} (ascending : IsAscending entries)
    (otherAscending : IsAscending others) (same : ∀ entry, entry ∈ entries ↔ entry ∈ others) :
    entries = others := by
  have : Std.Irrefl fun entry other : String × α => entry.1 < other.1 :=
    ⟨fun _ => String.lt_irrefl _⟩
  have : Std.Antisymm fun entry other : String × α => entry.1 < other.1 :=
    ⟨fun _ _ less greater => absurd less (String.lt_asymm greater)⟩
  exact ascending.eq_of_mem_iff otherAscending same

section Plan

variable {root : String} {relatives directories : List String} {disk : Disk} {listing : Listing}

/-- A given directory is where its path leads. -/
theorem Given.resolved (given : Given root relatives disk) :
    ∀ relative ∈ relatives, disk.resolve (Path.join root relative) =
      .ok (.directory (Path.location disk.here (Path.join root relative))) := by
  intro relative member
  have directory := given.directories relative member
  rw [Disk.isDirectory] at directory
  split at directory
  · rename_i location resolved
    rw [resolved, directory_place resolved]
  · cases directory

/-- Directories that exist are all walked. -/
theorem collect_exact (existing : ∀ directory ∈ directories,
      disk.resolve directory = .ok (.directory (Path.location disk.here directory))) :
    collect listing disk directories = .ok (directories.flatMap fun directory =>
      filesBelow listing disk Disk.longestPath directory (Path.location disk.here directory)) := by
  induction directories with
  | nil => rfl
  | cons directory directories inductionHypothesis =>
    rw [List.forall_mem_cons] at existing
    simp [collect, existing.1, inductionHypothesis existing.2, bind, Except.bind, pure, Except.pure]

/-- Paths that have names are all named. -/
theorem name_all_exact (paths : List String)
    (named : ∀ path ∈ paths, ∃ name, entryName? root path = some name) :
    ∃ files, nameAll root paths = .ok files ∧ files.map Prod.snd = paths ∧
      ∀ file ∈ files, entryName? root file.2 = some file.1 := by
  induction paths with
  | nil => exact ⟨[], rfl, rfl, by simp⟩
  | cons path paths inductionHypothesis =>
    rw [List.forall_mem_cons] at named
    obtain ⟨⟨name, first⟩, rest⟩ := named
    obtain ⟨files, all, same, names⟩ := inductionHypothesis rest
    refine ⟨(name, path) :: files, ?_, by rw [List.map_cons, same], ?_⟩
    · simp [nameAll, first, all, bind, Except.bind, pure, Except.pure]
    · rw [List.forall_mem_cons]
      exact ⟨first, names⟩

/-- What is found below given directories can be named. -/
theorem Finds.entry_name {relative : String} {names : List String} (proper : disk.IsProper)
    (plain : Path.IsPlain relative)
    (finds : Finds disk (Path.join root relative)
      (Path.location disk.here (Path.join root relative)) names) :
    entryName? root (Path.down (Path.join root relative) names) =
      some (Text.joinWith "/" (Path.somethings relative ++ names)) :=
  entry_name_down root relative plain names (finds.named proper)

/-- The name of an entry tells the names that lead to it. -/
theorem segments_entry {relative : String} {names : List String} (plain : Path.IsPlain relative)
    (named : ∀ name ∈ names, Path.isName name = true) :
    Path.segments (Text.joinWith "/" (Path.somethings relative ++ names)) =
      Path.somethings relative ++ names := by
  apply Path.segments_joined
  · exact List.append_ne_nil_of_left_ne_nil plain.names_something _
  · rw [List.forall_mem_append]
    constructor
    · exact fun segment member =>
        Path.segments_slashless relative segment (List.mem_filter.mp member).1
    · exact fun name member => (Path.name_parts name (named name member)).1

/-- Whether what is below two directories in the output root is at different places. -/
def AreApart (relative other : String) : Prop :=
  ∀ names others, Path.somethings relative ++ names ≠ Path.somethings other ++ others

instance : Std.Symm AreApart where
  symm _ _ apart names others same := apart others names same.symm

/-- What is below different ones of given directories is at different places. -/
theorem Given.are_apart (given : Given root relatives disk) : relatives.Pairwise AreApart := by
  refine given.apart.imp_of_mem fun {relative other} member otherMember ⟨before, after⟩ => ?_
  intro names others same
  rw [(given.plain relative member).location_join, (given.plain other otherMember).location_join,
    List.prefix_append_right_inj] at before after
  rcases List.prefix_or_prefix_of_prefix (List.prefix_append _ names)
    (same ▸ List.prefix_append _ others) with shorter | longer
  · exact before shorter
  · exact after longer

/-- The name of an entry that is to be packed tells the entry. -/
theorem Given.name_tells (proper : disk.IsProper) (given : Given root relatives disk)
    {file other : String × String} (planned : Planned root relatives disk file)
    (otherPlanned : Planned root relatives disk other) (same : file.1 = other.1) :
    file = other := by
  obtain ⟨relative, member, names, finds, rfl⟩ := planned
  obtain ⟨otherRelative, otherMember, others, otherFinds, rfl⟩ := otherPlanned
  have parts := congrArg Path.segments same
  dsimp only at parts
  rw [segments_entry (given.plain _ member) (finds.named proper),
    segments_entry (given.plain _ otherMember) (otherFinds.named proper)] at parts
  -- The names from the root tell the directory, as no directory is inside another.
  have directory : relative = otherRelative := by
    by_contra different
    exact given.are_apart.forall member otherMember different names others parts
  subst directory
  rw [List.append_cancel_left parts]

/-- The paths of what the walk finds below directories. -/
def found (listing : Listing) (root : String) (relatives : List String) (disk : Disk) :
    List String :=
  (relatives.map (Path.join root)).flatMap fun directory =>
    filesBelow listing disk Disk.longestPath directory (Path.location disk.here directory)

/-- A path that can be looked up is long enough for as many levels as the longest path has bytes. -/
theorem levels_enough {path : String} {destination : Destination}
    (resolved : disk.resolve path = .ok destination) :
    Disk.longestPath < path.utf8ByteSize + Disk.longestPath := by
  have inhabited := ((disk.resolve_iff path _).mp resolved).1.inhabited
  have some : path.utf8ByteSize ≠ 0 := by simpa using inhabited
  omega

/-- What is found below given directories does not depend on how directories are listed. -/
theorem Given.mem_found (proper : disk.IsProper) (lists : IsListing listing disk)
    (given : Given root relatives disk) (path : String) :
    path ∈ found listing root relatives disk ↔ ∃ relative ∈ relatives, ∃ names,
      Finds disk (Path.join root relative)
          (Path.location disk.here (Path.join root relative)) names ∧
        path = Path.down (Path.join root relative) names := by
  rw [found, List.flatMap_map, List.mem_flatMap]
  apply exists_congr
  intro relative
  apply and_congr_right
  intro member
  have resolved := given.resolved relative member
  exact mem_files_below proper lists _ resolved (levels_enough resolved) path

/-- Nothing is found twice below given directories. -/
theorem Given.found_distinct (proper : disk.IsProper) (lists : IsListing listing disk)
    (given : Given root relatives disk) : (found listing root relatives disk).Nodup := by
  rw [found, List.flatMap_map, List.nodup_flatMap]
  constructor
  · intro relative member
    have resolved := given.resolved relative member
    exact files_below_distinct proper lists _ resolved (levels_enough resolved)
  · have below : ∀ relative ∈ relatives, ∀ path ∈ filesBelow listing disk Disk.longestPath
        (Path.join root relative) (Path.location disk.here (Path.join root relative)),
        ∃ names, Path.location disk.here path =
          Path.location disk.here root ++ (Path.somethings relative ++ names) := by
      intro relative member path held
      have resolved := given.resolved relative member
      obtain ⟨names, finds, rfl⟩ :=
        (mem_files_below proper lists _ resolved (levels_enough resolved) path).mp held
      refine ⟨names, ?_⟩
      rw [Path.location_down _ _ names (finds.named proper), (given.plain _ member).location_join,
        List.append_assoc]
    refine given.are_apart.imp_of_mem ?_
    intro relative other member otherMember apart path own shared
    obtain ⟨names, place⟩ := below relative member path own
    obtain ⟨others, otherPlace⟩ := below other otherMember path shared
    rw [place] at otherPlace
    exact apart names others (List.append_cancel_left otherPlace)

/-- All entries below given directories can be named, and which they are depends neither on how
directories are listed nor on the order of the given ones. -/
theorem Given.plan_exact (proper : disk.IsProper) (lists : IsListing listing disk)
    (given : Given root relatives disk) :
    ∃ files, Archive.plan listing root (relatives.map (Path.join root)) disk = .ok files ∧
      IsAscending files ∧ ∀ file, file ∈ files ↔ Planned root relatives disk file := by
  have collected : collect listing disk (relatives.map (Path.join root)) =
      .ok (found listing root relatives disk) :=
    collect_exact (by simpa using given.resolved)
  have nameable : ∀ path ∈ found listing root relatives disk,
      ∃ name, entryName? root path = some name := by
    intro path member
    obtain ⟨relative, held, names, finds, rfl⟩ := (given.mem_found proper lists path).mp member
    exact ⟨_, finds.entry_name proper (given.plain relative held)⟩
  obtain ⟨files, named, paths, entryNames⟩ := name_all_exact _ nameable
  have planned : ∀ file, file ∈ files ↔ Planned root relatives disk file := by
    intro file
    constructor
    · intro member
      obtain ⟨relative, held, names, finds, path⟩ := (given.mem_found proper lists file.2).mp
        (paths ▸ List.mem_map_of_mem member)
      have name := finds.entry_name proper (given.plain relative held)
      rw [← path, entryNames file member] at name
      exact ⟨relative, held, names, finds, Prod.ext (Option.some.inj name) path⟩
    · rintro ⟨relative, held, names, finds, rfl⟩
      have member := (given.mem_found proper lists _).mpr ⟨relative, held, names, finds, rfl⟩
      rw [← paths] at member
      obtain ⟨file, found, path⟩ := List.mem_map.mp member
      have name := entryNames file found
      rw [path, finds.entry_name proper (given.plain relative held)] at name
      rw [Option.some.inj name, ← path]
      exact found
  have distinct : (files.map Prod.fst).Nodup := by
    have apart : (files.map Prod.snd).Nodup := paths ▸ given.found_distinct proper lists
    refine List.Nodup.map_on ?_ (List.Nodup.of_map Prod.snd apart)
    exact fun file member other otherMember same =>
      given.name_tells proper ((planned file).mp member) ((planned other).mp otherMember) same
  refine ⟨sorted files, ?_, sorted_ascending files distinct, fun file => ?_⟩
  · simp [Archive.plan, collected, named, bind, Except.bind, pure, Except.pure]
  · rw [(sorted_perm files).mem_iff, planned]

/-- Directories are given in any order. -/
theorem Given.perm (given : Given root relatives disk) {others : List String}
    (same : others.Perm relatives) : Given root others disk := by
  refine ⟨fun other member => given.plain other (same.mem_iff.mp member),
    fun other member => given.directories other (same.mem_iff.mp member), ?_⟩
  exact (same.pairwise_iff fun apart => ⟨apart.2, apart.1⟩).mpr given.apart

/-- Entries are planned whatever the order is in which directories are given and listed. -/
theorem Given.plan_same (proper : disk.IsProper) (given : Given root relatives disk)
    {otherListing : Listing} (lists : IsListing listing disk)
    (otherLists : IsListing otherListing disk) {others : List String}
    (same : others.Perm relatives) :
    Archive.plan otherListing root (others.map (Path.join root)) disk =
      Archive.plan listing root (relatives.map (Path.join root)) disk := by
  obtain ⟨files, plan, ascending, planned⟩ := given.plan_exact proper lists
  obtain ⟨otherFiles, otherPlan, otherAscending, otherPlanned⟩ :=
    (given.perm same).plan_exact proper otherLists
  rw [plan, otherPlan]
  congr 1
  refine otherAscending.unique ascending fun file => ?_
  simp [planned, otherPlanned, Planned, same.mem_iff]

end Plan
end PacketSmith.Archive
