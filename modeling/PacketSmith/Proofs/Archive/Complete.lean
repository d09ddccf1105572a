import PacketSmith.Proofs.Archive.Packing
import PacketSmith.Proofs.Text.Bytes

/-!
# Complete archives

The archive of directories below the output root holds every file below them once, under its name
from the root and with its bytes, in the order of the bytes of the names. What it holds depends
neither on the order in which the directories are given nor on that in which they are listed.
Packing fails only if the archive file cannot be created, or if a path is too long to be looked up.
-/

namespace PacketSmith.Archive

/-- The path of the archive file. -/
def archivePath (root : String) : String :=
  Path.join root fileName

/-- Whether names lead from the output root to a file below one of some directories. -/
def Covers (root : String) (relatives : List String) (disk : Disk) (names : Location)
    (content : Content) : Prop :=
  (∃ relative ∈ relatives, Path.somethings relative <+: names) ∧
    disk.node? (Path.location disk.here root ++ names) = some (.file content)

/-- Whether entries are those of a complete archive. -/
structure IsComplete (root : String) (relatives : List String) (disk : Disk)
    (entries : List (String × List UInt8)) : Prop where
  /-- The names are in the order of their bytes, so that no name is there twice. -/
  ordered : entries.Pairwise fun entry other =>
    Content.textBytes entry.1 < Content.textBytes other.1
  /-- There is an entry for every file below the directories and for nothing else, under the names
  that lead there from the output root, and with the bytes of the file. -/
  covered : ∀ entry, entry ∈ entries ↔ ∃ names content,
    Covers root relatives disk names content ∧ entry = (Text.joinWith "/" names, content.bytes)
  /-- The name of an entry tells the file. -/
  told : ∀ names content, Covers root relatives disk names content →
    Path.segments (Text.joinWith "/" names) = names

/-- Whether a disk is another one but for the archive file, which has some entries. -/
structure Holds (root : String) (disk written : Disk) (entries : List (String × List UInt8)) :
    Prop where
  /-- The archive file has the entries. -/
  archive : ∃ content,
    written.node? (Path.location disk.here (archivePath root)) = some (.file content) ∧
      content.entries? = some entries
  /-- Nothing else has changed. -/
  elsewhere : ∀ location, location ≠ Path.location disk.here (archivePath root) →
    written.node? location = disk.node? location

/-- Whether all that stands below some directories has a path that is short enough. -/
def AreShallow (root : String) (relatives : List String) (disk : Disk) : Prop :=
  ∀ relative ∈ relatives,
    IsShallow disk (Path.join root relative) (Path.location disk.here (Path.join root relative))

/-- What is true of packing directories below the output root. -/
structure Packs (root : String) (relatives : List String) (disk : Disk) : Prop where
  /-- All entries are named, in the same way in whatever order the directories are given and
  listed. -/
  named : ∃ files, IsAscending files ∧ ∀ (listing : Listing) (others : List String),
    IsListing listing disk → others.Perm relatives →
    plan listing root (others.map (Path.join root)) disk = .ok files
  /-- The same archive is written in whatever order the directories are given and listed. -/
  canonical : ∀ (listing : Listing) (others : List String),
    IsListing listing disk → others.Perm relatives →
    writeListed listing root (others.map (Path.join root)) disk =
      write root (relatives.map (Path.join root)) disk
  /-- The archive file is not below the directories. -/
  itself : ∀ names content, Covers root relatives disk names content →
    Path.location disk.here root ++ names ≠ Path.location disk.here (archivePath root)
  /-- If the archive file cannot be created, nothing changes. -/
  uncreated : ∀ fault, disk.write (archivePath root) (.text "") = .error fault →
    write root (relatives.map (Path.join root)) disk =
      (disk, .error (.uncreated (archivePath root)))
  /-- If it can be created, and all paths are short enough, it is complete. -/
  complete : (∃ created, disk.write (archivePath root) (.text "") = .ok created) →
    AreShallow root relatives disk → ∃ written entries,
      write root (relatives.map (Path.join root)) disk = (written, .ok (archivePath root)) ∧
      Holds root disk written entries ∧ IsComplete root relatives disk entries
  /-- If a path is too long, one that is too long is reported. -/
  unreadable : (∃ created, disk.write (archivePath root) (.text "") = .ok created) →
    ¬ AreShallow root relatives disk → ∃ written path,
      write root (relatives.map (Path.join root)) disk = (written, .error (.unreadable path)) ∧
      ¬ Disk.IsShort path

section Packing

variable {root : String} {relatives : List String} {disk created : Disk}

/-- The place of the archive file is in the output root. -/
theorem archive_place (here : Location) (root : String) :
    Path.location here (archivePath root) = Path.location here root ++ [fileName] :=
  Path.location_inside here root fileName (by decide)

/-- What is below a directory in the output root is not in the place of the archive file. -/
theorem Given.below_archive (given : Given root relatives disk) {relative : String}
    (member : relative ∈ relatives) (rest : Location) (lower : rest ≠ []) :
    Path.location disk.here (Path.join root relative) ++ rest ≠
      Path.location disk.here (archivePath root) := by
  intro same
  rw [(given.plain relative member).location_join, archive_place, List.append_assoc] at same
  have sizes := congrArg List.length (List.append_cancel_left same)
  have first := List.length_pos_of_ne_nil (given.plain relative member).names_something
  have second := List.length_pos_of_ne_nil lower
  simp only [List.length_append, List.length_singleton] at sizes
  omega

/-- A given directory stands. -/
theorem Given.stands (given : Given root relatives disk) (tree : disk.IsTree) {relative : String}
    (member : relative ∈ relatives) :
    disk.node? (Path.location disk.here (Path.join root relative)) = some .directory :=
  Disk.resolve_stands tree _ _ (given.resolved relative member)

/-- What is covered is below a given directory. -/
theorem Given.covered (given : Given root relatives disk) (tree : disk.IsTree) {names : Location}
    {content : Content} (covers : Covers root relatives disk names content) :
    ∃ relative ∈ relatives, ∃ rest, rest ≠ [] ∧ names = Path.somethings relative ++ rest ∧
      disk.node? (Path.location disk.here (Path.join root relative) ++ rest) =
        some (.file content) := by
  obtain ⟨⟨relative, member, rest, rfl⟩, stands⟩ := covers
  rw [← List.append_assoc, ← (given.plain relative member).location_join] at stands
  refine ⟨relative, member, rest, ?_, rfl, stands⟩
  rintro rfl
  simp [given.stands tree member] at stands

/-- The disk on which the archive file has been created: given directories are still there, with
what is below them, and what the walk has found can be read if its path is short enough. -/
theorem Given.found_read (given : Given root relatives disk) (proper : disk.IsProper)
    (wrote : disk.write (archivePath root) (.text "") = .ok created) {relative : String}
    (member : relative ∈ relatives) {names : List String}
    (finds : Finds disk (Path.join root relative)
      (Path.location disk.here (Path.join root relative)) names)
    (short : Disk.IsShort (Path.down (Path.join root relative) names)) :
    ∃ content, disk.node? (Path.location disk.here (Path.join root relative) ++ names) =
        some (.file content) ∧
      created.read (Path.down (Path.join root relative) names) = .ok content := by
  -- Files are read when the archive file is there already, so that what the walk has found is taken
  -- to the disk with that file.
  obtain ⟨rfl, replaces, _⟩ := Disk.write_exact _ _ proper.tree wrote
  have still := proper.changed (Disk.write_changes proper.tree _ _ wrote)
  have lower : Path.location disk.here (archivePath root) ≠ [] := by simp [archive_place]
  have below : ∀ rest, rest ≠ [] →
      (disk.put (Path.location disk.here (archivePath root)) (.file (.text ""))).node?
          (Path.location disk.here (Path.join root relative) ++ rest) =
        disk.node? (Path.location disk.here (Path.join root relative) ++ rest) := by
    intro rest some
    rw [Disk.node_put _ _ _ _ lower, if_neg (given.below_archive member rest some)]
  have resolved := (Disk.resolve_iff _ _ _).mp (given.resolved relative member)
  have stay : ∀ location, disk.node? location = some .directory →
      (disk.put (Path.location disk.here (archivePath root)) (.file (.text ""))).node? location =
        some .directory :=
    fun _ stands => Disk.node_put_directory disk _ lower replaces stands
  obtain ⟨content, stands, read⟩ := (finds.kept below).read still
    ((Disk.resolve_iff _ _ _).mpr
      ⟨resolved.usable, stay _ resolved.stands, resolved.leads.kept stay⟩) short
  refine ⟨content, ?_, read⟩
  rwa [below names finds.nonempty] at stands

/-- Whether all that is found below given directories has a path that is short enough, so that it
can be read, is a matter of what stands below them. -/
theorem Given.found_long (given : Given root relatives disk) (proper : disk.IsProper)
    (deep : ¬ AreShallow root relatives disk) :
    ∃ file, Planned root relatives disk file ∧ ¬ Disk.IsShort file.2 := by
  simp only [AreShallow, IsShallow, not_forall] at deep
  obtain ⟨relative, member, names, stands, long⟩ := deep
  have short := ((Disk.resolve_iff _ _ _).mp (given.resolved relative member)).1.short
  obtain ⟨others, finds, far⟩ := finds_long proper short names stands long
  exact ⟨_, ⟨relative, member, others, finds, rfl⟩, far⟩

/-- What archives hold when packing goes on to the end. -/
theorem write_packed {files : List (String × String)} (directories : List String)
    (tree : disk.IsTree) (planned : plan disk.namesIn root directories disk = .ok files)
    (wrote : disk.write (archivePath root) (.text "") = .ok created) :
    ∃ written, write root directories disk =
        (written, (pack created [] files).2.map fun _ => archivePath root) ∧
      Holds root disk written
        ((pack created [] files).1.map fun entry => (entry.1, entry.2.bytes)) := by
  have lower : Path.location disk.here (archivePath root) ≠ [] := by simp [archive_place]
  -- The file is created with nothing in it, and written again once all entries are known.
  have again := Disk.write_again tree lower wrote (.ofEntries (pack created [] files).1)
  refine ⟨created.put (Path.location disk.here (archivePath root))
    (.file (.ofEntries (pack created [] files).1)), ?_, ?_, ?_⟩
  · simp only [archivePath] at wrote again ⊢
    simp only [write, writeListed, planned, wrote, again]
  · refine ⟨_, ?_, Content.entries_of_entries _⟩
    rw [Disk.node_put _ _ _ _ lower, if_pos rfl]
  · intro location other
    obtain ⟨rfl, _⟩ := Disk.write_exact _ _ tree wrote
    rw [Disk.node_put _ _ _ _ lower, if_neg other, Disk.node_put _ _ _ _ lower, if_neg other]

/-- Entries that have been read from all planned files are those of a complete archive. -/
theorem Given.is_complete (given : Given root relatives disk) (proper : disk.IsProper)
    (wrote : disk.write (archivePath root) (.text "") = .ok created)
    (shallow : AreShallow root relatives disk) {files : List (String × String)}
    (ascending : IsAscending files)
    (planned : ∀ file, file ∈ files ↔ Planned root relatives disk file)
    {entries : List (String × Content)}
    (packed : ArePacked created files entries) :
    IsComplete root relatives disk (entries.map fun entry => (entry.1, entry.2.bytes)) := by
  constructor
  case ordered =>
    have order : (entries.map Prod.fst).Pairwise (· < ·) := by
      rw [packed.names, List.pairwise_map]
      exact ascending
    rw [List.pairwise_map] at order ⊢
    exact order.imp fun less => Text.bytes_lt _ _ less
  case covered =>
    intro entry
    rw [List.mem_map]
    constructor
    · rintro ⟨read, member, rfl⟩
      obtain ⟨path, file, content⟩ := (packed.members read).mp member
      obtain ⟨relative, among, names, finds, same⟩ := (planned _).mp file
      obtain ⟨name, rfl⟩ := Prod.mk.inj same
      obtain ⟨held, stands, again⟩ := given.found_read proper wrote among finds
        (shallow relative among names finds.stands)
      rw [again] at content
      rw [(given.plain relative among).location_join, List.append_assoc] at stands
      exact ⟨_, held, ⟨⟨relative, among, List.prefix_append _ _⟩, stands⟩,
        by rw [name, ← Except.ok.inj content]⟩
    · rintro ⟨names, content, covers, rfl⟩
      obtain ⟨relative, among, rest, _, rfl, stands⟩ := given.covered proper.tree covers
      have finds := (finds_iff proper (shallow relative among)
        (given.stands proper.tree among) rest).mpr ⟨content, stands⟩
      obtain ⟨held, same, read⟩ := given.found_read proper wrote among finds
        (shallow relative among rest finds.stands)
      rw [stands] at same
      cases same
      exact ⟨(_, content), (packed.members _).mpr
        ⟨_, (planned _).mpr ⟨relative, among, rest, finds, rfl⟩, read⟩, rfl⟩
  case told =>
    intro names content covers
    obtain ⟨relative, member, rest, _, rfl, stands⟩ := given.covered proper.tree covers
    have there : disk.node? (Path.location disk.here (Path.join root relative) ++ rest) ≠ none := by
      simp [stands]
    have named := proper.names there
    exact segments_entry (given.plain relative member) fun name held =>
      (named name (List.mem_append_right _ held)).named

/-- Packing given directories names everything, and packs everything if nothing is in the way. -/
theorem Given.packs (given : Given root relatives disk) (proper : disk.IsProper) :
    Packs root relatives disk := by
  have lists : IsListing disk.namesIn disk := fun _ => List.Perm.refl _
  obtain ⟨files, plan, ascending, planned⟩ := given.plan_exact proper lists
  have fresh : ([] ++ files.map Prod.fst).Nodup := ascending.distinct
  constructor
  case named =>
    refine ⟨files, ascending, fun listing others otherLists same => ?_⟩
    rw [given.plan_same proper lists otherLists same, plan]
  case canonical =>
    intro listing others otherLists same
    rw [write, writeListed, writeListed, given.plan_same proper lists otherLists same]
  case itself =>
    intro names content covers
    obtain ⟨relative, member, rest, lower, rfl, _⟩ := given.covered proper.tree covers
    have apart := given.below_archive member rest lower
    rwa [(given.plain relative member).location_join, List.append_assoc] at apart
  case uncreated =>
    intro fault failed
    simp only [archivePath] at failed ⊢
    simp only [write, writeListed, plan, failed]
  case complete =>
    rintro ⟨created, wrote⟩ shallow
    obtain ⟨written, outcome, holds⟩ := write_packed _ proper.tree plan wrote
    have readable : ∀ file ∈ files, ∃ content, created.read file.2 = .ok content := by
      intro file member
      obtain ⟨relative, among, names, finds, rfl⟩ := (planned file).mp member
      obtain ⟨content, _, read⟩ := given.found_read proper wrote among finds
        (shallow relative among names finds.stands)
      exact ⟨content, read⟩
    obtain ⟨entries, packed, held⟩ := pack_exact fresh readable
    rw [packed] at outcome holds
    exact ⟨written, _, outcome, holds,
      given.is_complete proper wrote shallow ascending planned held⟩
  case unreadable =>
    rintro ⟨created, wrote⟩ deep
    obtain ⟨written, outcome, _⟩ := write_packed _ proper.tree plan wrote
    obtain ⟨file, found, long⟩ := given.found_long proper deep
    obtain ⟨entries, other, member, ⟨fault, unread⟩, packed⟩ := pack_unreadable fresh
      ⟨file, (planned file).mpr found, read_long long⟩
    rw [packed] at outcome
    refine ⟨written, other.2, outcome, fun short => ?_⟩
    obtain ⟨relative, among, names, finds, rfl⟩ := (planned other).mp member
    obtain ⟨content, _, read⟩ := given.found_read proper wrote among finds short
    rw [read] at unread
    cases unread

/-- What has been packed is complete. -/
theorem Packs.written (packs : Packs root relatives disk) {written : Disk} {path : String}
    (packed : write root (relatives.map (Path.join root)) disk = (written, .ok path)) :
    path = archivePath root ∧ ∃ entries, Holds root disk written entries ∧
      IsComplete root relatives disk entries := by
  cases wrote : disk.write (archivePath root) (.text "") with
  | error fault =>
    rw [packs.uncreated fault wrote] at packed
    cases packed
  | ok created =>
    by_cases shallow : AreShallow root relatives disk
    · obtain ⟨_, entries, outcome, holds, complete⟩ := packs.complete ⟨created, wrote⟩ shallow
      rw [outcome] at packed
      cases packed
      exact ⟨rfl, entries, holds, complete⟩
    · obtain ⟨_, _, outcome, _⟩ := packs.unreadable ⟨created, wrote⟩ shallow
      rw [outcome] at packed
      cases packed

/-- The path of a covered file leads to it. -/
theorem covered_place (given : Given root relatives disk) (proper : disk.IsProper)
    {names : Location} {content : Content} (covers : Covers root relatives disk names content) :
    Path.location disk.here (Path.join root (Text.joinWith "/" names)) =
      Path.location disk.here root ++ names := by
  obtain ⟨_, _, rest, lower, whole, _⟩ := given.covered proper.tree covers
  have stands : disk.node? (Path.location disk.here root ++ names) ≠ none := by simp [covers.2]
  have named : ∀ name ∈ names, Path.isName name = true := fun name member =>
    (proper.names stands name (List.mem_append_right _ member)).named
  have inhabited : names ≠ [] := whole ▸ List.append_ne_nil_of_right_ne_nil _ lower
  rw [Path.join_joined root names inhabited named, Path.location_down disk.here root names named]

/-- The paths of the entries of a complete archive differ, and are those of the covered files. -/
theorem complete_paths (given : Given root relatives disk) (proper : disk.IsProper)
    {entries : List (String × List UInt8)} (complete : IsComplete root relatives disk entries) :
    (entries.map fun entry => Path.join root entry.1).Nodup ∧
      ∀ path, path ∈ (entries.map fun entry => Path.join root entry.1) ↔ ∃ names content,
        Covers root relatives disk names content ∧
          path = Path.join root (Text.joinWith "/" names) := by
  constructor
  · rw [List.Nodup, List.pairwise_map]
    refine complete.ordered.imp_of_mem fun {entry other} member otherMember less same => ?_
    obtain ⟨names, content, covers, rfl⟩ := (complete.covered entry).mp member
    obtain ⟨others, otherContent, otherCovers, rfl⟩ := (complete.covered other).mp otherMember
    have places := congrArg (Path.location disk.here) same
    rw [covered_place given proper covers, covered_place given proper otherCovers] at places
    rw [List.append_cancel_left places] at less
    exact List.lt_irrefl _ less
  · intro path
    rw [List.mem_map]
    constructor
    · rintro ⟨entry, member, rfl⟩
      obtain ⟨names, content, covers, rfl⟩ := (complete.covered entry).mp member
      exact ⟨names, content, covers, rfl⟩
    · rintro ⟨names, content, covers, rfl⟩
      exact ⟨_, (complete.covered _).mpr ⟨names, content, covers, rfl⟩, rfl⟩

end Packing
end PacketSmith.Archive
