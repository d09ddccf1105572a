import PacketSmith.Proofs.Archive.Planning
import PacketSmith.Proofs.Session

/-!
# What is packed

Entries with different names are packed one after the other, with what their files hold, up to the
first file that cannot be read. Meanwhile the archive file stands in the output root and not below
the directories, so that the files are read as they were.
-/

namespace PacketSmith

/-- Whether a file can be written at a destination. -/
def Destination.TakesFile : Destination → Prop
  | directory _ => False
  | file _ _ => True
  | free _ onlyDirectory => onlyDirectory = false

namespace Disk

variable {disk : Disk} {path : String}

/-- Writing to a path puts a file where the path leads, if it can be written there. -/
theorem write_iff (disk after : Disk) (path : String) (content : Content) :
    disk.write path content = .ok after ↔ ∃ destination, disk.resolve path = .ok destination ∧
      destination.TakesFile ∧ after = disk.put destination.location (.file content) := by
  rw [write]
  cases resolved : disk.resolve path with
  | error fault => simp [bind, Except.bind]
  | ok destination =>
    cases destination with
    | directory location => simp [bind, Except.bind, Destination.TakesFile]
    | file location old =>
      simp [bind, Except.bind, Destination.TakesFile, Destination.location, eq_comm]
    | free location onlyDirectory =>
      cases onlyDirectory <;>
        simp [bind, Except.bind, Destination.TakesFile, Destination.location, eq_comm]

/-- A directory stays while something is put in place of what is no directory. -/
theorem node_put_directory (disk : Disk) (node : Node) {location other : Location}
    (lower : location ≠ []) (replaces : disk.node? location ≠ some .directory)
    (stands : disk.node? other = some .directory) :
    (disk.put location node).node? other = some .directory := by
  rw [node_put _ _ _ _ lower]
  split
  · rename_i same
    exact absurd (same ▸ stands) replaces
  · exact stands

/-- What leads to where a file can be written leads to the file once it is there. -/
theorem Leads.written {start : Location} {segments : List String} {destination : Destination}
    (leads : disk.Leads start segments destination) (content : Content)
    (takes : destination.TakesFile) (lower : destination.location ≠ [])
    (replaces : disk.node? destination.location ≠ some .directory) :
    (disk.put destination.location (.file content)).Leads start segments
      (.file destination.location content) := by
  have put : (disk.put destination.location (.file content)).node? destination.location =
      some (.file content) := by
    rw [node_put _ _ _ _ lower, if_pos rfl]
  induction leads with
  | arrived => cases takes
  | passed location segment others destination nothing _ inductionHypothesis =>
    exact .passed location segment others _ nothing (inductionHypothesis takes lower replaces put)
  | up location others destination _ inductionHypothesis =>
    exact .up location others _ (inductionHypothesis takes lower replaces put)
  | down location segment others destination step stands _ inductionHypothesis =>
    exact .down location segment others _ step (node_put_directory disk _ lower replaces stands)
      (inductionHypothesis takes lower replaces put)
  | file location segment old step stands => exact .file location segment content step put
  | free location segment others step stands last =>
    obtain rfl : others = [] := by simpa [Destination.TakesFile] using takes
    exact .file location segment content step put

/-- A file that has been written can be written again. -/
theorem write_again {created : Disk} {content : Content} (tree : disk.IsTree)
    (lower : Path.location disk.here path ≠ []) (written : disk.write path content = .ok created)
    (other : Content) :
    created.write path other = .ok (created.put (Path.location disk.here path) (.file other)) := by
  obtain ⟨_, replaces, _⟩ := write_exact path content tree written
  obtain ⟨destination, resolved, takes, rfl⟩ := (disk.write_iff created path content).mp written
  have place := disk.resolve_location path destination resolved
  obtain ⟨usable, stands, leads⟩ := (disk.resolve_iff path destination).mp resolved
  rw [← place] at lower replaces ⊢
  have stays := node_put_directory disk (.file content) lower replaces stands
  exact (write_iff _ _ _ _).mpr ⟨.file destination.location content, (resolve_iff _ _ _).mpr
    ⟨usable, stays, leads.written content takes lower replaces⟩, trivial, rfl⟩

end Disk

namespace Archive

variable {disk : Disk} {taken : List String} {files : List (String × String)}

/-- A name that differs from those taken and from those that follow is taken in turn. -/
theorem fresh_next {name : String} {names : List String} (fresh : (taken ++ name :: names).Nodup) :
    taken.contains name = false ∧ ((name :: taken) ++ names).Nodup := by
  have next := List.nodup_middle.mp fresh
  have other := (List.nodup_cons.mp next).1
  rw [List.mem_append, not_or] at other
  exact ⟨by simpa using other.1, next⟩

/-- Whether entries are those of files that have been read. -/
structure ArePacked (disk : Disk) (files : List (String × String))
    (entries : List (String × Content)) : Prop where
  /-- The entries are named as the files are. -/
  names : entries.map Prod.fst = files.map Prod.fst
  /-- The entries hold what the files do. -/
  members : ∀ entry, entry ∈ entries ↔
    ∃ path, (entry.1, path) ∈ files ∧ disk.read path = .ok entry.2

/-- One more entry is packed in front of others. -/
theorem ArePacked.cons {file : String × String} {content : Content}
    {entries : List (String × Content)} (packed : ArePacked disk files entries)
    (read : disk.read file.2 = .ok content) :
    ArePacked disk (file :: files) ((file.1, content) :: entries) := by
  constructor
  case names => rw [List.map_cons, List.map_cons, packed.names]
  case members =>
    intro entry
    have first : entry = (file.1, content) ↔
        ∃ path, (entry.1, path) = file ∧ disk.read path = .ok entry.2 := by
      constructor
      · rintro rfl
        exact ⟨file.2, rfl, read⟩
      · rintro ⟨path, rfl, again⟩
        rw [read] at again
        exact Prod.ext rfl (Except.ok.inj again).symm
    simp only [List.mem_cons, or_and_right, exists_or, first, packed.members]

/-- Files with different names that can all be read are all packed, with what they hold. -/
theorem pack_exact (fresh : (taken ++ files.map Prod.fst).Nodup)
    (readable : ∀ file ∈ files, ∃ content, disk.read file.2 = .ok content) :
    ∃ entries, pack disk taken files = (entries, .ok ()) ∧ ArePacked disk files entries := by
  induction files generalizing taken with
  | nil => exact ⟨[], rfl, rfl, by simp⟩
  | cons file files inductionHypothesis =>
    rw [List.forall_mem_cons] at readable
    obtain ⟨⟨content, read⟩, rest⟩ := readable
    obtain ⟨untaken, next⟩ := fresh_next fresh
    obtain ⟨entries, packed, held⟩ := inductionHypothesis next rest
    refine ⟨(file.1, content) :: entries, ?_, held.cons read⟩
    rw [pack, read]
    simp only [untaken, packed, Bool.false_eq_true, if_false]

/-- Of files with different names the first that cannot be read is reported. -/
theorem pack_unreadable (fresh : (taken ++ files.map Prod.fst).Nodup)
    (unreadable : ∃ file ∈ files, ∃ fault, disk.read file.2 = .error fault) :
    ∃ entries, ∃ file ∈ files, (∃ fault, disk.read file.2 = .error fault) ∧
      pack disk taken files = (entries, .error (.unreadable file.2)) := by
  induction files generalizing taken with
  | nil => simp at unreadable
  | cons file files inductionHypothesis =>
    cases read : disk.read file.2 with
    | error fault => exact ⟨[], file, List.mem_cons_self, ⟨fault, read⟩, by simp [pack, read]⟩
    | ok content =>
      have rest : ∃ file ∈ files, ∃ fault, disk.read file.2 = .error fault := by
        simpa [read] using unreadable
      obtain ⟨untaken, next⟩ := fresh_next fresh
      obtain ⟨entries, other, member, fault, packed⟩ := inductionHypothesis next rest
      refine ⟨(file.1, content) :: entries, other, List.mem_cons_of_mem _ member, fault, ?_⟩
      rw [pack, read]
      simp only [untaken, packed, Bool.false_eq_true, if_false]

end Archive

/-- Texts that have been taken from all entries are those of the entries. -/
theorem Content.texts_of_entries (entries : List (String × Content))
    (texts : List (String × String))
    (all : entries.mapM (fun (name, content) => content.text?.map fun words => (name, words)) =
      some texts) :
    texts.map (fun (name, words) => (name, textBytes words)) =
      entries.map fun entry => (entry.1, entry.2.bytes) := by
  induction entries generalizing texts with
  | nil =>
    obtain rfl : texts = [] := by simpa using all.symm
    rfl
  | cons entry entries inductionHypothesis =>
    obtain ⟨name, content⟩ := entry
    simp only [List.mapM_cons, Option.bind_eq_bind, Option.bind_eq_some_iff, Option.map_eq_some_iff,
      Option.pure_def, Option.some.injEq] at all
    obtain ⟨_, ⟨words, text, rfl⟩, others, rest, rfl⟩ := all
    have bytes : content.bytes = textBytes words := by
      cases content <;> simp [text?] at text
      rw [text]
      rfl
    simp [inductionHypothesis others rest, bytes]

/-- An archive of files has their names and bytes as its entries. -/
theorem Content.entries_of_entries (entries : List (String × Content)) :
    (ofEntries entries).entries? = some (entries.map fun entry => (entry.1, entry.2.bytes)) := by
  rw [ofEntries]
  split
  · rename_i texts all
    rw [entries?, texts_of_entries entries texts all]
  · rfl

end PacketSmith
