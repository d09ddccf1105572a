import PacketSmith.Proofs.Disk.Directories

/-!
# Proper disks and how they change

On a proper disk every location is there once, is named by what can be names of files, and is in a
directory. Whatever an operation does to a disk, it does by putting something where a path leads,
other than in the place of a directory, and by dropping directories to which paths lead. What paths
lead to is named by segments that have been looked up, so that proper disks stay proper.
-/

namespace PacketSmith

/-- The characters of a segment are characters of the path. -/
theorem Path.segment_characters (path segment : String) (member : segment ∈ segments path) :
    ∀ character ∈ segment.toList, character ∈ path.toList := by
  intro character held
  obtain ⟨piece, found, rfl⟩ := List.mem_map.mp member
  rw [String.toList_ofList] at held
  exact (Text.split_where_members _ path.toList piece found character held).1

namespace Disk

/-- Whether a text can be the name of a file. -/
structure IsFileName (name : String) : Prop where
  /-- It is one segment that leads down. -/
  named : Path.isName name = true
  /-- It is not longer than names can be. -/
  short : name.utf8ByteSize ≤ longestName
  /-- It has no null character. -/
  clean : ∀ character ∈ name.toList, character.toNat ≠ 0

/-- A name of a file is a step. -/
theorem IsFileName.step {name : String} (fileName : IsFileName name) : IsStep name :=
  ⟨(Path.name_parts name fileName.named).2.1, (Path.name_parts name fileName.named).2.2,
    fileName.short⟩

/-- A segment of the route of a usable path that is a step can be the name of a file. -/
theorem IsUsable.file_name {path segment : String} (usable : IsUsable path)
    (routed : segment ∈ Path.route path) (step : IsStep segment) : IsFileName segment := by
  have member : segment ∈ Path.segments path := (List.dropWhile_sublist _).subset routed
  constructor
  · have slashless := Path.segments_slashless path segment member
    simp [Path.isName, slashless, step.something, step.down]
  · exact step.short
  · intro character held null
    have clean := usable.clean
    rw [← Bool.not_eq_true, List.any_eq_true] at clean
    exact clean ⟨character, Path.segment_characters path segment member character held,
      by simp [null]⟩

/-- Whether a disk is as disks are: every location is there once, in a directory, and named by what
can be names of files. -/
structure IsProper (disk : Disk) : Prop where
  /-- Everything stands in a directory. -/
  tree : disk.IsTree
  /-- Everything is named by names of files. -/
  named : ∀ entry ∈ disk.entries, ∀ name ∈ entry.1, IsFileName name
  /-- Every location is there once. -/
  single : (disk.entries.map Prod.fst).Nodup

/-- What stands on a disk below the top has an entry. -/
theorem stands_entry {disk : Disk} {location : Location} (lower : location ≠ [])
    (stands : disk.node? location ≠ none) : ∃ node, (location, node) ∈ disk.entries := by
  rw [node_entry _ _ lower, ne_eq, Option.map_eq_none_iff, ← ne_eq,
    Option.ne_none_iff_exists'] at stands
  obtain ⟨⟨place, node⟩, found⟩ := stands
  obtain rfl : place = location := by simpa using List.find?_some found
  exact ⟨node, List.mem_of_find?_eq_some found⟩

/-- What has an entry stands on the disk. -/
theorem entry_stands {disk : Disk} {location : Location} {node : Node}
    (member : (location, node) ∈ disk.entries) : disk.node? location ≠ none := by
  by_cases top : location = []
  · simp [top, node?]
  · rw [node_entry _ _ top, ne_eq, Option.map_eq_none_iff, List.find?_eq_none]
    exact fun absent => absent _ member (by simp)

/-- What stands on a proper disk is named by names of files. -/
theorem IsProper.names {disk : Disk} (proper : disk.IsProper) {location : Location}
    (stands : disk.node? location ≠ none) : ∀ name ∈ location, IsFileName name := by
  by_cases top : location = []
  · simp [top]
  · obtain ⟨node, member⟩ := stands_entry top stands
    exact proper.named _ member

/-- The names in a directory are those under which something stands in it. -/
theorem mem_names_in (disk : Disk) (location : Location) (name : String) :
    name ∈ disk.namesIn location ↔ disk.node? (location ++ [name]) ≠ none := by
  rw [namesIn, List.mem_filterMap]
  constructor
  · rintro ⟨⟨place, node⟩, member, named⟩
    split at named
    · rename_i above
      obtain ⟨front, rfl⟩ := List.getLast?_eq_some_iff.mp named
      obtain rfl : front = location := by simpa using above
      exact entry_stands member
    · cases named
  · intro stands
    obtain ⟨node, member⟩ := stands_entry (by simp) stands
    exact ⟨_, member, by simp⟩

/-- No name is in a directory twice. -/
theorem IsProper.names_in_distinct {disk : Disk} (proper : disk.IsProper) (location : Location) :
    (disk.namesIn location).Nodup := by
  have apart := proper.single
  rw [List.Nodup, List.pairwise_map] at apart
  rw [namesIn, List.Nodup, List.pairwise_filterMap]
  refine apart.imp fun {entry other} different name named otherName otherNamed same => ?_
  split at named
  · rename_i above
    split at otherNamed
    · rename_i otherAbove
      obtain ⟨front, whole⟩ := List.getLast?_eq_some_iff.mp named
      obtain ⟨otherFront, otherWhole⟩ := List.getLast?_eq_some_iff.mp otherNamed
      rw [whole] at above
      rw [otherWhole] at otherAbove
      simp only [List.dropLast_concat, beq_iff_eq] at above otherAbove
      exact different (by rw [whole, otherWhole, above, otherAbove, same])
    · cases otherNamed
  · cases named

/-- What segments lead to is named by names of where they start and by segments that are steps. -/
theorem Leads.names {disk : Disk} {start : Location} {segments : List String}
    {destination : Destination} (leads : disk.Leads start segments destination)
    {Named : String → Prop}
    (higher : ∀ name ∈ start, Named name)
    (steps : ∀ segment ∈ segments, IsStep segment → Named segment) :
    ∀ name ∈ destination.location, Named name := by
  have further : ∀ (location : Location) segment others, (∀ name ∈ location, Named name) →
      (∀ other ∈ segment :: others, IsStep other → Named other) → IsStep segment →
      ∀ name ∈ location ++ [segment], Named name := by
    intro location segment others higher steps step
    rw [List.forall_mem_append, List.forall_mem_singleton]
    exact ⟨higher, steps segment List.mem_cons_self step⟩
  induction leads with
  | arrived location => exact higher
  | passed location segment others destination _ _ inductionHypothesis =>
    exact inductionHypothesis higher fun other member => steps other (List.mem_cons_of_mem _ member)
  | up location others destination _ inductionHypothesis =>
    exact inductionHypothesis (fun name member => higher name (List.dropLast_subset _ member))
      fun other member => steps other (List.mem_cons_of_mem _ member)
  | down location segment others destination step _ _ inductionHypothesis =>
    exact inductionHypothesis (further location segment others higher steps step)
      fun other member => steps other (List.mem_cons_of_mem _ member)
  | file location segment content step _ => exact further location segment [] higher steps step
  | free location segment others step _ _ => exact further location segment others higher steps step

/-- What a path leads to on a proper disk is named by names of files. -/
theorem IsProper.resolve_names {disk : Disk} (proper : disk.IsProper) {path : String}
    {destination : Destination} (resolved : disk.resolve path = .ok destination) :
    ∀ name ∈ destination.location, IsFileName name := by
  obtain ⟨usable, stands, leads⟩ := (disk.resolve_iff path destination).mp resolved
  rw [HasStart] at stands
  exact leads.names (proper.names (by simp [stands])) fun segment member step =>
    usable.file_name member step

/-- How a disk becomes another one: step by step, something is put where a path leads, other than in
the place of a directory, or what is in a directory is dropped, with the directory or without. -/
inductive Changes (disk : Disk) : Disk → Prop where
  /-- Nothing has changed. -/
  | nothing : Changes disk disk
  /-- Something is put where a path leads. -/
  | put (between : Disk) (path : String) (destination : Destination) (node : Node)
      (changes : Changes disk between) (resolved : between.resolve path = .ok destination)
      (replaces : between.node? destination.location ≠ some .directory) :
      Changes disk (between.put destination.location node)
  /-- A directory is dropped. -/
  | dropped (between : Disk) (location : Location) (changes : Changes disk between)
      (lower : location ≠ []) : Changes disk (between.dropBelow location)
  /-- What is in a directory is dropped. -/
  | emptied (between : Disk) (location : Location) (changes : Changes disk between) :
      Changes disk (between.dropInside location)

/-- Changes follow each other. -/
theorem Changes.trans {disk between after : Disk} (first : Changes disk between)
    (second : Changes between after) : Changes disk after := by
  induction second with
  | nothing => exact first
  | put between path destination node _ resolved replaces inductionHypothesis =>
    exact .put between path destination node inductionHypothesis resolved replaces
  | dropped between location _ lower inductionHypothesis =>
    exact .dropped between location inductionHypothesis lower
  | emptied between location _ inductionHypothesis =>
    exact .emptied between location inductionHypothesis

/-- What is said about the disk of an outcome is said about the disk that it is. -/
theorem Changes.outcome {disk after : Disk} {result : Disk × α} {outcome : α}
    (changes : Changes disk result.1) (same : result = (after, outcome)) : Changes disk after := by
  subst same
  exact changes

/-- The locations of a disk on which something is put: the ones that were there, or one more. -/
theorem put_locations (disk : Disk) (location : Location) (node : Node) :
    (disk.put location node).entries.map Prod.fst = disk.entries.map Prod.fst ∨
      location ∉ disk.entries.map Prod.fst ∧
        (disk.put location node).entries.map Prod.fst =
          disk.entries.map Prod.fst ++ [location] := by
  rw [put]
  split
  · left
    rw [List.map_map]
    apply List.map_congr_left
    intro entry _
    by_cases there : entry.1 = location <;> simp [there]
  · rename_i absent
    right
    constructor
    · intro member
      obtain ⟨entry, found, rfl⟩ := List.mem_map.mp member
      exact absent (List.any_eq_true.mpr ⟨entry, found, by simp⟩)
    · simp

/-- A proper disk is proper after something is put where a path leads. -/
theorem IsProper.put {disk : Disk} (proper : disk.IsProper) {path : String}
    {destination : Destination} (resolved : disk.resolve path = .ok destination) (node : Node)
    (replaces : disk.node? destination.location ≠ some .directory) :
    (disk.put destination.location node).IsProper := by
  have stands := resolve_stands proper.tree path destination resolved
  have named := proper.resolve_names resolved
  have inside : ∃ above name, destination.location = above ++ [name] ∧
      disk.node? above = some .directory := by
    cases destination with
    | directory location => exact absurd stands replaces
    | free location _ => exact stands.2
    | file location content =>
      rcases List.eq_nil_or_concat location with top | ⟨above, name, whole⟩
      · exact absurd (by simp [top, Destination.location, node?]) replaces
      · rw [List.concat_eq_append] at whole
        refine ⟨above, name, whole, proper.tree above name ?_⟩
        have there : disk.node? location = some (.file content) := stands
        simp [← whole, there]
  obtain ⟨above, name, whole, directory⟩ := inside
  constructor
  case tree =>
    rw [whole] at replaces ⊢
    exact proper.tree.put above name node directory (Or.inr replaces)
  case named =>
    have locations : ∀ location ∈ (disk.put destination.location node).entries.map Prod.fst,
        ∀ name ∈ location, IsFileName name := by
      have before : ∀ location ∈ disk.entries.map Prod.fst, ∀ name ∈ location, IsFileName name := by
        simpa using fun location node member => proper.named (location, node) member
      rcases put_locations disk destination.location node with same | ⟨_, more⟩
      · rw [same]
        exact before
      · rw [more, List.forall_mem_append, List.forall_mem_singleton]
        exact ⟨before, named⟩
    exact fun entry member => locations entry.1 (List.mem_map_of_mem member)
  case single =>
    rcases put_locations disk destination.location node with same | ⟨absent, more⟩
    · rw [same]
      exact proper.single
    · rw [more, List.nodup_append]
      refine ⟨proper.single, by simp, fun place member other held same => absent ?_⟩
      rw [List.mem_singleton] at held
      exact held ▸ same ▸ member

/-- A proper disk is proper after a directory is dropped. -/
theorem IsProper.drop_below {disk : Disk} (proper : disk.IsProper) (location : Location)
    (lower : location ≠ []) : (disk.dropBelow location).IsProper := by
  constructor
  case tree => exact proper.tree.drop_below location lower
  case named => exact fun entry member => proper.named entry (List.mem_filter.mp member).1
  case single => exact proper.single.sublist (List.filter_sublist.map Prod.fst)

/-- A proper disk is proper after what is in a directory is dropped. -/
theorem IsProper.drop_inside {disk : Disk} (proper : disk.IsProper) (location : Location) :
    (disk.dropInside location).IsProper := by
  constructor
  case tree => exact proper.tree.drop_inside location
  case named => exact fun entry member => proper.named entry (List.mem_filter.mp member).1
  case single => exact proper.single.sublist (List.filter_sublist.map Prod.fst)

/-- A proper disk stays proper, whatever changes. -/
theorem IsProper.changed {disk after : Disk} (proper : disk.IsProper)
    (changes : Changes disk after) : after.IsProper := by
  induction changes with
  | nothing => exact proper
  | put between path destination node _ resolved replaces inductionHypothesis =>
    exact inductionHypothesis.put resolved node replaces
  | dropped between location _ lower inductionHypothesis =>
    exact inductionHypothesis.drop_below location lower
  | emptied between location _ inductionHypothesis => exact inductionHypothesis.drop_inside location

/-! ## Operations -/

/-- Writing a file changes the disk, if at all, by what is put. -/
theorem write_changes {disk after : Disk} (tree : disk.IsTree) (path : String) (content : Content)
    (written : disk.write path content = .ok after) : Changes disk after := by
  rw [write] at written
  cases resolved : disk.resolve path with
  | error fault => simp [resolved, bind, Except.bind] at written
  | ok destination =>
    have stands := resolve_stands tree path destination resolved
    simp only [resolved, bind, Except.bind] at written
    cases destination with
    | directory location => cases written
    | file location old =>
      cases written
      have there : disk.node? location = some (.file old) := stands
      exact .put disk path _ (.file content) .nothing resolved
        (by simp [Destination.location, there])
    | free location onlyDirectory =>
      cases onlyDirectory with
      | true => cases written
      | false =>
        cases written
        exact .put disk path _ (.file content) .nothing resolved
          (by simp [Destination.location, stands.1])

/-- Making a directory changes the disk by what is put. -/
theorem make_directory_changes {disk after : Disk} (tree : disk.IsTree) (path : String)
    (made : disk.makeDirectory path = .ok after) : Changes disk after := by
  obtain ⟨location, onlyDirectory, resolved, rfl⟩ := (disk.make_directory_iff after path).mp made
  have free : disk.node? location = none := (resolve_stands tree path _ resolved).1
  exact .put disk path _ .directory .nothing resolved (by simp [Destination.location, free])

/-- Making directories changes the disk step by step. -/
theorem make_each_changes {disk : Disk} (proper : disk.IsProper) (paths : List String) :
    Changes disk (disk.makeEach paths).1 := by
  induction paths generalizing disk with
  | nil => exact .nothing
  | cons path paths inductionHypothesis =>
    rw [makeEach]
    split
    · rename_i between made
      have first := make_directory_changes proper.tree path made
      exact first.trans (inductionHypothesis (proper.changed first))
    · split
      · exact inductionHypothesis proper
      · exact .nothing

end Disk
end PacketSmith
