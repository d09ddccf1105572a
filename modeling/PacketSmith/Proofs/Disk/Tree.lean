import PacketSmith.Disk

/-!
# What stands where on a disk

Putting something at a location and dropping what is below one change what stands there and
nothing else. On a disk that is a tree, everything stands in a directory, so that nothing is
below a file or a free location; every change keeps disks trees.
-/

namespace PacketSmith.Disk

/-- Whether everything that stands on a disk stands in a directory. -/
def IsTree (disk : Disk) : Prop :=
  ∀ location name, disk.node? (location ++ [name]) ≠ none →
    disk.node? location = some .directory

/-- What stands at a location behind the top. -/
theorem node_entry (disk : Disk) (location : Location) (lower : location ≠ []) :
    disk.node? location =
      (disk.entries.find? fun entry => entry.1 == location).map Prod.snd := by
  simp [node?, lower]

/-- Putting something at a location changes what stands there, and nothing else. -/
theorem node_put (disk : Disk) (location other : Location) (node : Node) (lower : location ≠ []) :
    (disk.put location node).node? other =
      if other = location then some node else disk.node? other := by
  by_cases top : other = []
  · subst top
    rw [if_neg lower.symm]
    rfl
  rw [node_entry _ other top, node_entry _ other top, put]
  split
  · rename_i taken
    have keys : ((fun entry : Location × Node => entry.1 == other) ∘ fun entry =>
        if entry.1 == location then (location, node) else entry) =
        fun entry => entry.1 == other := by
      funext entry
      by_cases there : entry.1 = location <;> simp [there]
    simp only [List.find?_map, keys]
    by_cases same : other = location
    · subst same
      obtain ⟨entry, found⟩ := Option.isSome_iff_exists.mp (List.find?_isSome.mpr
        (List.any_eq_true.mp taken))
      have key := List.find?_some found
      simp only [beq_iff_eq] at key
      simp [found, key]
    · rw [if_neg same]
      cases found : disk.entries.find? fun entry => entry.1 == other with
      | none => rfl
      | some entry =>
        have key := List.find?_some found
        simp only [beq_iff_eq] at key
        simp [key, same]
  · rename_i untaken
    simp only [List.find?_append]
    by_cases same : other = location
    · subst same
      have absent : disk.entries.find? (fun entry => entry.1 == other) = none := by
        rw [List.find?_eq_none]
        exact fun entry member found => untaken (List.any_eq_true.mpr ⟨entry, member, found⟩)
      simp [absent]
    · simp [same, Ne.symm same]

/-- Where entries are kept by their locations, what stands at a location stays if it is kept. -/
theorem node_kept (disk : Disk) (kept : Location → Bool) (location : Location)
    (lower : location ≠ []) :
    (⟨disk.entries.filter fun entry => kept entry.1, disk.here⟩ : Disk).node? location =
      if kept location then disk.node? location else none := by
  have same : (fun entry : Location × Node => kept entry.1 && entry.1 == location) =
      fun entry => kept location && entry.1 == location := by
    funext entry
    by_cases there : entry.1 = location
    · rw [there]
    · rw [beq_eq_false_iff_ne.mpr there, Bool.and_false, Bool.and_false]
  rw [node_entry _ _ lower, node_entry _ _ lower]
  simp only [List.find?_filter, Bool.decide_and, Bool.decide_eq_true, same]
  cases kept location <;> simp

/-- Dropping takes away what stands at a location and below it, and nothing else. -/
theorem node_drop_below (disk : Disk) (location other : Location) (lower : location ≠ []) :
    (disk.dropBelow location).node? other =
      if location <+: other then none else disk.node? other := by
  by_cases top : other = []
  · subst top
    simp [lower, node?]
  · rw [dropBelow, node_kept disk (fun place => !location.isPrefixOf place) _ top]
    by_cases below : location.isPrefixOf other = true <;>
      simp [below, ← List.isPrefixOf_iff_prefix]

/-- Dropping what is in a directory takes away what stands below its location, and nothing else. -/
theorem node_drop_inside (disk : Disk) (location other : Location) :
    (disk.dropInside location).node? other =
      if location <+: other ∧ other ≠ location then none else disk.node? other := by
  by_cases top : other = []
  · subst top
    have outside : ¬ (location <+: [] ∧ [] ≠ location) := by
      simp [eq_comm]
    rw [if_neg outside]
    rfl
  · rw [dropInside,
      node_kept disk (fun place => !location.isPrefixOf place || place == location) _ top]
    by_cases below : location.isPrefixOf other = true <;> by_cases same : other = location <;>
      simp [below, same, ← List.isPrefixOf_iff_prefix]

/-- A disk is a tree if every entry stands in a directory. -/
theorem tree_of_entries (disk : Disk)
    (standing : ∀ entry ∈ disk.entries, disk.node? entry.1.dropLast = some .directory) :
    disk.IsTree := by
  intro location name stands
  rw [node_entry _ _ (by simp), ne_eq, Option.map_eq_none_iff, ← ne_eq,
    Option.ne_none_iff_exists'] at stands
  obtain ⟨entry, found⟩ := stands
  have key : entry.1 = location ++ [name] := by simpa using List.find?_some found
  have inside := standing entry (List.mem_of_find?_eq_some found)
  rwa [key, List.dropLast_concat] at inside

/-- Whatever has something below it is a directory. -/
theorem IsTree.above {disk : Disk} (tree : disk.IsTree) (location rest : Location)
    (lower : rest ≠ []) (stands : disk.node? (location ++ rest) ≠ none) :
    disk.node? location = some .directory := by
  induction rest generalizing location with
  | nil => exact absurd rfl lower
  | cons name rest inductionHypothesis =>
    rw [List.append_cons] at stands
    by_cases last : rest = []
    · subst last
      rw [List.append_nil] at stands
      exact tree location name stands
    · have directory := inductionHypothesis (location ++ [name]) last stands
      exact tree location name (by simp [directory])

/-- What is above a directory is a directory. -/
theorem IsTree.higher {disk : Disk} (tree : disk.IsTree) {higher location : Location}
    (above : higher <+: location) (directory : disk.node? location = some .directory) :
    disk.node? higher = some .directory := by
  obtain ⟨rest, rfl⟩ := above
  by_cases itself : rest = []
  · rwa [itself, List.append_nil] at directory
  · exact tree.above higher rest itself (by simp [directory])

/-- A directory is in a directory, and above the root is the root. -/
theorem IsTree.up {disk : Disk} (tree : disk.IsTree) (location : Location)
    (directory : disk.node? location = some .directory) :
    disk.node? location.dropLast = some .directory := by
  rcases List.eq_nil_or_concat location with rfl | ⟨above, name, rfl⟩
  · rfl
  · rw [List.concat_eq_append] at directory ⊢
    rw [List.dropLast_concat]
    exact tree above name (by simp [directory])

/-- Nothing is below what is not a directory. -/
theorem IsTree.below {disk : Disk} (tree : disk.IsTree) (location rest : Location)
    (lower : rest ≠ []) (other : disk.node? location ≠ some .directory) :
    disk.node? (location ++ rest) = none := by
  by_cases free : disk.node? (location ++ rest) = none
  · exact free
  · exact absurd (tree.above location rest lower free) other

/-- A tree stays a tree when something is put in a directory, other than a file in place of a
directory. -/
theorem IsTree.put {disk : Disk} (tree : disk.IsTree) (location : Location) (name : String)
    (node : Node) (inside : disk.node? location = some .directory)
    (kept : node = .directory ∨ disk.node? (location ++ [name]) ≠ some .directory) :
    (disk.put (location ++ [name]) node).IsTree := by
  intro other next stands
  rw [node_put _ _ _ _ (by simp)] at stands ⊢
  by_cases same : other ++ [next] = location ++ [name]
  · obtain ⟨rfl, _⟩ := List.append_inj' same rfl
    simp [inside]
  · rw [if_neg same] at stands
    have directory := tree other next stands
    split
    · rename_i replaced
      subst replaced
      rcases kept with rfl | different
      · rfl
      · exact absurd directory different
    · exact directory

/-- A tree stays a tree when what is at a location and below it is dropped. -/
theorem IsTree.drop_below {disk : Disk} (tree : disk.IsTree) (location : Location)
    (lower : location ≠ []) : (disk.dropBelow location).IsTree := by
  intro other next stands
  rw [node_drop_below _ _ _ lower] at stands ⊢
  by_cases below : location <+: other ++ [next]
  · exact absurd (if_pos below) stands
  · rw [if_neg below] at stands
    have higher : ¬ location <+: other := fun front => below (front.trans (List.prefix_append _ _))
    rw [if_neg higher]
    exact tree other next stands

/-- A tree stays a tree when what is in a directory is dropped. -/
theorem IsTree.drop_inside {disk : Disk} (tree : disk.IsTree) (location : Location) :
    (disk.dropInside location).IsTree := by
  intro other next stands
  rw [node_drop_inside] at stands ⊢
  by_cases inside : location <+: other ++ [next] ∧ other ++ [next] ≠ location
  · exact absurd (if_pos inside) stands
  · rw [if_neg inside] at stands
    have outside : ¬ (location <+: other ∧ other ≠ location) := by
      rintro ⟨front, _⟩
      refine inside ⟨front.trans (List.prefix_append _ _), ?_⟩
      rintro rfl
      have longer := front.length_le
      rw [List.length_append, List.length_singleton] at longer
      omega
    rw [if_neg outside]
    exact tree other next stands

end PacketSmith.Disk
