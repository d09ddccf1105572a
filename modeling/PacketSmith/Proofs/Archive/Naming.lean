import PacketSmith.Archive
import PacketSmith.Proofs.Disk.Path

/-!
# The names of entries

A path inside of the output root has the components of the root and behind them the names that lead
down from it, however the root is written. The name of its entry consists of these names, with
slashes between them, and tells them all.
-/

namespace PacketSmith
namespace Path

/-- The path that leads from a path down by names. -/
def down (path : String) (names : List String) : String :=
  names.foldl join path

/-- Names lead down one after the other. -/
@[simp] theorem down_cons (path name : String) (names : List String) :
    down path (name :: names) = down (join path name) names :=
  rfl

/-- No names lead down to the path itself. -/
@[simp] theorem down_nothing (path : String) : down path [] = path :=
  rfl

/-- Whether a path is written as names with slashes between them: it is relative and not empty, and
there are no dots in place of a name. -/
structure IsPlain (path : String) : Prop where
  /-- The path is not empty. -/
  inhabited : path ≠ ""
  /-- The path does not start at the root of the file system. -/
  relative : isAbsolute path = false
  /-- No dots are in place of a name. -/
  dotless : ∀ segment ∈ segments path, segment ≠ "." ∧ segment ≠ ".."

/-- A plain path names something: if all its segments were empty, it would be empty or begin with a
slash. -/
theorem IsPlain.names_something {path : String} (plain : IsPlain path) : somethings path ≠ [] := by
  intro nothing
  have empty : ∀ segment ∈ segments path, segment = "" := by
    intro segment member
    have dot := (plain.dotless segment member).1
    simpa [isNothing, dot] using List.filter_eq_nil_iff.mp nothing segment member
  have whole := joined_segments path
  obtain ⟨first, others, parts⟩ := List.exists_cons_of_ne_nil (segments_nonempty path)
  rw [parts] at whole empty
  obtain rfl := empty first List.mem_cons_self
  cases others with
  | nil => exact plain.inhabited whole.symm
  | cons second others =>
    have relative := plain.relative
    rw [← whole] at relative
    simp [Text.joinWith, isAbsolute] at relative

/-- The place to which a plain path leads from another. -/
theorem IsPlain.location_join {path : String} (plain : IsPlain path) (here : Location)
    (base : String) : location here (join base path) = location here base ++ somethings path := by
  have straight : ".." ∉ segments path := fun member => (plain.dotless _ member).2 rfl
  rw [Path.location_join here base path plain.relative, walk_plain _ _ straight]
  rfl

/-- Names lead down from the place to which a path leads. -/
theorem location_down (here : Location) (path : String) (names : List String)
    (named : ∀ name ∈ names, isName name = true) :
    location here (down path names) = location here path ++ names := by
  induction names generalizing path with
  | nil => simp
  | cons name names inductionHypothesis =>
    rw [List.forall_mem_cons] at named
    rw [down_cons, inductionHypothesis _ named.2, location_inside here path name named.1,
      List.append_assoc, List.singleton_append]

/-- A path to which others are joined begins with its first segment. -/
theorem stem_head (path : String) (inhabited : path ≠ "") :
    ∃ segment, (segments path).head? = some segment ∧ (stem path).head? = some segment := by
  rcases stem_cases path with ⟨empty, _⟩ | ⟨front, rfl, stem⟩ | ⟨_, _, stem⟩
  · exact absurd empty inhabited
  · obtain ⟨segment, segments, parts⟩ := List.exists_cons_of_ne_nil (segments_nonempty front)
    exact ⟨segment, by rw [segments_append, parts]; rfl, by rw [stem, parts]; rfl⟩
  · obtain ⟨segment, segments, parts⟩ := List.exists_cons_of_ne_nil (segments_nonempty path)
    exact ⟨segment, by rw [parts]; rfl, by rw [stem, parts]; rfl⟩

/-- Whether a path begins with a dot does not depend on what is joined to it, unless that does. -/
theorem head_join (base path : String) (relative : isAbsolute path = false)
    (first : (segments path).head? ≠ some ".") :
    ((segments (join base path)).head? == some ".") = ((segments base).head? == some ".") := by
  rw [segments_join base path relative, List.head?_append]
  by_cases empty : base = ""
  · subst empty
    have nothing : segments "" = [""] := rfl
    simpa [stem, nothing] using first
  · obtain ⟨segment, whole, front⟩ := stem_head base empty
    rw [whole, front, Option.some_or]

/-- The components of a path that is joined to another, unless it begins with a dot. -/
theorem components_join (base path : String) (relative : isAbsolute path = false)
    (first : (segments path).head? ≠ some ".") :
    components (join base path) =
      components base ++ (somethings path).map Component.ofSegment := by
  have both := somethings_join base path relative
  simp only [somethings] at both ⊢
  simp only [components, join_absolute base path relative, head_join base path relative first, both,
    List.map_append, List.append_assoc]

/-- What a name is as a component. -/
theorem component_name (name : String) (down : name ≠ "..") :
    Component.ofSegment name = .name name := by
  simp [Component.ofSegment, down]

/-- The components of a path from which names lead down. -/
theorem components_down (path : String) (names : List String)
    (named : ∀ name ∈ names, isName name = true) :
    components (down path names) = components path ++ names.map Component.name := by
  induction names generalizing path with
  | nil => simp
  | cons name names inductionHypothesis =>
    rw [List.forall_mem_cons] at named
    obtain ⟨slashless, something, up⟩ := name_parts name named.1
    have whole := segments_whole name slashless
    have dotless : name ≠ "." := by
      rintro rfl
      simp [isNothing] at something
    rw [down_cons, inductionHypothesis _ named.2,
      components_join path name (name_relative name named.1) (by simpa [whole] using dotless)]
    simp [somethings, whole, something, component_name name up]

/-- The components of a plain path inside another. -/
theorem IsPlain.components_join {path : String} (plain : IsPlain path) (base : String) :
    components (join base path) = components base ++ (somethings path).map Component.name := by
  rw [Path.components_join base path plain.relative]
  · congr 1
    apply List.map_congr_left
    intro segment member
    exact component_name segment (plain.dotless segment (List.mem_filter.mp member).1).2
  · intro dot
    exact (plain.dotless "." (List.mem_of_mem_head? dot)).1 rfl

/-- What is behind the components of a path. -/
theorem below_append (front back : List Component) : below? front (front ++ back) = some back := by
  induction front with
  | nil => rfl
  | cons component front inductionHypothesis => simpa [below?] using inductionHypothesis

/-- A name is not empty. -/
theorem name_inhabited (name : String) (named : isName name = true) : name ≠ "" := by
  rintro rfl
  simp [isName, isNothing] at named

/-- Relative paths stand behind what they are joined to and a slash, unless there is one. -/
theorem join_front (base : String) :
    ∃ slash, (slash = "" ∨ slash = "/") ∧
      ∀ path, isAbsolute path = false → join base path = base ++ slash ++ path := by
  by_cases ready : (base.isEmpty || base.toList.getLast? == some '/') = true
  · exact ⟨"", Or.inl rfl, fun path relative => by simp [join, relative, ready]⟩
  · exact ⟨"/", Or.inr rfl, fun path relative => by simp [join, relative, ready]⟩

/-- A path gets longer by a name. -/
theorem size_inside (path name : String) (named : isName name = true) :
    path.utf8ByteSize < (join path name).utf8ByteSize := by
  obtain ⟨slash, _, joined⟩ := join_front path
  have something : name.utf8ByteSize ≠ 0 := by simpa using name_inhabited name named
  rw [joined name (name_relative name named), String.utf8ByteSize_append,
    String.utf8ByteSize_append]
  omega

/-- What begins as a name does is a relative path. -/
theorem headed_relative (name text : String) (named : isName name = true)
    (headed : text.toList.head? = name.toList.head?) : isAbsolute text = false := by
  have relative := name_relative name named
  rwa [isAbsolute, ← headed] at relative

/-- A path behind a name and a slash is joined to what the name is joined to. -/
theorem join_behind (base name path : String) (named : isName name = true)
    (relative : isAbsolute path = false) :
    join base (name ++ "/" ++ path) = join (join base name) path := by
  obtain ⟨slash, _, joined⟩ := join_front base
  have inhabited := name_inhabited name named
  obtain ⟨first, others, text⟩ := List.exists_cons_of_ne_nil (l := name.toList)
    (by simpa using inhabited)
  have unslashed : name.toList.getLast? ≠ some '/' := fun slash =>
    (name_parts name named).1 (List.mem_of_getLast? slash)
  have both : isAbsolute (name ++ "/" ++ path) = false :=
    headed_relative name _ named (by simp [text])
  rw [joined _ both, joined name (name_relative name named), join, relative]
  simp [unslashed, inhabited, String.append_assoc]

/-- The path to which names lead down is that of the names with slashes between them. -/
theorem join_joined (path : String) (names : List String) (inhabited : names ≠ [])
    (named : ∀ name ∈ names, isName name = true) :
    join path (Text.joinWith "/" names) = down path names := by
  induction names generalizing path with
  | nil => exact absurd rfl inhabited
  | cons name names inductionHypothesis =>
    rw [List.forall_mem_cons] at named
    cases names with
    | nil => rfl
    | cons next names =>
      have relative : isAbsolute (Text.joinWith "/" (next :: names)) = false :=
        headed_relative next _ (named.2 next List.mem_cons_self)
          (Text.join_head "/" next names (name_inhabited next (named.2 next List.mem_cons_self)))
      rw [Text.joinWith, join_behind path name _ named.1 relative,
        inductionHypothesis _ (by simp) named.2, down_cons path]

end Path

namespace Archive

/-- The name of the entry for a path inside of the output root. -/
theorem entry_name_inside (root path : String) (names : List String)
    (inside : Path.components path = Path.components root ++ names.map Path.Component.name) :
    entryName? root path = some (Text.joinWith "/" names) := by
  have texts : Path.Component.text ∘ Path.Component.name = id := rfl
  simp [entryName?, inside, Path.below_append, texts]

/-- The name of the entry for a path that leads down from a plain path inside of the output root. -/
theorem entry_name_down (root relative : String) (plain : Path.IsPlain relative)
    (names : List String) (named : ∀ name ∈ names, Path.isName name = true) :
    entryName? root (Path.down (Path.join root relative) names) =
      some (Text.joinWith "/" (Path.somethings relative ++ names)) := by
  apply entry_name_inside
  rw [Path.components_down _ names named, plain.components_join, List.append_assoc,
    List.map_append]

end Archive
end PacketSmith
