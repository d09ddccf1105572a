import PacketSmith.Proofs.Disk.Path
import PacketSmith.Proofs.Schema.Order

/-!
# Manifests seen from another directory

The paths of a manifest file are resolved against the directory of the file before the manifest is
validated. What validation looks at are the extensions of sources and whether the output root is
empty. The extension of a path that names something is its own wherever it is joined to; one that
names nothing takes over the extension of the directory, and nothing that is joined to a directory
is empty.

A manifest whose paths name places is therefore valid from all directories or from none. The others
can be valid from one directory and not from another: an empty output root is refused only where
there is no directory to resolve it against.
-/

namespace PacketSmith

namespace Path

/-- Whether a path names something. -/
def NamesSomething (path : String) : Prop :=
  somethings path ≠ []

/-- The extension of a path is that of the last name in it. -/
theorem extension_last (path : String) :
    extension? path = (somethings path).getLast?.bind fun last =>
      if last = ".." then none else nameExtension? last := by
  rw [extension?, components, ← somethings, List.getLast?_append, List.getLast?_map]
  cases (somethings path).getLast? with
  | none =>
    by_cases absolute : isAbsolute path = true
    · simp [absolute]
    · by_cases dot : (segments path).head? = some "." <;> simp [absolute, dot]
  | some last =>
    by_cases up : last = ".." <;> simp [Component.ofSegment, up]

/-- The extension of a path that is joined to another is its own, unless it names nothing. -/
theorem extension_join (base path : String) (relative : isAbsolute path = false) :
    (NamesSomething path → extension? (join base path) = extension? path) ∧
      (¬ NamesSomething path → extension? (join base path) = extension? base) := by
  simp only [extension_last, somethings_join base path relative, List.getLast?_append]
  constructor
  · intro something
    rw [List.getLast?_eq_some_getLast something, Option.some_or]
  · intro nothing
    obtain none : somethings path = [] := not_not.mp nothing
    simp [none]

/-- A path that names nothing has no extension. -/
theorem extension_nothing (path : String) (nothing : ¬ NamesSomething path) :
    extension? path = none := by
  have none : somethings path = [] := not_not.mp nothing
  simp [extension_last, none]

/-- A path that is joined to another is empty only if both are. -/
theorem join_empty_iff (base path : String) : join base path = "" ↔ base = "" ∧ path = "" := by
  rw [join]
  split
  · rename_i absolute
    constructor
    · rintro rfl
      simp [isAbsolute] at absolute
    · exact And.right
  · split
    · simp
    · rename_i inhabited
      have base_inhabited : base ≠ "" := by
        rintro rfl
        simp at inhabited
      simp [base_inhabited]

end Path

/-- Whether schemas can come from a file is a matter of the extension of its path. -/
theorem Source.supported_extension {path other : String}
    (same : Path.extension? path = Path.extension? other) :
    isSupported path = isSupported other := by
  rw [isSupported, isSupported, SourceSort.ofPath?, SourceSort.ofPath?, same]

/-- Schemas cannot come from a path without an extension. -/
theorem Source.unsupported_bare {path : String} (bare : Path.extension? path = none) :
    isSupported path = false := by
  simp [isSupported, SourceSort.ofPath?, bare]

namespace Manifest

/-- Whether a source takes over the extension of the directory that it is resolved against: it is a
relative path that names nothing. -/
def Borrows (source : String) : Prop :=
  Path.isAbsolute source = false ∧ ¬ Path.NamesSomething source

/-- Whether the paths of a manifest name places: the output root is not empty, and every source
names something or is absolute. -/
structure NamesPlaces (manifest : Manifest) : Prop where
  /-- The output root is not empty. -/
  rooted : manifest.output ≠ ""
  /-- No source takes over an extension. -/
  named : ∀ source ∈ manifest.sources, ¬ Borrows source

/-- A resolved source is supported if it is supported itself, or if the directory has the extension
of a source and the source takes it over. -/
theorem resolved_supported_iff (base source : String) :
    Source.isSupported (resolvePath base source) = true ↔
      Source.isSupported source = true ∨ Borrows source ∧ Source.isSupported base = true := by
  have unsupported : ¬ Path.NamesSomething source → Source.isSupported source = false :=
    fun nothing => Source.unsupported_bare (Path.extension_nothing source nothing)
  rw [resolvePath]
  by_cases absolute : Path.isAbsolute source = true
  · simp [absolute, Borrows]
  · have relative : Path.isAbsolute source = false := by simpa using absolute
    by_cases empty : base = ""
    · have bare : Source.isSupported "" = false := by decide
      simp [empty, bare]
    · obtain ⟨own, borrowed⟩ := Path.extension_join base source relative
      have joined : (Path.isAbsolute source || base.isEmpty) = false := by simp [relative, empty]
      rw [joined]
      by_cases something : Path.NamesSomething source
      · simp [Borrows, something, Source.supported_extension (own something)]
      · simp [Borrows, relative, something, unsupported something,
          Source.supported_extension (borrowed something)]

/-- A resolved output root is empty only if it is empty and there is nothing to resolve it
against. -/
theorem resolved_empty_iff (base output : String) :
    resolvePath base output = "" ↔ base = "" ∧ output = "" := by
  rw [resolvePath]
  split
  · rename_i kept
    constructor
    · rintro rfl
      exact ⟨by simpa [Path.isAbsolute] using kept, rfl⟩
    · exact And.right
  · exact Path.join_empty_iff base output

/-- A resolved manifest is valid if it lists sources, each supported or with the extension of the
directory taken over, if it has an output root or there is a directory to take for it, and if its
languages are known. -/
theorem resolved_valid_iff (base : String) (manifest : Manifest) :
    (manifest.resolve base).validate = .ok () ↔
      manifest.sources ≠ [] ∧
      (∀ source ∈ manifest.sources, Source.isSupported source = true ∨
        Borrows source ∧ Source.isSupported base = true) ∧
      ¬ (base = "" ∧ manifest.output = "") ∧
      ∃ languages, manifest.selection = .ok languages := by
  have output : (manifest.resolve base).output.isEmpty = false ↔
      ¬ (base = "" ∧ manifest.output = "") := by
    rw [← resolved_empty_iff, ← Bool.not_eq_true, String.isEmpty_iff]
    rfl
  have sources : (∀ source ∈ (manifest.resolve base).sources, Source.isSupported source = true) ↔
      ∀ source ∈ manifest.sources, Source.isSupported source = true ∨
        Borrows source ∧ Source.isSupported base = true := by
    simp only [resolve, List.forall_mem_map, resolved_supported_iff]
  rw [Command.manifest_valid_iff, sources, output]
  simp [resolve, selection]

/-- A valid manifest names places. -/
theorem valid_names_places {manifest : Manifest} (valid : manifest.validate = .ok ()) :
    manifest.NamesPlaces := by
  obtain ⟨_, supported, rooted, _⟩ := (Command.manifest_valid_iff manifest).mp valid
  constructor
  · simpa using rooted
  · rintro source member ⟨_, nothing⟩
    have bare := Source.unsupported_bare (Path.extension_nothing source nothing)
    rw [supported source member] at bare
    cases bare

/-- A manifest that names places is valid from a directory exactly if it is valid as it is. -/
theorem resolved_valid_alike {manifest : Manifest} (places : manifest.NamesPlaces)
    (base : String) : (manifest.resolve base).validate = .ok () ↔ manifest.validate = .ok () := by
  have own : ∀ source ∈ manifest.sources, (Source.isSupported source = true ∨
      Borrows source ∧ Source.isSupported base = true) ↔ Source.isSupported source = true := by
    intro source member
    simp [places.named source member]
  rw [resolved_valid_iff, Command.manifest_valid_iff, forall₂_congr own]
  simp [places.rooted]

/-- A manifest file that can be read holds what its text says, seen from some directory or as it
is. -/
theorem of_file_resolved (disk : Disk) (path text : String) {manifest : Manifest}
    (read : disk.readText path = .ok text) (parsed : ofText text = .ok manifest) :
    ofFile disk path = .ok manifest ∨
      ∃ base, Path.parent? path = some base ∧ ofFile disk path = .ok (manifest.resolve base) := by
  rw [ofFile, read]
  dsimp only
  rw [parsed]
  cases Path.parent? path with
  | none => exact .inl rfl
  | some base => exact .inr ⟨base, rfl, rfl⟩

end Manifest

/-- How the validity of a manifest depends on the directory that its paths are resolved against. -/
structure Manifest.ValidEverywhere (manifest : Manifest) : Prop where
  /-- What makes the manifest valid, seen from a directory. -/
  exact : ∀ base, (manifest.resolve base).validate = .ok () ↔
    manifest.sources ≠ [] ∧
    (∀ source ∈ manifest.sources, Source.isSupported source = true ∨
      Manifest.Borrows source ∧ Source.isSupported base = true) ∧
    ¬ (base = "" ∧ manifest.output = "") ∧
    ∃ languages, manifest.selection = .ok languages
  /-- A manifest that is valid as it is, is valid from everywhere. -/
  kept : manifest.validate = .ok () → ∀ base, (manifest.resolve base).validate = .ok ()
  /-- If the manifest names places, it is valid from a directory exactly if it is valid as it is. -/
  alike : manifest.NamesPlaces → ∀ base,
    (manifest.resolve base).validate = .ok () ↔ manifest.validate = .ok ()
  /-- If the manifest names places, its file is read alike under every path that leads to it. -/
  read : ∀ (disk : Disk) (path text : String), disk.readText path = .ok text →
    Manifest.ofText text = .ok manifest →
    ∃ loaded, Manifest.ofFile disk path = .ok loaded ∧
      (manifest.NamesPlaces → (loaded.validate = .ok () ↔ manifest.validate = .ok ()))
  /-- As it is, a manifest without an output root is refused. -/
  rooted : manifest.output = "" → manifest.validate ≠ .ok ()

/-- Where a manifest is read from makes no difference to whether it is valid, unless its output root
is empty or a source of it names nothing. -/
theorem validity_resolved (manifest : Manifest) : manifest.ValidEverywhere := by
  constructor
  case exact => exact fun base => manifest.resolved_valid_iff base
  case kept =>
    intro valid base
    exact (Manifest.resolved_valid_alike (Manifest.valid_names_places valid) base).mpr valid
  case alike => exact Manifest.resolved_valid_alike
  case read =>
    intro disk path text read parsed
    rcases Manifest.of_file_resolved disk path text read parsed with same | ⟨base, _, resolved⟩
    · exact ⟨manifest, same, fun _ => .rfl⟩
    · exact ⟨_, resolved, fun places => Manifest.resolved_valid_alike places base⟩
  case rooted => exact fun empty valid => (Manifest.valid_names_places valid).rooted empty

/-- An empty output root is refused, unless the file is named with a directory. -/
example :
    let rootless : Manifest := ⟨["ping.json"], "", [], none, false⟩
    rootless.validate.toOption = none ∧ (rootless.resolve "").validate.toOption = none ∧
      (rootless.resolve ".").validate.toOption = some () := by
  decide +kernel

end PacketSmith
