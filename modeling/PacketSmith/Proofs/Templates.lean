import PacketSmith.Proofs.Session

/-!
# Loading during a run

While a run goes on, nothing outside of the output directories changes but that directories on
their paths are new. Templates in a directory that is not inside of an output directory are
outside, each with the directory that it is in. What is loaded during the run was therefore
there before the run.
-/

namespace PacketSmith

/-- A text is read where the path leads to a file that is a text. -/
theorem Disk.read_text_iff (disk : Disk) (path text : String) :
    disk.readText path = .ok text ↔
      ∃ location, disk.resolve path = .ok (.file location (.text text)) := by
  rw [readText, read]
  cases resolved : disk.resolve path with
  | error fault => simp [bind, Except.bind]
  | ok destination =>
    cases destination with
    | file location content => cases content <;> simp [bind, Except.bind]
    | _ => simp [bind, Except.bind]

/-- The path of a directory starts in a directory, and what is left of its route when another path
is joined to it leads to the directory. -/
theorem Disk.way_leads (disk : Disk) (path : String) (stands : disk.isDirectory path = true) :
    disk.HasStart path ∧ disk.Leads (Path.start disk.here path) (Path.way path)
      (.directory (Path.location disk.here path)) := by
  rw [isDirectory] at stands
  split at stands
  · rename_i location resolved
    obtain ⟨padding, whole, _⟩ := Path.way_padding path
    obtain ⟨_, started, leads⟩ := (disk.resolve_iff _ _).mp resolved
    rw [whole] at leads
    rw [← Path.walk_way]
    exact ⟨started, leads.front _ padding⟩
  · cases stands

section Loading

-- Comparing the loading of a resource with itself must not look into the reading of the file.
attribute [local irreducible] Disk.readText Path.join

/-- A resource is loaded from a directory by reading its file. -/
theorem TemplateSource.load_directory (base path text : String) (disk : Disk) :
    (directory base).load disk path = .ok text ↔
      disk.readText (Path.join base path) = .ok text := by
  delta load
  dsimp only
  cases disk.readText (Path.join base path) with
  | ok found => simp
  | error fault => cases fault <;> simp

end Loading

namespace Config

/-- Whether a location is in none of the output directories of a run. -/
def Outside (config : Config) (here location : Location) : Prop :=
  ∀ language ∈ config.languages.toList, ¬ config.outputPlace here language <+: location

/-- Whether the path of an output directory of a run leads through a location. -/
def OnPath (config : Config) (here location : Location) : Prop :=
  ∃ language ∈ config.languages.toList,
    Path.LeadsThrough here (config.outputPath language) location

/-- Whether the directory with templates, if there is one, is outside of the output directories. -/
def TemplatesOutside (config : Config) (here : Location) : Prop :=
  ∀ directory, config.templateDirectory = some directory →
    config.Outside here (Path.location here directory)

end Config

/-- What is true of a disk during a run: it is a tree, and outside of the output directories
nothing has happened but that directories on their paths are new. -/
structure During (config : Config) (initial disk : Disk) : Prop where
  /-- The disk is a tree. -/
  tree : disk.IsTree
  /-- The current directory is the same. -/
  current : disk.here = initial.here
  /-- Outside, nothing but directories is new. -/
  outside : ∀ location, config.Outside initial.here location →
    disk.node? location = initial.node? location ∨
      initial.node? location = none ∧ disk.node? location = some .directory ∧
        config.OnPath initial.here location

/-- Where a resource is in a directory of templates. -/
structure IsResource (resource folder name : String) : Prop where
  /-- It is relative. -/
  relative : Path.isAbsolute resource = false
  /-- It is in a folder. -/
  segments : Path.segments resource = [folder, name]
  /-- The folder is a step. -/
  folderStep : Disk.IsStep folder
  /-- The name is a step. -/
  nameStep : Disk.IsStep name
  /-- Neither is the name of an output directory. -/
  other : ∀ language : Language,
    language.layout.directory ≠ folder ∧ language.layout.directory ≠ name

/-- A path to which a resource is joined starts where it did, and goes on with the folder and the
name. -/
theorem IsResource.joined {resource folder name : String}
    (placed : IsResource resource folder name) (base : String) :
    (∀ here, Path.start here (Path.join base resource) = Path.start here base) ∧
      Path.route (Path.join base resource) = Path.way base ++ [folder, name] ∧
      ∀ here, Path.location here (Path.join base resource) =
        Path.location here base ++ [folder, name] := by
  have descends : Path.climbs folder = false := by
    simp [Path.climbs, placed.folderStep.something, placed.folderStep.down]
  have joined := fun here =>
    Path.join_descending here base resource folder [name] placed.relative placed.segments descends
  rw [placed.segments] at joined
  refine ⟨fun here => (joined here).1, (joined []).2, fun here => ?_⟩
  rw [Path.location_join here base resource placed.relative, placed.segments]
  simp [Path.walk, placed.folderStep.something, placed.folderStep.down, placed.nameStep.something,
    placed.nameStep.down]

/-- The resources of a language are files in a folder. -/
theorem resources_placed (language : Language) :
    ∀ resource ∈ language.resources, ∃ folder name, IsResource resource folder name := by
  cases language with
  | go =>
    simp only [Language.resources, Language.layout, List.forall_mem_cons]
    refine ⟨⟨"go", "ProtocolTemplate.go", ?_⟩, ⟨"go", "ProtocolManagerTemplate.go", ?_⟩,
      ⟨"go", "ByteBuffer.go", ?_⟩, by simp⟩ <;>
    exact ⟨by decide, by decide, ⟨by decide, by decide, by decide⟩,
      ⟨by decide, by decide, by decide⟩, fun language => by cases language <;> decide⟩
  | python =>
    simp only [Language.resources, Language.layout, List.forall_mem_cons]
    refine ⟨⟨"python", "ProtocolTemplate.py", ?_⟩, ⟨"python", "ProtocolManagerTemplate.py", ?_⟩,
      ⟨"python", "ByteBuffer.py", ?_⟩, ⟨"python", "__init__.py", ?_⟩, by simp⟩ <;>
    exact ⟨by decide, by decide, ⟨by decide, by decide, by decide⟩,
      ⟨by decide, by decide, by decide⟩, fun language => by cases language <;> decide⟩

/-- What a resource in a directory outside leads to is outside. -/
theorem IsResource.outside {config : Config} {here : Location} {resource folder name : String}
    (placed : IsResource resource folder name) (base : Location)
    (outside : config.Outside here base) : config.Outside here (base ++ [folder, name]) := by
  intro language selected inside
  have parts : base ++ [folder, name] = base ++ [folder] ++ [name] := by simp
  rw [parts, List.prefix_concat_iff, List.prefix_concat_iff, config.output_place] at inside
  rcases inside with whole | whole | within
  · exact (placed.other language).2 (List.append_inj_right' whole rfl |> List.cons.inj).1
  · exact (placed.other language).1 (List.append_inj_right' whole rfl |> List.cons.inj).1
  · exact outside language selected (config.output_place here language ▸ within)

/-- A file of templates that is read during a run could be read before it. -/
theorem During.reads {config : Config} {initial disk : Disk} (during : During config initial disk)
    (tree : initial.IsTree) (directory : String)
    (stands : initial.isDirectory directory = true)
    (outside : config.Outside initial.here (Path.location initial.here directory))
    (resource folder name text : String)
    (placed : IsResource resource folder name)
    (read : disk.readText (Path.join directory resource) = .ok text) :
    initial.readText (Path.join directory resource) = .ok text := by
  obtain ⟨location, resolved⟩ := (disk.read_text_iff _ text).mp read
  obtain ⟨same, route, joined⟩ := placed.joined directory
  have place : location = Path.location initial.here directory ++ [folder, name] := by
    have led := disk.resolve_location _ _ resolved
    rw [during.current, joined] at led
    exact led
  -- The file was there before the run, and so was the folder it is in.
  have there : initial.node? (Path.location initial.here directory ++ [folder, name]) =
      some (.file (.text text)) := by
    have now : disk.node? location = some (.file (.text text)) :=
      Disk.resolve_stands during.tree _ _ resolved
    rw [place] at now
    rcases during.outside _ (placed.outside _ outside) with same | ⟨_, made, _⟩
    · rw [← same, now]
    · rw [now] at made
      cases made
  have inFolder : initial.node? (Path.location initial.here directory ++ [folder]) =
      some .directory := by
    apply tree _ name
    simp [there]
  obtain ⟨started, base⟩ := initial.way_leads directory stands
  apply (initial.read_text_iff _ text).mpr
  refine ⟨location, (initial.resolve_iff _ _).mpr
    ⟨((disk.resolve_iff _ _).mp resolved).usable, ?_, ?_⟩⟩
  · rw [Disk.HasStart, same]
    exact started
  · rw [same, route, base.append, place]
    refine .down _ folder _ _ placed.folderStep inFolder ?_
    have last := Disk.Leads.file (Path.location initial.here directory ++ [folder]) name
      (.text text) placed.nameStep (by simpa using there)
    simpa using last

/-- Whether everything that is loaded during a run could be loaded before it. -/
def Config.LoadsInitially (config : Config) (initial : Disk) : Prop :=
  ∀ disk, During config initial disk → ∀ language : Language, ∀ resource ∈ language.resources,
    ∀ text, config.templateSource.load disk resource = .ok text →
      config.templateSource.load initial resource = .ok text

/-- A configuration that is accepted, with its templates outside of the output directories, loads
during a run what could be loaded before it. -/
theorem loads_initially {config : Config} {initial : Disk} (tree : initial.IsTree)
    (valid : config.validate initial = .ok ()) (outside : config.TemplatesOutside initial.here) :
    config.LoadsInitially initial := by
  intro disk during language resource member text loaded
  cases templates : config.templateDirectory with
  | none =>
    simp only [Config.templateSource, templates] at loaded ⊢
    exact loaded
  | some directory =>
    have stands : initial.isDirectory directory = true := by
      rw [Config.validate] at valid
      simp only [refusal_accepts_iff, templates] at valid
      by_cases found : initial.isDirectory directory = true
      · exact found
      · simp [found] at valid
    obtain ⟨folder, name, placed⟩ := resources_placed language resource member
    simp only [Config.templateSource, templates] at loaded ⊢
    rw [TemplateSource.load_directory] at loaded ⊢
    exact during.reads tree directory stands (outside directory templates) resource folder name
      text placed loaded

/-- A run that starts a session is still a run. -/
theorem During.start {config : Config} {language : Language} {initial disk after : Disk}
    (during : During config initial disk) (selected : language ∈ config.languages.toList)
    (started : Started config initial.here language disk after) : During config initial after := by
  constructor
  case tree => exact started.tree
  case current => exact started.current
  case outside =>
    intro location outside
    rcases started.elsewhere location (outside language selected) with same | ⟨free, made, through⟩
    · rw [same]
      exact during.outside location outside
    · rcases during.outside location outside with same | ⟨_, there, _⟩
      · exact Or.inr ⟨same ▸ free, made, language, selected, through⟩
      · rw [free] at there
        cases there

/-- A run that puts a file in an output directory, in the place of a file or of nothing, is still
a run. -/
theorem During.put {config : Config} {language : Language} {initial disk : Disk}
    (during : During config initial disk) (selected : language ∈ config.languages.toList)
    (ready : Ready config initial.here language disk) (name text : String)
    (free : disk.node? (config.outputPlace initial.here language ++ [name]) ≠ some .directory) :
    During config initial
      (disk.put (config.outputPlace initial.here language ++ [name]) (.file (.text text))) := by
  constructor
  case tree => exact (ready.put name text free).tree
  case current => exact during.current
  case outside =>
    intro location outside
    have elsewhere : location ≠ config.outputPlace initial.here language ++ [name] := by
      rintro rfl
      exact outside language selected (List.prefix_append _ _)
    rw [Disk.node_put _ _ _ _ (by simp), if_neg elsewhere]
    exact during.outside location outside

end PacketSmith
