import PacketSmith.Proofs.Output

/-!
# What a run that succeeds leaves

Every selected language has its package in its output directory, under paths that differ, and
outside of the output directories nothing has changed but that missing directories on their paths
are there. The directory holds nothing else exactly if its path does not lead through places
inside of it, and nothing could be left over in it that the files do not replace. Runs that agree
on this, on the output root and on what they load agree on the directory and on the report,
whatever else was on the disk and whatever other languages were selected.
-/

namespace PacketSmith

/-- Names that a language accepts one by one are accepted together. -/
theorem check_all_names_accepts (language : Language) (messages : List Message)
    (accepted : checkAllNames language messages = .ok ()) :
    ∀ message ∈ messages, message.checkNames language = .ok () := by
  induction messages with
  | nil => simp
  | cons message messages inductionHypothesis =>
    rw [checkAllNames] at accepted
    split at accepted
    · cases accepted
    · rename_i first
      exact List.forall_mem_cons.mpr ⟨first, inductionHypothesis accepted⟩

/-- Names that are accepted in all languages are accepted in each of them. -/
theorem check_all_languages_accepts (messages : List Message) (languages : List Language)
    (accepted : checkAllLanguages messages languages = .ok ()) :
    ∀ language ∈ languages, ∀ message ∈ messages, message.checkNames language = .ok () := by
  induction languages with
  | nil => simp
  | cons language languages inductionHypothesis =>
    rw [checkAllLanguages] at accepted
    cases first : checkAllNames language messages with
    | error failure => simp [first, bind, Except.bind] at accepted
    | ok value =>
      rw [first] at accepted
      exact List.forall_mem_cons.mpr
        ⟨check_all_names_accepts language messages first, inductionHypothesis accepted⟩

/-- What is true of a run that succeeds, from a disk that is a tree, for a table that is made from
messages, with templates that are outside of the output directories. -/
structure Succeeds (config : Config) (table : Table) (initial final : Disk)
    (reports : List LanguageReport) : Prop where
  /-- The disk is a tree. -/
  tree : initial.IsTree
  /-- The table is made from messages. -/
  accepted : ∃ messages, Table.ofMessages messages = .ok table
  /-- The directory with templates, if there is one, is not in an output directory. -/
  outside : config.TemplatesOutside initial.here
  /-- The run succeeds. -/
  ran : generate config table initial = (final, .ok reports)

/-- Whether nothing is in a directory but entries with some names. -/
def Disk.HoldsOnly (disk : Disk) (place : Location) (names : List String) : Prop :=
  ∀ rest, rest ≠ [] → (disk.node? (place ++ rest) ≠ none ↔ ∃ name ∈ names, rest = [name])

/-- Whether a run clears the output directory of a language, but for files with some names. -/
structure Config.Clears (config : Config) (initial : Disk) (language : Language)
    (names : List String) : Prop where
  /-- The path of the directory does not lead through places inside of the directory. -/
  straight : ∀ location, Path.LeadsThrough initial.here (config.outputPath language) location →
    config.outputPlace initial.here language <+: location →
    location = config.outputPlace initial.here language
  /-- If the language is the first, and something on the path of the directory is missing at
  first, nothing else is in the directory at first. -/
  emptied : config.languages.toList.head? = some language →
    initial.resolve (config.outputPath language) = .error .missing →
    ∀ rest, rest ≠ [] → initial.node? (config.outputPlace initial.here language ++ rest) ≠ none →
      ∃ name ∈ names, rest = [name]

/-- What a report says about the disk at the end of a run. -/
structure LanguageReport.Exact (report : LanguageReport) (config : Config) (table : Table)
    (initial final : Disk) : Prop where
  /-- The directory is the output directory of the language. -/
  directory : report.directory = Path.join config.outputRoot report.language.layout.directory
  /-- The directory stands. -/
  stands : final.node? (config.outputPlace initial.here report.language) = some .directory
  /-- The files are those of the package. -/
  named : report.files = (report.language.package config.templateSource initial table).map
    fun file => Path.join report.directory file.1
  /-- The texts of the package could be made before the run, and now stand in the files. -/
  texts : ∀ file ∈ report.language.package config.templateSource initial table,
    ∃ text, file.2 = .ok text ∧
      final.node? (config.outputPlace initial.here report.language ++ [file.1]) =
        some (.file (.text text)) ∧
      final.readText (Path.join report.directory file.1) = .ok text
  /-- Nothing else is in the directory exactly if the run clears it. -/
  only : final.HoldsOnly (config.outputPlace initial.here report.language)
      (report.language.fileNames table) ↔
    config.Clears initial report.language (report.language.fileNames table)

/-- What a run that succeeds leaves. -/
structure RunExact (config : Config) (table : Table) (initial final : Disk)
    (reports : List LanguageReport) : Prop where
  /-- There is one report for each selected language, in order. -/
  languages : reports.map LanguageReport.language = config.languages.toList
  /-- No path is reported twice. -/
  distinct : (reports.flatMap LanguageReport.files).Nodup
  /-- Every report is exact. -/
  exact : ∀ report ∈ reports, report.Exact config table initial final
  /-- If no two dots are behind a name in the output root, all output directories are cleared. -/
  plain : ".." ∉ Path.route config.outputRoot → ∀ report ∈ reports,
    config.Clears initial report.language (report.language.fileNames table)
  /-- Outside of the output directories nothing has changed but that missing directories on their
  paths are there. -/
  elsewhere : ∀ location, config.Outside initial.here location →
    final.node? location = initial.node? location ∨
      initial.node? location = none ∧ final.node? location = some .directory ∧
        config.OnPath initial.here location
  /-- The current directory is the same. -/
  current : final.here = initial.here
  /-- Another run with the same output root, for a language that loads the same resources and
  whose directory both runs clear, leaves the same directory and gives the same report, wherever
  the two runs take place. -/
  independent : ∀ (otherConfig : Config) (otherInitial otherFinal : Disk)
    (otherReports : List LanguageReport),
    Succeeds otherConfig table otherInitial otherFinal otherReports →
    otherConfig.outputRoot = config.outputRoot →
    ∀ report ∈ reports, ∀ other ∈ otherReports, other.language = report.language →
    (∀ resource ∈ report.language.resources,
      otherConfig.templateSource.load otherInitial resource =
        config.templateSource.load initial resource) →
    config.Clears initial report.language (report.language.fileNames table) →
    otherConfig.Clears otherInitial report.language (report.language.fileNames table) →
    other = report ∧ ∀ rest,
      otherFinal.node? (config.outputPlace otherInitial.here report.language ++ rest) =
        final.node? (config.outputPlace initial.here report.language ++ rest)

section Steps

-- Comparing steps must not look into what they do to the disk.
attribute [local irreducible] generateLanguages

/-- A run that succeeds has accepted the configuration and all names and generated all
languages. -/
theorem generate_steps {config : Config} {table : Table} {disk after : Disk}
    {reports : List LanguageReport} (ran : generate config table disk = (after, .ok reports)) :
    config.validate disk = .ok () ∧
      checkAllLanguages table.messages config.languages.toList = .ok () ∧
      generateLanguages config table config.languages.toList disk = (after, .ok reports) := by
  rw [generate] at ran
  split at ran
  · cases ran
  · rename_i valid
    split at ran
    · cases ran
    · rename_i names
      exact ⟨valid, names, ran⟩

end Steps

section Runs

variable {config : Config} {table : Table} {initial final : Disk}
variable {reports : List LanguageReport}

/-- The files of every language that a run generates have proper and different names. -/
theorem generate_names (accepted : ∃ messages, Table.ofMessages messages = .ok table)
    (ran : generate config table initial = (final, .ok reports)) :
    ∀ language ∈ config.languages.toList, language.HasProperNames table := by
  intro language selected
  obtain ⟨messages, built⟩ := accepted
  obtain ⟨validated, rfl⟩ := (Table.of_messages_iff messages table).mp built
  obtain ⟨_, names, _⟩ := generate_steps ran
  have permutation := validated.table_permutation
  apply file_names_proper language
  · exact fun message member => validated.heads message (permutation.mem_iff.mp member)
  · have types : messages.Pairwise fun message other => message.typeName ≠ other.typeName :=
      validated.apart.imp fun apart => apart.types
    exact (permutation.pairwise_iff fun different => Ne.symm different).mpr types
  · exact check_all_languages_accepts _ _ names language selected

/-- The languages of a selection are different. -/
theorem Selection.list_distinct (selection : Selection) : selection.toList.Nodup :=
  List.Nodup.filter _ (by decide)

/-- Every language of a run that succeeds is filled in the end, whatever its templates are. -/
theorem generate_lists (tree : initial.IsTree)
    (accepted : ∃ messages, Table.ofMessages messages = .ok table)
    (ran : generate config table initial = (final, .ok reports)) :
    During config initial final ∧
    reports.map LanguageReport.language = config.languages.toList ∧
    ∀ report ∈ reports, ∃ files, report.Lists config table initial
      (config.leftFirst config.languages.toList initial report.language) files final := by
  obtain ⟨_, _, generated⟩ := generate_steps ran
  have during : During config initial initial := ⟨tree, rfl, fun _ _ => Or.inl rfl⟩
  obtain ⟨during, reported, listed, _⟩ := generate_languages_fill (generate_names accepted ran)
    config.languages.toList config.languages.list_distinct (fun _ selected => selected) during
    generated
  exact ⟨during, reported, listed⟩

/-- The texts of the files with which a run that succeeds has filled its languages could be made
before it, if its templates are outside of the output directories. -/
theorem Succeeds.fills (run : Succeeds config table initial final reports) :
    During config initial final ∧
    reports.map LanguageReport.language = config.languages.toList ∧
    ∀ report ∈ reports, ∃ files, report.Fills config table initial
      (config.leftFirst config.languages.toList initial report.language) files final := by
  obtain ⟨valid, _, _⟩ := generate_steps run.ran
  obtain ⟨during, reported, listed⟩ := generate_lists run.tree run.accepted run.ran
  refine ⟨during, reported, fun report member => ?_⟩
  obtain ⟨files, lists⟩ := listed report member
  exact ⟨files, lists, lists.makes.texts (loads_initially run.tree valid run.outside)⟩

variable {report : LanguageReport} {files : List (String × String)}

/-- The files with which a language is filled stand in its directory. -/
theorem LanguageReport.Lists.written {left : Location → Option Node}
    (lists : report.Lists config table initial left files final) :
    ∀ name ∈ report.language.fileNames table, ∃ text,
      final.node? (config.outputPlace initial.here report.language ++ [name]) =
        some (.file (.text text)) := by
  intro name member
  rw [← lists.names] at member
  obtain ⟨file, found, rfl⟩ := List.mem_map.mp member
  exact ⟨file.2, lists.filled.holds file found⟩

/-- What the path of a filled directory leads through is a directory. -/
theorem LanguageReport.Lists.through {left : Location → Option Node}
    (lists : report.Lists config table initial left files final) (location : Location)
    (passes : Path.LeadsThrough initial.here (config.outputPath report.language) location) :
    final.node? location = some .directory := by
  rw [← lists.filled.ready.current] at passes
  exact Disk.leads_through_directories lists.filled.ready.tree _ _ location
    lists.filled.ready.reached passes

/-- What is in a filled directory, is not one of its files and does not lie on its path is left
over. -/
theorem LanguageReport.Lists.unwritten {left : Location → Option Node}
    (lists : report.Lists config table initial left files final) (rest : Location)
    (aside : ¬ Path.LeadsThrough initial.here (config.outputPath report.language)
      (config.outputPlace initial.here report.language ++ rest))
    (other : ¬ ∃ name ∈ report.language.fileNames table, rest = [name]) :
    final.node? (config.outputPlace initial.here report.language ++ rest) =
      left (config.outputPlace initial.here report.language ++ rest) := by
  apply lists.filled.others _ (List.prefix_append _ _) aside
  intro file member same
  apply other
  refine ⟨file.1, ?_, List.append_cancel_left same⟩
  rw [← lists.names]
  exact List.mem_map_of_mem member

/-- What is below a directory does not lie on its path if the path does not lead through places
inside of the directory. -/
theorem Config.below_aside {language : Language}
    (straight : ∀ location, Path.LeadsThrough initial.here (config.outputPath language) location →
      config.outputPlace initial.here language <+: location →
      location = config.outputPlace initial.here language)
    (rest : Location) (lower : rest ≠ []) :
    ¬ Path.LeadsThrough initial.here (config.outputPath language)
      (config.outputPlace initial.here language ++ rest) := by
  intro passes
  have itself := straight _ passes (List.prefix_append _ _)
  exact lower (by simpa using itself)

/-- The path of a filled directory that holds nothing else does not lead through places inside of
the directory, because these would be directories. -/
theorem LanguageReport.Lists.straight {left : Location → Option Node}
    (lists : report.Lists config table initial left files final)
    (only : final.HoldsOnly (config.outputPlace initial.here report.language)
      (report.language.fileNames table)) :
    ∀ location, Path.LeadsThrough initial.here (config.outputPath report.language) location →
      config.outputPlace initial.here report.language <+: location →
      location = config.outputPlace initial.here report.language := by
  rintro _ passes ⟨rest, rfl⟩
  by_cases itself : rest = []
  · rw [itself, List.append_nil]
  · have directory := lists.through _ passes
    obtain ⟨name, member, rfl⟩ := (only rest itself).mp (by simp [directory])
    obtain ⟨text, file⟩ := lists.written name member
    rw [directory] at file
    cases file

/-- A directory that is filled holds nothing else exactly if the run clears it.

Proof: what lies on the path of the directory is a directory in the end, and what is left over
stays, so that both have to be excluded; and there is nothing else. -/
theorem LanguageReport.Lists.only_iff
    (lists : report.Lists config table initial
      (config.leftFirst config.languages.toList initial report.language) files final) :
    final.HoldsOnly (config.outputPlace initial.here report.language)
        (report.language.fileNames table) ↔
      config.Clears initial report.language (report.language.fileNames table) := by
  constructor
  · intro only
    have straight := lists.straight only
    constructor
    case straight => exact straight
    case emptied =>
      intro first missing rest lower stands
      by_cases named : ∃ name ∈ report.language.fileNames table, rest = [name]
      · exact named
      · apply (only rest lower).mp
        rw [lists.unwritten rest (Config.below_aside straight rest lower) named]
        simpa [Config.leftFirst, first, Disk.leftover, missing] using stands
  · intro clears rest lower
    constructor
    · intro stands
      by_cases named : ∃ name ∈ report.language.fileNames table, rest = [name]
      · exact named
      · rw [lists.unwritten rest (Config.below_aside clears.straight rest lower) named,
          Config.leftFirst] at stands
        split at stands
        · rename_i first
          rw [Disk.leftover] at stands
          split at stands
          · rename_i missing
            exact clears.emptied first missing rest lower stands
          · exact absurd rfl stands
        · exact absurd rfl stands
    · rintro ⟨name, member, rfl⟩
      obtain ⟨text, file⟩ := lists.written name member
      simp [file]

/-- Output directories are cleared if no two dots are behind a name in the output root. -/
theorem Config.clears_plain (tree : initial.IsTree)
    (plain : ".." ∉ Path.route config.outputRoot) (language : Language) (names : List String) :
    config.Clears initial language names := by
  have direct := config.output_plain plain language
  constructor
  · intro location passes inside
    exact (List.IsPrefix.eq_of_length_le inside
      (Path.leads_through_plain _ _ direct location passes).length_le).symm
  · intro _ missing rest lower stands
    exact absurd missing (Disk.resolve_plain tree _ (config.output_inhabited language) direct
      (tree.above _ rest lower stands))

/-- The paths in a report are those of the names of files. -/
theorem LanguageReport.Lists.paths {left : Location → Option Node}
    (lists : report.Lists config table initial left files final) :
    report.files = (report.language.fileNames table).map
      (Path.join (config.outputPath report.language)) := by
  rw [lists.named, ← lists.names, List.map_map]
  rfl

/-- The paths in a report lead into the output directory. -/
theorem LanguageReport.Lists.path_location {left : Location → Option Node}
    (lists : report.Lists config table initial left files final)
    (proper : report.language.HasProperNames table) (here : Location) (path : String)
    (member : path ∈ report.files) :
    ∃ name, Path.location here path = config.outputPlace here report.language ++ [name] := by
  rw [lists.paths] at member
  obtain ⟨name, named, rfl⟩ := List.mem_map.mp member
  exact ⟨name, Path.location_inside here _ name (proper.1 name named)⟩

/-- The paths in a report differ. -/
theorem LanguageReport.Lists.paths_distinct {left : Location → Option Node}
    (lists : report.Lists config table initial left files final)
    (proper : report.language.HasProperNames table) : report.files.Nodup := by
  rw [lists.paths, List.Nodup, List.pairwise_map]
  refine proper.2.imp_of_mem fun {name other} member otherMember different same => different ?_
  have places := congrArg (Path.location []) same
  rw [Path.location_inside _ _ name (proper.1 name member),
    Path.location_inside _ _ other (proper.1 other otherMember)] at places
  simpa using places

/-- The paths in the reports of a run differ. -/
theorem generate_paths_distinct (tree : initial.IsTree)
    (accepted : ∃ messages, Table.ofMessages messages = .ok table)
    (ran : generate config table initial = (final, .ok reports)) :
    (reports.flatMap LanguageReport.files).Nodup := by
  obtain ⟨_, reported, listed⟩ := generate_lists tree accepted ran
  have proper : ∀ report ∈ reports, report.language.HasProperNames table := by
    intro report member
    apply generate_names accepted ran
    rw [← reported]
    exact List.mem_map_of_mem member
  have languages : reports.Pairwise fun report other => report.language ≠ other.language := by
    rw [← List.pairwise_map, ← List.Nodup, reported]
    exact config.languages.list_distinct
  rw [List.nodup_flatMap]
  constructor
  · intro report member
    obtain ⟨files, lists⟩ := listed report member
    exact lists.paths_distinct (proper report member)
  · refine languages.imp_of_mem fun {report other} member otherMember different => ?_
    intro path own shared
    obtain ⟨files, lists⟩ := listed report member
    obtain ⟨otherFiles, otherLists⟩ := listed other otherMember
    obtain ⟨name, place⟩ := lists.path_location (proper report member) [] path own
    obtain ⟨otherName, otherPlace⟩ :=
      otherLists.path_location (proper other otherMember) [] path shared
    have inside : config.outputPlace [] report.language <+: Path.location [] path :=
      place ▸ List.prefix_append _ _
    exact output_apart (Ne.symm different) _ inside (otherPlace ▸ List.prefix_append _ _)

/-- The paths in the reports of a run differ, too, if its templates are outside of the output
directories. -/
theorem Succeeds.paths_distinct (run : Succeeds config table initial final reports) :
    (reports.flatMap LanguageReport.files).Nodup :=
  generate_paths_distinct run.tree run.accepted run.ran

/-- The report about a filled directory is exact. -/
theorem LanguageReport.Fills.exact
    (fills : report.Fills config table initial
      (config.leftFirst config.languages.toList initial report.language) files final) :
    report.Exact config table initial final := by
  constructor
  case directory => exact fills.directory
  case stands => exact fills.filled.ready.stands
  case named =>
    rw [fills.directory, fills.made, fills.named, asDelivered, List.map_map]
    rfl
  case texts =>
    intro file member
    rw [fills.made, asDelivered] at member
    obtain ⟨delivered, found, rfl⟩ := List.mem_map.mp member
    have stands := fills.filled.holds delivered found
    refine ⟨delivered.2, rfl, stands, ?_⟩
    rw [fills.directory]
    exact fills.filled.ready.reads _ _ (fills.filled.readable delivered found) stands
  case only => exact fills.only_iff

end Runs

section Agreement

variable {config otherConfig : Config} {table : Table}
variable {initial final otherInitial otherFinal : Disk} {report other : LanguageReport}
variable {files otherFiles : List (String × String)} {left otherLeft : Location → Option Node}

/-- Output directories depend on the output root and the language only. -/
theorem Config.output_agrees (root : otherConfig.outputRoot = config.outputRoot)
    (language : Language) : otherConfig.outputPath language = config.outputPath language := by
  rw [outputPath, outputPath, root]

/-- Reports about one language agree if the output root and what is loaded do. -/
theorem LanguageReport.Fills.agree
    (fills : report.Fills config table initial left files final)
    (others : other.Fills otherConfig table otherInitial otherLeft otherFiles otherFinal)
    (root : otherConfig.outputRoot = config.outputRoot) (same : other.language = report.language)
    (loads : ∀ resource ∈ report.language.resources,
      otherConfig.templateSource.load otherInitial resource =
        config.templateSource.load initial resource) :
    otherFiles = files ∧ other = report := by
  have made := others.made
  rw [same, package_agrees report.language _ _ _ _ table loads, fills.made] at made
  have equal := delivered_injective _ _ made
  refine ⟨equal.symm, ?_⟩
  have directory : other.directory = report.directory := by
    rw [others.directory, fills.directory, same, Config.output_agrees root]
  have named : other.files = report.files := by
    rw [others.named, fills.named, same, Config.output_agrees root, equal]
  cases report
  cases other
  simp_all

/-- Directories agree that are filled with the same files and hold nothing else. -/
theorem LanguageReport.Fills.contents_agree
    (fills : report.Fills config table initial left files final)
    (others : report.Fills otherConfig table otherInitial otherLeft files otherFinal)
    (root : otherConfig.outputRoot = config.outputRoot)
    (only : final.HoldsOnly (config.outputPlace initial.here report.language)
      (report.language.fileNames table))
    (otherOnly : otherFinal.HoldsOnly (config.outputPlace otherInitial.here report.language)
      (report.language.fileNames table)) (rest : Location) :
    otherFinal.node? (config.outputPlace otherInitial.here report.language ++ rest) =
      final.node? (config.outputPlace initial.here report.language ++ rest) := by
  have place : otherConfig.outputPlace otherInitial.here report.language =
      config.outputPlace otherInitial.here report.language := by
    rw [Config.outputPlace, Config.output_agrees root]
    rfl
  by_cases itself : rest = []
  · have otherStands := others.filled.ready.stands
    rw [place] at otherStands
    rw [itself, List.append_nil, List.append_nil, otherStands, fills.filled.ready.stands]
  by_cases named : ∃ name ∈ report.language.fileNames table, rest = [name]
  · obtain ⟨name, member, rfl⟩ := named
    rw [← fills.names] at member
    obtain ⟨file, found, rfl⟩ := List.mem_map.mp member
    have otherHolds := others.filled.holds file found
    rw [place] at otherHolds
    rw [otherHolds, fills.filled.holds file found]
  · have absent := (not_congr (only rest itself)).mpr named
    have otherAbsent := (not_congr (otherOnly rest itself)).mpr named
    rw [not_not] at absent otherAbsent
    rw [absent, otherAbsent]

end Agreement

/-- A run that succeeds leaves exactly the packages of the selected languages, and nothing else
in those output directories that it clears.

Proof: every language of the run is filled with its package by its own session and stays filled
during those of the others; what a filled directory holds besides, and how filled directories
agree, has been proved for one language. -/
theorem generate_exact (config : Config) (table : Table) (initial final : Disk)
    (reports : List LanguageReport) (run : Succeeds config table initial final reports) :
    RunExact config table initial final reports := by
  obtain ⟨during, reported, filled⟩ := run.fills
  constructor
  case languages => exact reported
  case distinct => exact run.paths_distinct
  case exact =>
    intro report member
    obtain ⟨files, fills⟩ := filled report member
    exact fills.exact
  case plain =>
    intro plain report member
    obtain ⟨files, fills⟩ := filled report member
    exact config.clears_plain run.tree plain _ _
  case elsewhere => exact during.outside
  case current => exact during.current
  case independent =>
    intro otherConfig otherInitial otherFinal otherReports otherRun root report member other
      otherMember same loads clears otherClears
    obtain ⟨files, fills⟩ := filled report member
    obtain ⟨_, _, otherFilled⟩ := otherRun.fills
    obtain ⟨otherFiles, otherFills⟩ := otherFilled other otherMember
    obtain ⟨rfl, rfl⟩ := fills.agree otherFills root same loads
    have otherOnly := otherFills.only_iff.mpr otherClears
    rw [Config.outputPlace, Config.output_agrees root] at otherOnly
    exact ⟨rfl, fills.contents_agree otherFills root (fills.only_iff.mpr clears) otherOnly⟩

/-- A message without fields. -/
def pingMessage : Message :=
  { id := 1, name := "ping", docs := [], fields := [] }

/-- The table of the message. -/
def pingTable : Table :=
  ⟨[none, some pingMessage]⟩

/-- A disk with templates next to the current directory, and with a file that is left from an
earlier run somewhere else. -/
def pingDisk : Disk where
  entries := [(["w"], .directory), (["t"], .directory), (["t", "go"], .directory),
    (["t", "go", "ByteBuffer.go"], .file (.text "type ByteBuffer struct")),
    (["t", "go", "ProtocolTemplate.go"], .file (.text "type \x7b\x7bclass_name\x7d\x7d struct")),
    (["t", "go", "ProtocolManagerTemplate.go"], .file (.text "\x7b\x7bregistrations\x7d\x7d")),
    (["out"], .directory), (["out", "goProtocol"], .directory),
    (["out", "goProtocol", "Old.go"], .file (.text "old"))]
  here := ["w"]

/-- A configuration with the templates, for an output root. -/
def pingConfig (root : String) : Config :=
  ⟨root, ⟨true, false⟩, some "../t"⟩

/-- The report about the message. -/
def pingReport : LanguageReport :=
  ⟨.go, "/out/goProtocol", ["/out/goProtocol/Ping.go", "/out/goProtocol/ByteBuffer.go",
    "/out/goProtocol/ProtocolManager.go"]⟩

/-- A run for one message, in a directory that is left from an earlier run. -/
theorem generate_exact_ping :
    Succeeds (pingConfig "/out") pingTable pingDisk
      (generate (pingConfig "/out") pingTable pingDisk).1 [pingReport] ∧
    (generate (pingConfig "/out") pingTable pingDisk).1.HoldsOnly ["out", "goProtocol"]
      ["Ping.go", "ByteBuffer.go", "ProtocolManager.go"] := by
  have outside : (pingConfig "/out").TemplatesOutside pingDisk.here := by
    rintro directory templates language _
    obtain rfl : "../t" = directory := Option.some.inj templates
    cases language <;> decide
  have run : Succeeds (pingConfig "/out") pingTable pingDisk
      (generate (pingConfig "/out") pingTable pingDisk).1 [pingReport] :=
    ⟨Disk.tree_of_entries pingDisk (by decide), ⟨[pingMessage], by decide +kernel⟩, outside,
      Prod.ext rfl (by decide +kernel)⟩
  have exact := generate_exact (pingConfig "/out") pingTable pingDisk _ [pingReport] run
  have only := (exact.exact pingReport List.mem_cons_self).only.mpr
    (exact.plain (by decide) pingReport List.mem_cons_self)
  have place : (pingConfig "/out").outputPlace pingDisk.here .go = ["out", "goProtocol"] := by
    decide
  have names : Language.fileNames .go pingTable =
      ["Ping.go", "ByteBuffer.go", "ProtocolManager.go"] := by decide +kernel
  exact ⟨run, names ▸ place ▸ only⟩

/-- A file from an earlier run is left over where something on the path is missing at first. -/
example : (generate (pingConfig "/out/a/..") pingTable pingDisk).1.node?
    ["out", "goProtocol", "Old.go"] = some (.file (.text "old")) := by
  decide +kernel

end PacketSmith
