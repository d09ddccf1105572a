import PacketSmith.Proofs.Archive.Complete
import PacketSmith.Proofs.Generate
import PacketSmith.Proofs.Session.Changes

/-!
# Archives of runs

The directories that a run reports are always given as an archive needs them: by their names in the
output root, next to each other. The archive of a run has an entry for every reported file, and for
nothing else if no other file is left in an output directory. What is left over in a directory that
is not cleared is packed as well.
-/

namespace PacketSmith

/-- The name of the directory of a report in the output root. -/
def LanguageReport.directoryName (report : LanguageReport) : String :=
  report.language.layout.directory

/-- Whether a run leaves no file in the output directory of a language but files with some names: if
the language is the first, and something on the path of the directory is missing at first, no other
file is in the directory at first, aside from the path. -/
def Config.LeavesNoFile (config : Config) (initial : Disk) (language : Language)
    (names : List String) : Prop :=
  config.languages.toList.head? = some language →
    initial.resolve (config.outputPath language) = .error .missing →
    ∀ rest content,
      ¬ Path.LeadsThrough initial.here (config.outputPath language)
        (config.outputPlace initial.here language ++ rest) →
      initial.node? (config.outputPlace initial.here language ++ rest) = some (.file content) →
      ∃ name ∈ names, rest = [name]

/-- Whether the files in a directory have some names. -/
def Disk.FilesOnly (disk : Disk) (place : Location) (names : List String) : Prop :=
  ∀ rest content, disk.node? (place ++ rest) = some (.file content) → ∃ name ∈ names, rest = [name]

namespace Archive

/-- What is true of the archive of the directories that a run reports. -/
structure PacksRun (config : Config) (table : Table) (initial final : Disk)
    (reports : List LanguageReport) : Prop where
  /-- The directories are named in the output root. -/
  directories : reports.map LanguageReport.directory =
    (reports.map LanguageReport.directoryName).map (Path.join config.outputRoot)
  /-- Packing them names everything, and packs everything if nothing is in the way. -/
  packs : Packs config.outputRoot (reports.map LanguageReport.directoryName) final
  /-- What is packed is complete. It has an entry for every reported file and for nothing else
  exactly if the run leaves no other file. -/
  reported : ∀ written path,
    write config.outputRoot (reports.map LanguageReport.directory) final = (written, .ok path) →
    path = archivePath config.outputRoot ∧ ∃ entries,
      Holds config.outputRoot final written entries ∧
      IsComplete config.outputRoot (reports.map LanguageReport.directoryName) final entries ∧
      ((entries.map fun entry => Path.join config.outputRoot entry.1).Perm
          (reports.flatMap LanguageReport.files) ↔
        ∀ report ∈ reports,
          config.LeavesNoFile initial report.language (report.language.fileNames table))
  /-- If the run clears the output directories, it leaves no other file, and packing succeeds if the
  archive file can be created. -/
  cleared : (∀ report ∈ reports,
      config.Clears initial report.language (report.language.fileNames table)) →
    (∀ report ∈ reports,
      config.LeavesNoFile initial report.language (report.language.fileNames table)) ∧
    ((∃ created, final.write (archivePath config.outputRoot) (.text "") = .ok created) →
      ∃ written, write config.outputRoot (reports.map LanguageReport.directory) final =
        (written, .ok (archivePath config.outputRoot)))
  /-- If no two dots are behind a name in the output root, the run clears the output directories. -/
  plain : ".." ∉ Path.route config.outputRoot → ∀ report ∈ reports,
    config.Clears initial report.language (report.language.fileNames table)

/-- A name is a plain path. -/
theorem name_plain (name : String) (named : Path.isName name = true) : Path.IsPlain name := by
  obtain ⟨slashless, something, up⟩ := Path.name_parts name named
  refine ⟨Path.name_inhabited name named, Path.name_relative name named, ?_⟩
  rw [Path.segments_whole name slashless, List.forall_mem_singleton]
  refine ⟨?_, up⟩
  rintro rfl
  simp [Path.isNothing] at something

/-- A name names itself. -/
theorem somethings_name (name : String) (named : Path.isName name = true) :
    Path.somethings name = [name] := by
  obtain ⟨slashless, something, _⟩ := Path.name_parts name named
  simp [Path.somethings, Path.segments_whole name slashless, something]

section Run

variable {config : Config} {table : Table} {initial final : Disk} {reports : List LanguageReport}
variable {report : LanguageReport} {files : List (String × String)} {left : Location → Option Node}

/-- The directories that a run reports are given as an archive needs them. -/
theorem run_given (reported : reports.map LanguageReport.language = config.languages.toList)
    (listed : ∀ report ∈ reports, ∃ left files,
      report.Lists config table initial left files final) :
    Given config.outputRoot (reports.map LanguageReport.directoryName) final := by
  constructor
  case plain =>
    rw [List.forall_mem_map]
    exact fun report _ => name_plain _ (Config.directory_named report.language)
  case directories =>
    rw [List.forall_mem_map]
    intro report member
    obtain ⟨left, files, lists⟩ := listed report member
    have reached := lists.filled.ready.reached
    rw [Config.outputPath] at reached
    simp [Disk.isDirectory, LanguageReport.directoryName, reached]
  case apart =>
    have languages : reports.Pairwise fun report other => report.language ≠ other.language := by
      rw [← List.pairwise_map, ← List.Nodup, reported]
      exact config.languages.list_distinct
    rw [List.pairwise_map]
    exact languages.imp fun different =>
      ⟨output_apart different _ List.prefix_rfl, output_apart (Ne.symm different) _ List.prefix_rfl⟩

/-- A directory that holds only its files, all of which can be looked up, is shallow. -/
theorem lists_shallow (lists : report.Lists config table initial left files final)
    (only : final.HoldsOnly (config.outputPlace initial.here report.language)
      (report.language.fileNames table)) :
    IsShallow final (config.outputPath report.language)
      (config.outputPlace initial.here report.language) := by
  intro names stands
  by_cases itself : names = []
  · subst itself
    exact ((final.resolve_iff _ _).mp lists.filled.ready.reached).1.short
  · obtain ⟨name, member, rfl⟩ := (only names itself).mp stands
    rw [← lists.names] at member
    obtain ⟨file, found, rfl⟩ := List.mem_map.mp member
    exact (lists.filled.readable file found).usable.short

/-- The files in a directory that is filled are its own exactly if the run leaves no other file. -/
theorem files_only_iff (lists : report.Lists config table initial
      (config.leftFirst config.languages.toList initial report.language) files final) :
    final.FilesOnly (config.outputPlace initial.here report.language)
        (report.language.fileNames table) ↔
      config.LeavesNoFile initial report.language (report.language.fileNames table) := by
  constructor
  · intro only first missing rest content aside stands
    by_cases named : ∃ name ∈ report.language.fileNames table, rest = [name]
    · exact named
    · apply only rest content
      rw [lists.unwritten rest aside named]
      simpa [Config.leftFirst, first, Disk.leftover, missing] using stands
  · intro leaves rest content stands
    by_contra other
    have aside : ¬ Path.LeadsThrough initial.here (config.outputPath report.language)
        (config.outputPlace initial.here report.language ++ rest) := by
      intro passes
      rw [lists.through _ passes] at stands
      cases stands
    rw [lists.unwritten rest aside other, Config.leftFirst] at stands
    split at stands
    · rename_i first
      rw [Disk.leftover] at stands
      split at stands
      · rename_i missing
        exact other (leaves first missing rest content aside stands)
      · cases stands
    · cases stands

/-- The path of a reported file is that of its name in the output root. -/
theorem entry_path (config : Config) (language : Language) (name : String)
    (named : Path.isName name = true) :
    Path.join config.outputRoot (Text.joinWith "/" [language.layout.directory, name]) =
      Path.join (config.outputPath language) name := by
  refine Path.join_joined _ _ (by simp) ?_
  simpa using ⟨Config.directory_named language, named⟩

/-- The names that lead from the output root to what is in the directory of a report. -/
theorem run_place (here : Location) (report : LanguageReport) (rest : Location) :
    config.outputPlace here report.language ++ rest =
      Path.location here config.outputRoot ++ (report.directoryName :: rest) := by
  rw [config.output_place, List.append_assoc, List.singleton_append]
  rfl

/-- The files below the directories that a run reports. -/
theorem run_covers {here names : Location} {content : Content} (current : final.here = here) :
    Covers config.outputRoot (reports.map LanguageReport.directoryName) final names content ↔
      ∃ report ∈ reports, ∃ rest, names = report.directoryName :: rest ∧
        final.node? (config.outputPlace here report.language ++ rest) = some (.file content) := by
  subst current
  have own : ∀ report : LanguageReport,
      Path.somethings report.directoryName = [report.directoryName] :=
    fun report => somethings_name _ (Config.directory_named report.language)
  constructor
  · rintro ⟨⟨_, member, rest, rfl⟩, stands⟩
    obtain ⟨report, found, rfl⟩ := List.mem_map.mp member
    rw [own, List.singleton_append, ← run_place] at stands
    exact ⟨report, found, rest, by rw [own, List.singleton_append], stands⟩
  · rintro ⟨report, found, rest, rfl, stands⟩
    rw [run_place] at stands
    refine ⟨⟨report.directoryName, List.mem_map_of_mem found, rest, ?_⟩, stands⟩
    rw [own, List.singleton_append]

/-- The archive of a run has an entry for every reported file and for nothing else exactly if there
are no other files in the directories.

Proof: the path of a file tells the directory and the name, so that what has a reported path is in
the directory of the report and has the name of one of its files. -/
theorem run_reported (proper : final.IsProper) (current : final.here = initial.here)
    (given : Given config.outputRoot (reports.map LanguageReport.directoryName) final)
    (distinct : (reports.flatMap LanguageReport.files).Nodup)
    (named : ∀ report ∈ reports, report.language.HasProperNames table)
    (listed : ∀ report ∈ reports, ∃ left files,
      report.Lists config table initial left files final)
    {entries : List (String × List UInt8)}
    (complete : IsComplete config.outputRoot (reports.map LanguageReport.directoryName) final
      entries) :
    (entries.map fun entry => Path.join config.outputRoot entry.1).Perm
        (reports.flatMap LanguageReport.files) ↔
      ∀ report ∈ reports, final.FilesOnly (config.outputPlace initial.here report.language)
        (report.language.fileNames table) := by
  obtain ⟨apart, paths⟩ := complete_paths given proper complete
  constructor
  · intro same report found rest content stands
    have covers := (run_covers current).mpr ⟨report, found, rest, rfl, stands⟩
    obtain ⟨other, otherFound, member⟩ :=
      List.mem_flatMap.mp (same.mem_iff.mp ((paths _).mpr ⟨_, content, covers, rfl⟩))
    obtain ⟨left, files, lists⟩ := listed other otherFound
    rw [lists.paths] at member
    obtain ⟨name, fileName, path⟩ := List.mem_map.mp member
    have places := congrArg (Path.location initial.here) path
    rw [Path.location_inside _ _ name ((named other otherFound).1 name fileName),
      ← current, covered_place given proper covers, current, ← run_place] at places
    -- The reported path that leads to the file may be from any report.
    have language : other.language = report.language := by
      by_contra different
      apply output_apart different _
        (List.prefix_append (config.outputPlace initial.here report.language) rest)
      exact places ▸ List.prefix_append _ [name]
    rw [language] at places fileName
    exact ⟨name, fileName, (List.append_cancel_left places).symm⟩
  · intro only
    rw [List.perm_ext_iff_of_nodup apart distinct]
    intro path
    rw [paths, List.mem_flatMap]
    constructor
    · rintro ⟨names, content, covers, rfl⟩
      obtain ⟨report, found, rest, rfl, stands⟩ := (run_covers current).mp covers
      obtain ⟨left, files, lists⟩ := listed report found
      obtain ⟨name, fileName, rfl⟩ := only report found rest content stands
      refine ⟨report, found, ?_⟩
      rw [lists.paths, LanguageReport.directoryName,
        entry_path _ _ name ((named report found).1 name fileName)]
      exact List.mem_map_of_mem fileName
    · rintro ⟨report, found, member⟩
      obtain ⟨left, files, lists⟩ := listed report found
      rw [lists.paths] at member
      obtain ⟨name, fileName, rfl⟩ := List.mem_map.mp member
      obtain ⟨text, stands⟩ := lists.written name fileName
      exact ⟨_, .text text, (run_covers current).mpr ⟨report, found, [name], rfl, stands⟩,
        (entry_path _ _ name ((named report found).1 name fileName)).symm⟩

/-- The directories that a run reports can be packed, and are packed as reported if the run clears
them. -/
theorem run_packs (proper : initial.IsProper)
    (accepted : ∃ messages, Table.ofMessages messages = .ok table)
    (ran : generate config table initial = (final, .ok reports)) :
    PacksRun config table initial final reports := by
  have after : final.IsProper := by
    have changes := generate_changes config table proper
    rw [ran] at changes
    exact proper.changed changes
  obtain ⟨during, languages, lists⟩ := generate_lists proper.tree accepted ran
  have listed : ∀ report ∈ reports, ∃ left files,
      report.Lists config table initial left files final :=
    fun report member => ⟨_, lists report member⟩
  have given := run_given languages listed
  have packs := given.packs after
  have directories : reports.map LanguageReport.directory =
      (reports.map LanguageReport.directoryName).map (Path.join config.outputRoot) := by
    rw [List.map_map]
    refine List.map_congr_left fun report member => ?_
    obtain ⟨left, files, fills⟩ := listed report member
    exact fills.directory
  have named : ∀ report ∈ reports, report.language.HasProperNames table := by
    intro report member
    apply generate_names accepted ran
    rw [← languages]
    exact List.mem_map_of_mem member
  have leaves : (∀ report ∈ reports,
      final.FilesOnly (config.outputPlace initial.here report.language)
        (report.language.fileNames table)) ↔
      ∀ report ∈ reports,
        config.LeavesNoFile initial report.language (report.language.fileNames table) := by
    refine forall₂_congr fun report member => ?_
    obtain ⟨files, fills⟩ := lists report member
    exact files_only_iff fills
  constructor
  case directories => exact directories
  case packs => exact packs
  case reported =>
    intro written path packed
    rw [directories] at packed
    obtain ⟨place, entries, holds, complete⟩ := packs.written packed
    refine ⟨place, entries, holds, complete, ?_⟩
    rw [← leaves]
    exact run_reported after during.current given
      (generate_paths_distinct proper.tree accepted ran) named listed complete
  case cleared =>
    intro clears
    have only : ∀ report ∈ reports,
        final.HoldsOnly (config.outputPlace initial.here report.language)
          (report.language.fileNames table) := by
      intro report member
      obtain ⟨files, fills⟩ := lists report member
      exact fills.only_iff.mpr (clears report member)
    constructor
    · rw [← leaves]
      intro report member rest content stands
      obtain ⟨files, fills⟩ := lists report member
      have lower : rest ≠ [] := by
        rintro rfl
        simp [fills.filled.ready.stands] at stands
      exact (only report member rest lower).mp (by simp [stands])
    · intro created
      have shallow :
          AreShallow config.outputRoot (reports.map LanguageReport.directoryName) final := by
        rw [AreShallow, List.forall_mem_map]
        intro report member
        obtain ⟨files, fills⟩ := lists report member
        have shallow := lists_shallow fills (only report member)
        rwa [Config.outputPlace, ← during.current] at shallow
      obtain ⟨written, _, packed, _⟩ := packs.complete created shallow
      exact ⟨written, directories ▸ packed⟩
  case plain =>
    intro plain report member
    obtain ⟨files, fills⟩ := lists report member
    exact config.clears_plain proper.tree plain _ _

end Run

/-- Archives are complete and canonical.

Directories that are given by plain paths from the output root, and are apart from each other, are
packed completely and always in the same way. The directories that a run reports are given like
this; their archive holds exactly the reported files if no other file is left in them, and none is
unless the output root has two dots behind a name.

Proof: the walk finds what stands below the directories, whatever its order, and the names of what
it finds differ, so that sorting them leaves one order. The archive file is not below the
directories, so that they are read as they were walked. -/
theorem archives_complete (disk : Disk) (proper : disk.IsProper) :
    (∀ (root : String) (relatives : List String), Given root relatives disk →
      Packs root relatives disk) ∧
    ∀ (config : Config) (table : Table) (final : Disk) (reports : List LanguageReport),
      (∃ messages, Table.ofMessages messages = .ok table) →
      generate config table disk = (final, .ok reports) →
      PacksRun config table disk final reports := by
  constructor
  · intro root relatives given
    exact given.packs proper
  · intro config table final reports accepted ran
    exact run_packs proper accepted ran

/-- The archive of a run for one message, in a directory that is left from an earlier run. -/
theorem archives_complete_ping :
    ∃ written entries,
      write "/out" ["/out/goProtocol"] (generate (pingConfig "/out") pingTable pingDisk).1 =
        (written, .ok "/out/wiregen-protocol.zip") ∧
      IsComplete "/out" ["goProtocol"] (generate (pingConfig "/out") pingTable pingDisk).1 entries ∧
      (entries.map fun entry => Path.join "/out" entry.1).Perm ["/out/goProtocol/Ping.go",
        "/out/goProtocol/ByteBuffer.go", "/out/goProtocol/ProtocolManager.go"] := by
  have named : ∀ entry ∈ pingDisk.entries, ∀ name ∈ entry.1, Disk.IsFileName name := by
    simp only [pingDisk, List.forall_mem_cons, List.not_mem_nil, false_implies, implies_true,
      and_true]
    and_intros <;> exact ⟨by decide, by decide, by simp⟩
  have proper : pingDisk.IsProper :=
    ⟨Disk.tree_of_entries pingDisk (by decide), named, by decide⟩
  have ran : generate (pingConfig "/out") pingTable pingDisk =
      ((generate (pingConfig "/out") pingTable pingDisk).1, .ok [pingReport]) :=
    Prod.ext rfl (by decide +kernel)
  have run := (archives_complete pingDisk proper).2 (pingConfig "/out") pingTable _ [pingReport]
    ⟨[pingMessage], by decide +kernel⟩ ran
  obtain ⟨leaves, succeeds⟩ := run.cleared (run.plain (by decide))
  obtain ⟨written, packed⟩ := succeeds (by
    have created : ((generate (pingConfig "/out") pingTable pingDisk).1.write
      (archivePath "/out") (.text "")).toOption.isSome = true := by decide +kernel
    cases wrote : (generate (pingConfig "/out") pingTable pingDisk).1.write
      (archivePath "/out") (.text "") with
    | ok disk => exact ⟨disk, wrote⟩
    | error fault => simp [wrote, Except.toOption] at created)
  obtain ⟨_, entries, _, complete, reported⟩ := run.reported _ _ packed
  exact ⟨written, entries, packed, complete, reported.mpr leaves⟩

/-- A file that is left over is found with the reported ones. -/
example : collect (generate (pingConfig "/out/a/..") pingTable pingDisk).1.namesIn
      (generate (pingConfig "/out/a/..") pingTable pingDisk).1 ["/out/a/../goProtocol"] =
    .ok ["/out/a/../goProtocol/Old.go", "/out/a/../goProtocol/Ping.go",
      "/out/a/../goProtocol/ByteBuffer.go", "/out/a/../goProtocol/ProtocolManager.go"] := by
  decide +kernel

end Archive
end PacketSmith
