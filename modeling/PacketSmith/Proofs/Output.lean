import PacketSmith.Proofs.Delivery
import PacketSmith.Proofs.Schema.Slots

/-!
# What a run leaves on the disk

A run that succeeds fills the output directory of each selected language with the package of the
language. What else is in the directory lies on the path of the directory, or is left over
because something on that path was missing at first; the latter can happen to the first language
only. The sessions of other languages change nothing in the directory, because output
directories are next to each other, and what stands on their paths stands already.
-/

namespace PacketSmith

section Steps

-- Comparing steps must not look into what they do to the disk.
attribute [local irreducible] Session.start Session.writeMessages Session.writeManager
attribute [local irreducible] generateLanguage

/-- A language is generated by one session. -/
theorem generate_language_session (config : Config) (table : Table) (language : Language)
    (disk : Disk) :
    generateLanguage config table language disk =
      match Session.start config language config.templateSource disk with
      | (disk, .error failure) => (disk, .error failure)
      | (disk, .ok session) =>
        match session.writeMessages table.messages disk with
        | (disk, .error failure) => (disk, .error failure)
        | (disk, .ok files) =>
          match session.writeManager table.slots disk with
          | (disk, .error failure) => (disk, .error failure)
          | (disk, .ok others) =>
            (disk, .ok ⟨language, session.outputDirectory, files ++ others⟩) := by
  delta generateLanguage
  rfl

/-- A language is generated before those behind it. -/
theorem generate_languages_cons (config : Config) (table : Table) (language : Language)
    (languages : List Language) (disk : Disk) :
    generateLanguages config table (language :: languages) disk =
      match generateLanguage config table language disk with
      | (disk, .error failure) => (disk, .error failure)
      | (disk, .ok report) =>
        match generateLanguages config table languages disk with
        | (disk, .error failure) => (disk, .error failure)
        | (disk, .ok reports) => (disk, .ok (report :: reports)) :=
  rfl

end Steps

/-- A language that is generated has started a session, which has written everything. -/
theorem generate_language_steps {config : Config} {table : Table} {language : Language}
    {disk after : Disk} {report : LanguageReport}
    (generated : generateLanguage config table language disk = (after, .ok report)) :
    ∃ started session between files others,
      Session.start config language config.templateSource disk = (started, .ok session) ∧
      session.writeMessages table.messages started = (between, .ok files) ∧
      session.writeManager table.slots between = (after, .ok others) ∧
      report = ⟨language, session.outputDirectory, files ++ others⟩ := by
  rw [generate_language_session] at generated
  split at generated
  · cases generated
  · rename_i started session first
    split at generated
    · cases generated
    · rename_i between files second
      split at generated
      · cases generated
      · rename_i changed others third
        cases generated
        exact ⟨started, session, between, files, others, first, second, third, rfl⟩

/-- Languages that are generated have been generated one after the other. -/
theorem generate_languages_steps {config : Config} {table : Table} {language : Language}
    {languages : List Language} {disk after : Disk} {reports : List LanguageReport}
    (generated : generateLanguages config table (language :: languages) disk =
      (after, .ok reports)) :
    ∃ between report others,
      generateLanguage config table language disk = (between, .ok report) ∧
      generateLanguages config table languages between = (after, .ok others) ∧
      reports = report :: others := by
  rw [generate_languages_cons] at generated
  split at generated
  · cases generated
  · rename_i between report first
    split at generated
    · cases generated
    · rename_i changed others rest
      cases generated
      exact ⟨between, report, others, first, rest, rfl⟩

/-- What is true of the output directory of a language once the language has been generated. -/
structure Filled (config : Config) (here : Location) (language : Language)
    (left : Location → Option Node)
    (files : List (String × String)) (disk : Disk) : Prop where
  /-- The disk is a tree on which the directory stands. -/
  ready : Ready config here language disk
  /-- The files can be looked up. -/
  readable : ∀ file ∈ files, IsReadable config language file.1
  /-- The directory holds the files. -/
  holds : ∀ file ∈ files,
    disk.node? (config.outputPlace here language ++ [file.1]) = some (.file (.text file.2))
  /-- What else is in the directory lies on its path or is left over. -/
  others : ∀ location, config.outputPlace here language <+: location →
    ¬ Path.LeadsThrough here (config.outputPath language) location →
    (∀ file ∈ files, location ≠ config.outputPlace here language ++ [file.1]) →
    disk.node? location = left location

section Sessions

variable {config : Config} {here : Location} {initial : Disk} {language other : Language}
variable {disk started after : Disk} {files : List (String × String)} {paths : List String}

/-- A session that delivers files with different names fills the directory. -/
theorem Filled.of_delivery (start : Started config initial.here language disk started)
    (delivery : Delivery config initial language started after files paths)
    (distinct : (files.map Prod.fst).Nodup) :
    Filled config initial.here language (disk.leftover (config.outputPath language)) files
      after := by
  refine ⟨delivery.ready, delivery.readable, ?_, ?_⟩
  · rw [delivery.written]
    exact Disk.node_put_files files distinct
  · intro location inside aside unwritten
    rw [delivery.written, Disk.node_put_files_other files location unwritten]
    exact start.leftovers location inside aside

/-- Output directories of different languages are apart. -/
theorem output_apart (different : other ≠ language) (location : Location)
    (inside : config.outputPlace here language <+: location) :
    ¬ config.outputPlace here other <+: location := by
  intro also
  have same := List.prefix_of_prefix_length_le also inside
    (by simp [config.output_place])
  have equal := same.eq_of_length (by simp [config.output_place])
  rw [config.output_place, config.output_place] at equal
  have names := List.append_inj_right' equal rfl
  cases language <;> cases other <;> simp [Language.layout] at names different

/-- What is in an output directory and on the path of another one is on its own path. -/
theorem output_path_shared (different : other ≠ language) (location : Location)
    (inside : config.outputPlace here language <+: location)
    (through : Path.LeadsThrough here (config.outputPath other) location) :
    Path.LeadsThrough here (config.outputPath language) location := by
  obtain ⟨front, beginning, rfl⟩ := through
  rw [config.output_route, List.prefix_concat_iff] at beginning
  rcases beginning with rfl | within
  · exfalso
    apply output_apart different _ inside
    rw [← config.output_route]
    exact List.prefix_rfl
  · rw [config.output_start, ← config.output_start here language]
    refine ⟨front, ?_, rfl⟩
    rw [config.output_route]
    exact within.trans (List.prefix_append _ _)

/-- Nothing is left over for another language, because where the paths lead the directory above
stands. -/
theorem Ready.nothing_left (ready : Ready config here other disk) (location : Location) :
    disk.leftover (config.outputPath language) location = none := by
  rw [Disk.leftover]
  by_cases usable : Disk.IsUsable (config.outputPath language)
  · split
    · rename_i missing
      exact absurd missing (ready.rooted.found usable)
    · rfl
  · rw [disk.resolve_unusable _ usable (config.output_inhabited language)]

/-- The session of another language leaves a directory filled as it is. -/
theorem Filled.kept {left : Location → Option Node} {others : List (String × String)}
    (filled : Filled config initial.here language left files disk) (different : other ≠ language)
    (start : Started config initial.here other disk started)
    (delivery : Delivery config initial other started after others paths) :
    Filled config initial.here language left files after := by
  have same : ∀ location, config.outputPlace initial.here language <+: location →
      after.node? location = disk.node? location := by
    intro location inside
    have apart := output_apart different location inside
    rw [delivery.written, Disk.node_put_files_other]
    · rcases start.elsewhere location apart with kept | ⟨free, _, through⟩
      · exact kept
      · have shared := output_path_shared different location inside through
        rw [← filled.ready.current] at shared
        have there :=
          Disk.leads_through_directories filled.ready.tree _ _ _ filled.ready.reached shared
        rw [there] at free
        cases free
    · rintro file _ rfl
      exact apart (List.prefix_append _ _)
  refine ⟨?_, filled.readable, ?_, ?_⟩
  · refine delivery.ready.rooted.ready ((disk.resolve_iff _ _).mp filled.ready.reached).usable ?_
    rw [same _ List.prefix_rfl]
    exact filled.ready.stands
  · intro file member
    rw [same _ (List.prefix_append _ _)]
    exact filled.holds file member
  · intro location inside aside unwritten
    rw [same location inside]
    exact filled.others location inside aside unwritten

end Sessions

section Languages

variable {config : Config} {initial : Disk} {table : Table}

/-- A language that is generated has delivered its package in a directory made anew. -/
theorem generate_language_delivers (language : Language)
    (selected : language ∈ config.languages.toList) (proper : language.HasProperNames table)
    {disk after : Disk} {report : LanguageReport} (during : During config initial disk)
    (generated : generateLanguage config table language disk = (after, .ok report)) :
    ∃ started files, Started config initial.here language disk started ∧
      config.Makes initial (language.package config.templateSource initial table) files ∧
      Delivery config initial language started after files report.files ∧
      report.language = language ∧ report.directory = config.outputPath language := by
  obtain ⟨started, session, between, paths, others, first, messages, manager, rfl⟩ :=
    generate_language_steps generated
  obtain ⟨rfl, start⟩ := Session.start_exact during.tree first
  rw [during.current] at start
  have named : ∀ message ∈ table.messages, Path.isName (message.fileName language) = true :=
    fun message member => proper.1 _ (List.mem_append_left _ (List.mem_map_of_mem member))
  obtain ⟨files, made, delivery⟩ :=
    session_delivers selected ⟨start.tree, start.current, start.reached⟩
    (during.start selected start) table named paths others messages manager
  exact ⟨started, files, start, made, delivery, rfl, rfl⟩

/-- What is left over in the output directory of a language when languages are generated: what
was on the disk if the language is the first, and nothing otherwise. -/
def Config.leftFirst (config : Config) (languages : List Language) (disk : Disk)
    (language : Language) (location : Location) : Option Node :=
  if languages.head? = some language then disk.leftover (config.outputPath language) location
  else none

/-- For the first language there is what was on the disk. -/
theorem Config.left_first (config : Config) (languages : List Language) (disk : Disk)
    (language : Language) :
    config.leftFirst (language :: languages) disk language =
      disk.leftover (config.outputPath language) := by
  funext location
  rw [leftFirst, List.head?_cons, if_pos rfl]

/-- For the languages behind another one it makes no difference which of them is the first. -/
theorem Ready.left_behind {language other : Language} {between : Disk}
    (ready : Ready config initial.here other between) (languages : List Language) (disk : Disk)
    (different : other ≠ language) :
    config.leftFirst (other :: languages) disk language =
      config.leftFirst languages between language := by
  funext location
  simp [Config.leftFirst, different, ready.nothing_left]

/-- Whether a report is about files with which its language has been filled. -/
structure LanguageReport.Lists (report : LanguageReport) (config : Config) (table : Table)
    (initial : Disk) (left : Location → Option Node) (files : List (String × String))
    (disk : Disk) : Prop where
  /-- The directory is the output directory. -/
  directory : report.directory = config.outputPath report.language
  /-- The files are made as the package of the language. -/
  makes : config.Makes initial
    (report.language.package config.templateSource initial table) files
  /-- The paths are those of the files. -/
  named : report.files = files.map fun file =>
    Path.join (config.outputPath report.language) file.1
  /-- The directory is filled with the files. -/
  filled : Filled config initial.here report.language left files disk

/-- The files have the names of the files of the language. -/
theorem LanguageReport.Lists.names {report : LanguageReport} {left : Location → Option Node}
    {files : List (String × String)} {disk : Disk}
    (lists : report.Lists config table initial left files disk) :
    files.map Prod.fst = report.language.fileNames table := by
  rw [lists.makes.names, package_names]

/-- Whether a report is about files with which its language has been filled and whose texts could
be made before the run. -/
structure LanguageReport.Fills (report : LanguageReport) (config : Config) (table : Table)
    (initial : Disk) (left : Location → Option Node) (files : List (String × String))
    (disk : Disk) : Prop extends report.Lists config table initial left files disk where
  /-- The files are the package of the language. -/
  made : report.language.package config.templateSource initial table = asDelivered files

/-- Languages that are generated are all filled in the end, and others stay filled.

Proof: induction on the languages. The first is filled at once and stays filled while the others
are generated; and nothing is left over for the others, because the disk is ready for the
first. -/
theorem generate_languages_fill
    (proper : ∀ language ∈ config.languages.toList, language.HasProperNames table)
    (languages : List Language) (distinct : languages.Nodup)
    (selected : ∀ language ∈ languages, language ∈ config.languages.toList)
    {disk after : Disk} {reports : List LanguageReport} (during : During config initial disk)
    (generated : generateLanguages config table languages disk = (after, .ok reports)) :
    During config initial after ∧
    reports.map LanguageReport.language = languages ∧
    (∀ report ∈ reports, ∃ files, report.Lists config table initial
      (config.leftFirst languages disk report.language) files after) ∧
    ∀ language left files, language ∉ languages →
      Filled config initial.here language left files disk →
        Filled config initial.here language left files after := by
  induction languages generalizing disk reports with
  | nil =>
    cases generated
    exact ⟨during, rfl, by simp, fun _ _ _ _ filled => filled⟩
  | cons language languages inductionHypothesis =>
    rw [List.nodup_cons] at distinct
    rw [List.forall_mem_cons] at selected
    obtain ⟨between, report, others, first, rest, rfl⟩ := generate_languages_steps generated
    obtain ⟨started, files, start, made, delivery, rfl, directory⟩ :=
      generate_language_delivers language selected.1 (proper language selected.1) during first
    obtain ⟨duringAfter, reported, filled, kept⟩ :=
      inductionHypothesis distinct.2 selected.2 delivery.during rest
    have names : (files.map Prod.fst).Nodup := by
      rw [made.names, package_names]
      exact (proper _ selected.1).2
    refine ⟨duringAfter, by rw [List.map_cons, reported], ?_, ?_⟩
    · rw [List.forall_mem_cons]
      constructor
      · have now := Filled.of_delivery start delivery names
        rw [config.left_first]
        exact ⟨files, directory, made, delivery.named, kept _ _ _ distinct.1 now⟩
      · intro other member
        obtain ⟨otherFiles, lists⟩ := filled other member
        have among : other.language ∈ languages := by
          rw [← reported]
          exact List.mem_map_of_mem member
        have different : report.language ≠ other.language := by
          intro same
          exact distinct.1 (same ▸ among)
        rw [delivery.ready.left_behind languages disk different]
        exact ⟨otherFiles, lists⟩
    · intro other left otherFiles absent before
      rw [List.mem_cons, not_or] at absent
      exact kept other left otherFiles absent.2
        (before.kept (Ne.symm absent.1) start delivery)

end Languages
end PacketSmith
