import PacketSmith.Proofs.Rejection
import PacketSmith.Proofs.Schema.Order

/-!
# Checking a manifest and generating from it

Checking a manifest takes the same steps as preparing a run of it: the manifest is read and
validated, its sources are loaded, and their messages are made a table. A manifest is therefore
accepted exactly if a run of it can be prepared, and what is found wrong is the same in both.

Checking stops there. The names that messages generate in the selected languages are looked at by
a run only, in front of its first change, so that a run of an accepted manifest still ends with a
schema error exactly if one of these languages refuses one of the messages.
-/

namespace PacketSmith

/-- The request for a run of a manifest, or of the default one, with nothing in its place. -/
def GenerateRequest.ofManifest (manifest : Option String) : GenerateRequest :=
  ⟨manifest, [], none, [], none, false⟩

/-- Whether the template directory of a configuration stands on a disk, if it has one. -/
def Config.TemplatesStand (config : Config) (disk : Disk) : Prop :=
  ∀ directory, config.templateDirectory = some directory → disk.isDirectory directory = true

/-- Where a step behind another one accepts, so does the one in front. -/
theorem step_accepts {Problem First Result : Type} {first : Except Problem First}
    {next : First → Except Problem Result} {result : Result}
    (accepted : (first >>= next) = .ok result) :
    ∃ value, first = .ok value ∧ next value = .ok result := by
  cases first with
  | error problem => cases accepted
  | ok value => exact ⟨value, rfl, accepted⟩

/-- Where a path leads to a text it leads to a file. -/
theorem Disk.is_file_of_text {disk : Disk} {path text : String}
    (read : disk.readText path = .ok text) : disk.isFile path = true := by
  unfold readText Disk.read at read
  rw [isFile]
  cases resolved : disk.resolve path with
  | error fault => simp [resolved, bind, Except.bind] at read
  | ok destination => cases destination <;> simp_all [bind, Except.bind]

/-! ## Selected languages -/

/-- Inserting languages one after another keeps those that are there and takes in the others. -/
theorem Selection.contains_inserted (language : Language) (languages : List Language)
    (selection : Selection)
    (among : selection.contains language = true ∨ language ∈ languages) :
    (languages.foldl insert selection).contains language = true := by
  induction languages generalizing selection with
  | nil => simpa using among
  | cons other languages inductionHypothesis =>
    apply inductionHypothesis
    rcases among with held | member
    · left
      cases language <;> cases other <;> simp_all [insert, contains]
    · rcases List.mem_cons.mp member with rfl | member
      · left
        cases language <;> rfl
      · exact .inr member

/-- The selection of the languages of a list has a member if the list has one. -/
theorem Selection.of_list_inhabited (language : Language) (languages : List Language)
    (member : language ∈ languages) : (ofList languages).isEmpty = false := by
  have held := contains_inserted language languages .empty (.inr member)
  have listed : language ∈ (ofList languages).toList :=
    List.mem_filter.mpr ⟨by cases language <;> decide, held⟩
  rw [isEmpty, List.isEmpty_eq_false_iff]
  exact List.ne_nil_of_mem listed

/-- Whatever languages a manifest names, at least one of them is selected. -/
theorem Manifest.selection_inhabited {manifest : Manifest} {languages : Selection}
    (selected : manifest.selection = .ok languages) : languages.isEmpty = false := by
  rw [selection, languagesOf] at selected
  split at selected
  · cases selected
    rfl
  · rename_i named
    cases names : manifest.languages with
    | nil => simp [names] at named
    | cons name others =>
      rw [names] at selected
      obtain ⟨known, read, same⟩ := step_accepts selected
      obtain ⟨first, rest, _, _, rfl⟩ :=
        List.forall₂_cons_left_iff.mp ((map_m_accepts_iff _ _ _).mp read)
      cases same
      exact Selection.of_list_inhabited first _ List.mem_cons_self

/-! ## Refused names -/

/-- Names are refused for a message whose names are. -/
theorem check_all_names_refused {language : Language} {messages : List Message}
    {error : SchemaError} (failed : checkAllNames language messages = .error (.schema error)) :
    ∃ message ∈ messages, message.checkNames language = .error error := by
  induction messages with
  | nil => cases failed
  | cons message messages inductionHypothesis =>
    rw [checkAllNames] at failed
    split at failed
    · rename_i cause refused
      cases failed
      exact ⟨message, List.mem_cons_self, refused⟩
    · obtain ⟨other, member, refused⟩ := inductionHypothesis failed
      exact ⟨other, List.mem_cons_of_mem message member, refused⟩

/-- Names are refused in all languages for a message whose names are refused in one of them. -/
theorem check_all_languages_refused {messages : List Message} {languages : List Language}
    {error : SchemaError}
    (failed : checkAllLanguages messages languages = .error (.schema error)) :
    ∃ language ∈ languages, ∃ message ∈ messages, message.checkNames language = .error error := by
  induction languages with
  | nil => cases failed
  | cons language languages inductionHypothesis =>
    rw [checkAllLanguages] at failed
    cases first : checkAllNames language messages with
    | error cause =>
      rw [first] at failed
      cases failed
      exact ⟨language, List.mem_cons_self, check_all_names_refused first⟩
    | ok value =>
      rw [first] at failed
      obtain ⟨other, member, refused⟩ := inductionHypothesis failed
      exact ⟨other, List.mem_cons_of_mem language member, refused⟩

namespace Command

/-! ## The two commands -/

/-- A request with nothing in the place of a manifest leaves the manifest as it is. -/
theorem override_of_manifest (path : Option String) (manifest : Manifest) :
    override (.ofManifest path) manifest = manifest := by
  simp [override, GenerateRequest.ofManifest]

section Steps

-- Comparing commands must look neither into manifests and sources nor into runs.
attribute [local irreducible] Manifest.ofFile Manifest.validate Manifest.selection loadTable
  description PacketSmith.generate Archive.write

/-- What describes a manifest is made of what a run of it is prepared with. -/
theorem describe_prepared (path : String) (disk : Disk) :
    describe path disk = (prepare (.ofManifest (some path)) disk).map fun prepared =>
      description prepared.manifest prepared.table prepared.config.languages := by
  have base : baseManifest (.ofManifest (some path)) disk = Manifest.ofFile disk path := rfl
  rw [describe, prepare, base]
  cases Manifest.ofFile disk path with
  | error fault => rfl
  | ok manifest =>
    simp only [Except.mapError, bind, Except.bind, override_of_manifest]
    cases manifest.validate with
    | error fault => rfl
    | ok value =>
      cases loadTable disk manifest.sources with
      | error fault => rfl
      | ok table =>
        cases manifest.selection <;> rfl

/-- A check ends as the preparation of a run of the manifest at its path does. -/
theorem check_result (path : Option String) (disk : Disk) :
    (check path disk).result =
      (prepare (.ofManifest (some (path.getD Manifest.defaultPath))) disk).map fun _ => () := by
  rw [check, describe_prepared]
  cases prepare (.ofManifest (some (path.getD Manifest.defaultPath))) disk <;> rfl

/-- A check fails as the preparation of a run of the manifest at its path does. -/
theorem check_fails {path : Option String} {disk : Disk} {fault : CommandFault}
    (failed : (check path disk).result = .error fault) :
    prepare (.ofManifest (some (path.getD Manifest.defaultPath))) disk = .error fault := by
  rw [check_result] at failed
  cases ready : prepare (.ofManifest (some (path.getD Manifest.defaultPath))) disk with
  | ok prepared => simp [ready, Except.map] at failed
  | error cause => simpa [ready, Except.map] using failed

/-- The default manifest need not be named where it is a file. -/
theorem prepare_default {disk : Disk} (stands : disk.isFile Manifest.defaultPath = true) :
    prepare (.ofManifest none) disk = prepare (.ofManifest (some Manifest.defaultPath)) disk := by
  have same : baseManifest (.ofManifest none) disk =
      baseManifest (.ofManifest (some Manifest.defaultPath)) disk := by
    simp [baseManifest, GenerateRequest.ofManifest, stands]
  rw [prepare, prepare, same]
  rfl

/-- A run that was prepared finds nothing wrong with its input any more. -/
theorem generate_prepared_input {request : GenerateRequest} {disk : Disk} {prepared : Prepared}
    (ready : prepare request disk = .ok prepared) {fault : CommandFault}
    (failed : (generate request disk).result = .error fault) : ¬ fault.IsOfInput := by
  rw [generate, ready] at failed
  cases ran : PacketSmith.generate prepared.config prepared.table disk with
  | mk after outcome =>
    cases outcome with
    | error cause =>
      simp only [ran, Except.error.injEq] at failed
      exact failed ▸ id
    | ok reports =>
      simp only [ran] at failed
      obtain ⟨cause, rfl⟩ := finish_fails failed
      exact id

/-- A run that was prepared fails to generate exactly if its generation fails. -/
theorem generate_prepared_fails {request : GenerateRequest} {disk : Disk} {prepared : Prepared}
    (ready : prepare request disk = .ok prepared) (failure : Failure) :
    (generate request disk).result = .error (.generation failure) ↔
      (PacketSmith.generate prepared.config prepared.table disk).2 = .error failure := by
  rw [generate, ready]
  cases ran : PacketSmith.generate prepared.config prepared.table disk with
  | mk after outcome =>
    cases outcome with
    | error cause => simp [ran]
    | ok reports =>
      have finished : (finish prepared reports (announcement prepared ++ reportLines reports)
          after).result ≠ .error (.generation failure) := by
        intro failed
        obtain ⟨cause, same⟩ := finish_fails failed
        cases same
      simpa [ran] using finished

end Steps

/-- A manifest that is not there is no default: nothing is listed, and no run can be prepared. -/
theorem prepare_without {disk : Disk} (absent : disk.isFile Manifest.defaultPath = false) :
    prepare (.ofManifest none) disk = .error (.manifest .noSources) := by
  simp [prepare, baseManifest, GenerateRequest.ofManifest, absent, override, Manifest.default,
    Manifest.validate, Except.mapError, bind, Except.bind]

/-- The configuration of a prepared run is refused for its template directory at most. -/
theorem prepared_config_valid_iff {request : GenerateRequest} {disk : Disk} {prepared : Prepared}
    (ready : prepare request disk = .ok prepared) :
    prepared.config.validate disk = .ok () ↔ prepared.config.TemplatesStand disk := by
  obtain ⟨base, table, languages, _, valid, _, selected, rfl⟩ :=
    (prepare_iff request disk prepared).mp ready
  obtain ⟨_, _, rooted, _⟩ := (manifest_valid_iff _).mp valid
  have inhabited := Manifest.selection_inhabited selected
  rw [Config.validate, Config.TemplatesStand]
  simp only [rooted, inhabited]
  cases (override request base).templates with
  | none => simp
  | some directory => cases stands : disk.isDirectory directory <;> simp [stands]

/-- How checking a manifest and a run of it agree. -/
structure ChecksWhatRuns (path : Option String) (disk : Disk) : Prop where
  /-- A check leaves the disk as it was. -/
  unchanged : (check path disk).disk = disk
  /-- A manifest is accepted exactly if a run of it can be prepared. -/
  accepts : (check path disk).result = .ok () ↔
    ∃ prepared, prepare (.ofManifest path) disk = .ok prepared
  /-- A run of a manifest that is not accepted ends before it begins. -/
  refuses : ∀ fault, (check path disk).result = .error fault →
    ∃ cause, generate (.ofManifest path) disk = ⟨disk, "", .error cause⟩ ∧
      (path.isSome = true ∨ disk.isFile Manifest.defaultPath = true → cause = fault)
  /-- A run of an accepted manifest is a run for the table and the languages that the check
  describes. -/
  described : ∀ prepared, prepare (.ofManifest path) disk = .ok prepared →
    (check path disk).printed = "Checking manifest: " ++ path.getD Manifest.defaultPath ++ "\n" ++
      description prepared.manifest prepared.table prepared.config.languages
  /-- The messages of an accepted manifest make a table. -/
  tabled : ∀ prepared, prepare (.ofManifest path) disk = .ok prepared →
    ∀ error, (generate (.ofManifest path) disk).result ≠ .error (.schemas error)
  /-- A run of an accepted manifest ends with a schema error exactly if the names of a message are
  refused in a selected language and the templates are where the manifest says. -/
  refused_iff : ∀ prepared, prepare (.ofManifest path) disk = .ok prepared →
    ((∃ error, (generate (.ofManifest path) disk).result = .error (.generation (.schema error))) ↔
      prepared.config.TemplatesStand disk ∧
        ∃ language ∈ prepared.config.languages.toList, ∃ message ∈ prepared.table.messages,
          message.checkNames language ≠ .ok ())
  /-- The schema error is what is wrong with the names of a message. -/
  named : ∀ prepared, prepare (.ofManifest path) disk = .ok prepared →
    ∀ error, (generate (.ofManifest path) disk).result = .error (.generation (.schema error)) →
      ∃ language ∈ prepared.config.languages.toList, ∃ message ∈ prepared.table.messages,
        message.checkNames language = .error error

/-- A run is prepared for a path if and only if it is for the path that a check takes, and it is
then the same. -/
theorem prepare_checked (path : Option String) (disk : Disk) (prepared : Prepared) :
    prepare (.ofManifest path) disk = .ok prepared ↔
      prepare (.ofManifest (some (path.getD Manifest.defaultPath))) disk = .ok prepared := by
  cases path with
  | some path => rfl
  | none =>
    rw [Option.getD_none]
    by_cases stands : disk.isFile Manifest.defaultPath = true
    · rw [prepare_default stands]
    · have absent : disk.isFile Manifest.defaultPath = false := by simpa using stands
      rw [prepare_without absent]
      constructor
      · intro ready
        cases ready
      · intro ready
        obtain ⟨base, _, _, loaded, _⟩ := (prepare_iff _ disk prepared).mp ready
        have read : Manifest.ofFile disk Manifest.defaultPath = .ok base := loaded
        rw [Manifest.ofFile] at read
        cases text : disk.readText Manifest.defaultPath with
        | error fault => simp [text] at read
        | ok content => exact absurd (Disk.is_file_of_text text) stands

end Command

/-- Checking a manifest and a run of it agree on the manifest, its sources and its table. They
differ in one point: the names of messages in the selected languages are checked by a run only. -/
theorem checks_what_runs (path : Option String) (disk : Disk) :
    Command.ChecksWhatRuns path disk := by
  have prepared_iff := Command.prepare_checked path disk
  constructor
  case unchanged =>
    rw [Command.check]
    split <;> rfl
  case accepts =>
    simp only [prepared_iff, Command.check_result]
    cases Command.prepare _ disk <;> simp [Except.map]
  case refuses =>
    intro fault failed
    have unprepared := Command.check_fails failed
    cases path with
    | some path => exact ⟨fault, Command.generate_unprepared unprepared, fun _ => rfl⟩
    | none =>
      by_cases stands : disk.isFile Manifest.defaultPath = true
      · refine ⟨fault, Command.generate_unprepared ?_, fun _ => rfl⟩
        rw [Command.prepare_default stands]
        exact unprepared
      · have absent : disk.isFile Manifest.defaultPath = false := by simpa using stands
        refine ⟨_, Command.generate_unprepared (Command.prepare_without absent), ?_⟩
        rintro (named | there)
        · cases named
        · exact absurd there stands
  case described =>
    intro prepared ready
    rw [Command.check, Command.describe_prepared, (prepared_iff prepared).mp ready]
    rfl
  case tabled =>
    intro prepared ready error failed
    exact Command.generate_prepared_input ready failed trivial
  case refused_iff =>
    intro prepared ready
    simp only [Command.generate_prepared_fails ready, ← Command.prepared_config_valid_iff ready]
    constructor
    · rintro ⟨error, failed⟩
      rcases generate_fails (Prod.ext rfl failed) with
        ⟨_, _, _, same⟩ | ⟨_, valid, refused, _⟩ | ⟨_, _, late⟩
      · cases same
      · obtain ⟨language, selected, message, member, taken⟩ := check_all_languages_refused refused
        exact ⟨valid, language, selected, message, member, by simp [taken]⟩
      · exact absurd trivial late.no_refusal
    · rintro ⟨valid, language, selected, message, member, taken⟩
      obtain ⟨error, ran⟩ := generate_refuses valid selected member taken
      exact ⟨error, by rw [ran]⟩
  case named =>
    intro prepared ready error failed
    rw [Command.generate_prepared_fails ready] at failed
    have refused := (generate_atomic prepared.config prepared.table disk).inFront _ error
      (Prod.ext rfl failed)
    exact check_all_languages_refused refused

/-- A manifest whose only message has a field named by a keyword of Go. -/
def keywordSources : Disk where
  entries := [(["wiregen.toml"], .file (.text
      "[generate]\nsources = [\"ping.json\"]\nlanguages = [\"go\"]\n")),
    (["ping.json"], .file (.text
      "[[1, \"Ping\", [], [[\"type\", [\"int\"]]]]]"))]
  here := []

/-- A manifest is accepted although its run ends with a schema error. -/
example :
    (Command.check none keywordSources).result.toOption = some () ∧
      (Command.generate (.ofManifest none) keywordSources).result =
        .error (.generation (.schema (.reservedWord "Ping" "type" .go))) := by
  decide +kernel

end PacketSmith
