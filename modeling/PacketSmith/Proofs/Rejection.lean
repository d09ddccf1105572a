import PacketSmith.Command
import PacketSmith.Proofs.Generate
import PacketSmith.Proofs.Rendering

/-!
# Runs that are refused

A run is refused for its configuration or for a schema. Both are decided in front of the first
change to the disk. Rendering a message checks its names again when directories have already been
cleared, but what was accepted for every message in every selected language is accepted there as
well, so a run that began can only end for a template or for the disk; with the bundled templates
only for the disk. A command does nothing to the disk before its manifest, its sources and its
schemas are accepted.
-/

namespace PacketSmith

namespace Failure

/-- Whether a failure is a refusal of the configuration or of the schemas. -/
def IsRefusal : Failure → Prop
  | configuration _ | schema _ => True
  | _ => False

/-- Whether a failure is about the disk that a run writes to. -/
def IsOfDisk : Failure → Prop
  | outputDirectory _ _ | write _ _ _ => True
  | _ => False

/-- Whether a failure can end what has been accepted: it is about the disk, or about a template
that is not bundled. -/
def IsLate (templates : TemplateSource) (failure : Failure) : Prop :=
  failure.IsOfDisk ∨ templates ≠ .bundled ∧ failure.IsOfTemplate

/-- What ends what has been accepted is no refusal. -/
theorem IsLate.no_refusal {templates : TemplateSource} {failure : Failure}
    (late : failure.IsLate templates) : ¬ failure.IsRefusal := by
  rcases late with ofDisk | ⟨_, ofTemplate⟩ <;>
    cases failure <;> simp_all [IsRefusal, IsOfDisk, IsOfTemplate]

end Failure

section Session

-- Looking at a step that fails must look neither into rendering nor into what is done to the disk.
attribute [local irreducible] Message.render renderManager TemplateSource.load Session.prepareParent
  Session.clearDirectory Disk.makeDirectories Disk.write Path.join

variable {session : Session} {disk after : Disk} {failure : Failure}

/-- A session that does not start fails for the disk. -/
theorem Session.start_fails {config : Config} {language : Language} {templates : TemplateSource}
    (failed : start config language templates disk = (after, .error failure)) :
    failure.IsOfDisk := by
  rw [start] at failed
  split at failed
  · cases failed
    trivial
  · split at failed <;> cases failed
    trivial

/-- A file that is not written fails for the disk. -/
theorem Session.write_file_fails {schema path text : String}
    (failed : session.writeFile schema path text disk = (after, .error failure)) :
    failure.IsOfDisk := by
  rw [writeFile] at failed
  split at failed
  · cases failed
    trivial
  · split at failed <;> cases failed
    trivial

/-- A message whose names are accepted fails late. -/
theorem Session.write_message_fails {message : Message}
    (accepted : message.checkNames session.language = .ok ())
    (failed : session.writeMessage message disk = (after, .error failure)) :
    failure.IsLate session.templates := by
  rw [writeMessage] at failed
  split at failed
  · rename_i cause rendered
    cases failed
    by_cases bundled : session.templates = .bundled
    · obtain ⟨text, found⟩ := message.render_bundled session.language disk accepted
      rw [bundled, found] at rendered
      cases rendered
    · exact .inr ⟨bundled, message.render_fails _ _ disk accepted _ rendered⟩
  · dsimp only at failed
    split at failed
    · rename_i changed cause unwritten
      cases failed
      exact .inl (write_file_fails unwritten)
    · cases failed

/-- Messages whose names are accepted fail late. -/
theorem Session.write_messages_fails {messages : List Message}
    (accepted : ∀ message ∈ messages, message.checkNames session.language = .ok ())
    (failed : session.writeMessages messages disk = (after, .error failure)) :
    failure.IsLate session.templates := by
  induction messages generalizing disk with
  | nil => cases failed
  | cons message messages inductionHypothesis =>
    obtain ⟨first, others⟩ := List.forall_mem_cons.mp accepted
    rw [writeMessages] at failed
    split at failed
    · rename_i changed cause unwritten
      cases failed
      exact write_message_fails first unwritten
    · split at failed
      · rename_i changed cause unwritten
        cases failed
        exact inductionHypothesis others unwritten
      · cases failed

/-- Support files of the session's language fail late. -/
theorem Session.copy_support_fails {resources : List String}
    (supported : ∀ resource ∈ resources, resource ∈ session.language.layout.supportFiles)
    (failed : session.copySupport resources disk = (after, .error failure)) :
    failure.IsLate session.templates := by
  induction resources generalizing disk with
  | nil => cases failed
  | cons resource resources inductionHypothesis =>
    obtain ⟨first, others⟩ := List.forall_mem_cons.mp supported
    rw [copy_support_cons] at failed
    split at failed
    · rename_i cause missing
      cases failed
      by_cases bundled : session.templates = .bundled
      · obtain ⟨text, found⟩ := bundled_support session.language _ resource first
        rw [bundled, found] at missing
        cases missing
      · exact .inr ⟨bundled, session.templates.load_fails _ resource _ missing⟩
    · split at failed
      · rename_i changed cause unwritten
        cases failed
        exact .inl (write_file_fails unwritten)
      · split at failed
        · rename_i changed cause unwritten
          cases failed
          exact inductionHypothesis others unwritten
        · cases failed

/-- The support files and the manager file fail late. -/
theorem Session.write_manager_fails {slots : List (Option Message)}
    (failed : session.writeManager slots disk = (after, .error failure)) :
    failure.IsLate session.templates := by
  rw [writeManager] at failed
  dsimp only at failed
  split at failed
  · rename_i changed cause uncopied
    cases failed
    exact copy_support_fails (fun _ member => member) uncopied
  · split at failed
    · rename_i cause unrendered
      cases failed
      by_cases bundled : session.templates = .bundled
      · obtain ⟨text, found⟩ := render_manager_bundled session.language _ slots
        rw [bundled, found] at unrendered
        cases unrendered
      · exact .inr ⟨bundled, render_manager_fails _ _ _ slots _ unrendered⟩
    · split at failed
      · rename_i changed cause unwritten
        cases failed
        exact .inl (write_file_fails unwritten)
      · cases failed

end Session

section Generate

variable {config : Config} {table : Table} {disk after : Disk} {failure : Failure}

-- Looking at a run that fails must not look into its steps.
attribute [local irreducible] Session.start Session.writeMessages Session.writeManager
  Session.clearDirectory Disk.makeDirectories

/-- A session that starts has the language and the templates that it is given. -/
theorem Session.start_given {language : Language} {templates : TemplateSource} {session : Session}
    (started : start config language templates disk = (after, .ok session)) :
    session.language = language ∧ session.templates = templates := by
  rw [start_steps] at started
  split at started
  · cases started
  · split at started <;> cases started
    exact ⟨rfl, rfl⟩

/-- A language whose names are accepted fails late. -/
theorem generate_language_fails {language : Language}
    (accepted : ∀ message ∈ table.messages, message.checkNames language = .ok ())
    (failed : generateLanguage config table language disk = (after, .error failure)) :
    failure.IsLate config.templateSource := by
  rw [generate_language_session] at failed
  split at failed
  · rename_i changed cause unstarted
    cases failed
    exact .inl (Session.start_fails unstarted)
  · rename_i begun session started
    obtain ⟨sameLanguage, sameTemplates⟩ := Session.start_given started
    rw [← sameTemplates]
    split at failed
    · rename_i changed cause unwritten
      cases failed
      exact Session.write_messages_fails (sameLanguage ▸ accepted) unwritten
    · split at failed
      · rename_i changed cause unwritten
        cases failed
        exact Session.write_manager_fails unwritten
      · cases failed

/-- Languages whose names are accepted fail late. -/
theorem generate_languages_fails {languages : List Language}
    (accepted : ∀ language ∈ languages, ∀ message ∈ table.messages,
      message.checkNames language = .ok ())
    (failed : generateLanguages config table languages disk = (after, .error failure)) :
    failure.IsLate config.templateSource := by
  induction languages generalizing disk with
  | nil => cases failed
  | cons language languages inductionHypothesis =>
    obtain ⟨first, others⟩ := List.forall_mem_cons.mp accepted
    rw [generate_languages_cons] at failed
    split at failed
    · rename_i changed cause ungenerated
      cases failed
      exact generate_language_fails first ungenerated
    · split at failed
      · rename_i changed cause ungenerated
        cases failed
        exact inductionHypothesis others ungenerated
      · cases failed

/-- Names that are not accepted are refused for a schema. -/
theorem check_all_names_refuses (language : Language) (messages : List Message)
    (failed : checkAllNames language messages = .error failure) :
    ∃ error, failure = .schema error := by
  induction messages with
  | nil => cases failed
  | cons message messages inductionHypothesis =>
    rw [checkAllNames] at failed
    split at failed
    · cases failed
      exact ⟨_, rfl⟩
    · exact inductionHypothesis failed

/-- Names that are not accepted in all languages are refused for a schema. -/
theorem check_all_languages_refuses (messages : List Message) (languages : List Language)
    (failed : checkAllLanguages messages languages = .error failure) :
    ∃ error, failure = .schema error := by
  induction languages with
  | nil => cases failed
  | cons language languages inductionHypothesis =>
    rw [checkAllLanguages] at failed
    cases first : checkAllNames language messages with
    | error cause =>
      rw [first] at failed
      cases failed
      exact check_all_names_refuses language messages first
    | ok value =>
      rw [first] at failed
      exact inductionHypothesis failed

/-- A configuration that is not accepted is refused for the configuration. -/
theorem Config.validate_refuses (failed : config.validate disk = .error failure) :
    ∃ fault, failure = .configuration fault := by
  rw [validate] at failed
  by_cases empty : config.outputRoot.isEmpty = true
  · simp only [empty, if_true] at failed
    cases failed
    exact ⟨_, rfl⟩
  · by_cases none : config.languages.isEmpty = true
    · simp only [empty, none, if_true] at failed
      cases failed
      exact ⟨_, rfl⟩
    · simp only [empty, none] at failed
      cases templates : config.templateDirectory with
      | none => simp [templates] at failed
      | some directory =>
        simp only [templates, bind, Except.bind] at failed
        by_cases stands : disk.isDirectory directory = true
        · simp [stands] at failed
        · simp only [stands] at failed
          cases failed
          exact ⟨_, rfl⟩

/-- How a run fails: its configuration is refused, or a schema is, and the disk is as it was; or
everything is accepted, and it fails late. -/
theorem generate_fails (failed : generate config table disk = (after, .error failure)) :
    (after = disk ∧ config.validate disk = .error failure ∧
        ∃ fault, failure = .configuration fault) ∨
      (after = disk ∧ config.validate disk = .ok () ∧
        checkAllLanguages table.messages config.languages.toList = .error failure ∧
        ∃ error, failure = .schema error) ∨
      (config.validate disk = .ok () ∧
        checkAllLanguages table.messages config.languages.toList = .ok () ∧
        failure.IsLate config.templateSource) := by
  rw [generate] at failed
  split at failed
  · rename_i cause invalid
    cases failed
    exact .inl ⟨rfl, invalid, Config.validate_refuses invalid⟩
  · rename_i valid
    split at failed
    · rename_i cause refused
      cases failed
      exact .inr (.inl ⟨rfl, valid, refused, check_all_languages_refuses _ _ refused⟩)
    · rename_i accepted
      exact .inr (.inr ⟨valid, accepted,
        generate_languages_fails (check_all_languages_accepts _ _ accepted) failed⟩)

/-- A message that is refused in one of the selected languages refuses the whole run. -/
theorem generate_refuses (valid : config.validate disk = .ok ()) {language : Language}
    (selected : language ∈ config.languages.toList) {message : Message}
    (member : message ∈ table.messages) (taken : message.checkNames language ≠ .ok ()) :
    ∃ error, generate config table disk = (disk, .error (.schema error)) := by
  cases checked : checkAllLanguages table.messages config.languages.toList with
  | ok value =>
    exact absurd (check_all_languages_accepts _ _ checked language selected message member) taken
  | error cause =>
    obtain ⟨error, rfl⟩ := check_all_languages_refuses _ _ checked
    exact ⟨error, by rw [generate, valid, checked]⟩

end Generate

/-- What makes the refusal of a run atomic. -/
structure RefusesAtomically (config : Config) (table : Table) (disk : Disk) : Prop where
  /-- A run that is refused leaves the disk as it was. -/
  unchanged : ∀ after failure, generate config table disk = (after, .error failure) →
    failure.IsRefusal → after = disk
  /-- A message refuses the run in whichever of the selected languages its names are taken. -/
  whichever : config.validate disk = .ok () → ∀ language ∈ config.languages.toList,
    ∀ message ∈ table.messages, message.checkNames language ≠ .ok () →
      ∃ error, generate config table disk = (disk, .error (.schema error))
  /-- A refusal for a schema is the one of the check in front of the first change. -/
  inFront : ∀ after error, generate config table disk = (after, .error (.schema error)) →
    checkAllLanguages table.messages config.languages.toList = .error (.schema error)
  /-- Behind the check nothing is refused, whatever the disk has become. -/
  behind : checkAllLanguages table.messages config.languages.toList = .ok () →
    ∀ languages, (∀ language ∈ languages, language ∈ config.languages.toList) →
      ∀ during after failure,
        generateLanguages config table languages during = (after, .error failure) →
          ¬ failure.IsRefusal
  /-- No kind is refused. -/
  matched : ∀ after language expected found,
    generate config table disk ≠ (after, .error (.kindMismatch language expected found))
  /-- Rendering by the serializers of tags, which refuse the kinds of other tags, is rendering. -/
  ruled : ∀ language source during, ∀ message ∈ table.messages,
    message.renderBySerializers language source during = message.render language source during
  /-- With the bundled templates, what is accepted fails for the disk only. -/
  bundled : config.templateDirectory = none → config.validate disk = .ok () →
    checkAllLanguages table.messages config.languages.toList = .ok () →
    ∀ after failure, generate config table disk = (after, .error failure) → failure.IsOfDisk

/-- Every run is refused atomically. -/
theorem generate_atomic (config : Config) (table : Table) (disk : Disk) :
    RefusesAtomically config table disk := by
  constructor
  case unchanged =>
    intro after failure failed refusal
    rcases generate_fails failed with ⟨same, _⟩ | ⟨same, _⟩ | ⟨_, _, late⟩
    · exact same
    · exact same
    · exact absurd refusal late.no_refusal
  case whichever =>
    intro valid language selected message member taken
    exact generate_refuses valid selected member taken
  case inFront =>
    intro after error failed
    rcases generate_fails failed with ⟨_, _, fault, same⟩ | ⟨_, _, refused, _⟩ | ⟨_, _, late⟩
    · cases same
    · exact refused
    · exact absurd trivial late.no_refusal
  case behind =>
    intro checked languages selected during after failure failed
    have accepted := check_all_languages_accepts _ _ checked
    exact (generate_languages_fails (fun language member => accepted language
      (selected language member)) failed).no_refusal
  case matched =>
    intro after language expected found failed
    rcases generate_fails failed with ⟨_, _, fault, same⟩ | ⟨_, _, _, error, same⟩ | ⟨_, _, late⟩
    · cases same
    · cases same
    · rcases late with ofDisk | ⟨_, ofTemplate⟩
      · exact ofDisk
      · exact ofTemplate
  case ruled =>
    intro language source during message _
    exact message.render_by_serializers language source during
  case bundled =>
    intro templates valid checked after failure failed
    rcases generate_fails failed with ⟨_, invalid, _⟩ | ⟨_, _, refused, _⟩ | ⟨_, _, late⟩
    · cases valid.symm.trans invalid
    · cases checked.symm.trans refused
    · rcases late with ofDisk | ⟨other, _⟩
      · exact ofDisk
      · exact absurd (by rw [Config.templateSource, templates]) other

/-- A message whose type would be a word of Python refuses a run for both languages before the
directory of Go is cleared. -/
example (disk : Disk) :
    generate ⟨"out", .all, none⟩ ⟨[some ⟨0, "none", [], []⟩]⟩ disk =
      (disk, .error (.schema (.reservedTypeName "none" "None" .python))) :=
  rfl

/-- Whether a fault is found before a run begins. -/
def CommandFault.IsOfInput : CommandFault → Prop
  | manifest _ | sources _ | schemas _ => True
  | generation _ | archive _ => False

namespace Command

/-- What makes the refusal of a command that generates code atomic. -/
structure RefusesAtomically (request : GenerateRequest) (disk : Disk) : Prop where
  /-- A manifest that cannot be loaded ends the command. -/
  unloaded : ∀ fault, baseManifest request disk = .error fault →
    generate request disk = ⟨disk, "", .error (.manifest fault)⟩
  /-- A manifest that is not valid ends the command. -/
  invalid : ∀ base fault, baseManifest request disk = .ok base →
    (override request base).validate = .error fault →
      generate request disk = ⟨disk, "", .error (.manifest fault)⟩
  /-- Sources without schemas end the command. -/
  unread : ∀ base fault, baseManifest request disk = .ok base →
    (override request base).validate = .ok () →
    Source.loadSchemas disk (override request base).sources = .error fault →
      generate request disk = ⟨disk, "", .error (.sources fault)⟩
  /-- Schemas without a table end the command. -/
  untabled : ∀ base messages error, baseManifest request disk = .ok base →
    (override request base).validate = .ok () →
    Source.loadSchemas disk (override request base).sources = .ok messages →
    Table.ofMessages messages = .error error →
      generate request disk = ⟨disk, "", .error (.schemas error)⟩
  /-- A command that ends for its input leaves the disk as it was. -/
  unchanged : ∀ fault, (generate request disk).result = .error fault → fault.IsOfInput →
    (generate request disk).disk = disk
  /-- A command whose run is refused leaves the disk as it was. -/
  refused : ∀ failure, (generate request disk).result = .error (.generation failure) →
    failure.IsRefusal → (generate request disk).disk = disk

section Prepare

variable {request : GenerateRequest} {disk : Disk}

-- Comparing commands must look neither into manifests and sources nor into runs.
attribute [local irreducible] baseManifest override Manifest.validate Manifest.selection
  Source.loadSchemas Table.ofMessages PacketSmith.generate Archive.write

/-- A command ends with what is found before its run. -/
theorem generate_unprepared {fault : CommandFault} (failed : prepare request disk = .error fault) :
    generate request disk = ⟨disk, "", .error fault⟩ := by
  rw [generate, failed]

/-- A run that packs its output ends with a fault of the archive at most. -/
theorem finish_fails {prepared : Prepared} {reports : List LanguageReport} {printed : String}
    {fault : CommandFault} (failed : (finish prepared reports printed disk).result = .error fault) :
    ∃ cause, fault = .archive cause := by
  rw [finish] at failed
  split at failed
  · split at failed
    · cases failed
    · cases failed
      exact ⟨_, rfl⟩
  · cases failed

/-- How a command fails: before its run, in its run, or behind it for the archive. -/
theorem generate_outcome {fault : CommandFault}
    (failed : (generate request disk).result = .error fault) :
    generate request disk = ⟨disk, "", .error fault⟩ ∨
      (∃ (prepared : Prepared) (failure : Failure), fault = .generation failure ∧
        PacketSmith.generate prepared.config prepared.table disk =
          ((generate request disk).disk, .error failure)) ∨
      ∃ cause, fault = .archive cause := by
  cases ready : prepare request disk with
  | error cause =>
    have ended := generate_unprepared ready
    rw [ended] at failed
    cases failed
    exact .inl ended
  | ok prepared =>
    cases ran : PacketSmith.generate prepared.config prepared.table disk with
    | mk after outcome =>
      cases outcome with
      | error failure =>
        have ended : generate request disk =
            ⟨after, announcement prepared, .error (.generation failure)⟩ := by
          rw [generate, ready]
          simp only [ran]
        rw [ended] at failed ⊢
        cases failed
        exact .inr (.inl ⟨prepared, failure, rfl, ran⟩)
      | ok reports =>
        have ended : generate request disk = finish prepared reports
            (announcement prepared ++ reportLines reports) after := by
          rw [generate, ready]
          simp only [ran]
        rw [ended] at failed
        exact .inr (.inr (finish_fails failed))

/-- Every command that generates code is refused atomically. -/
theorem generate_refuses_atomically (request : GenerateRequest) (disk : Disk) :
    RefusesAtomically request disk := by
  constructor
  case unloaded =>
    intro fault unloaded
    apply generate_unprepared
    rw [prepare, unloaded]
    rfl
  case invalid =>
    intro base fault loaded invalid
    apply generate_unprepared
    rw [prepare, loaded]
    simp [Except.mapError, bind, Except.bind, invalid]
  case unread =>
    intro base fault loaded valid unread
    apply generate_unprepared
    rw [prepare, loaded]
    simp [Except.mapError, bind, Except.bind, valid, loadTable, unread]
  case untabled =>
    intro base messages error loaded valid read untabled
    apply generate_unprepared
    rw [prepare, loaded]
    simp [Except.mapError, bind, Except.bind, valid, loadTable, read, untabled]
  case unchanged =>
    intro fault failed ofInput
    rcases generate_outcome failed with ended | ⟨_, failure, rfl, _⟩ | ⟨cause, rfl⟩
    · rw [ended]
    · exact absurd ofInput id
    · exact absurd ofInput id
  case refused =>
    intro failure failed refusal
    rcases generate_outcome failed with ended | ⟨prepared, _, same, ran⟩ | ⟨cause, same⟩
    · rw [ended]
    · cases same
      exact (generate_atomic _ _ disk).unchanged _ _ ran refusal
    · cases same

end Prepare

end Command

/-- Rejection is atomic: a run that is refused for its configuration or for a schema, in whichever
language, has not changed the disk; no kind is ever refused; behind the checks nothing is refused,
and with the bundled templates only the disk can fail; and a command whose manifest, sources or
schemas are at fault has not changed the disk either. -/
theorem rejection_atomic (config : Config) (table : Table) (disk : Disk)
    (request : GenerateRequest) :
    RefusesAtomically config table disk ∧ Command.RefusesAtomically request disk :=
  ⟨generate_atomic config table disk, Command.generate_refuses_atomically request disk⟩

end PacketSmith
