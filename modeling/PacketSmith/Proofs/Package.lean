import PacketSmith.Proofs.Disk.Path
import PacketSmith.Proofs.Schema.Validation
import PacketSmith.Session

/-!
# Packages

The package of a language is what its output directory is for: a file for each message, the
files that support them, and the manager file. The texts of the files depend on the disk only
through the resources that are loaded from it. The names of the files are proper names and
differ from each other, because the types of messages differ, hold letters and digits only, and
are none of those that the other files are named for.
-/

namespace PacketSmith

/-- The name of the file of a message. -/
def Message.fileName (language : Language) (message : Message) : String :=
  message.typeName ++ "." ++ language.layout.extension

/-- The name under which a support file is copied. -/
def Language.supportName (language : Language) (resource : String) : String :=
  ((Text.afterPrefix? language.layout.resourcePrefix.toList resource.toList).map
    String.ofList).getD resource

/-- The names of the files that are the same for every table. -/
def Language.runtimeNames (language : Language) : List String :=
  language.layout.supportFiles.map language.supportName ++ [language.layout.managerFile]

/-- The names of the files of a language for a table. -/
def Language.fileNames (language : Language) (table : Table) : List String :=
  table.messages.map (Message.fileName language) ++ language.runtimeNames

/-- The resources that are loaded for a language. -/
def Language.resources (language : Language) : List String :=
  language.layout.messageTemplate :: language.layout.managerTemplate ::
    language.layout.supportFiles

/-- The files of the messages of a language, each with its text or why there is none. -/
def Language.messageFiles (language : Language) (source : TemplateSource) (disk : Disk)
    (messages : List Message) : List (String × Except Failure String) :=
  messages.map fun message => (message.fileName language, message.render language source disk)

/-- The files that support those of a language. -/
def Language.supportFiles (language : Language) (source : TemplateSource) (disk : Disk)
    (resources : List String) : List (String × Except Failure String) :=
  resources.map fun resource => (language.supportName resource, source.load disk resource)

/-- The files of a language for a table, in the order in which they are reported. -/
def Language.package (language : Language) (source : TemplateSource) (disk : Disk)
    (table : Table) : List (String × Except Failure String) :=
  language.messageFiles source disk table.messages ++
    language.supportFiles source disk language.layout.supportFiles ++
    [(language.layout.managerFile, renderManager language source disk table.slots)]

/-- The names of the files in a package. -/
theorem package_names (language : Language) (source : TemplateSource) (disk : Disk)
    (table : Table) :
    (language.package source disk table).map Prod.fst = language.fileNames table := by
  simp [Language.fileNames, Language.package, Language.messageFiles, Language.supportFiles,
    Language.runtimeNames, Function.comp_def]

/-- A message is rendered alike wherever its template is loaded alike. -/
theorem Message.render_agrees (language : Language) (source other : TemplateSource)
    (disk otherDisk : Disk) (message : Message)
    (same : other.load otherDisk language.layout.messageTemplate =
      source.load disk language.layout.messageTemplate) :
    message.render language other otherDisk = message.render language source disk := by
  rw [render, render, TemplateSource.template, TemplateSource.template, same]

/-- A manager file is rendered alike wherever its template is loaded alike. -/
theorem render_manager_agrees (language : Language) (source other : TemplateSource)
    (disk otherDisk : Disk) (slots : List (Option Message))
    (same : other.load otherDisk language.layout.managerTemplate =
      source.load disk language.layout.managerTemplate) :
    renderManager language other otherDisk slots = renderManager language source disk slots := by
  rw [renderManager, renderManager, TemplateSource.template, TemplateSource.template, same]

/-- Packages are alike wherever their resources are loaded alike. -/
theorem package_agrees (language : Language) (source other : TemplateSource)
    (disk otherDisk : Disk) (table : Table)
    (same : ∀ resource ∈ language.resources,
      other.load otherDisk resource = source.load disk resource) :
    language.package other otherDisk table = language.package source disk table := by
  simp only [Language.resources, List.forall_mem_cons] at same
  obtain ⟨message, manager, support⟩ := same
  have messages : language.messageFiles other otherDisk table.messages =
      language.messageFiles source disk table.messages := by
    simp only [Language.messageFiles, Message.render_agrees language source other disk otherDisk _
      message]
  have supported : language.supportFiles other otherDisk language.layout.supportFiles =
      language.supportFiles source disk language.layout.supportFiles := by
    rw [Language.supportFiles, Language.supportFiles, List.map_inj_left]
    intro resource member
    rw [support resource member]
  rw [Language.package, Language.package, messages, supported,
    render_manager_agrees language source other disk otherDisk table.slots manager]

/-- The names of the files that are the same for every table are proper and differ. -/
theorem runtime_names_proper (language : Language) :
    (∀ name ∈ language.runtimeNames, Path.isName name = true) ∧ language.runtimeNames.Nodup := by
  cases language <;> decide

/-- The files that are the same for every table are named for types that are taken, or that no
message can have. -/
theorem runtime_names_taken (language : Language) :
    ∀ name ∈ language.runtimeNames, ∃ base, name = base ++ "." ++ language.layout.extension ∧
      (base ∈ language.takenTypeNames ∨ '_' ∈ base.toList) := by
  cases language with
  | go =>
    have names : Language.runtimeNames .go = ["ByteBuffer.go", "ProtocolManager.go"] := by decide
    simp only [names, List.forall_mem_cons]
    exact ⟨⟨"ByteBuffer", by decide⟩, ⟨"ProtocolManager", by decide⟩, by simp⟩
  | python =>
    have names : Language.runtimeNames .python =
        ["ByteBuffer.py", "__init__.py", "ProtocolManager.py"] := by decide
    simp only [names, List.forall_mem_cons]
    exact ⟨⟨"ByteBuffer", by decide⟩, ⟨"__init__", by decide⟩, ⟨"ProtocolManager", by decide⟩,
      by simp⟩

/-- Files of different types have different names. -/
theorem file_name_injective (extension first second : String)
    (same : first ++ "." ++ extension = second ++ "." ++ extension) : first = second := by
  rw [← String.toList_inj] at same ⊢
  simpa using same

/-- The file of a message that is named by an identifier has a proper name. -/
theorem Message.file_name_identifier (language : Language) (message : Message)
    (identifier : Name.isIdentifier message.name = true) :
    Path.isName (message.fileName language) = true := by
  have letters : ∀ character ∈ message.typeName.toList, character.isAlphanum = true :=
    Name.pascal_characters message.name identifier
  have slashless : '/' ∉ (message.fileName language).toList := by
    intro slash
    rw [fileName, String.toList_append, String.toList_append, List.mem_append,
      List.mem_append] at slash
    rcases slash with (member | dot) | extension
    · have letter := letters '/' member
      cases letter
    · simp at dot
    · cases language <;> simp [Language.layout] at extension
  -- The extension has letters in it, so that the name is no row of dots.
  have different : ∀ dots : String, dots.toList.all (· == '.') = true →
      message.fileName language ≠ dots := by
    rintro dots all same
    rw [← same, fileName, String.toList_append, List.all_append, Bool.and_eq_true] at all
    cases language <;> simp [Language.layout] at all
  rw [Path.isName, Path.isNothing]
  simp [slashless, different "" rfl, different "." (by decide), different ".." (by decide)]

/-- The file of a message has a proper name. -/
theorem Message.file_name_proper (language : Language) (message : Message)
    (sound : message.HeadSound) : Path.isName (message.fileName language) = true :=
  message.file_name_identifier language sound.named

/-- The file of a message that a language accepts is none of those that are always there. -/
theorem Message.file_name_free (language : Language) (message : Message)
    (sound : message.HeadSound) (accepted : message.checkNames language = .ok ()) :
    message.fileName language ∉ language.runtimeNames := by
  intro member
  obtain ⟨base, same, taken⟩ := runtime_names_taken language _ member
  obtain rfl := file_name_injective _ _ _ same
  rcases taken with found | underscore
  · exact (message.check_names_type language accepted).1 found
  · have letter := Name.pascal_characters message.name sound.named '_' underscore
    cases letter

/-- The files of a language have proper and different names. -/
def Language.HasProperNames (language : Language) (table : Table) : Prop :=
  (∀ name ∈ language.fileNames table, Path.isName name = true) ∧ (language.fileNames table).Nodup

/-- The files of a language have proper and different names if the types of the messages differ and
the language accepts them. -/
theorem file_names_proper (language : Language) (table : Table)
    (sound : ∀ message ∈ table.messages, message.HeadSound)
    (apart : table.messages.Pairwise fun message other => message.typeName ≠ other.typeName)
    (accepted : ∀ message ∈ table.messages, message.checkNames language = .ok ()) :
    language.HasProperNames table := by
  obtain ⟨proper, distinct⟩ := runtime_names_proper language
  rw [Language.HasProperNames, Language.fileNames]
  constructor
  · simp only [List.forall_mem_append, List.forall_mem_map]
    exact ⟨fun message member => message.file_name_proper language (sound message member), proper⟩
  · rw [List.nodup_append]
    refine ⟨?_, distinct, ?_⟩
    · rw [List.Nodup, List.pairwise_map]
      exact apart.imp fun different same => different (file_name_injective _ _ _ same)
    · intro name member other found same
      obtain ⟨message, declared, rfl⟩ := List.mem_map.mp member
      exact message.file_name_free language (sound message declared) (accepted message declared)
        (same ▸ found)

end PacketSmith
