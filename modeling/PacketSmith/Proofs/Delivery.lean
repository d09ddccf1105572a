import PacketSmith.Generate
import PacketSmith.Proofs.Templates

/-!
# Delivering files

What a session writes is a delivery: files in the output directory, each in the place of a file
or of nothing, under the paths that are reported. Deliveries follow each other, so that the
files of the messages, the files that support them and the manager file are one delivery: the
package of the language, with the texts that could be made before the run if what is loaded during
it could be loaded before.
-/

namespace PacketSmith

section Files

variable {disk : Disk} {place : Location}

/-- Files that follow others. -/
theorem Disk.put_files_append (disk : Disk) (place : Location)
    (files others : List (String × String)) :
    disk.putFiles place (files ++ others) = (disk.putFiles place files).putFiles place others := by
  induction files generalizing disk with
  | nil => rfl
  | cons file files inductionHypothesis => exact inductionHypothesis _

/-- Files in a directory change nothing but what stands at their places. -/
theorem Disk.node_put_files_other (files : List (String × String)) (location : Location)
    (other : ∀ file ∈ files, location ≠ place ++ [file.1]) :
    (disk.putFiles place files).node? location = disk.node? location := by
  induction files generalizing disk with
  | nil => rfl
  | cons file files inductionHypothesis =>
    rw [List.forall_mem_cons] at other
    rw [putFiles, inductionHypothesis other.2, node_put _ _ _ _ (by simp), if_neg other.1]

/-- Files with different names all stand in the directory in the end. -/
theorem Disk.node_put_files (files : List (String × String))
    (distinct : (files.map Prod.fst).Nodup) :
    ∀ file ∈ files, (disk.putFiles place files).node? (place ++ [file.1]) =
      some (.file (.text file.2)) := by
  induction files generalizing disk with
  | nil => simp
  | cons file files inductionHypothesis =>
    rw [List.map_cons, List.nodup_cons] at distinct
    rw [List.forall_mem_cons, putFiles]
    refine ⟨?_, inductionHypothesis distinct.2⟩
    rw [node_put_files_other, node_put _ _ _ _ (by simp), if_pos rfl]
    intro other member same
    have name : file.1 = other.1 := by simpa using same
    exact distinct.1 (name ▸ List.mem_map_of_mem member)

end Files

/-- Files as members of a package whose texts have been made. -/
def asDelivered (files : List (String × String)) : List (String × Except Failure String) :=
  files.map fun file => (file.1, .ok file.2)

/-- Files whose texts have been made are the same if they are members of the same package. -/
theorem delivered_injective (files others : List (String × String))
    (same : asDelivered files = asDelivered others) : files = others := by
  refine List.map_injective_iff.mpr ?_ same
  rintro ⟨name, text⟩ ⟨otherName, otherText⟩ equal
  simpa using equal

/-- Whether a run that starts from a disk makes files as the members of a package. -/
structure Config.Makes (config : Config) (initial : Disk)
    (package : List (String × Except Failure String)) (files : List (String × String)) : Prop where
  /-- The files are named as the members are. -/
  names : files.map Prod.fst = package.map Prod.fst
  /-- If what is loaded during the run could be loaded before, so could the texts be made. -/
  texts : config.LoadsInitially initial → package = asDelivered files

namespace Config.Makes

variable {config : Config} {initial : Disk} {package others : List (String × Except Failure String)}
variable {files otherFiles : List (String × String)}

/-- Nothing is made as no members. -/
theorem nothing : config.Makes initial [] [] :=
  ⟨rfl, fun _ => rfl⟩

/-- A file is made as one member if its text could be made. -/
theorem single (name text : String) (made : Except Failure String)
    (initially : config.LoadsInitially initial → made = .ok text) :
    config.Makes initial [(name, made)] [(name, text)] :=
  ⟨rfl, fun loads => by rw [initially loads]; rfl⟩

/-- Files that follow others are made as the members that follow theirs. -/
theorem append (first : config.Makes initial package files)
    (second : config.Makes initial others otherFiles) :
    config.Makes initial (package ++ others) (files ++ otherFiles) := by
  constructor
  · rw [List.map_append, List.map_append, first.names, second.names]
  · intro loads
    simp [asDelivered, first.texts loads, second.texts loads]

end Config.Makes

/-- What is true of the writing of files in the session of a language during a run. -/
structure Delivery (config : Config) (initial : Disk) (language : Language) (disk after : Disk)
    (files : List (String × String)) (paths : List String) : Prop where
  /-- The paths are those of the files. -/
  named : paths = files.map fun file => Path.join (config.outputPath language) file.1
  /-- The files are put in the output directory. -/
  written : after = disk.putFiles (config.outputPlace initial.here language) files
  /-- No file is put in the place of a directory. -/
  free : ∀ file ∈ files,
    disk.node? (config.outputPlace initial.here language ++ [file.1]) ≠ some .directory
  /-- The files can be looked up. -/
  readable : ∀ file ∈ files, IsReadable config language file.1
  /-- The disk stays ready. -/
  ready : Ready config initial.here language after
  /-- The run goes on. -/
  during : During config initial after

namespace Delivery

variable {config : Config} {initial : Disk} {language : Language} {disk between after : Disk}

/-- Nothing is delivered if nothing is written. -/
theorem nothing (ready : Ready config initial.here language disk)
    (during : During config initial disk) :
    Delivery config initial language disk disk [] [] :=
  ⟨rfl, rfl, by simp, by simp, ready, during⟩

/-- A file that is written is delivered. -/
theorem single (selected : language ∈ config.languages.toList)
    (ready : Ready config initial.here language disk) (during : During config initial disk)
    (schema name text : String) (named : Path.isName name = true)
    (written : (config.session language).writeFile schema
      (Path.join (config.outputPath language) name) text disk = (after, .ok ())) :
    Delivery config initial language disk after [(name, text)]
      [Path.join (config.outputPath language) name] := by
  obtain ⟨rfl, free, readable⟩ := Session.write_file_exact ready schema name text named written
  exact ⟨rfl, rfl, by simpa using free, by simpa using readable, ready.put name text free,
    during.put selected ready name text free⟩

/-- Deliveries follow each other. -/
theorem append {files others : List (String × String)} {paths otherPaths : List String}
    (first : Delivery config initial language disk between files paths)
    (second : Delivery config initial language between after others otherPaths) :
    Delivery config initial language disk after (files ++ others) (paths ++ otherPaths) := by
  refine ⟨?_, ?_, ?_, List.forall_mem_append.mpr ⟨first.readable, second.readable⟩, second.ready,
    second.during⟩
  · rw [first.named, second.named, List.map_append]
  · rw [second.written, first.written, Disk.put_files_append]
  · rw [List.forall_mem_append]
    constructor
    · exact first.free
    · intro file member stands
      apply second.free file member
      rw [first.written, Disk.node_put_files_other]
      · exact stands
      · intro other found same
        exact first.free other found (same ▸ stands)

end Delivery

section Package

-- The paths of files are compared as they are written, and not as texts.
attribute [local irreducible] Path.join

variable {config : Config} {initial : Disk} {language : Language} {disk after : Disk}

/-- The path of the file of a message. -/
theorem message_path (config : Config) (language : Language) (message : Message) :
    (config.session language).messagePath message =
      Path.join (config.outputPath language) (message.fileName language) :=
  rfl

/-- The path of a support file. -/
theorem support_path (config : Config) (language : Language) (resource : String) :
    (config.session language).supportPath resource =
      Path.join (config.outputPath language) (language.supportName resource) :=
  rfl

/-- A message that is rendered during a run could be rendered before it. -/
theorem Message.renders_initially (loads : config.LoadsInitially initial)
    (during : During config initial disk) (message : Message) (text : String)
    (rendered : message.render language config.templateSource disk = .ok text) :
    message.render language config.templateSource initial = .ok text := by
  cases loaded : config.templateSource.load disk language.layout.messageTemplate with
  | error failure =>
    rw [render, TemplateSource.template, loaded] at rendered
    split at rendered <;> cases rendered
  | ok template =>
    have same := loads disk during language _ List.mem_cons_self template loaded
    rw [message.render_agrees language config.templateSource config.templateSource disk initial
      (same.trans loaded.symm)]
    exact rendered

/-- A manager file that is rendered during a run could be rendered before it. -/
theorem render_manager_initially (loads : config.LoadsInitially initial)
    (during : During config initial disk) (slots : List (Option Message)) (text : String)
    (rendered : renderManager language config.templateSource disk slots = .ok text) :
    renderManager language config.templateSource initial slots = .ok text := by
  cases loaded : config.templateSource.load disk language.layout.managerTemplate with
  | error failure =>
    rw [renderManager, TemplateSource.template, loaded] at rendered
    cases rendered
  | ok template =>
    have same := loads disk during language _ (List.mem_cons_of_mem _ List.mem_cons_self) template
      loaded
    rw [render_manager_agrees language config.templateSource config.templateSource disk initial
      slots (same.trans loaded.symm)]
    exact rendered

/-- The messages that a session writes are delivered. -/
theorem write_messages_deliver (selected : language ∈ config.languages.toList)
    (ready : Ready config initial.here language disk) (during : During config initial disk)
    (messages : List Message)
    (named : ∀ message ∈ messages, Path.isName (message.fileName language) = true)
    (paths : List String)
    (written : (config.session language).writeMessages messages disk = (after, .ok paths)) :
    ∃ files,
      config.Makes initial (language.messageFiles config.templateSource initial messages) files ∧
      Delivery config initial language disk after files paths := by
  induction messages generalizing disk paths with
  | nil =>
    cases written
    exact ⟨[], .nothing, .nothing ready during⟩
  | cons message messages inductionHypothesis =>
    rw [List.forall_mem_cons] at named
    obtain ⟨between, path, others, first, rest, rfl⟩ := Session.write_messages_steps written
    obtain ⟨text, rendered, rfl, file⟩ := Session.write_message_steps first
    rw [message_path] at file ⊢
    have head := Delivery.single selected ready during _ _ _ named.1 file
    obtain ⟨files, made, delivered⟩ :=
      inductionHypothesis head.ready head.during named.2 others rest
    have makes := Config.Makes.single (message.fileName language) text _ fun loads =>
      message.renders_initially loads during text rendered
    exact ⟨(message.fileName language, text) :: files, makes.append made, head.append delivered⟩

/-- The support files that a session copies are delivered. -/
theorem copy_support_deliver (selected : language ∈ config.languages.toList)
    (ready : Ready config initial.here language disk) (during : During config initial disk)
    (resources : List String)
    (loaded : ∀ resource ∈ resources, resource ∈ language.resources)
    (named : ∀ resource ∈ resources, Path.isName (language.supportName resource) = true)
    (paths : List String)
    (copied : (config.session language).copySupport resources disk = (after, .ok paths)) :
    ∃ files,
      config.Makes initial (language.supportFiles config.templateSource initial resources) files ∧
      Delivery config initial language disk after files paths := by
  induction resources generalizing disk paths with
  | nil =>
    cases copied
    exact ⟨[], .nothing, .nothing ready during⟩
  | cons resource resources inductionHypothesis =>
    rw [List.forall_mem_cons] at loaded named
    obtain ⟨text, between, others, first, file, rest, rfl⟩ := Session.copy_support_steps copied
    rw [support_path] at file ⊢
    have head := Delivery.single selected ready during _ _ _ named.1 file
    obtain ⟨files, made, delivered⟩ :=
      inductionHypothesis head.ready head.during loaded.2 named.2 others rest
    have makes : config.Makes initial
        [(language.supportName resource, config.templateSource.load initial resource)]
        [(language.supportName resource, text)] :=
      .single _ text _ fun loads => loads disk during language resource loaded.1 text first
    exact ⟨(language.supportName resource, text) :: files, makes.append made,
      head.append delivered⟩

/-- The package of a language is delivered by a session that writes everything. -/
theorem session_delivers (selected : language ∈ config.languages.toList)
    {started between : Disk} (ready : Ready config initial.here language started)
    (during : During config initial started)
    (table : Table)
    (named : ∀ message ∈ table.messages, Path.isName (message.fileName language) = true)
    (paths others : List String)
    (messages : (config.session language).writeMessages table.messages started =
      (between, .ok paths))
    (manager : (config.session language).writeManager table.slots between = (after, .ok others)) :
    ∃ files, config.Makes initial (language.package config.templateSource initial table) files ∧
      Delivery config initial language started after files (paths ++ others) := by
  obtain ⟨proper, _⟩ := runtime_names_proper language
  rw [Language.runtimeNames, List.forall_mem_append, List.forall_mem_map] at proper
  obtain ⟨messageFiles, madeMessages, first⟩ :=
    write_messages_deliver selected ready during table.messages named paths messages
  obtain ⟨middle, supportPaths, text, copied, rendered, file, rfl⟩ :=
    Session.write_manager_steps manager
  obtain ⟨supportFiles, madeSupport, second⟩ :=
    copy_support_deliver selected first.ready first.during language.layout.supportFiles
      (fun resource member => List.mem_cons_of_mem _ (List.mem_cons_of_mem _ member)) proper.1
      supportPaths copied
  have third := Delivery.single selected second.ready second.during _ _ _
    (proper.2 _ List.mem_cons_self) file
  have madeManager := Config.Makes.single language.layout.managerFile text _ fun loads =>
    render_manager_initially loads second.during table.slots text rendered
  refine ⟨messageFiles ++ (supportFiles ++ [(language.layout.managerFile, text)]), ?_,
    first.append (second.append third)⟩
  rw [Language.package, List.append_assoc]
  exact madeMessages.append (madeSupport.append madeManager)

end Package
end PacketSmith
