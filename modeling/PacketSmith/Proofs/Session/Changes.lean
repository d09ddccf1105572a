import PacketSmith.Proofs.Disk.Changes
import PacketSmith.Proofs.Output
import PacketSmith.Proofs.Session.Starting

/-!
# What runs do to a disk

Every step of a session changes the disk by making directories, by writing files and by clearing the
output directory, and so does a run, whether it succeeds or fails. A run on a proper disk leaves a
proper disk.
-/

namespace PacketSmith

variable {disk : Disk}

/-- Making a directory and those above it changes the disk step by step. -/
theorem Disk.make_directories_changes (proper : disk.IsProper) (path : String) :
    disk.Changes (disk.makeDirectories path).1 :=
  make_each_changes proper _

/-- Removing a directory drops it, or what is in it. -/
theorem Disk.removed_changes (disk : Disk) (path : String) (location : Location)
    (lower : location ≠ []) : disk.Changes (disk.removed path location) := by
  rw [removed]
  split
  · exact .dropped disk location .nothing lower
  · exact .emptied disk location .nothing

namespace Session

/-- Starting a session clears a directory and makes directories. -/
theorem start_changes (config : Config) (language : Language) (templates : TemplateSource)
    (proper : disk.IsProper) : disk.Changes (start config language templates disk).1 := by
  cases cleared : clearDirectory disk (config.outputPath language) with
  | error fault =>
    rw [start_uncleared fault cleared]
    exact .nothing
  | ok between =>
    have first : disk.Changes between := by
      rw [clear_directory_resolve] at cleared
      split at cleared <;> cases cleared
      · rename_i location resolved
        have place : location = config.outputPlace disk.here language :=
          disk.resolve_location _ _ resolved
        exact disk.removed_changes _ location (place ▸ config.output_lower disk.here language)
      · exact .nothing
      · exact .nothing
    rw [start_cleared between cleared]
    exact first.trans (Disk.make_directories_changes (proper.changed first) _)

section Writing

-- Looking at what is done to the disk must not look into how.
attribute [local irreducible] Disk.makeDirectories Disk.write Path.join Path.parent?

/-- Writing a file makes directories and puts the file. -/
theorem write_file_changes (session : Session) (schema path text : String)
    (proper : disk.IsProper) : disk.Changes (session.writeFile schema path text disk).1 := by
  have prepared : disk.Changes (session.prepareParent path disk).1 := by
    rw [prepareParent]
    split
    · split
      · exact .nothing
      · exact Disk.make_directories_changes proper _
    · exact .nothing
  rw [writeFile]
  split
  · rename_i between fault same
    exact prepared.outcome same
  · rename_i between same
    have first : disk.Changes between := prepared.outcome same
    split
    · rename_i after written
      exact first.trans (Disk.write_changes (proper.changed first).tree path _ written)
    · exact first

end Writing

section Steps

-- Comparing steps must look neither into the writing of files nor into the texts of paths.
attribute [local irreducible] writeFile Path.join

/-- Writing a message writes its file, if any. -/
theorem write_message_changes (session : Session) (message : Message) (proper : disk.IsProper) :
    disk.Changes (session.writeMessage message disk).1 := by
  rw [writeMessage]
  split
  · exact .nothing
  · rename_i text _
    have file := session.write_file_changes message.name (session.messagePath message) text proper
    dsimp only
    split <;> rename_i same <;> exact file.outcome same

/-- Writing messages writes files. -/
theorem write_messages_changes (session : Session) (messages : List Message)
    (proper : disk.IsProper) : disk.Changes (session.writeMessages messages disk).1 := by
  induction messages generalizing disk with
  | nil => exact .nothing
  | cons message messages inductionHypothesis =>
    have file := session.write_message_changes message proper
    rw [writeMessages]
    split
    · rename_i same
      exact file.outcome same
    · rename_i between path same
      have first : disk.Changes between := file.outcome same
      have rest := first.trans (inductionHypothesis (proper.changed first))
      split <;> rename_i others <;> exact rest.outcome others

/-- Copying support files writes files. -/
theorem copy_support_changes (session : Session) (resources : List String)
    (proper : disk.IsProper) : disk.Changes (session.copySupport resources disk).1 := by
  induction resources generalizing disk with
  | nil => exact .nothing
  | cons resource resources inductionHypothesis =>
    rw [copy_support_cons]
    split
    · exact .nothing
    · rename_i text _
      have file := session.write_file_changes resource (session.supportPath resource) text proper
      split
      · rename_i same
        exact file.outcome same
      · rename_i between same
        have first : disk.Changes between := file.outcome same
        have rest := first.trans (inductionHypothesis (proper.changed first))
        split <;> rename_i others <;> exact rest.outcome others

/-- Writing a manager copies support files and writes a file. -/
theorem write_manager_changes (session : Session) (slots : List (Option Message))
    (proper : disk.IsProper) : disk.Changes (session.writeManager slots disk).1 := by
  have support := session.copy_support_changes session.language.layout.supportFiles proper
  rw [writeManager]
  dsimp only
  split
  · rename_i same
    exact support.outcome same
  · rename_i between paths same
    have first : disk.Changes between := support.outcome same
    split
    · exact first
    · rename_i text _
      have file := first.trans (session.write_file_changes session.language.layout.managerFile
        (Path.join session.outputDirectory session.language.layout.managerFile) text
        (proper.changed first))
      split <;> rename_i last <;> exact file.outcome last

end Steps
end Session

/-- Generating a language starts a session and writes everything. -/
theorem generate_language_changes (config : Config) (table : Table) (language : Language)
    (proper : disk.IsProper) : disk.Changes (generateLanguage config table language disk).1 := by
  have start := Session.start_changes config language config.templateSource proper
  rw [generate_language_session]
  split
  · rename_i same
    exact start.outcome same
  · rename_i started session same
    have first : disk.Changes started := start.outcome same
    have messages := first.trans
      (session.write_messages_changes table.messages (proper.changed first))
    split
    · rename_i written
      exact messages.outcome written
    · rename_i between files written
      have second : disk.Changes between := messages.outcome written
      have manager := second.trans
        (session.write_manager_changes table.slots (proper.changed second))
      split <;> rename_i last <;> exact manager.outcome last

/-- Generating languages changes the disk step by step. -/
theorem generate_languages_changes (config : Config) (table : Table) (languages : List Language)
    (proper : disk.IsProper) : disk.Changes (generateLanguages config table languages disk).1 := by
  induction languages generalizing disk with
  | nil => exact .nothing
  | cons language languages inductionHypothesis =>
    have package := generate_language_changes config table language proper
    rw [generate_languages_cons]
    split
    · rename_i same
      exact package.outcome same
    · rename_i between report same
      have first : disk.Changes between := package.outcome same
      have rest := first.trans (inductionHypothesis (proper.changed first))
      split <;> rename_i others <;> exact rest.outcome others

/-- A run changes the disk step by step, whether it succeeds or fails. -/
theorem generate_changes (config : Config) (table : Table) (proper : disk.IsProper) :
    disk.Changes (generate config table disk).1 := by
  rw [generate]
  split
  · exact .nothing
  · split
    · exact .nothing
    · exact generate_languages_changes config table _ proper

end PacketSmith
