import PacketSmith.Session

/-!
# Generation runs

A run generates every message of a table for every selected language. The configuration and
all names are checked before the first file is touched; from there on the first failure ends
the run, and what was written before it stays.
-/

namespace PacketSmith

/-- The files written for one language. -/
structure LanguageReport where
  /-- The language. -/
  language : Language
  /-- The language's output directory. -/
  directory : String
  /-- Message files in the order of their numbers, then support files, then the manager
  file. -/
  files : List String
  deriving DecidableEq, Repr

/-- The number of files in reports. -/
def fileCount : List LanguageReport → Nat
  | [] => 0
  | report :: reports => report.files.length + fileCount reports

/-- Check the names of messages in a language, up to the first problem. -/
def checkAllNames (language : Language) : List Message → Except Failure Unit
  | [] => .ok ()
  | message :: messages =>
    match message.checkNames language with
    | .error error => .error (.schema error)
    | .ok () => checkAllNames language messages

/-- Check the names of messages in every language of a list. -/
def checkAllLanguages (messages : List Message) : List Language → Except Failure Unit
  | [] => .ok ()
  | language :: languages => do
    checkAllNames language messages
    checkAllLanguages messages languages

/-- Generate all files of one language. -/
def generateLanguage (config : Config) (table : Table) (language : Language) (disk : Disk) :
    Disk × Except Failure LanguageReport :=
  match Session.start config language config.templateSource disk with
  | (disk, .error failure) => (disk, .error failure)
  | (disk, .ok session) =>
    match session.writeMessages table.messages disk with
    | (disk, .error failure) => (disk, .error failure)
    | (disk, .ok files) =>
      match session.writeManager table.slots disk with
      | (disk, .error failure) => (disk, .error failure)
      | (disk, .ok others) => (disk, .ok ⟨language, session.outputDirectory, files ++ others⟩)

/-- Generate the files of languages in order, up to the first failure. -/
def generateLanguages (config : Config) (table : Table) :
    List Language → Disk → Disk × Except Failure (List LanguageReport)
  | [], disk => (disk, .ok [])
  | language :: languages, disk =>
    match generateLanguage config table language disk with
    | (disk, .error failure) => (disk, .error failure)
    | (disk, .ok report) =>
      match generateLanguages config table languages disk with
      | (disk, .error failure) => (disk, .error failure)
      | (disk, .ok reports) => (disk, .ok (report :: reports))

/-- Generate every message of a table for every selected language. -/
def generate (config : Config) (table : Table) (disk : Disk) :
    Disk × Except Failure (List LanguageReport) :=
  match config.validate disk with
  | .error failure => (disk, .error failure)
  | .ok () =>
    match checkAllLanguages table.messages config.languages.toList with
    | .error failure => (disk, .error failure)
    | .ok () => generateLanguages config table config.languages.toList disk

end PacketSmith
