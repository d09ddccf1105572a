import PacketSmith.Archive
import PacketSmith.Generate
import PacketSmith.Json.Printer
import PacketSmith.Manifest

/-!
# Commands

The three commands of the program: generating code, checking a manifest, and printing
schemas. A command gives the disk as it leaves it, the text that it prints, and its outcome;
a command that fails keeps what it printed before.
-/

namespace PacketSmith

/-- Why a command fails. -/
inductive CommandFault where
  /-- The manifest. -/
  | manifest (fault : ManifestFault)
  /-- The sources of schemas. -/
  | sources (fault : Source.LoadFault)
  /-- The schemas as a whole. -/
  | schemas (error : SchemaError)
  /-- The generation run. -/
  | generation (failure : Failure)
  /-- The archive. -/
  | archive (fault : ArchiveFault)
  deriving DecidableEq, Repr

/-- The wording of a fault. -/
def CommandFault.message : CommandFault → String
  | manifest fault => fault.message
  | sources fault => fault.message
  | schemas error => "Invalid protocol schema: " ++ error.message
  | generation failure => "Code generation failed: " ++ failure.message
  | archive fault => fault.message

/-- What a command leaves behind. -/
structure Outcome where
  /-- The disk. -/
  disk : Disk
  /-- The printed text. -/
  printed : String
  /-- Whether the command succeeded, and if not, why. -/
  result : Except CommandFault Unit

/-- What is asked for on the command line when code is generated. -/
structure GenerateRequest where
  /-- The manifest, if one is named. -/
  manifest : Option String
  /-- Sources, in place of those of the manifest. -/
  sources : List String
  /-- The output root, in place of the one of the manifest. -/
  output : Option String
  /-- Languages, in place of those of the manifest. -/
  languages : List String
  /-- The template directory, in place of the one of the manifest. -/
  templates : Option String
  /-- Whether an archive is asked for, whatever the manifest says. -/
  archive : Bool
  deriving DecidableEq, Repr

namespace Command

/-- The table of the schemas of sources. -/
def loadTable (disk : Disk) (sources : List String) : Except CommandFault Table := do
  let messages ← (Source.loadSchemas disk sources).mapError .sources
  (Table.ofMessages messages).mapError .schemas

/-! ## Generating -/

/-- The manifest that a request goes out from: the one it names, or the default one if that
is a file, or one that says nothing. -/
def baseManifest (request : GenerateRequest) (disk : Disk) : Except ManifestFault Manifest :=
  match request.manifest with
  | some path => Manifest.ofFile disk path
  | none =>
    if disk.isFile Manifest.defaultPath then Manifest.ofFile disk Manifest.defaultPath
    else .ok Manifest.default

/-- A manifest with what a request says in place of what the manifest says. -/
def override (request : GenerateRequest) (manifest : Manifest) : Manifest where
  sources := if request.sources.isEmpty then manifest.sources else request.sources
  output := request.output.getD manifest.output
  languages := if request.languages.isEmpty then manifest.languages else request.languages
  templates := request.templates.orElse fun _ => manifest.templates
  archive := manifest.archive || request.archive

/-- What a generation run works on. -/
structure Prepared where
  /-- The manifest. -/
  manifest : Manifest
  /-- The table of messages. -/
  table : Table
  /-- The configuration of the run. -/
  config : Config

/-- Everything that is read and checked before a run begins. -/
def prepare (request : GenerateRequest) (disk : Disk) : Except CommandFault Prepared := do
  let base ← (baseManifest request disk).mapError .manifest
  let manifest := override request base
  manifest.validate.mapError .manifest
  let table ← loadTable disk manifest.sources
  let languages ← manifest.selection.mapError .manifest
  return ⟨manifest, table, ⟨manifest.output, languages, manifest.templates⟩⟩

/-- The line at the beginning of a run. -/
def announcement (prepared : Prepared) : String :=
  "Generating " ++ toString prepared.table.size ++ " protocols from " ++
    toString prepared.manifest.sources.length ++ " sources\n"

/-- The line for one language. -/
def reportLine (report : LanguageReport) : String :=
  "✓ " ++ report.language.title ++ ": " ++ toString report.files.length ++ " files in " ++
    report.directory ++ "\n"

/-- The lines for all languages. -/
def reportLines : List LanguageReport → String
  | [] => ""
  | report :: reports => reportLine report ++ reportLines reports

/-- The line at the end of a run. -/
def summary (reports : List LanguageReport) : String :=
  "\nGenerated " ++ toString (fileCount reports) ++ " files\n"

/-- Pack the output of a run, if that is asked for, and print what is left to print. -/
def finish (prepared : Prepared) (reports : List LanguageReport) (printed : String)
    (disk : Disk) : Outcome :=
  if prepared.manifest.archive then
    match Archive.write prepared.manifest.output (reports.map LanguageReport.directory) disk with
    | (disk, .ok path) =>
      ⟨disk, printed ++ "✓ Archive: " ++ path ++ "\n" ++ summary reports, .ok ()⟩
    | (disk, .error fault) => ⟨disk, printed, .error (.archive fault)⟩
  else ⟨disk, printed ++ summary reports, .ok ()⟩

/-- Generate code. -/
def generate (request : GenerateRequest) (disk : Disk) : Outcome :=
  match prepare request disk with
  | .error fault => ⟨disk, "", .error fault⟩
  | .ok prepared =>
    let printed := announcement prepared
    match PacketSmith.generate prepared.config prepared.table disk with
    | (disk, .error failure) => ⟨disk, printed, .error (.generation failure)⟩
    | (disk, .ok reports) => finish prepared reports (printed ++ reportLines reports) disk

/-! ## Checking -/

/-- The lines that describe a valid manifest. -/
def description (manifest : Manifest) (table : Table) (languages : Selection) : String :=
  "✓ Sources: " ++ toString manifest.sources.length ++ "\n✓ Protocols: " ++
    toString table.size ++ "\n✓ Languages: " ++
    Text.joinWith ", " (languages.toList.map Language.name) ++ "\n\nManifest is valid!\n"

/-- The description of the manifest at a path, if it and its schemas are valid. -/
def describe (path : String) (disk : Disk) : Except CommandFault String := do
  let manifest ← (Manifest.ofFile disk path).mapError .manifest
  manifest.validate.mapError .manifest
  let table ← loadTable disk manifest.sources
  let languages ← manifest.selection.mapError .manifest
  return description manifest table languages

/-- Check a manifest. -/
def check (path : Option String) (disk : Disk) : Outcome :=
  let path := path.getD Manifest.defaultPath
  let heading := "Checking manifest: " ++ path ++ "\n"
  match describe path disk with
  | .ok text => ⟨disk, heading ++ text, .ok ()⟩
  | .error fault => ⟨disk, heading, .error fault⟩

/-! ## Printing -/

/-- The sources of a manifest, or the given ones. -/
def schemaSources (sources : List String) (manifest : Option String) (disk : Disk) :
    Except CommandFault (List String) :=
  match manifest with
  | some path => do return (← (Manifest.ofFile disk path).mapError .manifest).sources
  | none => .ok sources

/-- The printed schemas of sources. -/
def schemaText (sources : List String) (manifest : Option String) (disk : Disk) :
    Except CommandFault String := do
  let sources ← schemaSources sources manifest disk
  let messages ← (Source.loadSchemas disk sources).mapError .sources
  return (Message.listToJson messages).pretty ++ "\n"

/-- Print schemas. -/
def schema (sources : List String) (manifest : Option String) (disk : Disk) : Outcome :=
  match schemaText sources manifest disk with
  | .ok text => ⟨disk, text, .ok ()⟩
  | .error fault => ⟨disk, "", .error fault⟩

end Command
end PacketSmith
