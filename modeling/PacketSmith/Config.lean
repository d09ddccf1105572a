import PacketSmith.Schema.Json
import PacketSmith.Template.Source

/-!
# Configurations

What a generation run is told: where its output goes, for which languages, and where its
templates come from.
-/

namespace PacketSmith

/-- The configuration of a run. -/
structure Config where
  /-- The directory above the languages' output directories. -/
  outputRoot : String
  /-- The languages to generate. -/
  languages : Selection
  /-- The directory with templates, in place of the bundled ones. -/
  templateDirectory : Option String
  deriving DecidableEq, Repr

namespace Config

/-- Check a configuration before any file is touched. -/
def validate (config : Config) (disk : Disk) : Except Failure Unit := do
  if config.outputRoot.isEmpty then
    .error (.configuration .emptyRoot)
  if config.languages.isEmpty then
    .error (.configuration .noLanguage)
  match config.templateDirectory with
  | some directory =>
    if disk.isDirectory directory then .ok ()
    else .error (.configuration (.missingTemplates directory))
  | none => .ok ()

/-- The template source of a configuration. -/
def templateSource (config : Config) : TemplateSource :=
  match config.templateDirectory with
  | some directory => .directory directory
  | none => .bundled

/-- A configuration from its JSON form: an object, or an array of the parts in order. -/
def ofJson? (value : Json) : Option Config := do
  match ← Json.parts? ["output_root", "languages", "template_dir"] value with
  | [some root, languages, directory] =>
    return {
      outputRoot := ← root.text?
      languages := ← Json.orElse .empty Selection.ofJson? languages
      templateDirectory := ← Json.orElse none (fun value =>
        match value with
        | .null => some none
        | value => value.text?.map some) directory }
  | _ => none

/-- The JSON form of a configuration. -/
def toJson (config : Config) : Json :=
  .ofMembers [("output_root", .ofString config.outputRoot),
    ("languages", config.languages.toJson),
    ("template_dir", match config.templateDirectory with
      | some directory => .ofString directory
      | none => .null)]

end Config
end PacketSmith
