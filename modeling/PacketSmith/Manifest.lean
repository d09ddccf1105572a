import PacketSmith.Failure
import PacketSmith.Language.Selection
import PacketSmith.Source.Load
import PacketSmith.Toml.Reader

/-!
# Manifests

A manifest is a TOML document whose table `generate` says which files the schemas come from,
where the output goes, for which languages, and with which templates. Paths in a manifest
file are relative to the directory of the file.
-/

namespace PacketSmith

/-- What a manifest says. -/
structure Manifest where
  /-- The files that schemas come from. -/
  sources : List String
  /-- The output root. -/
  output : String
  /-- The names of the languages; none means all languages. -/
  languages : List String
  /-- The directory with templates, in place of the bundled ones. -/
  templates : Option String
  /-- Whether the output is also packed into an archive. -/
  archive : Bool
  deriving DecidableEq, Repr

/-- What is wrong with a manifest. -/
inductive ManifestFault where
  /-- The file cannot be read. -/
  | unreadable (path : String)
  /-- The text is not a manifest. -/
  | malformed
  /-- No source is listed. -/
  | noSources
  /-- A source has no supported extension. -/
  | unsupportedSource (path : String)
  /-- The output root is empty. -/
  | emptyOutput
  /-- No language answers to a name. -/
  | unknownLanguage (name : String)
  deriving DecidableEq, Repr

/-- The wording of a fault. -/
def ManifestFault.message : ManifestFault → String
  | unreadable path => "Failed to read manifest: " ++ Text.quoted path ++ ": " ++ systemWords
  | malformed => "Failed to parse manifest: <toml>"
  | noSources => "At least one source file must be listed in [generate] sources"
  | unsupportedSource path => Source.unsupportedPath path
  | emptyOutput => "Output directory cannot be empty"
  | unknownLanguage name =>
    "Invalid language in manifest: " ++ name ++ ": " ++
      (Failure.unknownLanguage (.text name)).message

namespace Manifest

/-- A manifest that says nothing. -/
def default : Manifest :=
  ⟨[], "generated", [], none, false⟩

/-- The manifest that is looked for when none is named. -/
def defaultPath : String := "wiregen.toml"

/-! ## Reading -/

/-- The text of a value. -/
def text? : Toml → Option String
  | .text value => some value
  | _ => none

/-- The truth value of a value. -/
def truth? : Toml → Option Bool
  | .bool value => some value
  | _ => none

/-- The texts of a value that is an array of texts. -/
def texts? : Toml → Option (List String)
  | .array items => items.mapM text?
  | _ => none

/-- A value that may be missing: read if it is there. -/
def orElse (absent : α) (read : Toml → Option α) : Option Toml → Option α
  | none => some absent
  | some value => read value

/-- A manifest from its parts, some of which may be missing. -/
def ofParts? (sources output languages templates archive : Option Toml) : Option Manifest := do
  return {
    sources := ← orElse default.sources texts? sources
    output := ← orElse default.output text? output
    languages := ← orElse default.languages texts? languages
    templates := ← orElse default.templates (fun value => (text? value).map some) templates
    archive := ← orElse default.archive truth? archive }

/-- A manifest from the table `generate`, or from an array of its parts in order. A date or
a time has no part. -/
def ofValue? : Toml → Option Manifest
  | .table _ members => ofParts? (Toml.find? "sources" members) (Toml.find? "output" members)
      (Toml.find? "languages" members) (Toml.find? "templates" members)
      (Toml.find? "archive" members)
  | .array items => ofParts? items[0]? items[1]? items[2]? items[3]? items[4]?
  | .moment => some default
  | _ => none

/-- A manifest from the text of a document. -/
def ofText (text : String) : Except ManifestFault Manifest :=
  match ((Toml.ofText? text).bind (Toml.find? "generate")).bind ofValue? with
  | some manifest => .ok manifest
  | none => .error .malformed

/-- A path of a manifest, seen from where the directory of the manifest is seen from. -/
def resolvePath (base path : String) : String :=
  if Path.isAbsolute path || base.isEmpty then path else Path.join base path

/-- A manifest with its paths resolved against a directory. -/
def resolve (base : String) (manifest : Manifest) : Manifest :=
  { manifest with
    sources := manifest.sources.map (resolvePath base)
    output := resolvePath base manifest.output
    templates := manifest.templates.map (resolvePath base) }

/-- A manifest from a file, with its paths resolved against the directory of the file. -/
def ofFile (disk : Disk) (path : String) : Except ManifestFault Manifest := do
  match disk.readText path with
  | .error _ => .error (.unreadable path)
  | .ok text =>
    let manifest ← ofText text
    return match Path.parent? path with
      | some base => manifest.resolve base
      | none => manifest

/-! ## Validity -/

/-- The languages of names; no names mean all languages. -/
def languagesOf (names : List String) : Except ManifestFault Selection :=
  if names.isEmpty then .ok .all
  else do
    return .ofList (← names.mapM fun name =>
      match Language.ofText? name with
      | some language => .ok language
      | none => .error (.unknownLanguage name))

/-- The languages of a manifest. -/
def selection (manifest : Manifest) : Except ManifestFault Selection :=
  languagesOf manifest.languages

/-- Check a manifest: it lists sources, all of them supported, its output root is not empty,
and its languages are known. -/
def validate (manifest : Manifest) : Except ManifestFault Unit := do
  if manifest.sources.isEmpty then
    .error .noSources
  match manifest.sources.find? fun source => !Source.isSupported source with
  | some source => .error (.unsupportedSource source)
  | none => pure ()
  if manifest.output.isEmpty then
    .error .emptyOutput
  let _ ← manifest.selection

end Manifest
end PacketSmith
