import PacketSmith.Schema.Error

/-!
# Why a generation run fails

The causes that end a run, and the wording of each. Words of the operating system are not
part of a cause; a mark stands where they would be shown.
-/

namespace PacketSmith

/-- What is wrong with a configuration. -/
inductive ConfigurationFault where
  /-- The output root is empty. -/
  | emptyRoot
  /-- No language is selected. -/
  | noLanguage
  /-- The template directory is not a directory. -/
  | missingTemplates (directory : String)
  deriving DecidableEq, Repr

/-- The wording of a configuration fault. -/
def ConfigurationFault.message : ConfigurationFault → String
  | emptyRoot => "output root cannot be empty"
  | noLanguage => "at least one target language must be selected"
  | missingTemplates directory =>
    "template directory " ++ Text.quoted directory ++ " does not exist"

/-- A language that is asked for and not known. -/
inductive LanguageRequest where
  /-- By a text. -/
  | text (asked : String)
  /-- By bits. -/
  | bits (asked : Nat)
  deriving DecidableEq, Repr

/-- The text of a request. -/
def LanguageRequest.shown : LanguageRequest → String
  | text asked => asked
  | bits asked => "bits 0x" ++ Text.hexadecimal asked

/-- Why a run fails. -/
inductive Failure where
  /-- The configuration is incomplete or inconsistent. -/
  | configuration (fault : ConfigurationFault)
  /-- No language answers to what was asked for. -/
  | unknownLanguage (request : LanguageRequest)
  /-- The output directory cannot be prepared. -/
  | outputDirectory (path : String) (language : Language)
  /-- A template does not exist. -/
  | templateMissing (path : String)
  /-- A template cannot be read. -/
  | templateUnreadable (path : String)
  /-- A template has a marker for which there is no value. -/
  | unresolvedMarker (template name : String)
  /-- The schemas cannot be rendered. -/
  | schema (error : SchemaError)
  /-- Code for one kind was asked for a field of another. -/
  | kindMismatch (language : Language) (expected found : Tag)
  /-- A file cannot be written. -/
  | write (path resource : String) (language : Language)
  deriving DecidableEq, Repr

/-- The mark for words of the operating system. -/
def systemWords : String := "<io>"

/-- The wording of a failure. -/
def Failure.message : Failure → String
  | configuration fault => "configuration error: " ++ fault.message
  | unknownLanguage request => "unknown target language: " ++ request.shown
  | outputDirectory path language =>
    "output directory " ++ Text.quoted path ++ " is not usable for " ++ language.title ++ ": " ++
      systemWords
  | templateMissing path => "template not found: " ++ path
  | templateUnreadable path => "failed to read template " ++ path ++ ": " ++ systemWords
  | unresolvedMarker template name =>
    "template " ++ template ++ " has unresolved placeholder \x7b\x7b" ++ name ++ "\x7d\x7d"
  | schema error => error.message
  | kindMismatch language expected found =>
    language.title ++ " " ++ expected.name ++ " serializer cannot render a " ++ found.name ++
      " field"
  | write path resource language =>
    "failed to write " ++ Text.quoted path ++ " for " ++ resource ++ " (" ++ language.title ++
      "): " ++ systemWords

end PacketSmith
