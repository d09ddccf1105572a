import Mathlib.Data.List.Basic
import PacketSmith.Proofs.Code.Dispatch

/-!
# Rendering with the bundled templates

No marker goes over the end of a line, so the markers of a text are those of its lines. Every
marker of a bundled template is one that rendering has a value for. With the bundled templates a
message is therefore rendered as soon as its names are accepted, and the manager file always;
with other templates, only the template can be at fault then.
-/

namespace PacketSmith

/-- Whether a failure is about a template. -/
def Failure.IsOfTemplate : Failure → Prop
  | templateMissing _ | templateUnreadable _ | unresolvedMarker _ _ => True
  | _ => False

namespace Template

/-- The characters of a name in front of the end of a line are those of the line. -/
theorem name_in_line (front back : List Char) :
    (front ++ '\n' :: back).takeWhile isNameCharacter = front.takeWhile isNameCharacter ∧
      (front ++ '\n' :: back).dropWhile isNameCharacter =
        front.dropWhile isNameCharacter ++ '\n' :: back := by
  induction front with
  | nil => exact ⟨rfl, rfl⟩
  | cons first front inductionHypothesis =>
    simp only [List.cons_append, List.takeWhile_cons, List.dropWhile_cons, inductionHypothesis,
      true_and]
    split <;> rfl

/-- What begins a marker does so in front of the end of the line. -/
theorem marker_in_line (front back : List Char) :
    markerAfter? (front ++ '\n' :: back) =
      (markerAfter? front).map fun found => (found.1, found.2 ++ '\n' :: back) := by
  rw [markerAfter?, markerAfter?, (name_in_line front back).1, (name_in_line front back).2]
  rcases front.takeWhile isNameCharacter with _ | ⟨first, name⟩
  · simp
  · rcases front.dropWhile isNameCharacter with _ | ⟨second, _ | ⟨third, rest⟩⟩
    · simp
    · by_cases brace : second = '\x7d' <;> simp [brace]
    · by_cases brace : second = '\x7d' <;> by_cases other : third = '\x7d' <;>
        simp [brace, other]

/-- Two braces that begin a marker are a part together with it. -/
theorem parts_marker (rest name behind : List Char)
    (found : markerAfter? rest = some (name, behind)) :
    parts ('\x7b' :: '\x7b' :: rest) = .marker name :: parts behind := by
  rw [parts]
  simp only [beq_self_eq_true, Bool.and_self, if_true]
  split
  · rename_i same
    cases found.symm.trans same
    rfl
  · rename_i none
    cases found.symm.trans none

/-- Two braces that do not begin a marker are text. -/
theorem parts_braces (rest : List Char) (found : markerAfter? rest = none) :
    parts ('\x7b' :: '\x7b' :: rest) =
      .character '\x7b' :: .character '\x7b' :: parts rest := by
  rw [parts]
  simp only [beq_self_eq_true, Bool.and_self, if_true]
  split
  · rename_i same
    cases found.symm.trans same
  · rfl

/-- A character that does not begin two braces is text. -/
theorem parts_character (first second : Char) (rest : List Char)
    (other : ¬(first == '\x7b' && second == '\x7b') = true) :
    parts (first :: second :: rest) = .character first :: parts (second :: rest) := by
  rw [parts, if_neg other]

/-- The parts of a text are those in front of the end of a line, the end, and those behind it. -/
theorem parts_line (front back : List Char) :
    parts (front ++ '\n' :: back) = parts front ++ .character '\n' :: parts back := by
  have ending (back : List Char) : parts ('\n' :: back) = .character '\n' :: parts back := by
    cases back <;> simp [parts]
  induction front using parts.induct with
  | case1 => simp [ending, parts]
  | case2 character => simp [parts, ending]
  | case3 first second rest braces name behind found _ inductionHypothesis =>
    obtain ⟨rfl, rfl⟩ : first = '\x7b' ∧ second = '\x7b' := by simpa using braces
    have further : markerAfter? (rest ++ '\n' :: back) =
        some (name, behind ++ '\n' :: back) := by
      rw [marker_in_line, found]
      rfl
    rw [parts_marker rest name behind found, List.cons_append, List.cons_append,
      parts_marker _ _ _ further, inductionHypothesis, List.cons_append]
  | case4 first second rest braces found inductionHypothesis =>
    obtain ⟨rfl, rfl⟩ : first = '\x7b' ∧ second = '\x7b' := by simpa using braces
    have further : markerAfter? (rest ++ '\n' :: back) = none := by
      rw [marker_in_line, found]
      rfl
    rw [parts_braces rest found, List.cons_append, List.cons_append, parts_braces _ further,
      inductionHypothesis, List.cons_append, List.cons_append]
  | case5 first second rest other inductionHypothesis =>
    rw [parts_character first second rest other, List.cons_append, List.cons_append,
      parts_character first second _ other, List.cons_append, ← inductionHypothesis,
      List.cons_append]

/-- The name of a part that is a marker. -/
def nameOf? : TemplatePart → Option String
  | .character _ => none
  | .marker name => some (String.ofList name)

/-- The names of the markers of a text. -/
def names (text : String) : List String :=
  (parts text.toList).filterMap nameOf?

/-- The names in a text that is given by its characters. -/
theorem names_characters (characters : List Char) :
    names (String.ofList characters) = (parts characters).filterMap nameOf? := by
  rw [names, String.toList_ofList]

/-- The names in a text are those in its lines. -/
theorem names_lines (lines : List String) :
    names (Bundled.text lines) = lines.flatMap names := by
  induction lines with
  | nil => simp [names, Bundled.text, parts]
  | cons line lines inductionHypothesis =>
    have whole : (Bundled.text (line :: lines)).toList =
        line.toList ++ '\n' :: (Bundled.text lines).toList := by
      simp [Bundled.text]
    rw [names, whole, parts_line, List.filterMap_append, List.flatMap_cons, ← inductionHypothesis]
    rfl

/-- What stands in the place of a part: nothing for a marker without a value. -/
def characters (values : List (String × String)) : TemplatePart → List Char
  | .character single => [single]
  | .marker name => ((valueOf? values (String.ofList name)).getD "").toList

/-- A text with a value in the place of each marker. -/
def filled (values : List (String × String)) (text : String) : String :=
  String.ofList ((parts text.toList).flatMap (characters values))

/-- A text that is given by its lines is filled line by line. -/
theorem filled_lines (values : List (String × String)) (lines : List String) :
    filled values (Bundled.text lines) = Bundled.text (lines.map (filled values)) := by
  induction lines with
  | nil => simp [filled, Bundled.text, parts]
  | cons line lines inductionHypothesis =>
    have whole : (Bundled.text (line :: lines)).toList =
        line.toList ++ '\n' :: (Bundled.text lines).toList := by
      simp [Bundled.text]
    have others : (parts (Bundled.text lines).toList).flatMap (characters values) =
        (Bundled.text (lines.map (filled values))).toList := by
      rw [← inductionHypothesis, filled, String.toList_ofList]
    rw [← String.toList_inj, filled, whole, parts_line, List.flatMap_append, List.flatMap_cons,
      others]
    simp [Bundled.text, filled, characters]

/-- Texts are filled alike if all their markers have the same values. -/
theorem filled_congr (values others : List (String × String)) (text : String)
    (same : ∀ name ∈ names text, valueOf? values name = valueOf? others name) :
    filled values text = filled others text := by
  rw [filled, filled]
  congr 1
  refine List.flatMap_congr fun part member => ?_
  cases part with
  | character single => rfl
  | marker name =>
    have listed : String.ofList name ∈ names text := List.mem_filterMap.mpr ⟨_, member, rfl⟩
    rw [characters, characters, same _ listed]

/-- Parts are filled if every marker has a value. -/
theorem fill_all_valued (path : String) (values : List (String × String))
    (parts : List TemplatePart)
    (valued : ∀ name ∈ parts.filterMap nameOf?, name ∈ values.map Prod.fst) :
    fillAll path values parts = .ok (parts.flatMap (characters values)) := by
  induction parts with
  | nil => rfl
  | cons part parts inductionHypothesis =>
    have first : fill path values part = .ok (characters values part) := by
      cases part with
      | character single => rfl
      | marker name =>
        have listed : ∃ value ∈ values, (value.1 == String.ofList name) = true := by
          simpa [nameOf?] using valued (String.ofList name) (by simp [nameOf?])
        cases found : values.find? fun value => value.1 == String.ofList name with
        | some value => simp [fill, characters, valueOf?, found]
        | none =>
          obtain ⟨value, member, same⟩ := listed
          exact absurd same (List.find?_eq_none.mp found value member)
    have others : ∀ name ∈ parts.filterMap nameOf?, name ∈ values.map Prod.fst := by
      intro name member
      apply valued
      cases part <;> simp_all [nameOf?]
    rw [fillAll, first, inductionHypothesis others]
    rfl

/-- A template is rendered if every marker has a value. -/
theorem render_valued (template : Template) (values : List (String × String))
    (valued : ∀ name ∈ names template.text, name ∈ values.map Prod.fst) :
    template.render values = .ok (filled values template.text) := by
  rw [render, fill_all_valued template.path values _ valued]
  rfl

/-- Parts that are not filled have a marker without a value. -/
theorem fill_all_fails (path : String) (values : List (String × String))
    (parts : List TemplatePart) (failure : Failure)
    (failed : fillAll path values parts = .error failure) : failure.IsOfTemplate := by
  induction parts with
  | nil => cases failed
  | cons part parts inductionHypothesis =>
    rw [fillAll] at failed
    cases first : fill path values part with
    | error cause =>
      rw [first] at failed
      cases failed
      cases part with
      | character single => cases first
      | marker name =>
        rw [fill] at first
        split at first <;> cases first
        trivial
    | ok text =>
      rw [first] at failed
      cases others : fillAll path values parts with
      | error cause =>
        rw [others] at failed
        cases failed
        exact inductionHypothesis others
      | ok rest =>
        rw [others] at failed
        cases failed

/-- A template that is not rendered is at fault. -/
theorem render_fails (template : Template) (values : List (String × String)) (failure : Failure)
    (failed : template.render values = .error failure) : failure.IsOfTemplate := by
  rw [render] at failed
  cases filled : fillAll template.path values (parts template.text.toList) with
  | error cause =>
    rw [filled] at failed
    cases failed
    exact fill_all_fails _ _ _ _ filled
  | ok text =>
    rw [filled] at failed
    cases failed

end Template

/-- The names that rendering a message has values for. -/
def Message.markerNames : List String :=
  ["header", "class_note", "class_name", "protocol_id", "field_definition", "write_object",
    "read_object"]

/-- The names that rendering a manager file has values for. -/
def managerMarkerNames : List String :=
  ["header", "registrations"]

/-- A resource in a table is loaded from any disk. -/
theorem TemplateSource.load_table (resources : List (String × String)) (disk : Disk)
    (path text : String)
    (listed : (resources.find? fun resource => resource.1 == path) = some (path, text)) :
    (table resources).load disk path = .ok text := by
  delta load
  dsimp only
  rw [listed]

/-- Lines that are bundled under a path, with markers that all are among some names. -/
structure IsBundled (path : String) (names lines : List String) : Prop where
  /-- The table has the lines under the path. -/
  listed : (Template.Bundled.resources.find? fun resource => resource.1 == path) =
    some (path, Template.Bundled.text lines)
  /-- The markers in the lines are among the names. -/
  among : (lines.flatMap Template.names).all names.contains = true

/-- A bundled template is rendered from any disk, line by line, as soon as all names have
values. -/
theorem IsBundled.renders {path : String} {names lines : List String}
    (bundled : IsBundled path names lines) (disk : Disk) (values : List (String × String))
    (valued : values.map Prod.fst = names) :
    ∃ template, TemplateSource.bundled.template disk path = .ok template ∧
      template.render values =
        .ok (Template.Bundled.text (lines.map (Template.filled values))) := by
  have loaded := TemplateSource.load_table _ disk path _ bundled.listed
  have known : ∀ name ∈ Template.names (Template.Bundled.text lines),
      name ∈ values.map Prod.fst := by
    intro name member
    rw [Template.names_lines] at member
    simpa [valued] using List.all_eq_true.mp bundled.among name member
  have rendered := Template.render_valued ⟨path, Template.Bundled.text lines⟩ values known
  rw [Template.filled_lines] at rendered
  exact ⟨_, congrArg (Except.map (Template.mk path)) loaded, rendered⟩

section Bundled

open Template.Bundled

/-- The lines of the bundled message template of a language. -/
def Language.messageLines : Language → List String
  | go => goMessage
  | python => pythonMessage

-- The characters of the lines are written out before the markers are computed.

/-- The bundled message template of a language has no marker but those with a value. -/
theorem bundled_message_template (language : Language) :
    IsBundled language.layout.messageTemplate Message.markerNames language.messageLines := by
  cases language with
  | go =>
    refine ⟨rfl, ?_⟩
    simp only [Language.messageLines, goMessage, List.flatMap_cons, List.flatMap_nil]
    repeat rw [Template.names_characters]
    decide +kernel
  | python =>
    refine ⟨rfl, ?_⟩
    simp only [Language.messageLines, pythonMessage, List.flatMap_cons, List.flatMap_nil]
    repeat rw [Template.names_characters]
    decide +kernel

/-- The bundled manager template of a language has no marker but those with a value. -/
theorem bundled_manager_template (language : Language) :
    ∃ lines, IsBundled language.layout.managerTemplate managerMarkerNames lines := by
  cases language with
  | go =>
    refine ⟨goManager, rfl, ?_⟩
    simp only [goManager, List.flatMap_cons, List.flatMap_nil]
    repeat rw [Template.names_characters]
    decide +kernel
  | python =>
    refine ⟨pythonManager, rfl, ?_⟩
    simp only [pythonManager, List.flatMap_cons, List.flatMap_nil]
    repeat rw [Template.names_characters]
    decide +kernel

end Bundled

/-- A bundled support file is loaded from any disk. -/
theorem bundled_support (language : Language) (disk : Disk) :
    ∀ resource ∈ language.layout.supportFiles, ∃ text,
      TemplateSource.bundled.load disk resource = .ok text := by
  cases language with
  | go =>
    simp only [Language.layout, List.forall_mem_cons]
    exact ⟨⟨_, TemplateSource.load_table _ _ _ _ rfl⟩, by simp⟩
  | python =>
    simp only [Language.layout, List.forall_mem_cons]
    exact ⟨⟨_, TemplateSource.load_table _ _ _ _ rfl⟩, ⟨_, TemplateSource.load_table _ _ _ _ rfl⟩,
      by simp⟩

section Loading

-- Comparing the loading of a resource with itself must not look into the reading of the file.
attribute [local irreducible] Disk.readText Path.join

/-- What is not loaded is a template that is missing or cannot be read. -/
theorem TemplateSource.load_fails (source : TemplateSource) (disk : Disk) (path : String)
    (failure : Failure) (failed : source.load disk path = .error failure) :
    failure.IsOfTemplate := by
  delta load at failed
  cases source with
  | table resources =>
    dsimp only at failed
    split at failed <;> cases failed
    trivial
  | directory base =>
    dsimp only at failed
    split at failed <;> cases failed <;> trivial

end Loading

section Rendering

-- Comparing files must look neither into the templates nor into the blocks.
attribute [local irreducible] TemplateSource.load Message.blockText

/-- What is not rendered although its template is loaded has a template at fault, and so has what
is not loaded. -/
theorem TemplateSource.template_fails (source : TemplateSource) (disk : Disk) (path : String)
    (values : List (String × String)) (failure : Failure)
    (failed : (do (← source.template disk path).render values) = .error failure) :
    failure.IsOfTemplate := by
  rw [template] at failed
  cases loaded : source.load disk path with
  | error cause =>
    rw [loaded] at failed
    cases failed
    exact source.load_fails disk path _ loaded
  | ok text =>
    rw [loaded] at failed
    exact Template.render_fails _ values _ failed

/-- A message whose names are accepted and that is not rendered has a template at fault. -/
theorem Message.render_fails (language : Language) (source : TemplateSource) (disk : Disk)
    (message : Message) (accepted : message.checkNames language = .ok ()) (failure : Failure)
    (failed : message.render language source disk = .error failure) : failure.IsOfTemplate := by
  rw [render, accepted] at failed
  exact source.template_fails disk _ _ _ failed

/-- A manager file that is not rendered has a template at fault. -/
theorem render_manager_fails (language : Language) (source : TemplateSource) (disk : Disk)
    (slots : List (Option Message)) (failure : Failure)
    (failed : renderManager language source disk slots = .error failure) :
    failure.IsOfTemplate :=
  source.template_fails disk _ _ _ failed

/-- The text of a message in the bundled template. -/
def Message.bundledText (language : Language) (message : Message) : String :=
  Template.Bundled.text
    (language.messageLines.map (Template.filled (message.markerValues language)))

/-- With the bundled templates, the file of a message whose names are accepted is its text in the
template. -/
theorem Message.render_bundled_text (language : Language) (disk : Disk) (message : Message)
    (accepted : message.checkNames language = .ok ()) :
    message.render language .bundled disk = .ok (message.bundledText language) := by
  obtain ⟨template, loaded, rendered⟩ :=
    (bundled_message_template language).renders disk (message.markerValues language) rfl
  rw [render, accepted]
  simp only [loaded]
  exact rendered

/-- With the bundled templates, a message is rendered as soon as its names are accepted. -/
theorem Message.render_bundled (language : Language) (disk : Disk) (message : Message)
    (accepted : message.checkNames language = .ok ()) :
    ∃ text, message.render language .bundled disk = .ok text :=
  ⟨_, message.render_bundled_text language disk accepted⟩

/-- With the bundled templates, every manager file is rendered. -/
theorem render_manager_bundled (language : Language) (disk : Disk)
    (slots : List (Option Message)) :
    ∃ text, renderManager language .bundled disk slots = .ok text := by
  obtain ⟨lines, bundled⟩ := bundled_manager_template language
  obtain ⟨template, loaded, rendered⟩ := bundled.renders disk
    [("header", headerText language),
     ("registrations", Text.trimmed (renderLines language (registrationLines language slots)))] rfl
  rw [renderManager, loaded]
  exact ⟨_, rendered⟩

end Rendering

end PacketSmith
