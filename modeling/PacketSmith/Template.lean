import PacketSmith.Failure

/-!
# Templates

A template is a text with markers: a name of small letters and underscores between double
braces. Rendering puts a value in the place of each marker, in one pass, so that values are
never looked at again. Two braces that do not begin a marker are text, both of them, and the
search goes on behind the second.
-/

namespace PacketSmith

/-- A part of a template: one character of text, or a marker. -/
inductive TemplatePart where
  /-- A character that stays as it is. -/
  | character (single : Char)
  /-- The place of a value. -/
  | marker (name : List Char)
  deriving DecidableEq, Repr

namespace Template

/-- The characters of marker names. -/
def isNameCharacter (character : Char) : Bool :=
  character.isLower || character == '_'

/-- The name and the rest behind two opening braces, if they begin a marker. -/
def markerAfter? (text : List Char) : Option (List Char × List Char) :=
  match text.takeWhile isNameCharacter, text.dropWhile isNameCharacter with
  | first :: name, '\x7d' :: '\x7d' :: rest => some (first :: name, rest)
  | _, _ => none

/-- What stands behind a marker is shorter than what stands behind its opening braces. -/
theorem markerAfter_shorter {text name rest : List Char}
    (found : markerAfter? text = some (name, rest)) : rest.length < text.length := by
  have whole := List.takeWhile_append_dropWhile (p := isNameCharacter) (l := text)
  unfold markerAfter? at found
  split at found
  · rename_i tail same
    rw [same] at whole
    cases found
    rw [← whole]
    simp only [List.length_append, List.length_cons]
    omega
  · cases found

/-- The parts of a template. -/
def parts : List Char → List TemplatePart
  | [] => []
  | [character] => [.character character]
  | first :: second :: rest =>
    if first == '\x7b' && second == '\x7b' then
      match found : markerAfter? rest with
      | some (name, behind) =>
        have : behind.length < rest.length := markerAfter_shorter found
        .marker name :: parts behind
      | none => .character first :: .character second :: parts rest
    else .character first :: parts (second :: rest)
termination_by text => text.length
decreasing_by all_goals simp_all; try omega

/-- The first value listed for a name. -/
def valueOf? (values : List (String × String)) (name : String) : Option String :=
  (values.find? fun value => value.1 == name).map Prod.snd

/-- The text of a part, with the value in the place of a marker. -/
def fill (path : String) (values : List (String × String)) :
    TemplatePart → Except Failure (List Char)
  | .character single => .ok [single]
  | .marker name =>
    match valueOf? values (String.ofList name) with
    | some value => .ok value.toList
    | none => .error (.unresolvedMarker path (String.ofList name))

/-- The texts of parts, up to the first marker without a value. -/
def fillAll (path : String) (values : List (String × String)) :
    List TemplatePart → Except Failure (List Char)
  | [] => .ok []
  | part :: others => do
    let text ← fill path values part
    let rest ← fillAll path values others
    return text ++ rest

end Template

/-- A template: its text and the path it is known by. -/
structure Template where
  /-- The path that messages show. -/
  path : String
  /-- The text with its markers. -/
  text : String
  deriving DecidableEq, Repr

/-- The text of a template with a value in the place of each marker. Values without a
marker are not used. -/
def Template.render (template : Template) (values : List (String × String)) :
    Except Failure String := do
  return String.ofList (← Template.fillAll template.path values
    (Template.parts template.text.toList))

end PacketSmith
