import PacketSmith.Source.Item
import PacketSmith.Source.Reading

/-!
# The grammar of source files

Types, expressions, patterns and items contain each other. The grammar is a record of one
reader for each of them; the readers of the following modules are written over any such
record, and the record itself is closed at the end, with a bound on how deep things stand
inside each other. This module has what all of them share: paths, attributes, type
parameters and bounds.
-/

namespace PacketSmith.Source

/-- How a type that was read can go on. -/
inductive TypeForm where
  /-- One name, perhaps with arguments. -/
  | name
  /-- A path of another form. -/
  | path
  /-- One bound that is not a plain path. -/
  | bound
  /-- Anything else. -/
  | other
  deriving DecidableEq

/-- A type that was read. -/
structure ReadType where
  /-- The type as fields look at it. -/
  shape : TypeSyntax
  /-- The type as it is printed. -/
  printed : List Tree
  /-- How the type can go on. -/
  form : TypeForm

/-- One reader for each thing that contains others. -/
structure Grammar where
  /-- A type, and whether it may be a sum of bounds. -/
  type : Bool → Reading ReadType
  /-- A bound of a type, and whether it is a trait. -/
  bound : Reading (Bool × List Tree)
  /-- The arguments of a type between their angle brackets. -/
  arguments : Reading (List TypeSyntax × List Tree)
  /-- An expression, and whether it may be a struct literal. -/
  expression : Bool → Reading Unit
  /-- An operand, and whether it may be a struct literal. -/
  operand : Bool → Reading Unit
  /-- What stands between the braces of a block. -/
  statements : Reading Unit
  /-- What stands between the braces of a match. -/
  arms : Reading Unit
  /-- A pattern without alternatives. -/
  pattern : Reading Unit
  /-- An item. -/
  item : Reading Item

/-- The grammar in which nothing can be read. -/
def Grammar.stuck : Grammar :=
  ⟨fun _ => refuse, refuse, refuse, fun _ => refuse, fun _ => refuse, refuse, refuse, refuse,
    refuse⟩

/-- A type that is only known by its text. -/
def ReadType.ofPrinted (printed : List Tree) (form : TypeForm) : ReadType :=
  ⟨.other (Tree.textAll false printed), printed, form⟩

namespace Grammar

/-- A type as it is printed. -/
def typeTrees (grammar : Grammar) (sums : Bool) : Reading (List Tree) :=
  return (← grammar.type sums).printed

/-- A block between its braces. -/
def block (grammar : Grammar) : Reading Unit :=
  within .curly grammar.statements

/-! ## Paths -/

/-- The words that stand for a place instead of a name. -/
def placeWords : List String :=
  ["super", "self", "Self", "crate"]

/-- Whether a name or a place comes first. -/
def atPathWord (trees : List Tree) : Bool :=
  atName trees || atWords placeWords trees

/-- The segments of a path without arguments, at least one; `fuel` bounds their number. -/
def plainSegments : Nat → Reading (List String × List Tree)
  | 0 => refuse
  | fuel + 1 => do
    if !(← test atPathWord) then refuse
    let word ← anyWord
    if ← test (atSymbol "::") then
      let mark ← symbol "::"
      let (words, printed) ← plainSegments fuel
      return (word :: words, wordTrees word ++ mark ++ printed)
    else return ([word], wordTrees word)

/-- A path without arguments: its words, and the path as it is printed. -/
def plainPath : Reading (List String × List Tree) := do
  let leading ← optionalSymbol "::"
  let (words, printed) ← plainSegments ((← get).length + 1)
  return (if leading.isEmpty then words else "" :: words, leading ++ printed)

/-- A segment of a path: its name, its type arguments if it has any, and the segment as it
is printed. In expressions arguments stand behind a double colon. -/
def segment (grammar : Grammar) (inExpression : Bool) :
    Reading (String × Option (List TypeSyntax) × List Tree) := do
  let trees ← get
  if atWords ["super", "self", "crate", "try"] trees then
    let word ← anyWord
    return (word, none, wordTrees word)
  let word ← if atWord "Self" trees then anyWord else name
  let trees ← get
  if (!inExpression && atSymbol "<" trees && !atSymbol "<=" trees)
      || atSymbol "<" (behindSymbol "::" trees) then
    let mark ← optionalSymbol "::"
    let (types, printed) ← grammar.arguments
    return (word, some types, wordTrees word ++ mark ++ printed)
  else return (word, none, wordTrees word)

/-- A path that was read. -/
structure ReadPath where
  /-- The names of the segments. -/
  names : List String
  /-- The type arguments of the last segment, if it has any. -/
  arguments : Option (List TypeSyntax)
  /-- Whether no segment has arguments. -/
  isPlain : Bool
  /-- Whether the path begins with a double colon. -/
  isLeading : Bool
  /-- The path as it is printed. -/
  printed : List Tree

/-- The segments of a path, at least one; `fuel` bounds their number. -/
def segmentsLoop (grammar : Grammar) (inExpression : Bool) : Nat → Reading ReadPath
  | 0 => refuse
  | fuel + 1 => do
    let (word, types, printed) ← segment grammar inExpression
    let trees ← get
    if atSymbol "::" trees && !atGroup .round (behindSymbol "::" trees) then
      let mark ← symbol "::"
      let others ← segmentsLoop grammar inExpression fuel
      return ⟨word :: others.names, others.arguments, types.isNone && others.isPlain, false,
        printed ++ mark ++ others.printed⟩
    else return ⟨[word], types, types.isNone, false, printed⟩

/-- A path. -/
def path (grammar : Grammar) (inExpression : Bool) : Reading ReadPath := do
  let leading ← optionalSymbol "::"
  let path ← segmentsLoop grammar inExpression ((← get).length + 1)
  return { path with isLeading := !leading.isEmpty, printed := leading ++ path.printed }

/-- A path that may begin with a type between angle brackets, and whether it does. -/
def qualifiedPath (grammar : Grammar) (inExpression : Bool) : Reading (Bool × ReadPath) := do
  if ← test (atSymbol "<") then
    let opening ← symbol "<"
    let self ← grammar.typeTrees true
    let trait ← do
      if ← test (atWord "as") then
        let mark ← word "as"
        pure (mark ++ (← path grammar false).printed)
      else pure []
    let closing ← symbol ">"
    let mark ← symbol "::"
    let rest ← segmentsLoop grammar inExpression ((← get).length + 1)
    return (true, { rest with
      printed := opening ++ self ++ trait ++ closing ++ mark ++ rest.printed })
  else return (false, ← path grammar inExpression)

/-! ## Attributes -/

/-- What stands behind the equals sign of an attribute: a literal that is all there is, or
an expression. -/
def attributeValue (grammar : Grammar) : Reading (Option String × List Tree) := do
  let trees ← get
  match trees with
  | [.leaf (.literal written (.text value))] =>
    set ([] : List Tree)
    return (some value, [.leaf (.literal written (.text value))])
  | _ =>
    if atSymbol "#" trees && atGroup .square (behind trees) then refuse
    return (none, ← printedOf (grammar.expression true))

/-- The inside of an attribute. -/
def attributeInside (grammar : Grammar) : Reading (Attribute × List Tree) := do
  let (words, path) ←
    if ← test (atWord "unsafe") then
      let word ← anyWord
      pure ([word], wordTrees word)
    else plainPath
  let name := match words with
    | [word] => some word
    | _ => none
  let trees ← get
  if atGroup .round trees || atGroup .square trees || atGroup .curly trees then
    let (bracket, content) ← rawGroup
    return (⟨name, .list content⟩, path ++ [.group bracket content])
  else if atSymbol "=" trees then
    let mark ← symbol "="
    let (text, printed) ← attributeValue grammar
    return (⟨name, .value text⟩, path ++ mark ++ printed)
  else return (⟨name, .none⟩, path)

/-- An attribute of what follows. -/
def outerAttribute (grammar : Grammar) : Reading (Attribute × List Tree) := do
  let mark ← symbol "#"
  let (inside, printed) ← within .square (attributeInside grammar)
  return (inside, mark ++ [.group .square printed])

/-- The attributes in front of something. -/
def attributes (grammar : Grammar) : Reading (List Attribute) :=
  return (← manyWhile (atSymbol "#") (outerAttribute grammar)).map Prod.fst

/-- The attributes in front of something as they are printed. -/
def attributeTrees (grammar : Grammar) : Reading (List Tree) :=
  return (← manyWhile (atSymbol "#") (outerAttribute grammar)).flatMap Prod.snd

/-- Whether an attribute of what is around it comes first. -/
def atInnerAttribute (trees : List Tree) : Bool :=
  atSymbol "#" trees && atSymbol "!" (behind trees)

/-- The attributes of what is around them as they are printed. -/
def innerAttributes (grammar : Grammar) : Reading (List Tree) := do
  let found ← manyWhile atInnerAttribute do
    let first ← symbol "#"
    let second ← symbol "!"
    let (_, printed) ← within .square (attributeInside grammar)
    return first ++ second ++ [.group .square printed]
  return found.flatten

end Grammar
end PacketSmith.Source
