import PacketSmith.Source.Grammar

/-!
# Patterns in source files

Patterns stand in function parameters, in loops, in matches and in bindings. They are only
recognized.
-/

namespace PacketSmith.Source.Grammar

/-- The alternatives of a pattern behind the first one, each behind a bar; `fuel` bounds
their number. -/
def alternativesLoop (grammar : Grammar) : Nat → Reading Unit
  | 0 => refuse
  | fuel + 1 => do
    let trees ← get
    if atSymbol "|" trees && !atSymbol "||" trees && !atSymbol "|=" trees then
      skipSymbol "|"
      grammar.pattern
      alternativesLoop grammar fuel

/-- A pattern with alternatives. A bar may also stand in front of the first one. -/
def alternatives (grammar : Grammar) : Reading Unit := do
  skip (optionalSymbol "|")
  grammar.pattern
  alternativesLoop grammar ((← get).length + 1)

/-- Whether a name is followed by something that makes it a path. -/
def atPatternPath (trees : List Tree) : Bool :=
  let next := behind trees
  (atName trees && (atSymbol "::" next || atSymbol "!" next || atGroup .curly next ||
    atGroup .round next || atSymbol ".." next)) ||
  (atWord "self" trees && atSymbol "::" next) || atSymbol "::" trees || atSymbol "<" trees ||
  atWords ["Self", "super", "crate"] trees

/-- A field in the pattern of a struct, behind its attributes. -/
def fieldPattern (grammar : Grammar) : Reading Unit := do
  let trees ← get
  let isPlain := !atWords ["box", "ref", "mut"] trees
  inOrder [skip (optionalWord "box"), skip (optionalWord "ref"), skip (optionalWord "mut")]
  let isName ← test atName
  if isName then skip name else skip literal
  if (isPlain && (← test (atSymbol ":"))) || !isName then
    skipSymbol ":"
    alternatives grammar

/-- The fields in the pattern of a struct; `fuel` bounds their number. Behind the last of
them two dots can stand for the other fields. -/
def fieldPatternsLoop (grammar : Grammar) : Nat → Reading Unit
  | 0 => refuse
  | fuel + 1 => do
    if ← test List.isEmpty then return
    skip (attributeTrees grammar)
    if ← test (atSymbol "..") then skipSymbol ".."
    else
      fieldPattern grammar
      whereAt (fun trees => !trees.isEmpty)
        (inOrder [skipSymbol ",", fieldPatternsLoop grammar fuel])

/-- The fields in the pattern of a struct between their braces. -/
def fieldPatterns (grammar : Grammar) : Reading Unit :=
  within .curly do fieldPatternsLoop grammar ((← get).length + 1)

/-- Whether a range in a pattern has no upper end. -/
def atRangeEnd (trees : List Tree) : Bool :=
  trees.isEmpty || atSymbol "|" trees || atSymbol "=" trees ||
    (atSymbol ":" trees && !atSymbol "::" trees) || atSymbol "," trees || atSymbol ";" trees ||
    atWord "if" trees

/-- One end of a range in a pattern. -/
def rangeBound (grammar : Grammar) : Reading Unit := do
  let trees ← get
  if atLiteral trees then skip literal
  else if atWord "const" trees then
    skipWord "const"
    grammar.block
  else skip (qualifiedPath grammar true)

/-- The dots and the upper end of a range in a pattern. -/
def rangeRest (grammar : Grammar) : Reading Unit := do
  let trees ← get
  let isClosed := atSymbol "..=" trees || atSymbol "..." trees
  skipSymbol (if atSymbol "..=" trees then "..=" else if isClosed then "..." else "..")
  if ← test atRangeEnd then
    if isClosed then refuse
  else rangeBound grammar

/-- A pattern that begins with a path. -/
def pathPattern (grammar : Grammar) : Reading Unit := do
  let (isQualified, path) ← qualifiedPath grammar true
  let trees ← get
  if !isQualified && atSymbol "!" trees && !atSymbol "!=" trees && path.isPlain then
    skipSymbol "!"
    skip rawGroup
  else if atGroup .curly trees then fieldPatterns grammar
  else if atGroup .round trees then skip (within .round (commas (alternatives grammar)))
  else if atSymbol ".." trees then rangeRest grammar

/-- A pattern without alternatives. -/
def readPattern (grammar : Grammar) : Reading Unit := do
  let trees ← get
  if atPatternPath trees then pathPattern grammar
  else if atWord "_" trees then skipWord "_"
  else if atWord "box" trees then
    skipWord "box"
    grammar.pattern
  else if atLiteral trees || atSymbol "-" trees || atWord "const" trees then
    rangeBound grammar
    whereAt (atSymbol "..") (rangeRest grammar)
  else if atWords ["ref", "mut", "self"] trees || atName trees then
    inOrder [skip (optionalWord "ref"), skip (optionalWord "mut")]
    if ← test (atWord "self") then skipWord "self" else skip name
    if ← test (atSymbol "@") then
      skipSymbol "@"
      grammar.pattern
  else if atSymbol "&" trees then
    inOrder [skipSymbol "&", skip (optionalWord "mut"), grammar.pattern]
  else if atGroup .round trees then skip (within .round (commas (alternatives grammar)))
  else if atGroup .square trees then skip (within .square (commas (alternatives grammar)))
  else if atSymbol ".." trees && !atSymbol "..." trees then rangeRest grammar
  else refuse

end PacketSmith.Source.Grammar
