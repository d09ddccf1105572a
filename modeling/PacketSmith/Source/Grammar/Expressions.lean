import PacketSmith.Source.Grammar.Patterns
import PacketSmith.Source.Grammar.Types

/-!
# Expressions in source files

Expressions stand in array lengths, in constants and in the bodies of functions. They are
only recognized: operands with operators between them, without regard to how tightly the
operators bind, except that comparisons cannot be chained.
-/

namespace PacketSmith.Source.Grammar

/-! ## Operators -/

/-- The operators that stand between two operands, in the order in which they are tried. -/
def binaryOperators : List String :=
  ["+=", "-=", "*=", "/=", "%=", "^=", "&=", "|=", "<<=", ">>=", "&&", "||", "<<", ">>", "==",
   "<=", "!=", ">=", "+", "-", "*", "/", "%", "^", "&", "|", "<", ">"]

/-- The operators that compare. -/
def comparisons : List String :=
  ["==", "<=", "!=", ">=", "<", ">"]

/-- The operators behind which a new comparison can begin. -/
def logical : List String :=
  ["&&", "||"]

/-- The operators that assign. -/
def assignments : List String :=
  ["+=", "-=", "*=", "/=", "%=", "^=", "&=", "|=", "<<=", ">>=", "="]

/-- Whether a range ends without an upper end. -/
def atOpenRange (structs : Bool) (trees : List Tree) : Bool :=
  trees.isEmpty || (atSymbol "." trees && !atSymbol ".." trees) ||
    (!structs && atGroup .curly trees) || atWord "as" trees ||
    [",", ";", "?", "=>", "=", "+", "/", "%", "^", ">", "<=", "!=", "-=", "*=", "&=", "|=", "<<="].any
      fun symbol => atSymbol symbol trees

/-- The operators and operands that follow an operand inside an end of a range; `compared`
says whether a comparison may not follow, and `fuel` bounds the number of operators. -/
def tightLoop (grammar : Grammar) (structs compared : Bool) : Nat → Reading Unit
  | 0 => refuse
  | fuel + 1 => do
    let trees ← get
    match binaryOperators.find? fun operator => atSymbol operator trees with
    | some operator =>
      if assignments.contains operator then return
      let isComparison := comparisons.contains operator
      if isComparison && compared then refuse
      skipSymbol operator
      grammar.operand structs
      tightLoop grammar structs (isComparison || (compared && !logical.contains operator)) fuel
    | none =>
      if atWord "as" trees then
        skipWord "as"
        skip (grammar.type false)
        tightLoop grammar structs compared fuel

/-- The operators that bind more tightly than a range, with their operands. -/
def tightOperators (grammar : Grammar) (structs : Bool) : Reading Unit := do
  tightLoop grammar structs false ((← get).length + 1)

/-- The dots of a range and its upper end. -/
def rangeTail (grammar : Grammar) (structs : Bool) : Reading Unit := do
  let isOpen ← do
    if ← test (atSymbol "..=") then
      skipSymbol "..="
      pure false
    else
      if ← test (atSymbol "...") then refuse
      skipSymbol ".."
      test (atOpenRange structs)
  if !isOpen then
    grammar.operand structs
    tightOperators grammar structs

/-- The operators and operands behind an operand; `fuel` bounds the number of assignments.
Nothing follows a range. -/
def operatorsLoop (grammar : Grammar) (structs : Bool) : Nat → Reading Unit
  | 0 => refuse
  | fuel + 1 => do
    tightOperators grammar structs
    let trees ← get
    match assignments.find? fun operator => atSymbol operator trees with
    | some operator =>
      if !atSymbol "=>" trees then
        skipSymbol operator
        grammar.operand structs
        operatorsLoop grammar structs fuel
    | none => whereAt (atSymbol "..") (rangeTail grammar structs)

/-- The operators and operands behind an operand. -/
def operators (grammar : Grammar) (structs : Bool) : Reading Unit := do
  operatorsLoop grammar structs ((← get).length + 1)

/-- An expression. -/
def readExpression (grammar : Grammar) (structs : Bool) : Reading Unit := do
  if ← test (atSymbol "..") then rangeTail grammar structs
  else
    grammar.operand structs
    operators grammar structs

/-! ## Operands -/

/-- The arguments of a call. -/
def callArguments (grammar : Grammar) : Reading Unit :=
  skip (within .round (commas (grammar.expression true)))

/-- A named member behind its point: the wait for a future, a field, or a call. -/
def namedMember (grammar : Grammar) : Reading Unit := do
  if ← test (atWord "await") then skipWord "await"
  else
    skip name
    let trees ← get
    if atSymbol "::" trees then
      skipSymbol "::"
      skip grammar.arguments
      callArguments grammar
    else whereAt (atGroup .round) (callArguments grammar)

/-- A member behind its point. Two indices with a point between them are one number. -/
def member (grammar : Grammar) : Reading Unit := do
  match ← get with
  | .leaf (.literal written _) :: rest =>
    let isIndex (character : Char) : Bool :=
      character.isDigit || character == '_' || character == '.'
    if !written.toList.all isIndex then refuse
    set rest
    if written.toList.getLast? == some '.' then namedMember grammar
  | _ => namedMember grammar

/-- Calls, members, indices and question marks behind an operand; `fuel` bounds their
number. -/
def trailersLoop (grammar : Grammar) : Nat → Reading Unit
  | 0 => refuse
  | fuel + 1 => do
    let trees ← get
    if atGroup .round trees then
      callArguments grammar
      trailersLoop grammar fuel
    else if atSymbol "." trees && !atSymbol ".." trees then
      skipSymbol "."
      member grammar
      trailersLoop grammar fuel
    else if atGroup .square trees then
      within .square (grammar.expression true)
      trailersLoop grammar fuel
    else if atSymbol "?" trees then
      skipSymbol "?"
      trailersLoop grammar fuel

/-- Calls, members, indices and question marks behind an operand. -/
def trailers (grammar : Grammar) : Reading Unit := do
  trailersLoop grammar ((← get).length + 1)

/-- A field in a struct literal. -/
def fieldValue (grammar : Grammar) : Reading Unit := do
  skip (attributeTrees grammar)
  let isName ← test atName
  if isName then skip name else skip literal
  if !isName || (← test (atSymbol ":")) then
    skipSymbol ":"
    grammar.expression true

/-- The fields in a struct literal; `fuel` bounds their number. Behind the last of them the
value can stand that the other fields come from. -/
def fieldValuesLoop (grammar : Grammar) : Nat → Reading Unit
  | 0 => refuse
  | fuel + 1 => do
    let trees ← get
    if trees.isEmpty then return
    if atSymbol ".." trees then
      skipSymbol ".."
      whereAt (fun trees => !trees.isEmpty) (grammar.expression true)
    else
      fieldValue grammar
      whereAt (fun trees => !trees.isEmpty) (inOrder [skipSymbol ",", fieldValuesLoop grammar fuel])

/-- The fields in a struct literal between their braces. -/
def fieldValues (grammar : Grammar) : Reading Unit :=
  within .curly do fieldValuesLoop grammar ((← get).length + 1)

/-- An operand that begins with a path: the path, a macro, or a struct literal. -/
def pathOperand (grammar : Grammar) (structs : Bool) : Reading Unit := do
  let (isQualified, path) ← qualifiedPath grammar true
  let trees ← get
  if !isQualified && atSymbol "!" trees && !atSymbol "!=" trees && path.isPlain then
    skipSymbol "!"
    skip rawGroup
  else if structs && atGroup .curly trees then
    fieldValues grammar

/-- What stands between the square brackets of an array. -/
def arrayContent (grammar : Grammar) : Reading Unit := do
  if ← test List.isEmpty then return
  grammar.expression true
  if ← test (atSymbol ";") then
    skipSymbol ";"
    grammar.expression true
  else if ← test (atSymbol ",") then
    skipSymbol ","
    skip (commas (grammar.expression true))

/-- An argument of a closure. -/
def closureArgument (grammar : Grammar) : Reading Unit := do
  skip (attributeTrees grammar)
  grammar.pattern
  whereAt (atSymbol ":") (inOrder [skipSymbol ":", skip (grammar.type true)])

/-- Whether a word is followed by lifetimes that it binds. -/
def atBinder (trees : List Tree) : Bool :=
  let next := behind trees
  atWord "for" trees && atSymbol "<" next && (atLifetime (behind next) || atSymbol ">" (behind next))

/-- A closure. -/
def closure (grammar : Grammar) (structs : Bool) : Reading Unit := do
  inOrder [skip (binder grammar), skip (optionalWord "const"), skip (optionalWord "static"),
    skip (optionalWord "async"), skip (optionalWord "move"), skipSymbol "|",
    skip (separated (atSymbol "|") "," (closureArgument grammar)), skipSymbol "|"]
  if ← test (atSymbol "->") then
    inOrder [skipSymbol "->", skip (grammar.type true), grammar.block]
  else grammar.expression structs

/-- Whether an expression can begin. -/
def atExpression (trees : List Tree) : Bool :=
  (atAnyWord trees && !atWord "as" trees) || atLiteral trees || atLifetime trees ||
    atGroup .round trees || atGroup .square trees || atGroup .curly trees ||
    (atSymbol "!" trees && !atSymbol "!=" trees) ||
    (atSymbol "-" trees && !atSymbol "-=" trees && !atSymbol "->" trees) ||
    (atSymbol "*" trees && !atSymbol "*=" trees) || (atSymbol "|" trees && !atSymbol "|=" trees) ||
    (atSymbol "&" trees && !atSymbol "&=" trees) || atSymbol ".." trees ||
    (atSymbol "<" trees && !atSymbol "<=" trees && !atSymbol "<<=" trees) ||
    atSymbol "::" trees || atSymbol "#" trees

/-- The value behind a word that leaves something, if there is one. -/
def leavingValue (grammar : Grammar) (structs : Bool) : Reading Unit :=
  whereAt (fun trees => atExpression trees && (structs || !atGroup .curly trees))
    (grammar.expression structs)

/-! ## Blocks -/

/-- What follows the block of a condition, if anything does: another condition or a last
block. -/
def otherwise (grammar : Grammar) : Reading Unit :=
  whereAt (atWord "else") do
    skipWord "else"
    if ← test (atWord "if") then grammar.operand true else grammar.block

/-- A condition with its block and what follows it. -/
def conditional (grammar : Grammar) : Reading Unit :=
  inOrder [skipWord "if", grammar.expression false, grammar.block, otherwise grammar]

/-- Whether something comes first that can stand without a semicolon behind it. -/
def atBlockLike (trees : List Tree) : Bool :=
  let next := behind trees
  atWords ["if", "while", "loop", "match"] trees || atGroup .curly trees ||
    (atWord "for" trees && !atBinder trees) ||
    ((atWord "unsafe" trees || atWord "const" trees || atWord "try" trees) &&
      atGroup .curly next) ||
    atLifetime trees

/-- A loop or a block, perhaps with a label. -/
def loop (grammar : Grammar) : Reading Unit := do
  whereAt atLifetime (inOrder [skip lifetime, skipSymbol ":"])
  let trees ← get
  if atWord "while" trees then
    inOrder [skipWord "while", grammar.expression false, grammar.block]
  else if atWord "for" trees then
    inOrder [skipWord "for", alternatives grammar, skipWord "in", grammar.expression false,
      grammar.block]
  else if atWord "loop" trees then inOrder [skipWord "loop", grammar.block]
  else grammar.block

/-- A match. -/
def matching (grammar : Grammar) : Reading Unit :=
  inOrder [skipWord "match", grammar.expression false, within .curly grammar.arms]

/-- An expression at the beginning of a statement or an arm, and whether something must
separate it from what follows. What looks like a block ends with it, unless a point or a
question mark follows. -/
def leadingExpression (grammar : Grammar) : Reading Bool := do
  skip (attributeTrees grammar)
  let trees ← get
  if atBlockLike trees then
    if atWord "if" trees then conditional grammar
    else if atWord "match" trees then matching grammar
    else if atWords ["unsafe", "const", "try"] trees then
      skip anyWord
      grammar.block
    else loop grammar
    let trees ← get
    if (atSymbol "." trees && !atSymbol ".." trees) || atSymbol "?" trees then
      trailers grammar
      operators grammar true
      return true
    else return false
  else
    grammar.expression true
    return true

/-- The arms of a match; `fuel` bounds their number. -/
def armsLoop (grammar : Grammar) : Nat → Reading Unit
  | 0 => refuse
  | fuel + 1 => do
    if ← test List.isEmpty then return
    skip (attributeTrees grammar)
    alternatives grammar
    whereAt (atWord "if") (inOrder [skipWord "if", grammar.expression true])
    skipSymbol "=>"
    let separate ← leadingExpression grammar
    if separate && !(← test List.isEmpty) then skipSymbol "," else skip (optionalSymbol ",")
    armsLoop grammar fuel

/-- What stands between the braces of a match. -/
def readArms (grammar : Grammar) : Reading Unit := do
  skip (innerAttributes grammar)
  armsLoop grammar ((← get).length + 1)

/-- Whether a closure comes first. -/
def atClosure (trees : List Tree) : Bool :=
  let next := behind trees
  atSymbol "|" trees || atWord "move" trees || atBinder trees ||
    (atWord "const" trees && !atGroup .curly next) || atWord "static" trees ||
    (atWord "async" trees && (atSymbol "|" next || atWord "move" next))

/-- An asynchronous block comes first. -/
def atAsyncBlock (trees : List Tree) : Bool :=
  let next := behind trees
  atWord "async" trees && (atGroup .curly next || (atWord "move" next && atGroup .curly (behind next)))

/-- The smallest operand. -/
def atom (grammar : Grammar) (structs : Bool) : Reading Unit := do
  let trees ← get
  if atLiteral trees then skip literal
  else if atAsyncBlock trees then
    inOrder [skipWord "async", skip (optionalWord "move"), grammar.block]
  else if atWord "try" trees && atGroup .curly (behind trees) then
    inOrder [skipWord "try", grammar.block]
  else if atClosure trees then closure grammar structs
  else if atWord "builtin" trees && atSymbol "#" (behind trees) then
    inOrder [skipWord "builtin", skipSymbol "#", skip name,
      within .round do set ([] : List Tree)]
  else if atPathWord trees || atSymbol "::" trees || atSymbol "<" trees || atWord "try" trees then
    pathOperand grammar structs
  else if atGroup .round trees then skip (within .round (commas (grammar.expression true)))
  else if atGroup .square trees then within .square (arrayContent grammar)
  else if atWord "break" trees then
    inOrder [skipWord "break", whereAt atLifetime (skip lifetime), leavingValue grammar structs]
  else if atWord "continue" trees then
    inOrder [skipWord "continue", whereAt atLifetime (skip lifetime)]
  else if atWords ["return", "yield"] trees then
    inOrder [skip anyWord, leavingValue grammar true]
  else if atWord "become" trees then inOrder [skipWord "become", grammar.expression true]
  else if atWord "let" trees then
    inOrder [skipWord "let", alternatives grammar, skipSymbol "=", grammar.expression structs]
  else if atWord "if" trees then conditional grammar
  else if atWord "match" trees then matching grammar
  else if atWords ["unsafe", "const"] trees then inOrder [skip anyWord, grammar.block]
  else if atWord "_" trees then skipWord "_"
  else if atBlockLike trees then loop grammar
  else refuse

/-- Whether a raw reference comes first. -/
def atRawReference (trees : List Tree) : Bool :=
  atWord "raw" trees && atWords ["mut", "const"] (behind trees)

/-- An operand with the operators in front of it and what belongs to it behind. -/
def readOperand (grammar : Grammar) (structs : Bool) : Reading Unit := do
  skip (attributeTrees grammar)
  let trees ← get
  if atSymbol "&" trees then
    skipSymbol "&"
    if ← test atRawReference then
      inOrder [skipWord "raw", skip anyWord]
    else skip (optionalWord "mut")
    grammar.operand structs
  else if atSymbol "*" trees || atSymbol "!" trees || atSymbol "-" trees then
    skipSymbol (if atSymbol "*" trees then "*" else if atSymbol "!" trees then "!" else "-")
    grammar.operand structs
  else if atSymbol ".." trees then rangeTail grammar structs
  else
    atom grammar structs
    trailers grammar

end PacketSmith.Source.Grammar
