import PacketSmith.Source.Grammar.Expressions

/-!
# Items and statements in source files

Structs are read with their attributes and fields; the other items and the statements of
blocks are only recognized.
-/

namespace PacketSmith.Source.Grammar

/-! ## Structs -/

/-- The place inside the brackets of a restricted visibility. -/
def restriction : Reading Unit := do
  if ← test (atWord "in") then
    skipWord "in"
    skip plainPath
  else if ← test (atWords ["crate", "self", "super"]) then skip anyWord
  else refuse

/-- A visibility, if there is one. A bracket that does not restrict it is not part of it. -/
def visibility : Reading Unit :=
  whereAt (atWord "pub") do
    skipWord "pub"
    match ← get with
    | .group .round content :: rest =>
      if atWord "in" content then within .round restriction
      else match restriction content with
        | some ((), []) => set rest
        | _ => return
    | _ => return

/-- A field with a name. -/
def namedField (grammar : Grammar) : Reading FieldSyntax := do
  let attributes ← attributes grammar
  visibility
  let isUnnamed ← test (atWord "_")
  let name ← if isUnnamed then anyWord else name
  skipSymbol ":"
  let trees ← get
  if isUnnamed && atWords ["struct", "union"] trees && atGroup .curly (behind trees) then
    let printed ← printedOf (inOrder [skip anyWord, skip rawGroup])
    return ⟨name, attributes, .other (Tree.textAll false printed)⟩
  else return ⟨name, attributes, (← grammar.type true).shape⟩

/-- A field without a name. -/
def unnamedField (grammar : Grammar) : Reading Unit :=
  inOrder [skip (attributeTrees grammar), visibility, skip (grammar.type true)]

/-- What a struct consists of, with the conditions on its parameters. -/
def structBody (grammar : Grammar) : Reading StructBody := do
  let isConditional ← conditions grammar
  let trees ← get
  if !isConditional && atGroup .round trees then
    skip (within .round (commas (unnamedField grammar)))
    skip (conditions grammar)
    skipSymbol ";"
    return .tuple
  else if atGroup .curly trees then
    return .named ((← within .curly (commas (namedField grammar))).map Prod.fst)
  else
    skipSymbol ";"
    return .unit

/-- A struct behind its attributes and its visibility. -/
def structItem (grammar : Grammar) (attributes : List Attribute) : Reading Item := do
  skipWord "struct"
  let declared ← name
  let (isGeneric, _) ← parameters grammar
  return .struct ⟨declared, attributes, isGeneric, ← structBody grammar⟩

/-! ## Functions -/

/-- Whether a function comes first, behind the words that can stand in front of one. -/
def atFunction (trees : List Tree) : Bool :=
  let drop (word : String) (trees : List Tree) : List Tree :=
    if atWord word trees then behind trees else trees
  let trees := drop "unsafe" (drop "async" (drop "const" trees))
  let trees := if atWord "extern" trees then
      if atText (behind trees) then behind (behind trees) else behind trees
    else trees
  atWord "fn" trees

/-- The receiver of a method. -/
def receiver (grammar : Grammar) : Reading Unit := do
  if ← test (atSymbol "&") then
    inOrder [skipSymbol "&", whereAt atLifetime (skip lifetime), skip (optionalWord "mut"),
      skipWord "self"]
  else
    inOrder [skip (optionalWord "mut"), skipWord "self",
      whereAt (atSymbol ":") (inOrder [skipSymbol ":", skip (grammar.type true)])]

/-- Whether a receiver comes first. -/
def atReceiver (trees : List Tree) : Bool :=
  let trees := if atSymbol "&" trees then
      let trees := behind trees
      if atLifetime trees then behind trees else trees
    else trees
  let trees := if atWord "mut" trees then behind trees else trees
  atWord "self" trees && !atSymbol "::" (behind trees)

/-- A parameter of a function. -/
def functionParameter (grammar : Grammar) : Reading Unit := do
  skip (attributeTrees grammar)
  let trees ← get
  if atReceiver trees then receiver grammar
  else if atSymbol "..." trees then skipSymbol "..."
  else if atName trees && atSymbol "<" (behind trees) then skip (grammar.type true)
  else
    grammar.pattern
    skipSymbol ":"
    if ← test (atSymbol "...") then skipSymbol "..." else skip (grammar.type true)

/-- The head of a function. -/
def signature (grammar : Grammar) : Reading Unit :=
  inOrder [skip (optionalWord "const"), skip (optionalWord "async"), skip (optionalWord "safe"),
    skip (optionalWord "unsafe"), skip binaryInterface, skipWord "fn", skip name,
    skip (parameters grammar), skip (within .round (commas (functionParameter grammar))),
    skip (returnType grammar true), skip (conditions grammar)]

/-- A function with its body, or without one. -/
def functionItem (grammar : Grammar) : Reading Unit := do
  signature grammar
  if ← test (atSymbol ";") then skipSymbol ";" else grammar.block

/-! ## Other items -/

/-- Items that fill the rest of a group; `fuel` bounds their number. -/
def itemsLoop (grammar : Grammar) : Nat → Reading (List Item)
  | 0 => refuse
  | fuel + 1 => do
    if ← test List.isEmpty then return []
    let first ← grammar.item
    return first :: (← itemsLoop grammar fuel)

/-- Items that fill the rest of a group, with the attributes of what is around them. -/
def items (grammar : Grammar) : Reading (List Item) := do
  skip (innerAttributes grammar)
  itemsLoop grammar ((← get).length + 1)

/-- What an import names, behind the path to it; `fuel` bounds the depth of groups. -/
def importTree : Nat → Reading Unit
  | 0 => refuse
  | fuel + 1 => do
    let trees ← get
    if atPathWord trees || atWord "try" trees then
      skip anyWord
      if ← test (atSymbol "::") then
        skipSymbol "::"
        importTree fuel
      else whereAt (atWord "as") do
        skipWord "as"
        if ← test (atWord "_") then skipWord "_" else skip name
    else if atSymbol "*" trees then skipSymbol "*"
    else skip (within .curly (commas do
      skip (optionalSymbol "::")
      importTree fuel))

/-- An import. -/
def importItem : Reading Unit := do
  inOrder [skipWord "use", skip (optionalSymbol "::")]
  importTree (Tree.sizeAll (← get) + 1)
  skipSymbol ";"

/-- A type and a value behind the name of a constant or of a variable. -/
def typedValue (grammar : Grammar) : Reading Unit := do
  whereAt (atSymbol ":") (inOrder [skipSymbol ":", skip (grammar.type true)])
  whereAt (atSymbol "=") (inOrder [skipSymbol "=", grammar.expression true])
  skip (conditions grammar)
  skipSymbol ";"

/-- A constant. -/
def constantItem (grammar : Grammar) : Reading Unit := do
  skipWord "const"
  if ← test (atWord "_") then skipWord "_" else skip name
  skip (parameters grammar)
  if !(← test (atSymbol ":")) then refuse
  typedValue grammar

/-- A variable. -/
def staticItem (grammar : Grammar) : Reading Unit := do
  inOrder [skipWord "static", skip (optionalWord "mut"), skip name]
  typedValue grammar

/-- A name for a type, with bounds, conditions and the type itself as far as they are given. -/
def typeItem (grammar : Grammar) : Reading Unit := do
  inOrder [skipWord "type", skip name, skip (parameters grammar),
    whereAt (atSymbol ":") (inOrder [skipSymbol ":", skip (bounds grammar)]),
    skip (conditions grammar),
    whereAt (atSymbol "=") (inOrder [skipSymbol "=", skip (grammar.type true)]),
    skip (conditions grammar), skipSymbol ";"]

/-- A variant of an enumeration. -/
def variant (grammar : Grammar) : Reading Unit := do
  inOrder [skip (attributeTrees grammar), visibility, skip name]
  let trees ← get
  if atGroup .curly trees then skip (within .curly (commas (namedField grammar)))
  else whereAt (atGroup .round) (skip (within .round (commas (unnamedField grammar))))
  whereAt (atSymbol "=") (inOrder [skipSymbol "=", grammar.expression true])

/-- An enumeration. -/
def enumItem (grammar : Grammar) : Reading Unit :=
  inOrder [skipWord "enum", skip name, skip (parameters grammar), skip (conditions grammar),
    skip (within .curly (commas (variant grammar)))]

/-- A union. -/
def unionItem (grammar : Grammar) : Reading Unit :=
  inOrder [skipWord "union", skip name, skip (parameters grammar), skip (conditions grammar),
    skip (within .curly (commas (namedField grammar)))]

/-- A macro call behind its path, which ends in a semicolon unless its braces are curly. -/
def macroRest : Reading Unit := do
  skipSymbol "!"
  let (bracket, _) ← rawGroup
  if bracket != .curly then skipSymbol ";"

/-- Something that a trait or an implementation declares. -/
def associated (grammar : Grammar) : Reading Unit := do
  skip (attributeTrees grammar)
  let isPrivate := !(← test (atWord "pub"))
  visibility
  let isDefault ← test fun trees => atWord "default" trees &&
    !atSymbol "!" (behind trees) && !atSymbol "::" (behind trees)
  if isDefault then skipWord "default"
  let trees ← get
  if atFunction trees then functionItem grammar
  else if atWord "const" trees then constantItem grammar
  else if atWord "type" trees then typeItem grammar
  else if isPrivate && !isDefault then
    skip plainPath
    macroRest
  else refuse

/-- Something that a foreign block declares. -/
def foreign (grammar : Grammar) : Reading Unit := do
  skip (attributeTrees grammar)
  let isPrivate := !(← test (atWord "pub"))
  visibility
  let trees ← get
  if atFunction trees || (atWord "safe" trees && atFunction (behind trees)) then
    functionItem grammar
  else if atWord "static" trees then staticItem grammar
  else if atWords ["safe", "unsafe"] trees && atWord "static" (behind trees) then
    skip anyWord
    staticItem grammar
  else if atWord "type" trees then typeItem grammar
  else if isPrivate then
    skip plainPath
    macroRest
  else refuse

/-- Declarations that fill the rest of a group; `fuel` bounds their number. -/
def declarationsLoop (declaration : Reading Unit) : Nat → Reading Unit
  | 0 => refuse
  | fuel + 1 => do
    if !(← test List.isEmpty) then
      declaration
      declarationsLoop declaration fuel

/-- Declarations between braces. -/
def declarations (grammar : Grammar) (declaration : Reading Unit) : Reading Unit :=
  within .curly do
    skip (innerAttributes grammar)
    declarationsLoop declaration ((← get).length + 1)

/-- A trait, or another name for a sum of traits. -/
def traitItem (grammar : Grammar) : Reading Unit := do
  inOrder [skip (optionalWord "unsafe"), skip (optionalWord "auto"), skipWord "trait", skip name,
    skip (parameters grammar)]
  if ← test (atSymbol "=") then
    inOrder [skipSymbol "=", skip (bounds grammar), skip (conditions grammar), skipSymbol ";"]
  else
    whereAt (atSymbol ":") (inOrder [skipSymbol ":", skip (bounds grammar)])
    skip (conditions grammar)
    declarations grammar (associated grammar)

/-- Whether parameters, and not a type, follow the word of an implementation. -/
def atImplementationParameters (trees : List Tree) : Bool :=
  let next := behind trees
  atSymbol "<" trees && (atSymbol ">" next || atSymbol "#" next ||
    ((atName next || atLifetime next) && (atSymbol ":" (behind next) || atSymbol "," (behind next) ||
      atSymbol ">" (behind next) || atSymbol "=" (behind next))) || atWord "const" next)

/-- An implementation. -/
def implementation (grammar : Grammar) : Reading Unit := do
  inOrder [skip (optionalWord "default"), skip (optionalWord "unsafe"), skipWord "impl",
    whereAt atImplementationParameters (skip (parameters grammar)), skip (optionalWord "const"),
    skip (optionalSymbol "!"), skip (grammar.type true)]
  whereAt (atWord "for") (inOrder [skipWord "for", skip (grammar.type true)])
  skip (conditions grammar)
  declarations grammar (associated grammar)

/-- A module, here or in another file. -/
def moduleItem (grammar : Grammar) : Reading Unit := do
  inOrder [skip (optionalWord "unsafe"), skipWord "mod"]
  if ← test (atWord "try") then skipWord "try" else skip name
  if ← test (atSymbol ";") then skipSymbol ";" else skip (within .curly (items grammar))

/-- A crate that is linked, or a block of foreign declarations. -/
def externItem (grammar : Grammar) : Reading Unit := do
  skip (optionalWord "unsafe")
  if ← test fun trees => atWord "extern" trees && atWord "crate" (behind trees) then
    inOrder [skipWord "extern", skipWord "crate"]
    if ← test (atWord "self") then skipWord "self" else skip name
    whereAt (atWord "as") do
      skipWord "as"
      if ← test (atWord "_") then skipWord "_" else skip name
    skipSymbol ";"
  else
    skip binaryInterface
    declarations grammar (foreign grammar)

/-- A macro that is declared by one pair of brackets or by two. -/
def macroDeclaration : Reading Unit := do
  inOrder [skipWord "macro", skip name]
  whereAt (atGroup .round) (within .round do set ([] : List Tree))
  within .curly do set ([] : List Tree)

/-- A macro call as an item. -/
def macroItem : Reading Unit := do
  skip plainPath
  if ← test fun trees => atSymbol "!" trees && atName (behind trees) then
    skipSymbol "!"
    skip name
    let (bracket, _) ← rawGroup
    if bracket != .curly then skipSymbol ";"
  else macroRest

/-- An item behind its attributes. -/
def itemRest (grammar : Grammar) (attributes : List Attribute) : Reading Item := do
  let isVisible ← test (atWord "pub")
  visibility
  let trees ← get
  let next := behind trees
  if atWord "struct" trees then structItem grammar attributes
  else
    if atFunction trees then functionItem grammar
    else if atWord "extern" trees then externItem grammar
    else if atWord "use" trees then importItem
    else if atWord "static" trees then staticItem grammar
    else if atWord "const" trees then constantItem grammar
    else if atWord "unsafe" trees && atWord "extern" next then externItem grammar
    else if atWord "unsafe" trees && atWord "impl" next then implementation grammar
    else if atWord "mod" trees || (atWord "unsafe" trees && atWord "mod" next) then
      moduleItem grammar
    else if atWord "type" trees then typeItem grammar
    else if atWord "enum" trees then enumItem grammar
    else if atWord "union" trees && atName next then unionItem grammar
    else if atWords ["trait", "unsafe"] trees || (atWord "auto" trees && atWord "trait" next) then
      traitItem grammar
    else if atWord "impl" trees || (atWord "default" trees && !atSymbol "!" next) then
      implementation grammar
    else if atWord "macro" trees then macroDeclaration
    else if !isVisible then macroItem
    else refuse
    return .other

/-- An item. -/
def readItem (grammar : Grammar) : Reading Item := do
  itemRest grammar (← attributes grammar)

/-! ## Statements -/

/-- Whether an item comes first, and not an expression. -/
def atItem (trees : List Tree) : Bool :=
  let next := behind trees
  let third := behind next
  atWords ["pub", "extern", "use", "fn", "mod", "type", "struct", "enum", "trait", "impl", "macro"]
    trees ||
  (atWord "crate" trees && !atSymbol "::" next) ||
  (atWord "static" trees && (atWord "mut" next || atName next)) ||
  (atWord "const" trees && !(atGroup .curly next || atWord "static" next ||
    (atWord "async" next && !atWords ["unsafe", "extern", "fn"] third) || atWord "move" next ||
    atSymbol "|" next)) ||
  (atWord "unsafe" trees && !atGroup .curly next) ||
  (atWord "async" trees && atWords ["unsafe", "extern", "fn"] next) ||
  (atWord "union" trees && atName next) || (atWord "auto" trees && atWord "trait" next) ||
  (atWord "default" trees && atWords ["unsafe", "impl"] next)

/-- A binding. The block for a value that does not match cannot follow braces. -/
def binding (grammar : Grammar) : Reading Unit := do
  skipWord "let"
  grammar.pattern
  whereAt (atSymbol ":") (inOrder [skipSymbol ":", skip (grammar.type true)])
  whereAt (atSymbol "=") do
    skipSymbol "="
    let endsInBlock ← endsInBraces (grammar.expression true)
    if !endsInBlock then whereAt (atWord "else") (inOrder [skipWord "else", grammar.block])
  skipSymbol ";"

/-- What stands behind a path that begins a macro call: the sequence from its mark on. -/
def macroMark? (trees : List Tree) : Option (List Tree) :=
  match plainPath trees with
  | some (_, rest) => if atSymbol "!" rest then some rest else none
  | none => none

/-- A statement, and whether a semicolon must separate it from what follows. -/
def statement (grammar : Grammar) : Reading Bool := do
  let start ← get
  skip (attributeTrees grammar)
  let trees ← get
  let behindMark := behind ((macroMark? trees).getD [])
  let behindGroup := behind behindMark
  if atName behindMark then
    skip (itemRest grammar [])
    return false
  else if atGroup .curly behindMark &&
      !((atSymbol "." behindGroup && !atSymbol ".." behindGroup) || atSymbol "?" behindGroup) then
    skip plainPath
    macroRest
    return false
  else if atWord "let" trees then
    binding grammar
    return false
  else if atItem trees then
    skip (itemRest grammar [])
    return false
  else
    set start
    leadingExpression grammar

/-- Statements that fill the rest of a group; `fuel` bounds their number. -/
def statementsLoop (grammar : Grammar) : Nat → Reading Unit
  | 0 => refuse
  | fuel + 1 => do
    if ← test (atSymbol ";") then
      skipSymbol ";"
      statementsLoop grammar fuel
    else if !(← test List.isEmpty) then
      let separate ← statement grammar
      if separate && !(← test List.isEmpty) then skipSymbol ";"
      statementsLoop grammar fuel

/-- What stands between the braces of a block. -/
def readStatements (grammar : Grammar) : Reading Unit := do
  skip (innerAttributes grammar)
  statementsLoop grammar ((← get).length + 1)

end PacketSmith.Source.Grammar
