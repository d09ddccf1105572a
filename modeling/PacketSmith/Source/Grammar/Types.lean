import PacketSmith.Source.Grammar

/-!
# Types in source files

Types with their arguments, bounds and parameters. Only the shapes that fields can have are
kept apart; every type is also kept as it is printed.
-/

namespace PacketSmith.Source.Grammar

/-! ## Arguments and bounds -/

/-- An argument of a type. -/
structure Argument where
  /-- Whether it is a lifetime. -/
  isLifetime : Bool
  /-- The type, if it is one. -/
  type : Option TypeSyntax
  /-- The argument as it is printed. -/
  printed : List Tree

/-- A constant between the arguments of a type. -/
def constantArgument (grammar : Grammar) : Reading (List Tree) := do
  if ← test atLiteral then literal
  else if ← test atName then nameTrees
  else printedOf grammar.block

/-- Whether a bound can follow a plus sign. -/
def atBound (trees : List Tree) : Bool :=
  atAnyWord trees || atSymbol "::" trees || atSymbol "?" trees || atLifetime trees ||
    atGroup .round trees || atSymbol "~" trees

/-- Whether a list of bounds ends. -/
def atBoundsEnd (trees : List Tree) : Bool :=
  trees.isEmpty || atGroup .curly trees || atSymbol "," trees || atSymbol ";" trees ||
    (atSymbol ":" trees && !atSymbol "::" trees) || atSymbol ">" trees || atSymbol "=" trees

/-- Bounds with plus signs between them, up to their end. -/
def bounds (grammar : Grammar) : Reading (List Tree) :=
  sumUntil atBoundsEnd do return (← grammar.bound).2

/-- The bounds behind a first one, each behind a plus sign, whether one of them is a trait,
and their number; `fuel` bounds it. -/
def moreBounds (grammar : Grammar) : Nat → Reading (Bool × Nat × List Tree)
  | 0 => refuse
  | fuel + 1 => do
    if ← test (atSymbol "+") then
      let mark ← symbol "+"
      if ← test atBound then
        let (isTrait, printed) ← grammar.bound
        let (others, count, rest) ← moreBounds grammar fuel
        return (isTrait || others, count + 1, mark ++ printed ++ rest)
      else return (false, 1, mark)
    else return (false, 0, [])

/-- The bounds behind a first one, if a sum is allowed. -/
def boundTail (grammar : Grammar) (sums : Bool) : Reading (Bool × Nat × List Tree) := do
  if sums then moreBounds grammar ((← get).length + 1) else return (false, 0, [])

/-- A sum of bounds of which one at least is a trait. -/
def traitSum (grammar : Grammar) (sums : Bool) : Reading (Nat × List Tree) := do
  let (isTrait, first) ← grammar.bound
  let (others, count, rest) ← boundTail grammar sums
  if isTrait || others then return (count + 1, first ++ rest) else refuse

/-- An argument of a type: a lifetime, a constant, a type, or a name with a type or bounds. -/
def argument (grammar : Grammar) : Reading Argument := do
  let trees ← get
  if atLifetime trees && !atSymbol "+" (behind trees) then
    return ⟨true, none, ← lifetime⟩
  if atLiteral trees || atGroup .curly trees then
    return ⟨false, none, ← constantArgument grammar⟩
  let type ← grammar.type true
  if type.form == .name then
    if ← test (atSymbol "=") then
      let mark ← symbol "="
      let trees ← get
      let value ← if atLiteral trees || atGroup .curly trees then constantArgument grammar
        else grammar.typeTrees true
      return ⟨false, none, type.printed ++ mark ++ value⟩
    if ← test (atSymbol ":") then
      let mark ← symbol ":"
      return ⟨false, none, type.printed ++ mark ++ (← bounds grammar)⟩
  return ⟨false, some type.shape, type.printed⟩

/-- The arguments of a type as they are printed: lifetimes before all others, and commas
added where this order needs them. -/
def orderedArguments (items : List (Argument × List Tree)) : List Tree :=
  let lifetimes := items.filter fun item => item.1.isLifetime
  let others := items.filter fun item => !item.1.isLifetime
  let first := lifetimes.flatMap fun item => item.1.printed ++ item.2
  let ended := match lifetimes.getLast? with
    | some item => !item.2.isEmpty
    | none => true
  first ++ (others.foldl (fun (printed, ended) item =>
    (printed ++ (if ended then [] else symbolTrees [',']) ++ item.1.printed ++ item.2,
      !item.2.isEmpty)) ([], ended)).1

/-- The arguments of a type between their angle brackets: those that are types, and all of
them as they are printed. -/
def readArguments (grammar : Grammar) : Reading (List TypeSyntax × List Tree) := do
  let opening ← symbol "<"
  let items ← separated (atSymbol ">") "," (argument grammar)
  let closing ← symbol ">"
  return (items.filterMap fun item => item.1.type, opening ++ orderedArguments items ++ closing)

/-! ## Parameters -/

/-- A lifetime parameter with the lifetimes that it outlives. -/
def lifetimeParameter : Reading (List Tree) := do
  let first ← lifetime
  if ← test (atSymbol ":") then
    return first ++ (← symbol ":") ++ (← sumUntil atBoundsEnd lifetime)
  else return first

/-- A type parameter with its bounds and the type it stands for if none is given. -/
def typeParameter (grammar : Grammar) : Reading (List Tree) := do
  let first ← nameTrees
  let limits ← do
    if ← test (atSymbol ":") then
      let mark ← symbol ":"
      pure (mark ++ (← bounds grammar))
    else pure []
  let absent ← do
    if ← test (atSymbol "=") then
      let mark ← symbol "="
      pure (mark ++ (← grammar.typeTrees true))
    else pure []
  return first ++ limits ++ absent

/-- A constant parameter. -/
def constantParameter (grammar : Grammar) : Reading (List Tree) := do
  let first ← sequence [word "const", nameTrees, symbol ":", grammar.typeTrees true]
  if ← test (atSymbol "=") then
    return first ++ (← symbol "=") ++ (← constantArgument grammar)
  else return first

/-- A parameter of a declaration. -/
def parameter (grammar : Grammar) : Reading (List Tree) := do
  let attributes ← attributeTrees grammar
  let trees ← get
  let declared ←
    if atLifetime trees then lifetimeParameter
    else if atName trees then typeParameter grammar
    else if atWord "const" trees then constantParameter grammar
    else word "_"
  return attributes ++ declared

/-- The parameters of a declaration between their angle brackets, if it has any, and
whether there is one at least. -/
def parameters (grammar : Grammar) : Reading (Bool × List Tree) := do
  if ← test (atSymbol "<") then
    let opening ← symbol "<"
    let items ← separated (atSymbol ">") "," (parameter grammar)
    let closing ← symbol ">"
    return (!items.isEmpty, opening ++ joinedTrees items ++ closing)
  else return (false, [])

/-- The lifetimes that a type is declared over, if there are any. -/
def binder (grammar : Grammar) : Reading (List Tree) := do
  if ← test (atWord "for") then
    let first ← word "for"
    let opening ← symbol "<"
    let items ← separated (atSymbol ">") "," (parameter grammar)
    let closing ← symbol ">"
    return first ++ opening ++ joinedTrees items ++ closing
  else return []

/-- One condition of a declaration. -/
def condition (grammar : Grammar) : Reading (List Tree) := do
  let trees ← get
  if atLifetime trees && atSymbol ":" (behind trees) then lifetimeParameter
  else
    let first ← binder grammar
    return first ++ (← grammar.typeTrees true) ++ (← symbol ":") ++ (← bounds grammar)

/-- Whether the conditions of a declaration end. -/
def atConditionsEnd (trees : List Tree) : Bool :=
  trees.isEmpty || atGroup .curly trees || atSymbol "," trees || atSymbol ";" trees ||
    (atSymbol ":" trees && !atSymbol "::" trees) || atSymbol "=" trees

/-- Conditions, with commas between them; `fuel` bounds their number. -/
def conditionsLoop (grammar : Grammar) : Nat → Reading Unit
  | 0 => refuse
  | fuel + 1 => do
    if ← test atConditionsEnd then return
    let _ ← condition grammar
    if ← test (atSymbol ",") then
      let _ ← symbol ","
      conditionsLoop grammar fuel

/-- The conditions of a declaration, if it has any, and whether it has. -/
def conditions (grammar : Grammar) : Reading Bool := do
  if ← test (atWord "where") then
    let _ ← word "where"
    conditionsLoop grammar ((← get).length + 1)
    return true
  else return false

/-! ## Bounds -/

/-- The type behind an arrow, if there is one. -/
def returnType (grammar : Grammar) (sums : Bool) : Reading (List Tree) := do
  if ← test (atSymbol "->") then
    return (← symbol "->") ++ (← grammar.typeTrees sums)
  else return []

/-- A trait, which can take types between round brackets like a function. -/
def traitBound (grammar : Grammar) : Reading (List Tree) := do
  let lifetimes ← binder grammar
  let constancy ←
    if ← test (atGroup .square) then withinTrees .square (word "const")
    else if ← test (atSymbol "~") then sequence [symbol "~", word "const"]
    else optionalWord "const"
  let relaxed ← optionalSymbol "?"
  if !lifetimes.isEmpty && !relaxed.isEmpty then refuse
  let path ← grammar.path false
  let trees ← get
  if path.arguments.isNone && (atGroup .round trees || atGroup .round (behindSymbol "::" trees)) then
    let mark ← optionalSymbol "::"
    let inputs ← withinTrees .round (commaTrees (grammar.typeTrees true))
    let output ← returnType grammar false
    return lifetimes ++ constancy ++ relaxed ++ path.printed ++ mark ++ inputs ++ output
  else return lifetimes ++ constancy ++ relaxed ++ path.printed

/-- The lifetimes and names that a type captures. -/
def capture : Reading (List Tree) := do
  let first ← sequence [word "use", symbol "<"]
  let items ← separated (atSymbol ">") "," do
    if ← test atLifetime then lifetime
    else if ← test (atWord "Self") then word "Self"
    else nameTrees
  return first ++ joinedTrees items ++ (← symbol ">")

/-- A bound of a type: a lifetime, a capture, or a trait, perhaps between brackets. -/
def readBound (grammar : Grammar) : Reading (Bool × List Tree) := do
  let trees ← get
  if atLifetime trees then return (false, ← lifetime)
  else if atWord "use" trees then return (false, ← capture)
  else if atGroup .round trees then return (true, ← withinTrees .round (traitBound grammar))
  else return (true, ← traitBound grammar)

/-! ## Types -/

/-- Whether an argument of a function type has a name in front. -/
def atArgumentName (trees : List Tree) : Bool :=
  (atName trees || atWord "_" trees || atWord "self" trees) && atSymbol ":" (behind trees) &&
    !atSymbol "::" (behind trees)

/-- An argument of a function type, or the mark that more can follow. -/
def functionArgument (grammar : Grammar) : Reading (List Tree) := do
  let attributes ← attributeTrees grammar
  let label ← do
    if ← test atArgumentName then
      let word ← anyWord
      pure (wordTrees word ++ (← symbol ":"))
    else pure []
  if ← test (atSymbol "...") then return attributes ++ label ++ (← symbol "...")
  else return attributes ++ label ++ (← grammar.typeTrees true)

/-- The binary interface of a function, if it is named. -/
def binaryInterface : Reading (List Tree) := do
  if ← test (atWord "extern") then
    let first ← word "extern"
    if ← test atText then return first ++ (← literal) else return first
  else return []

/-- A function type. -/
def functionType (grammar : Grammar) : Reading (List Tree) := do
  sequence [optionalWord "unsafe", binaryInterface, word "fn",
    withinTrees .round (commaTrees (functionArgument grammar)), returnType grammar false]

/-- The types of a tuple behind its first type and comma. -/
def tupleRest (grammar : Grammar) : Reading (List Tree) :=
  commaTrees (grammar.typeTrees true)

/-- What stands between round brackets in the place of a type: the types of a tuple, one
type, or bounds. -/
inductive RoundContent where
  | tuple (printed : List Tree)
  | one (type : ReadType)
  | bounds (printed : List Tree)

/-- The content of round brackets in the place of a type. -/
def roundContent (grammar : Grammar) : Reading RoundContent := do
  let trees ← get
  if trees.isEmpty then return .tuple []
  if atLifetime trees then return .one (← grammar.type true)
  if atSymbol "?" trees then return .bounds (← traitBound grammar)
  let first ← grammar.type true
  if ← test (atSymbol ",") then
    let mark ← symbol ","
    return .tuple (first.printed ++ mark ++ (← tupleRest grammar))
  else return .one first

/-- A type that begins with a round bracket. -/
def roundType (grammar : Grammar) (sums : Bool) : Reading ReadType := do
  match ← within .round (roundContent grammar) with
  | .tuple printed => return .ofPrinted [.group .round printed] .other
  | .bounds printed =>
    let (_, count, rest) ← boundTail grammar true
    return .ofPrinted (.group .round printed :: rest) (if count == 0 then .bound else .other)
  | .one type =>
    let printed : List Tree := [.group .round type.printed]
    if sums && type.form != .other && (← test (atSymbol "+")) then
      let (_, _, rest) ← boundTail grammar true
      return .ofPrinted (printed ++ rest) .other
    else return ⟨.parens type.shape, printed, .other⟩

/-- A type that begins with a path: the path itself, a macro, or a sum of bounds. -/
def pathType (grammar : Grammar) (sums : Bool) (lifetimes : List Tree) : Reading ReadType := do
  let (isQualified, path) ← grammar.qualifiedPath false
  if isQualified then return .ofPrinted path.printed .other
  let trees ← get
  if atSymbol "!" trees && !atSymbol "!=" trees && path.isPlain then
    let mark ← symbol "!"
    return .ofPrinted (path.printed ++ mark ++ (← groupTrees)) .other
  if !lifetimes.isEmpty || (sums && atSymbol "+" trees) then
    let (_, count, rest) ← boundTail grammar sums
    return .ofPrinted (lifetimes ++ path.printed ++ rest) (if count == 0 then .bound else .other)
  let form : TypeForm := match path.names with
    | [_] => if path.isLeading then .path else .name
    | _ => .path
  return ⟨.path path.names.dropLast (path.names.getLast?.getD "") (path.arguments.getD []),
    path.printed, form⟩

/-- A type between square brackets: an array if a length follows, and otherwise a slice. -/
def squareType (grammar : Grammar) : Reading ReadType := do
  let (element, length) ← within .square do
    let element ← grammar.type true
    if ← test (atSymbol ";") then
      let mark ← symbol ";"
      pure (element, some (mark ++ (← printedOf (grammar.expression true))))
    else pure (element, none)
  match length with
  | some length => return ⟨.array element.shape, [.group .square (element.printed ++ length)], .other⟩
  | none =>
    let printed : List Tree := [.group .square element.printed]
    return ⟨.slice element.shape (Tree.textAll false printed), printed, .other⟩

/-- A pointer or a reference. -/
def pointerType (grammar : Grammar) : Reading ReadType := do
  if ← test (atSymbol "*") then
    let mark ← symbol "*"
    let access ← if ← test (atWord "const") then word "const" else word "mut"
    return .ofPrinted (mark ++ access ++ (← grammar.typeTrees false)) .other
  else
    let mark ← symbol "&"
    let life ← if ← test atLifetime then lifetime else pure []
    let access ← optionalWord "mut"
    return .ofPrinted (mark ++ life ++ access ++ (← grammar.typeTrees false)) .other

/-- A type. -/
def readType (grammar : Grammar) (sums : Bool) : Reading ReadType := do
  let lifetimes ← binder grammar
  let trees ← get
  if atWords ["fn", "unsafe", "extern"] trees then
    return .ofPrinted (lifetimes ++ (← functionType grammar)) .other
  if atPathWord trees then
    pathType grammar sums lifetimes
  else if !lifetimes.isEmpty then refuse
  else if atSymbol "::" trees || atSymbol "<" trees then
    pathType grammar sums []
  else if atGroup .round trees then roundType grammar sums
  else if atWord "dyn" trees then
    let first ← word "dyn"
    let star ← optionalSymbol "*"
    let (_, printed) ← traitSum grammar sums
    return .ofPrinted (first ++ star ++ printed) .other
  else if atGroup .square trees then squareType grammar
  else if atSymbol "*" trees || atSymbol "&" trees then pointerType grammar
  else if atSymbol "!" trees && !atSymbol "=" trees then
    return .ofPrinted (← symbol "!") .other
  else if atWord "impl" trees then
    let first ← word "impl"
    let (_, printed) ← traitSum grammar sums
    return .ofPrinted (first ++ printed) .other
  else if atWord "_" trees then return .ofPrinted (← word "_") .other
  else if atLifetime trees then
    let (count, printed) ← traitSum grammar true
    return .ofPrinted printed (if count == 1 then .bound else .other)
  else refuse

end PacketSmith.Source.Grammar
