import PacketSmith.Source.Token

/-!
# Reading token trees

Readers take trees from the front of a sequence. They come in two sorts: tests, which look
at the sequence and take nothing, and readers proper, which give back what they took in the
form in which it is printed. Printing is normal: marks are joined only inside one symbol,
whatever stood around them in the source.
-/

namespace PacketSmith.Source

/-- A reader takes trees from the front of a sequence, or fails. -/
abbrev Reading := StateT (List Tree) Option

/-- Words that cannot name anything unless they are written raw. -/
def keywords : List String :=
  ["_", "abstract", "as", "async", "await", "become", "box", "break", "const", "continue",
   "crate", "do", "dyn", "else", "enum", "extern", "false", "final", "fn", "for", "if", "impl",
   "in", "let", "loop", "macro", "match", "mod", "move", "mut", "override", "priv", "pub", "ref",
   "return", "Self", "self", "static", "struct", "super", "trait", "true", "try", "type",
   "typeof", "unsafe", "unsized", "use", "virtual", "where", "while", "yield"]

/-! ## Tests -/

/-- What stands behind a symbol of several marks. The marks are joined to each other; what
the last one is joined to does not matter. -/
def afterMarks? : List Char → List Tree → Option (List Tree)
  | [], trees => some trees
  | [expected], .leaf (.mark found _) :: trees => if expected == found then some trees else none
  | expected :: next :: others, .leaf (.mark found true) :: trees =>
    if expected == found then afterMarks? (next :: others) trees else none
  | _, _ => none

/-- Whether a symbol comes first. -/
def atSymbol (symbol : String) (trees : List Tree) : Bool :=
  (afterMarks? symbol.toList trees).isSome

/-- Whether a certain word comes first. -/
def atWord (expected : String) : List Tree → Bool
  | .leaf (.word found) :: _ => expected == found
  | _ => false

/-- Whether one of some words comes first. -/
def atWords (expected : List String) (trees : List Tree) : Bool :=
  expected.any fun word => atWord word trees

/-- Whether any word comes first. -/
def atAnyWord : List Tree → Bool
  | .leaf (.word _) :: _ => true
  | _ => false

/-- Whether a word that can name something comes first. -/
def atName : List Tree → Bool
  | .leaf (.word found) :: _ => !keywords.contains found
  | _ => false

/-- Whether a lifetime comes first. -/
def atLifetime : List Tree → Bool
  | .leaf (.lifetime _) :: _ => true
  | _ => false

/-- Whether a literal comes first: one of its own, a truth value, or a negative number. -/
def atLiteral : List Tree → Bool
  | .leaf (.literal _ _) :: _ => true
  | .leaf (.word found) :: _ => found == "true" || found == "false"
  | .leaf (.mark '-' _) :: .leaf (.literal written _) :: _ =>
    written.toList.head?.any Char.isDigit
  | _ => false

/-- Whether a text literal comes first. -/
def atText : List Tree → Bool
  | .leaf (.literal _ (.text _)) :: _ => true
  | _ => false

/-- Whether a group between certain brackets comes first. -/
def atGroup (expected : Bracket) : List Tree → Bool
  | .group found _ :: _ => expected == found
  | _ => false

/-- The sequence behind its first tree. -/
def behind (trees : List Tree) : List Tree :=
  trees.drop 1

/-- The sequence behind a symbol, or nothing if the symbol does not come first. -/
def behindSymbol (symbol : String) (trees : List Tree) : List Tree :=
  (afterMarks? symbol.toList trees).getD []

/-! ## Readers -/

/-- Fail. -/
def refuse : Reading α :=
  fun _ => none

/-- The result of a test. -/
def test (look : List Tree → Bool) : Reading Bool :=
  return look (← get)

/-- A symbol as it is printed. -/
def symbolTrees : List Char → List Tree
  | [] => []
  | [character] => [.leaf (.mark character false)]
  | character :: others => .leaf (.mark character true) :: symbolTrees others

/-- Take a symbol. -/
def symbol (expected : String) : Reading (List Tree) := do
  match afterMarks? expected.toList (← get) with
  | some rest =>
    set rest
    return symbolTrees expected.toList
  | none => refuse

/-- Take a symbol if it is there. -/
def optionalSymbol (expected : String) : Reading (List Tree) := do
  if ← test (atSymbol expected) then symbol expected else return []

/-- Take any word. -/
def anyWord : Reading String := do
  match ← get with
  | .leaf (.word found) :: rest =>
    set rest
    return found
  | _ => refuse

/-- A word as it is printed. -/
def wordTrees (word : String) : List Tree :=
  [.leaf (.word word)]

/-- Take a certain word. -/
def word (expected : String) : Reading (List Tree) := do
  if ← test (atWord expected) then return wordTrees (← anyWord) else refuse

/-- Take a certain word if it is there. -/
def optionalWord (expected : String) : Reading (List Tree) := do
  if ← test (atWord expected) then word expected else return []

/-- Take a word that can name something. -/
def name : Reading String := do
  if ← test atName then anyWord else refuse

/-- Take a name as it is printed. -/
def nameTrees : Reading (List Tree) :=
  return wordTrees (← name)

/-- Take a lifetime. -/
def lifetime : Reading (List Tree) := do
  match ← get with
  | .leaf (.lifetime found) :: rest =>
    set rest
    return [.leaf (.lifetime found)]
  | _ => refuse

/-- Take a literal. A negative number is printed as one token. -/
def literal : Reading (List Tree) := do
  let trees ← get
  if !atLiteral trees then refuse
  match trees with
  | .leaf (.mark _ _) :: .leaf (.literal written _) :: rest =>
    set rest
    return [.leaf (.literal ("-" ++ written) .other)]
  | first :: rest =>
    set rest
    return [first]
  | [] => refuse

/-- Take any group as it is. -/
def rawGroup : Reading (Bracket × List Tree) := do
  match ← get with
  | .group bracket content :: rest =>
    set rest
    return (bracket, content)
  | _ => refuse

/-- Take any group as it is and print it. -/
def groupTrees : Reading (List Tree) := do
  let (bracket, content) ← rawGroup
  return [.group bracket content]

/-- Take a group between certain brackets whose content a reader takes as a whole. -/
def within (expected : Bracket) (read : Reading α) : Reading α := do
  let (bracket, content) ← rawGroup
  if bracket != expected then refuse
  match read content with
  | some (result, []) => return result
  | _ => refuse

/-- Take a group whose content is printed again. -/
def withinTrees (expected : Bracket) (read : Reading (List Tree)) : Reading (List Tree) :=
  return [.group expected (← within expected read)]

/-- Readers one after the other. -/
def sequence : List (Reading (List Tree)) → Reading (List Tree)
  | [] => return []
  | read :: others => return (← read) ++ (← sequence others)

/-- Take what a reader takes and give nothing back. -/
def skip (read : Reading α) : Reading Unit := do
  let _ ← read

/-- Take a symbol and give nothing back. -/
def skipSymbol (expected : String) : Reading Unit :=
  skip (symbol expected)

/-- Take a word and give nothing back. -/
def skipWord (expected : String) : Reading Unit :=
  skip (word expected)

/-- Readers one after the other that give nothing back. -/
def inOrder : List (Reading Unit) → Reading Unit
  | [] => return
  | read :: others => do
    read
    inOrder others

/-- Do something only where a test holds. -/
def whereAt (look : List Tree → Bool) (read : Reading Unit) : Reading Unit := do
  if ← test look then read

/-- The symbols of several marks, longer ones first. -/
def longSymbols : List (List Char) :=
  ["<<=", ">>=", "...", "..=", "::", "->", "=>", "==", "!=", "<=", ">=", "&&", "||", "+=", "-=",
   "*=", "/=", "%=", "^=", "&=", "|=", "..", "<<", ">>"].map String.toList

/-- Trees with marks joined only inside symbols; `held` marks of a symbol are still to
come. -/
def rejoined (held : Nat) : List Tree → List Tree
  | [] => []
  | .leaf (.mark character _) :: trees =>
    let symbol := longSymbols.find? fun symbol =>
      (afterMarks? symbol (.leaf (.mark character true) :: trees)).isSome
    let left := if held == 0 then match symbol with
      | some symbol => symbol.length
      | none => 1
      else held
    .leaf (.mark character (left != 1)) :: rejoined (left - 1) trees
  | tree :: trees => tree :: rejoined 0 trees

/-- What a reader takes, as it is printed. -/
def printedOf (read : Reading Unit) : Reading (List Tree) := do
  let before ← get
  read
  return rejoined 0 (before.take (before.length - (← get).length))

/-- Whether what a reader takes ends in a group between braces. -/
def endsInBraces (read : Reading Unit) : Reading Bool := do
  let before ← get
  read
  let taken := before.take (before.length - (← get).length)
  return taken.getLast?.any fun tree => atGroup .curly [tree]

/-- Take one thing after another as long as a test holds; `fuel` bounds their number. -/
def repeatWhile (look : List Tree → Bool) (read : Reading α) : Nat → Reading (List α)
  | 0 => refuse
  | fuel + 1 => do
    if ← test look then
      let first ← read
      return first :: (← repeatWhile look read fuel)
    else return []

/-- Take things as long as a test holds. -/
def manyWhile (look : List Tree → Bool) (read : Reading α) : Reading (List α) := do
  repeatWhile look read ((← get).length + 1)

/-- Take things with a symbol between each two, up to a place where a test holds; `fuel`
bounds their number. A symbol may stand behind the last one. -/
def separatedLoop (stop : List Tree → Bool) (between : String) (read : Reading α) :
    Nat → Reading (List (α × List Tree))
  | 0 => refuse
  | fuel + 1 => do
    if ← test stop then return []
    let first ← read
    if ← test stop then return [(first, [])]
    let mark ← symbol between
    return (first, mark) :: (← separatedLoop stop between read fuel)

/-- Take things with a symbol between each two, up to a place where a test holds. -/
def separated (stop : List Tree → Bool) (between : String) (read : Reading α) :
    Reading (List (α × List Tree)) := do
  separatedLoop stop between read ((← get).length + 1)

/-- What was taken, with its symbols, as it is printed. -/
def joinedTrees (items : List (List Tree × List Tree)) : List Tree :=
  items.flatMap fun (item, mark) => item ++ mark

/-- Take things with commas between them that fill the rest of a group. -/
def commas (read : Reading α) : Reading (List (α × List Tree)) :=
  separated List.isEmpty "," read

/-- Take things with commas between them that fill the rest of a group, and print them. -/
def commaTrees (read : Reading (List Tree)) : Reading (List Tree) :=
  return joinedTrees (← commas read)

/-- Take things with plus signs between them, up to a place where a test holds or where no
plus sign follows; `fuel` bounds their number. -/
def sumLoop (stop : List Tree → Bool) (read : Reading (List Tree)) : Nat → Reading (List Tree)
  | 0 => refuse
  | fuel + 1 => do
    if ← test stop then return []
    let first ← read
    if ← test (atSymbol "+") then
      let mark ← symbol "+"
      return first ++ mark ++ (← sumLoop stop read fuel)
    else return first

/-- Take things with plus signs between them. -/
def sumUntil (stop : List Tree → Bool) (read : Reading (List Tree)) : Reading (List Tree) := do
  sumLoop stop read ((← get).length + 1)

end PacketSmith.Source
