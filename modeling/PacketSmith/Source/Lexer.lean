import PacketSmith.Source.Token
import PacketSmith.Text.Blank
import PacketSmith.Text.WordCharacter

/-!
# Reading tokens

The text of a source file is cut into tokens from its beginning. Blanks and plain comments
separate tokens; a documentation comment is an attribute that holds its text. Each reader of
this module takes the text and gives what is left behind what it read; a reader of one token
fails if no such token stands there, and the text as a whole fails where no token does.
-/

namespace PacketSmith.Source

open Text

/-- Whether a text begins with another. -/
def begins (beginning : String) (text : List Char) : Bool :=
  (afterPrefix? beginning.toList text).isSome

/-- What stands in front of some end of a text. -/
def upTo (rest text : List Char) : List Char :=
  text.take (text.length - rest.length)

/-- Blanks between tokens: white space and the two marks of text direction. -/
def isSeparator (character : Char) : Bool :=
  isBlank character || character.toNat == 0x200e || character.toNat == 0x200f

/-- The rest of a line and what follows it from its line feed on. A carriage return belongs
to the line feed behind it. -/
def cutLine : List Char → List Char × List Char
  | [] => ([], [])
  | '\n' :: rest => ([], '\n' :: rest)
  | '\r' :: '\n' :: rest => ([], '\n' :: rest)
  | character :: rest =>
    let (line, behind) := cutLine rest
    (character :: line, behind)

/-- What stands behind a block comment inside `depth` others. -/
def afterBlock (depth : Nat) : List Char → Option (List Char)
  | [] => none
  | '/' :: '*' :: rest => afterBlock (depth + 1) rest
  | '*' :: '/' :: rest =>
    match depth with
    | 0 => none
    | 1 => some rest
    | depth + 2 => afterBlock (depth + 1) rest
  | _ :: rest => afterBlock depth rest

/-- What stands behind the plain comment that a text begins with. -/
def afterComment? (text : List Char) : Option (List Char) :=
  if begins "//" text && (!begins "///" text || begins "////" text) && !begins "//!" text then
    some (cutLine text).2
  else if begins "/**/" text then some (text.drop 4)
  else if begins "/*" text && (!begins "/**" text || begins "/***" text) && !begins "/*!" text then
    afterBlock 0 text
  else none

/-- A text without the blanks and comments in front of it. -/
def skipSeparators : Nat → List Char → List Char
  | 0, text => text
  | fuel + 1, text =>
    match afterComment? text with
    | some rest => skipSeparators fuel rest
    | none =>
      match text with
      | character :: rest =>
        if isSeparator character then skipSeparators fuel rest else character :: rest
      | [] => []

/-- Every carriage return stands in front of a line feed. -/
def hasOnlyLineEnds : List Char → Bool
  | [] => true
  | '\r' :: '\n' :: rest => hasOnlyLineEnds rest
  | '\r' :: _ => false
  | _ :: rest => hasOnlyLineEnds rest

/-- The documentation comment that a text begins with: its text, whether it belongs to what
is around it, and what follows. -/
def docComment? (text : List Char) : Option (List Char × Bool × List Char) :=
  let block (inner : Bool) : Option (List Char × Bool × List Char) := do
    let rest ← afterBlock 0 text
    let comment := upTo rest text
    return ((comment.drop 3).take (comment.length - 5), inner, rest)
  let found :=
    if begins "//!" text then
      let (line, rest) := cutLine (text.drop 3)
      some (line, true, rest)
    else if begins "/*!" text then block true
    else if begins "///" text && !begins "////" text then
      let (line, rest) := cutLine (text.drop 3)
      some (line, false, rest)
    else if begins "/**" text && !begins "/***" text then block false
    else none
  match found with
  | some (comment, inner, rest) =>
    if hasOnlyLineEnds comment then some (comment, inner, rest) else none
  | none => none

/-- The attribute that stands for a documentation comment. -/
def docPieces (comment : List Char) (inner : Bool) : List Piece :=
  [.token (.mark '#' false)] ++ (if inner then [.token (.mark '!' false)] else []) ++
    [.opening .square, .token (.word "doc"), .token (.mark '=' false),
     .token (.literal "\"\"" (.text (String.ofList comment))), .closing .square]

/-- What stands behind the word that a text begins with. -/
def afterWord? : List Char → Option (List Char)
  | [] => none
  | first :: rest => if startsWord first then some (rest.dropWhile continuesWord) else none

/-- What stands behind the suffix of a literal, if it has one. -/
def afterSuffix (text : List Char) : List Char :=
  (afterWord? text).getD text

/-- The prefixes that begin literals and therefore no words. -/
def literalPrefixes : List String :=
  ["r\"", "r#\"", "r##", "b\"", "b'", "br\"", "br#", "c\"", "cr\"", "cr#"]

/-- The words that have no raw form. -/
def neverRaw : List String :=
  ["_", "super", "self", "Self", "crate"]

/-- A word, raw or not: its text and what follows. -/
def anyWord? (text : List Char) : Option (String × List Char) := do
  if begins "r#" text then
    let rest ← afterWord? (text.drop 2)
    if neverRaw.contains (String.ofList (upTo rest (text.drop 2))) then none
    return (String.ofList (upTo rest text), rest)
  else
    let rest ← afterWord? text
    return (String.ofList (upTo rest text), rest)

/-- A word that is not the beginning of a literal. -/
def word? (text : List Char) : Option (Token × List Char) := do
  if literalPrefixes.any fun beginning => begins beginning text then none
  let (word, rest) ← anyWord? text
  return (.word word, rest)

/-- The value of a digit in base sixteen. -/
def digitValue? (character : Char) : Option Nat :=
  if character.isDigit then some (character.toNat - '0'.toNat)
  else if 'a' ≤ character && character ≤ 'f' then some (character.toNat - 'a'.toNat + 10)
  else if 'A' ≤ character && character ≤ 'F' then some (character.toNat - 'A'.toNat + 10)
  else none

/-- The number that digits of a base write; underscores are passed over. -/
def valueOf (base : Nat) (digits : List Char) : Nat :=
  digits.foldl (fun value digit => match digitValue? digit with
    | some amount => value * base + amount
    | none => value) 0

/-- The kinds of literals between quotes. -/
inductive Flavour where
  /-- Characters. -/
  | plain
  /-- Bytes. -/
  | bytes
  /-- Characters other than NUL. -/
  | zeroEnded
  deriving DecidableEq

/-- Whether a character may stand in a literal as it is. -/
def Flavour.allows (flavour : Flavour) (character : Char) : Bool :=
  match flavour with
  | plain => true
  | bytes => character.toNat < 0x80
  | zeroEnded => character.toNat != 0

/-- Whether a literal may have this character written by two digits. -/
def Flavour.allowsCode (flavour : Flavour) (code : Nat) : Bool :=
  match flavour with
  | plain => code < 0x80
  | bytes => true
  | zeroEnded => code != 0

/-- The escape behind `\u`: one to six digits between braces, with underscores between or
behind them. -/
def codePoint? (text : List Char) : Option (Char × List Char) :=
  match text with
  | '\x7b' :: inside =>
    let digits := inside.takeWhile fun character =>
      (digitValue? character).isSome || character == '_'
    let count := (digits.filter fun character => character != '_').length
    let value := valueOf 16 digits
    match inside.dropWhile fun character =>
        (digitValue? character).isSome || character == '_' with
    | '\x7d' :: rest =>
      if 0 < count && count ≤ 6 && digits.head? != some '_' && Nat.isValidChar value then
        some (Char.ofNat value, rest)
      else none
    | _ => none
  | _ => none

/-- The escape behind a backslash: the character it stands for and what follows. -/
def escape? (flavour : Flavour) : List Char → Option (Char × List Char)
  | 'n' :: rest => some ('\n', rest)
  | 'r' :: rest => some ('\r', rest)
  | 't' :: rest => some ('\t', rest)
  | '\\' :: rest => some ('\\', rest)
  | '\'' :: rest => some ('\'', rest)
  | '"' :: rest => some ('"', rest)
  | '0' :: rest => if flavour = .zeroEnded then none else some ('\x00', rest)
  | 'x' :: first :: second :: rest => do
    let code := (← digitValue? first) * 16 + (← digitValue? second)
    if flavour.allowsCode code then some (Char.ofNat code, rest) else none
  | 'u' :: rest => do
    if flavour = .bytes then none
    let (character, rest) ← codePoint? rest
    if flavour.allows character then some (character, rest) else none
  | _ => none

/-- What stands behind the blanks that follow a backslash at the end of a line. -/
def afterContinuation : List Char → Option (List Char)
  | [] => none
  | '\r' :: '\n' :: rest => afterContinuation rest
  | '\r' :: _ => none
  | character :: rest =>
    if character == '\n' || character == ' ' || character == '\t' then afterContinuation rest
    else some (character :: rest)

/-- A text literal behind its opening quote: its characters and what follows. -/
def cooked (flavour : Flavour) (reversed : List Char) :
    Nat → List Char → Option (List Char × List Char)
  | 0, _ => none
  | fuel + 1, text =>
    match text with
    | [] => none
    | '"' :: rest => some (reversed.reverse, rest)
    | '\r' :: '\n' :: rest => cooked flavour ('\n' :: reversed) fuel rest
    | '\r' :: _ => none
    | '\\' :: '\n' :: rest =>
      match afterContinuation rest with
      | some rest => cooked flavour reversed fuel rest
      | none => none
    | '\\' :: '\r' :: rest =>
      match afterContinuation ('\r' :: rest) with
      | some rest => cooked flavour reversed fuel rest
      | none => none
    | '\\' :: rest =>
      match escape? flavour rest with
      | some (character, rest) => cooked flavour (character :: reversed) fuel rest
      | none => none
    | character :: rest =>
      if flavour.allows character then cooked flavour (character :: reversed) fuel rest
      else none

/-- A raw text behind its opening quote, up to a quote and the closing hashes. -/
def rawBody (flavour : Flavour) (hashes : List Char) :
    List Char → Option (List Char × List Char)
  | [] => none
  | '\r' :: '\n' :: rest =>
    (rawBody flavour hashes rest).map fun (body, rest) => ('\r' :: '\n' :: body, rest)
  | '\r' :: _ => none
  | character :: rest =>
    match if character == '"' then afterPrefix? hashes rest else none with
    | some behind => some ([], behind)
    | none =>
      if flavour.allows character then
        (rawBody flavour hashes rest).map fun (body, rest) => (character :: body, rest)
      else none

/-- A raw text behind the letter that begins it. -/
def raw (flavour : Flavour) (text : List Char) : Option (List Char × List Char) :=
  let hashes := text.takeWhile fun character => character == '#'
  match text.dropWhile fun character => character == '#' with
  | '"' :: rest => if hashes.length ≤ 255 then rawBody flavour hashes rest else none
  | _ => none

/-- A text literal of a flavour whose prefix has been read. -/
def textBody (flavour : Flavour) : List Char → Option (List Char × List Char)
  | '"' :: rest => cooked flavour [] (rest.length + 1) rest
  | 'r' :: rest => raw flavour rest
  | _ => none

/-- One character between single quotes, behind the first of them. -/
def quotedOne (flavour : Flavour) (text : List Char) : Option (List Char) := do
  let rest ← match text with
    | '\\' :: rest => (escape? flavour rest).map Prod.snd
    | _ :: rest => some rest
    | [] => none
  afterPrefix? ['\''] rest

/-- A literal between quotes: what it means and what follows. -/
def quotedLiteral? (text : List Char) : Option (Meaning × List Char) :=
  match textBody .plain text with
  | some (value, rest) => some (.text (String.ofList value), rest)
  | none =>
    match text with
    | 'b' :: '\'' :: rest => (quotedOne .bytes rest).map fun rest => (.other, rest)
    | 'b' :: rest => (textBody .bytes rest).map fun (_, rest) => (.other, rest)
    | 'c' :: rest => (textBody .zeroEnded rest).map fun (_, rest) => (.other, rest)
    | '\'' :: rest => (quotedOne .plain rest).map fun rest => (.other, rest)
    | _ => none

/-- Digits in base ten and underscores. -/
def isDecimal (character : Char) : Bool :=
  character.isDigit || character == '_'

/-- What stands behind the digits of an exponent, if it has any. A sign may stand in front
of the first digit. -/
def afterExponent (signed : Bool) : List Char → Option (List Char)
  | [] => none
  | character :: rest =>
    if character.isDigit then some (rest.dropWhile isDecimal)
    else if character == '_' then afterExponent signed rest
    else if (character == '+' || character == '-') && !signed then afterExponent true rest
    else none

/-- What stands behind the digits of a number with a point or an exponent. -/
def afterFloatDigits? (text : List Char) : Option (List Char) :=
  if !(text.head?.any Char.isDigit) then none
  else match text.dropWhile isDecimal with
    | '.' :: rest =>
      if rest.head?.any fun character => character == '.' || startsWord character then none
      else match rest.dropWhile isDecimal with
        | mark :: behind =>
          if mark == 'e' || mark == 'E' then some ((afterExponent false behind).getD (mark :: behind))
          else some (mark :: behind)
        | [] => some []
    | mark :: behind => if mark == 'e' || mark == 'E' then afterExponent false behind else none
    | [] => none

/-- The base that a number's prefix names, and what stands behind the prefix. -/
def basePrefix : List Char → Nat × List Char
  | '0' :: 'x' :: rest => (16, rest)
  | '0' :: 'o' :: rest => (8, rest)
  | '0' :: 'b' :: rest => (2, rest)
  | text => (10, text)

/-- The digits of a whole number. A decimal digit that the base does not have is a fault,
and a letter that it does not have ends the digits. -/
def wholeDigits (base : Nat) : List Char → Option (List Char × List Char)
  | [] => some ([], [])
  | character :: rest =>
    let continued := (wholeDigits base rest).map fun (digits, rest) => (character :: digits, rest)
    if character == '_' then continued
    else match digitValue? character with
      | some value =>
        if value < base then continued
        else if character.isDigit then none
        else some ([], character :: rest)
      | none => some ([], character :: rest)

/-- The value of a whole number and what stands behind its digits. -/
def whole? (text : List Char) : Option (Nat × List Char) := do
  let (base, digits) := basePrefix text
  if base == 10 && digits.head? == some '_' then none
  let (digits, rest) ← wholeDigits base digits
  if digits.any fun digit => digit != '_' then some (valueOf base digits, rest) else none

/-- What stands behind the suffix of a number; no word may go on there. -/
def afterNumber? (text : List Char) : Option (List Char) :=
  let rest := afterSuffix text
  if rest.head?.any continuesWord then none else some rest

/-- A number: what it means and what follows. -/
def numberLiteral? (text : List Char) : Option (Meaning × List Char) :=
  match (afterFloatDigits? text).bind afterNumber? with
  | some rest => some (.other, rest)
  | none => do
    let (value, rest) ← whole? text
    return (.integer value, ← afterNumber? rest)

/-- A literal. -/
def literal? (text : List Char) : Option (Token × List Char) :=
  let found := match quotedLiteral? text with
    | some (meaning, rest) => some (meaning, afterSuffix rest)
    | none => numberLiteral? text
  found.map fun (meaning, rest) => (.literal (String.ofList (upTo rest text)) meaning, rest)

/-- The marks. -/
def marks : List Char := "~!@#$%^&*-=+|;:,<.>/?'".toList

/-- Whether a text begins with a mark. Slashes that begin a comment are none. -/
def atMark (text : List Char) : Bool :=
  !(begins "//" text) && !(begins "/*" text) &&
    text.head?.any fun character => marks.contains character

/-- A mark, or a single quote with the word behind it. -/
def mark? (text : List Char) : Option (Token × List Char) :=
  if !atMark text then none
  else match text with
    | '\'' :: rest => do
      let (name, behind) ← anyWord? rest
      if behind.head? == some '\'' then none
      if behind.head? == some '#' && !begins "r#" rest then none
      return (.lifetime name, behind)
    | character :: rest => some (.mark character (atMark rest), rest)
    | [] => none

/-- The bracket that a character opens. -/
def opened? : Char → Option Bracket
  | '(' => some .round
  | '[' => some .square
  | '\x7b' => some .curly
  | _ => none

/-- The bracket that a character closes. -/
def closed? : Char → Option Bracket
  | ')' => some .round
  | ']' => some .square
  | '\x7d' => some .curly
  | _ => none

/-- A token that is not a bracket. -/
def token? (text : List Char) : Option (Token × List Char) :=
  (literal? text).orElse fun _ => (mark? text).orElse fun _ => word? text

/-- All tokens of a text, in order. Every step takes a character, so the length of the text
bounds the number of steps. -/
def pieces? (reversed : List Piece) : Nat → List Char → Option (List Piece)
  | 0, _ => none
  | fuel + 1, text =>
    let text := skipSeparators (text.length + 1) text
    match docComment? text with
    | some (comment, inner, rest) =>
      pieces? ((docPieces comment inner).reverse ++ reversed) fuel rest
    | none =>
      match text with
      | [] => some reversed.reverse
      | first :: rest =>
        match opened? first, closed? first with
        | some bracket, _ => pieces? (.opening bracket :: reversed) fuel rest
        | none, some bracket => pieces? (.closing bracket :: reversed) fuel rest
        | none, none =>
          match token? text with
          | some (token, rest) => pieces? (.token token :: reversed) fuel rest
          | none => none

/-- A text without the byte order mark in front of it. -/
def withoutByteOrderMark : List Char → List Char
  | first :: rest => if first.toNat == 0xfeff then rest else first :: rest
  | [] => []

/-- The text of a file without the line in front that names an interpreter. A file that
begins with an attribute has no such line. -/
def withoutInterpreter (text : List Char) : List Char :=
  if begins "#!" text then
    let behind := skipSeparators (text.length + 1) (text.drop 2)
    if begins "[" behind then text else text.dropWhile fun character => character != '\n'
  else text

/-- The token trees of a file. -/
def trees? (text : List Char) : Option (List Tree) := do
  let text := withoutByteOrderMark (withoutInterpreter (withoutByteOrderMark text))
  Tree.ofPieces? (← pieces? [] (text.length + 1) text)

end PacketSmith.Source
