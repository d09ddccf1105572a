import PacketSmith.Json

/-!
# Reading JSON

The grammar of JSON texts, without additions: no comments, no trailing commas, no mark in
front and nothing behind the value. Depth is not limited here; readers that limit it do so
on the value. Every step of the reader takes at least one character, so the length of the
text bounds its work.
-/

namespace PacketSmith.Json

/-- The blanks of JSON. -/
def isSpace (character : Char) : Bool :=
  character == ' ' || character == '\n' || character == '\t' || character == '\r'

/-- A text without the blanks in front of it. -/
def skipSpace (text : List Char) : List Char :=
  text.dropWhile isSpace

/-- The value of a digit in base sixteen. -/
def hexDigit? (character : Char) : Option Nat :=
  if character.isDigit then some (character.toNat - '0'.toNat)
  else if 'a' ≤ character && character ≤ 'f' then some (character.toNat - 'a'.toNat + 10)
  else if 'A' ≤ character && character ≤ 'F' then some (character.toNat - 'A'.toNat + 10)
  else none

/-- The number that four digits write in base sixteen. -/
def hexUnit? (a b c d : Char) : Option Nat := do
  return (((← hexDigit? a) * 16 + (← hexDigit? b)) * 16 + (← hexDigit? c)) * 16 + (← hexDigit? d)

/-- The character that a backslash and one other character stand for. -/
def shortEscape? : Char → Option Char
  | '"' => some '"'
  | '\\' => some '\\'
  | '/' => some '/'
  | 'b' => some '\x08'
  | 'f' => some '\x0c'
  | 'n' => some '\n'
  | 'r' => some '\r'
  | 't' => some '\t'
  | _ => none

/-- What has been read of a text: its characters, last first, the first half of a surrogate
pair that waits for the second, and whether every half has found its other. -/
structure PartialText where
  /-- The characters read, last first. -/
  reversed : List Char
  /-- The first half of a pair that was just read. -/
  half : Option Nat
  /-- Whether all pairs so far are complete. -/
  complete : Bool

namespace PartialText

/-- Nothing read yet. -/
def start : PartialText :=
  ⟨[], none, true⟩

/-- Add a character that is not half of a pair. -/
def push (part : PartialText) (character : Char) : PartialText :=
  ⟨character :: part.reversed, none, part.complete && part.half.isNone⟩

/-- Add a sixteen-bit unit, which is a character or half of a pair. -/
def pushUnit (part : PartialText) (unit : Nat) : PartialText :=
  if 0xdc00 ≤ unit && unit ≤ 0xdfff then
    match part.half with
    | some high =>
      ⟨Char.ofNat (0x10000 + (high - 0xd800) * 0x400 + (unit - 0xdc00)) :: part.reversed,
        none, part.complete⟩
    | none => { part with complete := false }
  else if 0xd800 ≤ unit && unit ≤ 0xdbff then
    ⟨part.reversed, some unit, part.complete && part.half.isNone⟩
  else part.push (Char.ofNat unit)

/-- The text, if all pairs are complete. -/
def finish (part : PartialText) : Option String :=
  if part.complete && part.half.isNone then some (String.ofList part.reversed.reverse) else none

end PartialText

/-- Read a text behind its opening quote. -/
def readText (part : PartialText) : List Char → Option (Option String × List Char)
  | [] => none
  | '"' :: rest => some (part.finish, rest)
  | '\\' :: 'u' :: a :: b :: c :: d :: rest =>
    match hexUnit? a b c d with
    | some unit => readText (part.pushUnit unit) rest
    | none => none
  | '\\' :: escape :: rest =>
    match shortEscape? escape with
    | some character => readText (part.push character) rest
    | none => none
  | character :: rest =>
    if character.toNat < 0x20 then none else readText (part.push character) rest

/-- The number that decimal digits write. -/
def decimal (digits : List Char) : Nat :=
  digits.foldl (fun value digit => value * 10 + (digit.toNat - '0'.toNat)) 0

/-- Split a text behind the decimal digits in front of it. -/
def takeDigits (text : List Char) : List Char × List Char :=
  (text.takeWhile Char.isDigit, text.dropWhile Char.isDigit)

/-- Read an exponent, if one is written: `none` when it has no digits. -/
def readExponent : List Char → Option (Option Int × List Char)
  | [] => some (none, [])
  | mark :: rest =>
    if mark == 'e' || mark == 'E' then
      let (negative, rest) := match rest with
        | '-' :: rest => (true, rest)
        | '+' :: rest => (false, rest)
        | rest => (false, rest)
      match takeDigits rest with
      | ([], _) => none
      | (digits, rest) =>
        let size := Int.ofNat (decimal digits)
        some (some (if negative then -size else size), rest)
    else some (none, mark :: rest)

/-- Read a fraction, if one is written: `none` when it has no digits. -/
def readFraction : List Char → Option (Option (List Char) × List Char)
  | '.' :: rest =>
    match takeDigits rest with
    | ([], _) => none
    | (digits, rest) => some (some digits, rest)
  | rest => some (none, rest)

/-- Read a number behind its sign. A number does not start with a zero before other digits. -/
def readNumber (negative : Bool) (text : List Char) : Option (JsonNumber × List Char) := do
  let (whole, rest) := takeDigits text
  if whole.isEmpty || (whole.head? == some '0' && whole.length != 1) then none
  let (fraction, rest) ← readFraction rest
  let (exponent, rest) ← readExponent rest
  let decimals := fraction.getD []
  return (⟨negative, fraction.isNone && exponent.isNone, decimal (whole ++ decimals),
    exponent.getD 0 - Int.ofNat decimals.length⟩, rest)

/-- What is left behind a word, if the text begins with it. -/
def readWord : List Char → List Char → Option (List Char)
  | [], input => some input
  | _ :: _, [] => none
  | expected :: word, character :: input =>
    if expected == character then readWord word input else none

mutual

/-- Read a value; `fuel` bounds the number of values inside each other and beside each
other. -/
def readValue : Nat → List Char → Option (Json × List Char)
  | 0, _ => none
  | fuel + 1, input =>
    match skipSpace input with
    | '"' :: rest => (readText .start rest).map fun (value, rest) => (Json.text value, rest)
    | '[' :: rest =>
      match skipSpace rest with
      | ']' :: rest => some (array [], rest)
      | rest => (readItems fuel rest).map fun (items, rest) => (array items, rest)
    | '\x7b' :: rest =>
      match skipSpace rest with
      | '\x7d' :: rest => some (object [], rest)
      | rest => (readMembers fuel rest).map fun (members, rest) => (object members, rest)
    | '-' :: rest => (readNumber true rest).map fun (value, rest) => (number value, rest)
    | 'n' :: rest => (readWord ['u', 'l', 'l'] rest).map fun rest => (null, rest)
    | 't' :: rest => (readWord ['r', 'u', 'e'] rest).map fun rest => (bool true, rest)
    | 'f' :: rest => (readWord ['a', 'l', 's', 'e'] rest).map fun rest => (bool false, rest)
    | rest => (readNumber false rest).map fun (value, rest) => (number value, rest)

/-- Read the items of an array behind its opening bracket, at least one. -/
def readItems : Nat → List Char → Option (List Json × List Char)
  | 0, _ => none
  | fuel + 1, input =>
    match readValue fuel input with
    | none => none
    | some (item, rest) =>
      match skipSpace rest with
      | ',' :: rest =>
        match readItems fuel rest with
        | some (items, rest) => some (item :: items, rest)
        | none => none
      | ']' :: rest => some ([item], rest)
      | _ => none

/-- Read the members of an object behind its opening brace, at least one. -/
def readMembers : Nat → List Char → Option (List (Option String × Json) × List Char)
  | 0, _ => none
  | fuel + 1, input =>
    match skipSpace input with
    | '"' :: rest =>
      match readText .start rest with
      | none => none
      | some (name, rest) =>
        match skipSpace rest with
        | ':' :: rest =>
          match readValue fuel rest with
          | none => none
          | some (value, rest) =>
            match skipSpace rest with
            | ',' :: rest =>
              match readMembers fuel rest with
              | some (members, rest) => some ((name, value) :: members, rest)
              | none => none
            | '\x7d' :: rest => some ([(name, value)], rest)
            | _ => none
        | _ => none
    | _ => none

end

/-- The value of a whole text. -/
def ofText? (text : String) : Option Json :=
  let characters := text.toList
  match readValue (2 * characters.length + 2) characters with
  | some (value, rest) => if (skipSpace rest).isEmpty then some value else none
  | none => none

end PacketSmith.Json
