import PacketSmith.Json

/-!
# Printing JSON

Values are printed over several lines: two spaces for each container around a line, one
space behind the colon of a member, and nothing inside an empty container. In texts only the
quotation mark, the backslash and the control characters are escaped.
-/

namespace PacketSmith.Json

/-- One digit in base sixteen. -/
def hexCharacter (value : Nat) : Char :=
  if value < 10 then Char.ofNat ('0'.toNat + value) else Char.ofNat ('a'.toNat + (value - 10))

/-- One character inside a text. -/
def printedCharacter (character : Char) : List Char :=
  if character == '"' then ['\\', '"']
  else if character == '\\' then ['\\', '\\']
  else if character == '\x08' then ['\\', 'b']
  else if character == '\t' then ['\\', 't']
  else if character == '\n' then ['\\', 'n']
  else if character == '\x0c' then ['\\', 'f']
  else if character == '\r' then ['\\', 'r']
  else if character.toNat < 0x20 then
    ['\\', 'u', '0', '0', hexCharacter (character.toNat / 16), hexCharacter (character.toNat % 16)]
  else [character]

/-- A text between its quotes. A text without value prints as the empty text. -/
def printedText (value : Option String) : List Char :=
  '"' :: ((value.getD "").toList.flatMap printedCharacter ++ ['"'])

/-- A number: the digits, and the power of ten unless an integer is written. -/
def printedNumber (number : JsonNumber) : List Char :=
  (if number.negative then ['-'] else []) ++ Nat.toDigits 10 number.digits ++
    (if number.integral then [] else 'e' :: (toString number.exponent).toList)

/-- A line break and the indentation inside `depth` containers. -/
def lineBreak (depth : Nat) : List Char :=
  '\n' :: List.replicate (2 * depth) ' '

mutual

/-- A value inside `depth` containers. -/
def printed (depth : Nat) : Json → List Char
  | .null => ['n', 'u', 'l', 'l']
  | .bool true => ['t', 'r', 'u', 'e']
  | .bool false => ['f', 'a', 'l', 's', 'e']
  | .number written => printedNumber written
  | .text content => printedText content
  | .array [] => ['[', ']']
  | .array (item :: items) =>
    '[' :: lineBreak (depth + 1) ++ printed (depth + 1) item ++ printedItems depth items ++
      lineBreak depth ++ [']']
  | .object [] => ['\x7b', '\x7d']
  | .object ((name, value) :: members) =>
    '\x7b' :: lineBreak (depth + 1) ++ printedText name ++ ':' :: ' ' ::
      printed (depth + 1) value ++ printedMembers depth members ++ lineBreak depth ++ ['\x7d']

/-- The items of an array behind the first one, each on a line of its own. -/
def printedItems (depth : Nat) : List Json → List Char
  | [] => []
  | item :: items =>
    ',' :: lineBreak (depth + 1) ++ printed (depth + 1) item ++ printedItems depth items

/-- The members of an object behind the first one, each on a line of its own. -/
def printedMembers (depth : Nat) : List (Option String × Json) → List Char
  | [] => []
  | (name, value) :: members =>
    ',' :: lineBreak (depth + 1) ++ printedText name ++ ':' :: ' ' ::
      printed (depth + 1) value ++ printedMembers depth members

end

/-- A value as a text of several lines. -/
def pretty (value : Json) : String :=
  String.ofList (printed 0 value)

end PacketSmith.Json
