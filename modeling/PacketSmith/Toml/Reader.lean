import PacketSmith.Json.Reader
import PacketSmith.Text.Search
import PacketSmith.Toml

/-!
# Reading TOML

The grammar of TOML 1.1: keys are bare, quoted or dotted; values are texts of four forms,
truth values, numbers, times, arrays and tables between braces; headers open tables. Readers
take characters from the front of a text and give what is left; the length of the text
bounds their work.
-/

namespace PacketSmith.Toml

open Text (afterPrefix?)

/-! ## Lines -/

/-- The blanks inside a line. -/
def isGap (character : Char) : Bool :=
  character == ' ' || character == '\t'

/-- A text without the blanks in front of it. -/
def skipGap (input : List Char) : List Char :=
  input.dropWhile isGap

/-- Whether a character cannot stand in texts and comments as it is. -/
def isControl (character : Char) : Bool :=
  (character.toNat < 0x20 && character != '\t') || character.toNat == 0x7f

/-- What stands behind the end of a line. -/
def afterLineEnd? : List Char → Option (List Char)
  | '\n' :: rest => some rest
  | '\r' :: '\n' :: rest => some rest
  | _ => none

/-- A text without the comment in front of it, which reaches to the end of the line. -/
def skipComment (input : List Char) : List Char :=
  match input with
  | '#' :: rest => rest.dropWhile fun character => !isControl character
  | _ => input

/-- What stands behind the rest of a line that holds nothing more. -/
def afterLine? (input : List Char) : Option (List Char) :=
  match skipComment (skipGap input) with
  | [] => some []
  | rest => afterLineEnd? rest

/-- A text without the blanks, comments and line ends in front of it. -/
def skipLines : Nat → List Char → List Char
  | 0, input => input
  | fuel + 1, input =>
    let rest := skipComment (skipGap input)
    match afterLineEnd? rest with
    | some rest => skipLines fuel rest
    | none => rest

/-- A text without blanks, comments and line ends in front, as far as they reach. -/
def skipSpace (input : List Char) : List Char :=
  skipLines (input.length + 1) input

/-! ## Texts -/

/-- The number that some digits in base sixteen write, and what follows them. -/
def hexNumber? (count : Nat) (input : List Char) : Option (Nat × List Char) := do
  let digits ← (input.take count).mapM Json.hexDigit?
  if digits.length == count then
    some (digits.foldl (fun value digit => value * 16 + digit) 0, input.drop count)
  else none

/-- The character that an escape behind its backslash stands for, and what follows. -/
def escape? : List Char → Option (Char × List Char)
  | 'b' :: rest => some ('\x08', rest)
  | 't' :: rest => some ('\t', rest)
  | 'n' :: rest => some ('\n', rest)
  | 'f' :: rest => some ('\x0c', rest)
  | 'r' :: rest => some ('\r', rest)
  | 'e' :: rest => some ('\x1b', rest)
  | '"' :: rest => some ('"', rest)
  | '\\' :: rest => some ('\\', rest)
  | mark :: rest => do
    let count ← if mark == 'x' then some 2 else if mark == 'u' then some 4
      else if mark == 'U' then some 8 else none
    let (code, rest) ← hexNumber? count rest
    if Nat.isValidChar code then some (Char.ofNat code, rest) else none
  | [] => none

/-- A text between double quotes on one line, behind the first quote. -/
def basicText (reversed : List Char) : Nat → List Char → Option (String × List Char)
  | 0, _ => none
  | fuel + 1, input =>
    match input with
    | [] => none
    | '"' :: rest => some (String.ofList reversed.reverse, rest)
    | '\\' :: rest =>
      match escape? rest with
      | some (character, rest) => basicText (character :: reversed) fuel rest
      | none => none
    | character :: rest =>
      if isControl character then none else basicText (character :: reversed) fuel rest

/-- A text between single quotes on one line, behind the first quote. -/
def literalText (reversed : List Char) : List Char → Option (String × List Char)
  | [] => none
  | '\'' :: rest => some (String.ofList reversed.reverse, rest)
  | character :: rest =>
    if isControl character then none else literalText (character :: reversed) rest

/-- What stands behind a backslash, blanks and the end of the line, together with the blanks
and line ends that follow. -/
def afterFold? (input : List Char) : Option (List Char) := do
  let rest ← afterLineEnd? (skipGap input)
  let rec fold : Nat → List Char → List Char
    | 0, input => input
    | fuel + 1, input =>
      match afterLineEnd? (skipGap input) with
      | some rest => fold fuel rest
      | none => skipGap input
  return fold (rest.length + 1) rest

/-- The end of a text of several lines: the quotes that belong to the text, and what stands
behind the three that close it. -/
def closing? (quote : Char) (input : List Char) : Option (List Char × List Char) :=
  let quotes := input.takeWhile fun character => character == quote
  let rest := input.dropWhile fun character => character == quote
  if quotes.length < 3 then none
  else if quotes.length ≤ 5 then some (quotes.drop 3, rest)
  else some ([quote, quote], quotes.drop 5 ++ rest)

/-- A text of several lines behind its opening quotes. Only between double quotes a
backslash has a meaning. -/
def longText (quote : Char) (reversed : List Char) :
    Nat → List Char → Option (String × List Char)
  | 0, _ => none
  | fuel + 1, input =>
    match closing? quote input with
    | some (quotes, rest) => some (String.ofList (reversed.reverse ++ quotes), rest)
    | none =>
      match input with
      | [] => none
      | '\r' :: '\n' :: rest => longText quote ('\n' :: '\r' :: reversed) fuel rest
      | '\n' :: rest => longText quote ('\n' :: reversed) fuel rest
      | '\\' :: rest =>
        if quote == '"' then
          match afterFold? rest with
          | some rest => longText quote reversed fuel rest
          | none =>
            match escape? rest with
            | some (character, rest) => longText quote (character :: reversed) fuel rest
            | none => none
        else longText quote ('\\' :: reversed) fuel rest
      | character :: rest =>
        if isControl character then none else longText quote (character :: reversed) fuel rest

/-- A text without the line end in front of it. -/
def skipFirstLineEnd (input : List Char) : List Char :=
  (afterLineEnd? input).getD input

/-- A text of one of the four forms. -/
def readText? (input : List Char) : Option (String × List Char) :=
  match input with
  | '"' :: '"' :: '"' :: rest => longText '"' [] (rest.length + 1) (skipFirstLineEnd rest)
  | '\'' :: '\'' :: '\'' :: rest => longText '\'' [] (rest.length + 1) (skipFirstLineEnd rest)
  | '"' :: rest => basicText [] (rest.length + 1) rest
  | '\'' :: rest => literalText [] rest
  | _ => none

/-! ## Keys -/

/-- The characters of bare keys. -/
def isBare (character : Char) : Bool :=
  character.isAlphanum || character == '_' || character == '-'

/-- A key without dots. -/
def simpleKey? (input : List Char) : Option (String × List Char) :=
  match input with
  | '"' :: rest => basicText [] (rest.length + 1) rest
  | '\'' :: rest => literalText [] rest
  | _ =>
    match input.takeWhile isBare with
    | [] => none
    | key => some (String.ofList key, input.dropWhile isBare)

/-- A key with the keys behind its dots, and what stands behind the blanks after it; `fuel`
bounds the number of dots. -/
def key? : Nat → List Char → Option (List String × List Char)
  | 0, _ => none
  | fuel + 1, input => do
    let (first, rest) ← simpleKey? (skipGap input)
    match skipGap rest with
    | '.' :: rest =>
      let (others, rest) ← key? fuel rest
      return (first :: others, rest)
    | rest => return ([first], rest)

/-! ## Numbers and times -/

/-- Digits that satisfy a test, with single underscores between them. -/
def areDigits (isDigit : Char → Bool) : List Char → Bool
  | [] => false
  | [last] => isDigit last
  | first :: '_' :: rest => isDigit first && areDigits isDigit rest
  | first :: rest => isDigit first && areDigits isDigit rest

/-- Whether a word is a whole number without sign: digits that do not start with a zero. -/
def isWhole (word : List Char) : Bool :=
  areDigits Char.isDigit word && (word.head? != some '0' || word.length == 1)

/-- A word without the sign in front of it. -/
def withoutSign : List Char → List Char
  | '+' :: word => word
  | '-' :: word => word
  | word => word

/-- Whether a word is a number in a base that its beginning names. -/
def isBased : List Char → Bool
  | '0' :: 'x' :: digits => areDigits (fun digit => (Json.hexDigit? digit).isSome) digits
  | '0' :: 'o' :: digits => areDigits (fun digit => '0' ≤ digit && digit ≤ '7') digits
  | '0' :: 'b' :: digits => areDigits (fun digit => digit == '0' || digit == '1') digits
  | _ => false

/-- Whether a word without sign is a number with a fraction, an exponent, or both. -/
def isFraction (word : List Char) : Bool :=
  let isExponentMark (character : Char) : Bool := character == 'e' || character == 'E'
  let size := word.takeWhile fun character => !isExponentMark character
  let isExponentFine := match word.dropWhile fun character => !isExponentMark character with
    | [] => true
    | _ :: exponent => areDigits Char.isDigit (withoutSign exponent)
  let whole := size.takeWhile fun character => character != '.'
  let isDecimalsFine := match size.dropWhile fun character => character != '.' with
    | [] => true
    | _ :: decimals => areDigits Char.isDigit decimals
  isWhole whole && isDecimalsFine && isExponentFine

/-- Whether an integer can be held, which needs no more than 128 bits. -/
def isHeld (negative : Bool) (magnitude : Nat) : Bool :=
  if negative then magnitude ≤ Nat.pow 2 127 else magnitude < Nat.pow 2 128

/-- Whether the value of a number in base ten can be held. -/
def isDecimalHeld (negative : Bool) (word : List Char) : Bool :=
  match Json.readNumber negative (word.filter fun character => character != '_') with
  | some (written, []) =>
    if written.integral then isHeld negative written.digits else written.isFinite
  | _ => false

/-- Whether the value of a number in a base that its beginning names can be held. -/
def isBasedHeld (word : List Char) : Bool :=
  let base := match word with
    | _ :: 'x' :: _ => 16
    | _ :: 'o' :: _ => 8
    | _ => 2
  let digits := (word.drop 2).filterMap Json.hexDigit?
  isHeld false (digits.foldl (fun value digit => value * base + digit) 0)

/-- Whether a word is a number. -/
def isNumber (word : List Char) : Bool :=
  let unsigned := withoutSign word
  unsigned == "inf".toList || unsigned == "nan".toList || (isBased word && isBasedHeld word) ||
    ((isWhole unsigned || isFraction unsigned) &&
      isDecimalHeld (word.head? == some '-') unsigned)

/-- The value of two digits. -/
def twoDigits? : List Char → Option (Nat × List Char)
  | first :: second :: rest =>
    if first.isDigit && second.isDigit then some (Json.decimal [first, second], rest) else none
  | _ => none

/-- The number of days of a month. -/
def daysIn (year month : Nat) : Nat :=
  if month == 2 then
    if year % 4 == 0 && (year % 100 != 0 || year % 400 == 0) then 29 else 28
  else if month == 4 || month == 6 || month == 9 || month == 11 then 30 else 31

/-- What stands behind a date. -/
def afterDate? (input : List Char) : Option (List Char) := do
  let (century, rest) ← twoDigits? input
  let (year, rest) ← twoDigits? rest
  let rest ← afterPrefix? ['-'] rest
  let (month, rest) ← twoDigits? rest
  let rest ← afterPrefix? ['-'] rest
  let (day, rest) ← twoDigits? rest
  if 1 ≤ month && month ≤ 12 && 1 ≤ day && day ≤ daysIn (century * 100 + year) month then some rest
  else none

/-- What stands behind hours and minutes. -/
def afterMinutes? (input : List Char) : Option (List Char) := do
  let (hour, rest) ← twoDigits? input
  let rest ← afterPrefix? [':'] rest
  let (minute, rest) ← twoDigits? rest
  if hour ≤ 23 && minute ≤ 59 then some rest else none

/-- What stands behind a time of the day; seconds and their fraction may be left out. -/
def afterTime? (input : List Char) : Option (List Char) := do
  let rest ← afterMinutes? input
  match rest with
  | ':' :: rest =>
    let (second, rest) ← twoDigits? rest
    if second > 60 then none
    match rest with
    | '.' :: rest =>
      if rest.head?.any Char.isDigit then some (rest.dropWhile Char.isDigit) else none
    | rest => some rest
  | rest => some rest

/-- Whether a text is the distance of a time zone, or nothing. -/
def isOffset : List Char → Bool
  | [] => true
  | sign :: rest =>
    (rest.isEmpty && (sign == 'Z' || sign == 'z')) ||
      ((sign == '+' || sign == '-') && afterMinutes? rest == some [])

/-- Whether a word is a date, a time of the day, or both. -/
def isMoment (word : List Char) : Bool :=
  match afterDate? word with
  | some [] => true
  | some (separator :: rest) =>
    (separator == 'T' || separator == 't' || separator == ' ') &&
      (afterTime? rest).any isOffset
  | none => afterTime? word == some []

/-- The characters that a number or a time can be made of. -/
def isWordCharacter (character : Char) : Bool :=
  character.isAlphanum || character == '_' || character == '-' || character == '+' ||
    character == '.' || character == ':'

/-- The word that a text begins with. A time can stand behind a date and a blank. -/
def scalarWord (input : List Char) : List Char :=
  let word := input.takeWhile isWordCharacter
  match afterDate? word, input.dropWhile isWordCharacter with
  | some [], ' ' :: digit :: rest =>
    if digit.isDigit then word ++ ' ' :: (digit :: rest).takeWhile isWordCharacter else word
  | _, _ => word

/-- The value of a word. -/
def ofWord? (word : List Char) : Option Toml :=
  if word == "true".toList then some (bool true)
  else if word == "false".toList then some (bool false)
  else if isNumber word then some number
  else if isMoment word then some moment
  else none

/-! ## Values -/

/-- The number of arrays and tables that may stand inside each other as values. -/
def deepestNesting : Nat := 80

mutual

/-- A value with room for so many arrays and tables inside each other; `fuel` bounds the
values inside and beside each other. -/
def value? (room : Nat) : Nat → List Char → Option (Toml × List Char)
  | 0, _ => none
  | fuel + 1, input =>
    match input, room with
    | '[' :: _, 0 => none
    | '[' :: rest, room + 1 =>
      (items? room fuel (skipSpace rest)).map fun (items, rest) => (.array items, rest)
    | '\x7b' :: _, 0 => none
    | '\x7b' :: rest, room + 1 =>
      (entries? room fuel [] (skipSpace rest)).map fun (members, rest) =>
        (.table .closed members, rest)
    | _, _ =>
      match readText? input with
      | some (content, rest) => some (.text content, rest)
      | none =>
        if input.head? == some '"' || input.head? == some '\'' then none
        else
          let word := scalarWord input
          (ofWord? word).map fun value => (value, input.drop word.length)

/-- The items of an array up to its closing bracket. -/
def items? (room : Nat) : Nat → List Char → Option (List Toml × List Char)
  | 0, _ => none
  | fuel + 1, input =>
    match input with
    | ']' :: rest => some ([], rest)
    | _ =>
      match value? room fuel input with
      | none => none
      | some (item, rest) =>
        match skipSpace rest with
        | ',' :: rest =>
          (items? room fuel (skipSpace rest)).map fun (items, rest) => (item :: items, rest)
        | ']' :: rest => some ([item], rest)
        | _ => none

/-- The entries of a table between braces up to the closing one, added to those before. -/
def entries? (room : Nat) : Nat → Members → List Char → Option (Members × List Char)
  | 0, _, _ => none
  | fuel + 1, members, input =>
    match input with
    | '\x7d' :: rest => some (members, rest)
    | _ =>
      match key? (input.length + 1) input with
      | some (keys, '=' :: rest) =>
        match value? room fuel (skipGap rest) with
        | none => none
        | some (value, rest) =>
          match insert value keys members with
          | none => none
          | some members =>
            match skipSpace rest with
            | ',' :: rest => entries? room fuel members (skipSpace rest)
            | '\x7d' :: rest => some (members, rest)
            | _ => none
      | _ => none

end

/-! ## Documents -/

/-- A document that is read: the tables so far, and the keys of the header they go on
under. -/
structure Document where
  /-- The tables so far. -/
  members : Members
  /-- The keys of the last header. -/
  place : List String

/-- Add the table of a header. -/
def Document.open? (document : Document) (repeated : Bool) (keys : List String) :
    Option Document := do
  let last ← keys.getLast?
  let change := if repeated then repeatHeader last else define last
  return ⟨← changeAt change keys.dropLast document.members, keys⟩

/-- Add a value under the last header. -/
def Document.add? (document : Document) (keys : List String) (value : Toml) : Option Document := do
  return { document with members := ← changeAt (insert value keys) document.place document.members }

/-- One header or one value of a document, and what stands behind it on its line. -/
def line? (document : Document) (input : List Char) : Option (Document × List Char) :=
  match input with
  | '[' :: '[' :: rest => do
    let (keys, rest) ← key? (rest.length + 1) rest
    return (← document.open? true keys, ← afterPrefix? [']', ']'] rest)
  | '[' :: rest => do
    let (keys, rest) ← key? (rest.length + 1) rest
    return (← document.open? false keys, ← afterPrefix? [']'] rest)
  | _ => do
    let (keys, rest) ← key? (input.length + 1) input
    let rest ← afterPrefix? ['='] rest
    let (value, rest) ← value? deepestNesting (2 * input.length + 2) (skipGap rest)
    return (← document.add? keys value, rest)

/-- The lines of a document; `fuel` bounds their number. -/
def lines? (document : Document) : Nat → List Char → Option Document
  | 0, _ => none
  | fuel + 1, input =>
    match skipSpace input with
    | [] => some document
    | input => do
      let (document, rest) ← line? document input
      lines? document fuel (← afterLine? rest)

/-- The root table of a document. A byte order mark in front of it is passed over. -/
def ofText? (input : String) : Option Members :=
  let characters := input.toList
  let characters := if characters.head?.any fun character => character.toNat == 0xfeff
    then characters.drop 1 else characters
  (lines? ⟨[], []⟩ (characters.length + 1) characters).map Document.members

end PacketSmith.Toml
