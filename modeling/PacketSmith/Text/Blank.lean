/-!
# White space and trimming

Blank characters are those with the Unicode property `White_Space`, twenty-five in all;
every place of this library that trims a text uses this set and no other.
-/

namespace PacketSmith.Text

/-- The characters of the property `White_Space`. -/
def isBlank (character : Char) : Bool :=
  let code := character.toNat
  (Nat.ble 0x09 code && Nat.ble code 0x0d) || code == 0x20 || code == 0x85 || code == 0xa0 ||
    code == 0x1680 || (Nat.ble 0x2000 code && Nat.ble code 0x200a) || code == 0x2028 ||
    code == 0x2029 || code == 0x202f || code == 0x205f || code == 0x3000

/-- A text without the blanks in front of it. -/
def trimLeft (text : List Char) : List Char :=
  text.dropWhile isBlank

/-- A text without the blanks behind it. -/
def trimRight (text : List Char) : List Char :=
  (text.reverse.dropWhile isBlank).reverse

/-- A text without the blanks on either side. -/
def trim (text : List Char) : List Char :=
  trimRight (trimLeft text)

/-- Whether a text has nothing but blanks. -/
def isAllBlank (text : List Char) : Bool :=
  text.all isBlank

/-- `trim` on strings. -/
def trimmed (text : String) : String :=
  String.ofList (trim text.toList)

/-- `trimRight` on strings. -/
def trimmedRight (text : String) : String :=
  String.ofList (trimRight text.toList)

/-- Lowercase for the letters `A` to `Z`; every other character stays as it is. -/
def lowercaseAscii (text : String) : String :=
  text.map Char.toLower

end PacketSmith.Text
