import PacketSmith.Text.Printable

/-!
# Quoted texts

Messages quote texts that come from outside between double quotes. The quotation mark and
the backslash are escaped, line feed, tab, carriage return and NUL have short escapes, and
characters that would not be seen on their own are written by their code point. A single
quote needs no escape.
-/

namespace PacketSmith.Text

/-- The digits of a number in base sixteen, with small letters and no leading zeros. -/
def hexadecimal (number : Nat) : String :=
  String.ofList (Nat.toDigits 16 number)

/-- One character inside a quoted text. -/
def quotedCharacter (character : Char) : String :=
  if character == '"' then "\\\""
  else if character == '\\' then "\\\\"
  else if character == '\n' then "\\n"
  else if character == '\t' then "\\t"
  else if character == '\r' then "\\r"
  else if character.toNat == 0 then "\\0"
  else if isPrintable character && !isJoining character then character.toString
  else "\\u\x7b" ++ hexadecimal character.toNat ++ "\x7d"

/-- A text between double quotes, every character escaped as far as it needs it. -/
def quoted (text : String) : String :=
  "\"" ++ text.toList.foldl (fun shown character => shown ++ quotedCharacter character) "" ++ "\""

end PacketSmith.Text
