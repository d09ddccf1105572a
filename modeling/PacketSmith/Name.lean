import PacketSmith.Text.Search
import PacketSmith.Text.Uppercase

/-!
# Names

Messages and fields are named by identifiers, and the types generated for messages carry
the name in Pascal case. Both rules are stated here on plain texts.
-/

namespace PacketSmith.Name

/-- Whether a character may begin an identifier: an ASCII letter or the underscore. -/
def isInitial (character : Char) : Bool :=
  character.isAlpha || character == '_'

/-- Whether a character may stand inside an identifier. -/
def isSubsequent (character : Char) : Bool :=
  character.isAlphanum || character == '_'

/-- Identifier test on the characters of a text. -/
def isIdentifierText : List Char → Bool
  | [] => false
  | first :: others => isInitial first && others.all isSubsequent

/-- Whether a name is an identifier in every target language: an ASCII letter or underscore,
then ASCII letters, digits and underscores. -/
def isIdentifier (name : String) : Bool :=
  isIdentifierText name.toList

/-- A word with its first character in uppercase; the others stay as they are. -/
def capitalized : List Char → List Char
  | [] => []
  | first :: others => Text.uppercase first ++ others

/-- Words are separated by hyphens and underscores. -/
def separatesWords (character : Char) : Bool :=
  character == '-' || character == '_'

/-- Pascal case on the characters of a text. -/
def pascalText (name : List Char) : List Char :=
  (Text.splitWhere separatesWords name).flatMap capitalized

/-- The Pascal-case form of a name: its words capitalized and put together, separators
dropped. A name of separators alone has the empty form. -/
def pascal (name : String) : String :=
  String.ofList (pascalText name.toList)

end PacketSmith.Name
