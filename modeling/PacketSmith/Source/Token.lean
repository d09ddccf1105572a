import PacketSmith.Text.Search

/-!
# Tokens of source files

Messages can be declared in source files as structs. The text of such a file is a sequence
of tokens, in which brackets come in pairs; with every pair as a group the sequence becomes
a forest of token trees. A mark knows whether the next mark follows it directly, because
several marks without space between them can be one symbol.
-/

namespace PacketSmith.Source

/-- What a literal means, as far as anybody looks at it. -/
inductive Meaning where
  /-- A text. -/
  | text (value : String)
  /-- A whole number. -/
  | integer (value : Nat)
  /-- Anything else. -/
  | other
  deriving DecidableEq, Repr

/-- A token that is not a bracket. -/
inductive Token where
  /-- A word: an identifier or a keyword. Raw identifiers keep their prefix. -/
  | word (text : String)
  /-- One mark, and whether it is joined to the mark behind it. -/
  | mark (character : Char) (joined : Bool)
  /-- The name of a lifetime. -/
  | lifetime (name : String)
  /-- A literal: how it is written and what it means. -/
  | literal (written : String) (meaning : Meaning)
  deriving DecidableEq, Repr

/-- The kinds of brackets. -/
inductive Bracket where
  | round
  | square
  | curly
  deriving DecidableEq, Repr

/-- A token or a group of tokens between brackets. -/
inductive Tree where
  | leaf (token : Token)
  | group (bracket : Bracket) (content : List Tree)
  deriving Repr

/-- A token or one half of a pair of brackets. -/
inductive Piece where
  | token (token : Token)
  | opening (bracket : Bracket)
  | closing (bracket : Bracket)
  deriving DecidableEq, Repr

namespace Token

/-- How a token is printed. -/
def text : Token → String
  | word written => written
  | mark character _ => character.toString
  | lifetime name => "'" ++ name
  | literal written _ => written

/-- Whether the next token is printed without a space in between. -/
def isJoined : Token → Bool
  | mark _ joined => joined
  | _ => false

end Token

namespace Tree

mutual

/-- How a tree is printed: the content of round and square brackets without blanks at the
ends, and the content of curly ones with a blank on each side. -/
def text : Tree → String
  | leaf token => token.text
  | group .round content => "(" ++ textAll false content ++ ")"
  | group .square content => "[" ++ textAll false content ++ "]"
  | group .curly [] => "\x7b \x7d"
  | group .curly (tree :: trees) => "\x7b" ++ textAll true (tree :: trees) ++ " \x7d"

/-- How trees are printed one behind the other, with a space in front of the first one or
not, and with a space between each two that are not joined. -/
def textAll (spaced : Bool) : List Tree → String
  | [] => ""
  | .leaf token :: trees =>
    (if spaced then " " else "") ++ token.text ++ textAll (!token.isJoined) trees
  | .group bracket content :: trees =>
    (if spaced then " " else "") ++ (Tree.group bracket content).text ++ textAll true trees

end

/-- Groups that are still open, the innermost first: each bracket with the trees in front of
the group, last first. -/
abbrev OpenGroups := List (Bracket × List Tree)

/-- Pair the brackets of a sequence. The trees of the innermost open group are given last
first. -/
def pair (opened : OpenGroups) (reversed : List Tree) : List Piece → Option (List Tree)
  | [] => if opened.isEmpty then some reversed.reverse else none
  | .token token :: pieces => pair opened (.leaf token :: reversed) pieces
  | .opening bracket :: pieces => pair ((bracket, reversed) :: opened) [] pieces
  | .closing bracket :: pieces =>
    match opened with
    | (expected, outer) :: opened =>
      if expected = bracket then
        pair opened (.group bracket reversed.reverse :: outer) pieces
      else none
    | [] => none

/-- The forest of a sequence, if its brackets come in pairs. -/
def ofPieces? (pieces : List Piece) : Option (List Tree) :=
  pair [] [] pieces

mutual

/-- The number of tokens and brackets of a tree. -/
def size : Tree → Nat
  | leaf _ => 1
  | group _ content => 2 + sizeAll content

/-- The number of tokens and brackets of trees. -/
def sizeAll : List Tree → Nat
  | [] => 0
  | tree :: trees => tree.size + sizeAll trees

end

end Tree
end PacketSmith.Source
