import PacketSmith.Language

/-!
# Selections of languages

A selection is a subset of the languages. It is given as a number, the sum of the bits of
its members, or as a list of languages; in every output its members stand in bit order.
-/

namespace PacketSmith

/-- A subset of the target languages. -/
structure Selection where
  /-- Whether Go is a member. -/
  go : Bool
  /-- Whether Python is a member. -/
  python : Bool
  deriving DecidableEq, Repr

namespace Selection

/-- The selection without members. -/
def empty : Selection :=
  ⟨false, false⟩

/-- Whether a language is a member. -/
def contains (selection : Selection) : Language → Bool
  | .go => selection.go
  | .python => selection.python

/-- The selection with one more member. -/
def insert (selection : Selection) : Language → Selection
  | .go => { selection with go := true }
  | .python => { selection with python := true }

/-- The selection whose members are the languages of a list. -/
def ofList (languages : List Language) : Selection :=
  languages.foldl insert empty

/-- The selection of every language. -/
def all : Selection :=
  ofList Language.all

/-- The members, in bit order. -/
def toList (selection : Selection) : List Language :=
  Language.all.filter selection.contains

/-- The number of members. -/
def size (selection : Selection) : Nat :=
  selection.toList.length

/-- Whether there is no member. -/
def isEmpty (selection : Selection) : Bool :=
  selection.toList.isEmpty

/-- The sum of the members' bits. -/
def bits (selection : Selection) : Nat :=
  selection.toList.foldr (fun language bits => language.bit ||| bits) 0

/-- The bits of a number that no language owns. -/
def unknownBits (bits : Nat) : Nat :=
  bits - (bits &&& all.bits)

/-- The selection a number stands for, if every one of its bits is owned by a language. -/
def ofBits? (bits : Nat) : Option Selection :=
  if unknownBits bits == 0 then
    some (ofList (Language.all.filter fun language => bits &&& language.bit != 0))
  else none

end Selection
end PacketSmith
