import PacketSmith.Text.Blank

/-!
# Target languages

Code is generated for two languages. Each owns a bit of its own, so that a selection of
languages fits into one number; the bits are part of the protocol family and are never
renumbered.
-/

namespace PacketSmith

/-- A language that code can be generated for. -/
inductive Language where
  /-- Go. -/
  | go
  /-- Python. -/
  | python
  deriving DecidableEq, Repr

namespace Language

/-- All languages, in the order of their bits. -/
def all : List Language :=
  [go, python]

/-- The bit that stands for a language in a selection. -/
def bit : Language → Nat
  | go => 4
  | python => 8192

/-- The name of a language in manifests and on the command line. -/
def name : Language → String
  | go => "go"
  | python => "python"

/-- The name of a language in messages. -/
def title : Language → String
  | go => "Go"
  | python => "Python"

/-- The language that owns a bit. -/
def ofBit? (bit : Nat) : Option Language :=
  all.find? fun language => language.bit == bit

/-- The language with exactly this name. -/
def ofExactName? (name : String) : Option Language :=
  all.find? fun language => language.name == name

/-- The names a language answers to, in lowercase. -/
def aliases : Language → List String
  | go => ["go", "golang"]
  | python => ["python", "py"]

/-- The language meant by a text: blanks around it and the case of ASCII letters do not
matter. -/
def ofText? (text : String) : Option Language :=
  let asked := Text.lowercaseAscii (Text.trimmed text)
  all.find? fun language => language.aliases.contains asked

end Language
end PacketSmith
