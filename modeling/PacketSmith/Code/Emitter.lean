import PacketSmith.Code.Fields
import PacketSmith.Failure

/-!
# Emitters

An emitter collects the lines of one generated block and counts its temporaries. Lines are added
one by one, as statements and blocks, or as the code of a whole value.
-/

namespace PacketSmith

/-- The lines of a block so far. -/
structure Emitter where
  /-- The language of the block. -/
  language : Language
  /-- The lines so far, in order. -/
  lines : List Line
  /-- The number of the next temporary. -/
  next : Nat
  deriving DecidableEq, Repr

namespace Emitter

/-- An emitter without lines. -/
def new (language : Language) : Emitter :=
  ⟨language, [], 0⟩

/-- The text of the lines so far. -/
def code (emitter : Emitter) : String :=
  renderLines emitter.language emitter.lines

/-- Add one line. -/
def line (emitter : Emitter) (depth : Nat) (text : String) : Emitter :=
  { emitter with lines := emitter.lines ++ [⟨depth, text⟩] }

/-- Add a statement. -/
def statement (emitter : Emitter) (depth : Nat) (added : Statement) : Emitter :=
  emitter.line depth (added.text emitter.language)

/-- Add the first line of a block. -/
def header (emitter : Emitter) (depth : Nat) (added : Header) : Emitter :=
  emitter.line depth (added.text emitter.language)

/-- Add the lines that close a block. -/
def closing (emitter : Emitter) (depth : Nat) : Emitter :=
  { emitter with lines := emitter.lines ++ emitter.language.closing depth }

/-- Add the lines of a code. -/
def add (emitter : Emitter) (depth : Nat) (code : Code) : Emitter :=
  { emitter with lines := emitter.lines ++ code.lines emitter.language depth }

/-- A new temporary name that begins with a word. -/
def temporary (emitter : Emitter) (word : String) : Emitter × String :=
  ({ emitter with next := emitter.next + 1 }, word ++ toString emitter.next)

/-- Take the number of a temporary for a role. -/
def take (emitter : Emitter) (role : Role) : Emitter × Temporary :=
  ((emitter.temporary role.word).1, ⟨role, emitter.next⟩)

/-- Add the code that writes a value of a kind. -/
def write (emitter : Emitter) (value : String) (depth : Nat) (kind : Kind) : Emitter :=
  { emitter.add depth (kind.writeCode (.expression value) emitter.next) with
    next := emitter.next + kind.writeTemporaries }

/-- Add the code that reads a value of a kind, and give the expression of the value. -/
def read (emitter : Emitter) (depth : Nat) (kind : Kind) : Emitter × String :=
  ({ emitter.add depth (kind.readCode emitter.next) with
      next := emitter.next + kind.readTemporaries },
    (kind.readResult emitter.next).text)

/-- Add the code in front of an appended field. -/
def guard (emitter : Emitter) (depth : Nat) : Emitter :=
  emitter.add depth exhaustionGuard

/-- Refuse a kind that does not have the expected tag. -/
def expect (emitter : Emitter) (expected : Tag) (kind : Kind) : Except Failure Unit :=
  if kind.tag = expected then .ok ()
  else .error (.kindMismatch emitter.language expected kind.tag)

end Emitter
end PacketSmith
