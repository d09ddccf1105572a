import PacketSmith.Source.Grammar.Items
import PacketSmith.Source.Lexer

/-!
# Source files

The grammar is closed here: each of its readers is the one of its module over a grammar that
reads things one level less deep. Nothing stands deeper than the number of its tokens, so a
file is read with that bound.
-/

namespace PacketSmith.Source

/-- The grammar of things that stand at most so deep inside each other. -/
def grammar : Nat → Grammar
  | 0 => .stuck
  | depth + 1 => {
      type := fun sums trees => (grammar depth).readType sums trees
      bound := fun trees => (grammar depth).readBound trees
      arguments := fun trees => (grammar depth).readArguments trees
      expression := fun structs trees => (grammar depth).readExpression structs trees
      operand := fun structs trees => (grammar depth).readOperand structs trees
      statements := fun trees => (grammar depth).readStatements trees
      arms := fun trees => (grammar depth).readArms trees
      pattern := fun trees => (grammar depth).readPattern trees
      item := fun trees => (grammar depth).readItem trees }

/-- The items of a file. -/
def items? (text : String) : Option (List Item) := do
  let trees ← trees? text.toList
  match (grammar (8 * Tree.sizeAll trees + 8)).items trees with
  | some (items, []) => return items
  | _ => none

end PacketSmith.Source
