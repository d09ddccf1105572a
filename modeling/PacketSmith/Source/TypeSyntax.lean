/-!
# Types of fields in source files

What a field's declared type looks like, as far as it can become a kind: named types with
their namespaces and type arguments, arrays and slices, and parentheses. Every other type is
kept as the text that messages show.
-/

namespace PacketSmith.Source

/-- A type as it is declared. -/
inductive TypeSyntax where
  /-- A named type: the namespaces in front, the name, and the type arguments. -/
  | path (spaces : List String) (name : String) (arguments : List TypeSyntax)
  /-- An array of fixed length. -/
  | array (element : TypeSyntax)
  /-- A slice, with its text. -/
  | slice (element : TypeSyntax) (shown : String)
  /-- A type between parentheses. -/
  | parens (inner : TypeSyntax)
  /-- Any other type, with its text. -/
  | other (shown : String)
  deriving Repr

end PacketSmith.Source
