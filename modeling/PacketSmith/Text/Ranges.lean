/-!
# Sets of characters given by ranges of code points

The properties of the Unicode standard that decide about a name or about a quoted text are
lists of closed ranges. This module holds membership in such a list and nothing else; the
lists themselves stand in the modules that use them.
-/

namespace PacketSmith.Text

/-- Closed ranges of code points, each as its first and its last member. -/
abbrev Ranges := List (Nat × Nat)

/-- A code point belongs to the set when one of the ranges holds it. -/
def Ranges.holds (ranges : Ranges) (code : Nat) : Bool :=
  ranges.any fun range => Nat.ble range.1 code && Nat.ble code range.2

end PacketSmith.Text
