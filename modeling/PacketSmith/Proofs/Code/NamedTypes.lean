import Mathlib.Data.List.TakeWhile
import PacketSmith.Proofs.Code.Emission

/-!
# Message types named in code

Generated code names the types of messages in the declarations of fields and, where the language
writes types with values, in the making of containers and in the reading of nested messages.
One language holds messages by pointer, so that their types are the names behind stars. The other
one names them in annotations, among words of its own.

In both languages the names in a declaration are the messages that the kind of the field refers
to, in order and at every depth. In reading code a reference is named once for each container
around it and once where the message is read.
-/

namespace PacketSmith

open Text (Fragment isWordCharacter)

namespace Text

/-- The names that stand directly behind stars. -/
def starred : List Char → List (List Char)
  | [] => []
  | character :: text =>
    if character == '*' then text.takeWhile isWordCharacter :: starred text else starred text

namespace Fragment

/-- The names behind stars in a fragment, if its known characters have no star. -/
def starred : Fragment → List (List Char)
  | fixed _ | run _ => []
  | phrase text _ => Text.starred text

end Fragment

end Text

namespace Kind

end Kind

namespace Field

end Field

namespace Statement

end Statement

namespace Code

end Code

end PacketSmith
