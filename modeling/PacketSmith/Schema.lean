import PacketSmith.Kind

/-!
# Message schemas

A message has a number, a name, documentation and fields. The order of the fields is the
order on the wire, and nothing in this library changes it.
-/

namespace PacketSmith

/-- A field of a message. -/
structure Field where
  /-- The name of the field. -/
  name : String
  /-- What the field holds. -/
  kind : Kind
  /-- Whether the field was added after the message's first layout. -/
  appended : Bool
  /-- Documentation lines. -/
  docs : List String
  deriving DecidableEq, Repr

/-- A message. -/
structure Message where
  /-- The number of the message, the same in every language. -/
  id : ProtocolId
  /-- The declared name. -/
  name : String
  /-- Documentation lines. -/
  docs : List String
  /-- The fields in wire order. -/
  fields : List Field
  deriving DecidableEq, Repr

end PacketSmith
