/-!
# JSON values

The value of a JSON text, kept as far as any reader of this library looks at it: numbers
keep how they were written, members keep their order and their repetitions, and a text whose
escapes name half of a surrogate pair is kept as a text without a value, because such a text
is an error only where somebody asks for it.
-/

namespace PacketSmith

/-- A number as it is written: a sign, the digits as one number, and the power of ten that
the fraction and the exponent make together. -/
structure JsonNumber where
  /-- Whether a minus sign stands in front. -/
  negative : Bool
  /-- Whether neither a fraction nor an exponent is written. -/
  integral : Bool
  /-- All digits, without the point. -/
  digits : Nat
  /-- The power of ten by which the digits are multiplied. -/
  exponent : Int
  deriving DecidableEq, Repr

/-- The value of a JSON text. -/
inductive Json where
  /-- Nothing. -/
  | null
  /-- A truth value. -/
  | bool (value : Bool)
  /-- A number. -/
  | number (number : JsonNumber)
  /-- A text, without value when it holds half of a surrogate pair. -/
  | text (value : Option String)
  /-- An array. -/
  | array (items : List Json)
  /-- An object: its members in the order they are written. -/
  | object (members : List (Option String × Json))
  deriving Repr

namespace JsonNumber

/-- An integer as a number. -/
def ofInt (value : Int) : JsonNumber :=
  ⟨decide (value < 0), true, value.natAbs, 0⟩

/-- The integer that a number writes. A fraction, an exponent or a negative zero make a
number that is not an integer. -/
def toInt? (number : JsonNumber) : Option Int :=
  if !number.integral || (number.negative && number.digits == 0) then none
  else some (if number.negative then -(Int.ofNat number.digits) else Int.ofNat number.digits)

/-- The first magnitude that rounds to infinity among binary numbers of 64 bits. -/
def overflow : Nat :=
  Nat.pow 2 1024 - Nat.pow 2 970

/-- Whether a number is finite among binary numbers of 64 bits. Numbers far from the limit
are decided by their count of digits. -/
def isFinite (number : JsonNumber) : Bool :=
  let size : Int := Int.ofNat (Nat.toDigits 10 number.digits).length + number.exponent
  if number.digits == 0 || size < 300 then true
  else if size > 400 then false
  else if number.exponent < 0 then
    decide (number.digits < overflow * Nat.pow 10 number.exponent.natAbs)
  else decide (number.digits * Nat.pow 10 number.exponent.natAbs < overflow)

end JsonNumber

namespace Json

/-- A text as a value. -/
def ofString (value : String) : Json :=
  text (some value)

/-- An integer as a value. -/
def ofInt (value : Int) : Json :=
  number (JsonNumber.ofInt value)

/-- An array of texts. -/
def ofStrings (values : List String) : Json :=
  array (values.map ofString)

/-- An object with given members. -/
def ofMembers (members : List (String × Json)) : Json :=
  object (members.map fun (name, value) => (some name, value))

/-- The text of a value, if it is one. -/
def text? : Json → Option String
  | text content => content
  | _ => none

/-- The truth value of a value, if it is one. -/
def bool? : Json → Option Bool
  | bool truth => some truth
  | _ => none

/-- The integer of a value, if it is one. -/
def int? : Json → Option Int
  | number written => written.toInt?
  | _ => none

/-- The items of a value, if it is an array. -/
def items? : Json → Option (List Json)
  | array items => some items
  | _ => none

/-- The texts of a value, if it is an array of texts. -/
def texts? (value : Json) : Option (List String) := do
  (← value.items?).mapM text?

/-- The names and values of a value, if it is an object all of whose names are texts. -/
def members? : Json → Option (List (String × Json))
  | object members => members.mapM fun (name, value) => name.map fun name => (name, value)
  | _ => none

mutual

/-- Whether a value can be taken as a whole: every text in it is one, every number is
finite, and at most `room` containers stand inside each other. -/
def isSound (room : Nat) : Json → Bool
  | null => true
  | bool _ => true
  | number written => written.isFinite
  | text content => content.isSome
  | array items => match room with
    | 0 => false
    | room + 1 => areSound room items
  | object members => match room with
    | 0 => false
    | room + 1 => membersAreSound room members

/-- Whether the items of an array can be taken as a whole. -/
def areSound (room : Nat) : List Json → Bool
  | [] => true
  | item :: items => isSound room item && areSound room items

/-- Whether the members of an object can be taken as a whole. -/
def membersAreSound (room : Nat) : List (Option String × Json) → Bool
  | [] => true
  | (name, value) :: members => name.isSome && isSound room value && membersAreSound room members

end

end Json
end PacketSmith
