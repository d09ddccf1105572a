import Mathlib.Data.List.Basic
import PacketSmith.Text.Blank
import PacketSmith.Text.Search
import PacketSmith.Template.Bundled

/-!
# Typing generated Go

The part of Go that generated blocks are written in: its types, expressions, statements and
loops, how they are written, and the rules by which they are typed. What a method of the buffer
takes and gives is read off the line that declares it in the bundled runtime.

The rules are those of the language, less what generated blocks do not use. A value has one type;
it may be passed or stored where that type is wanted, or where anything is. Constants fit into
the integers that hold them. A short declaration needs a name that its own block has not declared;
loops declare their variables around the block of their body.
-/

namespace PacketSmith.Go

/-! ## Types -/

/-- A type. -/
inductive ValueType where
  /-- A type that has a name. -/
  | named (name : String)
  /-- A pointer. -/
  | pointer (target : ValueType)
  /-- A slice. -/
  | slice (element : ValueType)
  /-- A map. -/
  | map (key value : ValueType)
  deriving DecidableEq, Repr

namespace ValueType

/-- How a type is written. -/
def text : ValueType → String
  | named name => name
  | pointer target => "*" ++ target.text
  | slice element => "[]" ++ element.text
  | map key value => "map[" ++ key.text ++ "]" ++ value.text

/-- The type of sizes and counters. -/
def int : ValueType := named "int"

/-- The type of message numbers. -/
def int16 : ValueType := named "int16"

/-- The type of truth values. -/
def bool : ValueType := named "bool"

/-- The type of anything. -/
def any : ValueType := named "any"

/-- Whether values of a type can be compared, as the keys of a map must be. -/
def IsComparable : ValueType → Prop
  | named _ | pointer _ => True
  | slice _ | map _ _ => False

/-- Whether the keys of all maps in a type can be compared. -/
def IsFormed : ValueType → Prop
  | named _ => True
  | pointer target => target.IsFormed
  | slice element => element.IsFormed
  | map key value => key.IsComparable ∧ key.IsFormed ∧ value.IsFormed

/-- The type that a text writes, among those that are no maps. -/
def ofText? : List Char → Option ValueType
  | '[' :: ']' :: element => (ofText? element).map slice
  | '*' :: target => (ofText? target).map pointer
  | name =>
    if name.all Char.isAlphanum && !name.isEmpty then some (named (String.ofList name)) else none

end ValueType

/-! ## Methods of the buffer -/

/-- What a method takes and gives. -/
structure Signature where
  /-- The types of the parameters. -/
  parameters : List ValueType
  /-- The type of the result, if there is one. -/
  result : Option ValueType
  deriving DecidableEq, Repr

namespace Signature

/-- The type of a parameter that is declared with its name. -/
def parameter? (text : List Char) : Option ValueType := do
  let (_, written) ← Text.cutAt? [' '] (Text.trim text)
  ValueType.ofText? written

/-- The types of the parameters between the parentheses. -/
def parameters? (text : List Char) : Option (List ValueType) :=
  if text.isEmpty then some [] else (Text.splitWhere (· == ',') text).mapM parameter?

/-- The type of the result, which may be missing. -/
def result? (text : List Char) : Option (Option ValueType) :=
  if text.isEmpty then some none else (ValueType.ofText? (Text.trim text)).map some

/-- The method that a line declares, if it declares one, and its signature. -/
def ofLine? (line : String) : Option (String × Signature) := do
  let behind ← Text.afterPrefix? "func (b *ByteBuffer) ".toList line.toList
  let (name, behind) ← Text.cutAt? ['('] behind
  let (parameters, behind) ← Text.cutAt? [')'] behind
  let result ← Text.beforeSuffix? " \x7b".toList behind
  return (String.ofList name, ⟨← parameters? parameters, ← result? result⟩)

end Signature

/-- A line of the bundled buffer declares a method with a signature. -/
def Declares (method : String) (signature : Signature) : Prop :=
  ∃ line ∈ Template.Bundled.goBuffer, Signature.ofLine? line = some (method, signature)

/-! ## Expressions and statements -/

/-- A value that is at hand. -/
inductive Atom where
  /-- A variable, or a field of one. -/
  | name (written : String)
  /-- A constant. -/
  | constant (value : Int)
  /-- The true truth value. -/
  | truth
  /-- The number of items of a container. -/
  | length (container : String)
  deriving DecidableEq, Repr

/-- An expression. -/
inductive Expression where
  /-- A value that is at hand. -/
  | atom (value : Atom)
  /-- What a method of the buffer gives. -/
  | call (method : String) (arguments : List Atom)
  /-- A new slice or map, with its sizes. -/
  | make (made : ValueType) (sizes : List Atom)
  /-- A slice with an item behind the others. -/
  | append (slice : String) (item : Atom)
  deriving DecidableEq, Repr

/-- A statement. -/
inductive Statement where
  /-- A call of a method of the buffer. -/
  | perform (method : String) (arguments : List Atom)
  /-- A short declaration. -/
  | define (name : String) (value : Expression)
  /-- A short declaration of a value as one of another type, or as nothing. -/
  | defineAsserted (name : String) (value : Expression) (asserted : ValueType)
  /-- An assignment. -/
  | assign (target : String) (value : Expression)
  /-- An assignment to an entry of a map. -/
  | assignEntry (container : String) (key value : Atom)
  /-- The end of a function. -/
  | leave (value : Atom)
  deriving DecidableEq, Repr

/-- The first line of a block. -/
inductive Header where
  /-- Once for each item of a slice. -/
  | eachItem (item container : String)
  /-- Once for each key of a map. -/
  | eachKey (key container : String)
  /-- Once for each entry of a map. -/
  | eachEntry (key value container : String)
  /-- As often as a limit says. -/
  | count (index limit : String)
  /-- Only if a method of the buffer does not hold. -/
  | whenNot (method : String)
  deriving DecidableEq, Repr

/-- A sequence of statements and blocks. -/
inductive Program where
  | done
  | line (statement : Statement) (rest : Program)
  | block (header : Header) (body rest : Program)
  deriving DecidableEq, Repr

/-- How a value is written. -/
def Atom.text : Atom → String
  | name written => written
  | constant value => toString value
  | truth => "true"
  | length container => "len(" ++ container ++ ")"

/-- How arguments are written. -/
def argumentsText (arguments : List Atom) : String :=
  Text.joinWith ", " (arguments.map Atom.text)

/-- How an expression is written. -/
def Expression.text : Expression → String
  | atom value => value.text
  | call method arguments => "buffer." ++ method ++ "(" ++ argumentsText arguments ++ ")"
  | make made sizes => "make(" ++ made.text ++ ", " ++ argumentsText sizes ++ ")"
  | append slice item => "append(" ++ slice ++ ", " ++ item.text ++ ")"

/-- How a statement is written. -/
def Statement.text : Statement → String
  | perform method arguments => (Expression.call method arguments).text
  | define name value => name ++ " := " ++ value.text
  | defineAsserted name value asserted =>
    name ++ ", _ := " ++ value.text ++ ".(" ++ asserted.text ++ ")"
  | assign target value => target ++ " = " ++ value.text
  | assignEntry container key value => container ++ "[" ++ key.text ++ "] = " ++ value.text
  | leave value => "return " ++ value.text

/-- How the first line of a block is written. -/
def Header.text : Header → String
  | eachItem item container => "for _, " ++ item ++ " := range " ++ container ++ " \x7b"
  | eachKey key container => "for " ++ key ++ " := range " ++ container ++ " \x7b"
  | eachEntry key value container =>
    "for " ++ key ++ ", " ++ value ++ " := range " ++ container ++ " \x7b"
  | count index limit =>
    "for " ++ index ++ " := 0; " ++ index ++ " < " ++ limit ++ "; " ++ index ++ "++ \x7b"
  | whenNot method => "if !" ++ (Expression.call method []).text ++ " \x7b"

/-! ## Rules -/

/-- The variables in scope with their types, block by block, the innermost block first. -/
abbrev Environment := List (List (String × ValueType))

/-- The type of a variable: the one of the innermost declaration. -/
def Environment.typeOf? (environment : Environment) (name : String) : Option ValueType :=
  environment.flatten.lookup name

variable (environment : Environment)

/-- A value can be passed or stored where a type is wanted. -/
inductive Fits : Atom → ValueType → Prop where
  | same (name : String) (wanted : ValueType)
      (declared : environment.typeOf? name = some wanted) : Fits (.name name) wanted
  | boxed (name : String) (type : ValueType)
      (declared : environment.typeOf? name = some type) : Fits (.name name) .any
  | int (value : Int) (low : -2147483648 ≤ value) (high : value ≤ 2147483647) :
      Fits (.constant value) .int
  | int16 (value : Int) (low : -32768 ≤ value) (high : value ≤ 32767) :
      Fits (.constant value) .int16
  | truth : Fits .truth .bool
  | sliceLength (container : String) (element : ValueType)
      (declared : environment.typeOf? container = some (.slice element)) :
      Fits (.length container) .int
  | mapLength (container : String) (key value : ValueType)
      (declared : environment.typeOf? container = some (.map key value)) :
      Fits (.length container) .int

/-- The parameters of a call take its arguments, one for one. -/
abbrev Accepts (arguments : List Atom) (parameters : List ValueType) : Prop :=
  List.Forall₂ (Fits environment) arguments parameters

/-- An expression has a type. -/
inductive HasType : Expression → ValueType → Prop where
  | name (name : String) (type : ValueType)
      (declared : environment.typeOf? name = some type) : HasType (.atom (.name name)) type
  | call (method : String) (arguments : List Atom) (parameters : List ValueType)
      (result : ValueType) (declared : Declares method ⟨parameters, some result⟩)
      (accepted : Accepts environment arguments parameters) :
      HasType (.call method arguments) result
  | makeSlice (element : ValueType) (length capacity : Atom)
      (accepted : Accepts environment [length, capacity] [.int, .int]) :
      HasType (.make (.slice element) [length, capacity]) (.slice element)
  | makeMap (key value : ValueType) (size : Atom)
      (accepted : Accepts environment [size] [.int]) :
      HasType (.make (.map key value) [size]) (.map key value)
  | append (container : String) (item : Atom) (element : ValueType)
      (declared : environment.typeOf? container = some (.slice element))
      (accepted : Fits environment item element) :
      HasType (.append container item) (.slice element)

/-- The variables that a loop declares around its body. -/
inductive Binds : Header → List (String × ValueType) → Prop where
  | eachItem (item container : String) (element : ValueType)
      (declared : environment.typeOf? container = some (.slice element)) :
      Binds (.eachItem item container) [(item, element)]
  | eachKey (item container : String) (key value : ValueType)
      (declared : environment.typeOf? container = some (.map key value)) :
      Binds (.eachKey item container) [(item, key)]
  | eachEntry (first second container : String) (key value : ValueType) (apart : first ≠ second)
      (declared : environment.typeOf? container = some (.map key value)) :
      Binds (.eachEntry first second container) [(first, key), (second, value)]
  | count (index limit : String) (declared : environment.typeOf? limit = some .int) :
      Binds (.count index limit) [(index, .int)]
  | whenNot (method : String) (declared : Declares method ⟨[], some .bool⟩) :
      Binds (.whenNot method) []

/-- A name that a block has not declared. -/
def IsNew (name : String) (frame : List (String × ValueType)) : Prop :=
  ∀ entry ∈ frame, entry.1 ≠ name

/-- A statement is typed, and these are the variables in scope behind it. -/
inductive Statement.Checks : Environment → Statement → Environment → Prop where
  | perform (environment : Environment) (method : String) (arguments : List Atom)
      (parameters : List ValueType) (result : Option ValueType)
      (declared : Declares method ⟨parameters, result⟩)
      (accepted : Accepts environment arguments parameters) :
      Checks environment (.perform method arguments) environment
  | define (frame : List (String × ValueType)) (outer : Environment) (name : String)
      (value : Expression) (type : ValueType) (isNew : IsNew name frame)
      (typed : HasType (frame :: outer) value type) :
      Checks (frame :: outer) (.define name value) (((name, type) :: frame) :: outer)
  | defineAsserted (frame : List (String × ValueType)) (outer : Environment) (name : String)
      (value : Expression) (asserted : ValueType) (isNew : IsNew name frame)
      (typed : HasType (frame :: outer) value .any) :
      Checks (frame :: outer) (.defineAsserted name value asserted)
        (((name, asserted) :: frame) :: outer)
  | assign (environment : Environment) (target : String) (value : Expression) (type : ValueType)
      (declared : environment.typeOf? target = some type)
      (typed : HasType environment value type) :
      Checks environment (.assign target value) environment
  | assignEntry (environment : Environment) (container : String) (key value : Atom)
      (keyType valueType : ValueType)
      (declared : environment.typeOf? container = some (.map keyType valueType))
      (keyed : Fits environment key keyType) (stored : Fits environment value valueType) :
      Checks environment (.assignEntry container key value) environment
  | leave (environment : Environment) (value : Atom) (boxed : Fits environment value .any) :
      Checks environment (.leave value) environment

/-- A program is typed, and these are the variables in scope behind it. What the body of a block
declares ends with the block. -/
inductive Program.Checks : Environment → Program → Environment → Prop where
  | done (environment : Environment) : Checks environment .done environment
  | line (before between after : Environment) (statement : Statement) (rest : Program)
      (first : statement.Checks before between) (others : Checks between rest after) :
      Checks before (.line statement rest) after
  | block (before after : Environment) (header : Header) (frame : List (String × ValueType))
      (inside : Environment) (body rest : Program) (bound : Binds before header frame)
      (inner : Checks ([] :: frame :: before) body inside)
      (others : Checks before rest after) :
      Checks before (.block header body rest) after

/-- One program after another. -/
def Program.append : Program → Program → Program
  | done, second => second
  | line statement rest, second => line statement (append rest second)
  | block header body rest, second => block header body (append rest second)

instance : Append Program := ⟨Program.append⟩

/-- A program is typed behind another one with the variables that that one leaves in scope. -/
theorem Program.Checks.append {before between after : Environment} {front back : Program}
    (first : front.Checks before between) (second : back.Checks between after) :
    (front ++ back).Checks before after := by
  induction first with
  | done => exact second
  | line before between _ statement rest first _ inductionHypothesis =>
    exact .line _ _ _ _ _ first (inductionHypothesis second)
  | block before _ header frame inside body rest bound inner _ _ inductionHypothesis =>
    exact .block _ _ _ _ _ _ _ bound inner (inductionHypothesis second)

end PacketSmith.Go
