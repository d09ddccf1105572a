import PacketSmith.Schema
import PacketSmith.Target.Layout
import PacketSmith.Target.TypeName

/-!
# Generated code

The code that writes or reads the fields of a message is a value of its own: statements and
blocks over a buffer, over numbered temporaries and over expressions given from outside. The
code does not depend on the target language. A language only decides how each statement and
each block is spelled, line by line, and that is the last step.
-/

namespace PacketSmith

/-- What a temporary is for. -/
inductive Role where
  /-- An element of a collection that is written. -/
  | element
  /-- A key of a map that is written. -/
  | key
  /-- A value of a map that is written. -/
  | value
  /-- The number of items of a container that is read. -/
  | size
  /-- A value that is read. -/
  | result
  /-- The counter of the items of a container that is read. -/
  | index
  deriving DecidableEq, Repr

/-- The word that temporaries of a role begin with. -/
def Role.word : Role → String
  | element => "element"
  | key => "key"
  | value => "value"
  | size => "size"
  | result => "result"
  | index => "index"

/-- A temporary of generated code. Its number is its own throughout a block of code. -/
structure Temporary where
  /-- What the temporary is for. -/
  role : Role
  /-- The number of the temporary. -/
  number : Nat
  deriving DecidableEq, Repr

/-- The name of a temporary. -/
def Temporary.text (temporary : Temporary) : String :=
  temporary.role.word ++ toString temporary.number

/-- A value that is written: an expression given from outside, or a temporary. -/
inductive Operand where
  | expression (written : String)
  | temporary (numbered : Temporary)
  deriving DecidableEq, Repr

/-- The text of an operand. -/
def Operand.text : Operand → String
  | expression written => written
  | temporary numbered => numbered.text

/-- One statement. -/
inductive Statement where
  /-- Write a scalar. -/
  | writeScalar (base : Scalar) (value : Operand)
  /-- Write the number of items of a container. -/
  | writeSize (container : Operand)
  /-- Write a nested message. -/
  | writeMessage (reference : Reference) (value : Operand)
  /-- Read a scalar. -/
  | readScalar (base : Scalar) (result : Temporary)
  /-- Read the number of items of a container. -/
  | readSize (size : Temporary)
  /-- Read a nested message. -/
  | readMessage (reference : Reference) (result : Temporary)
  /-- Make an empty collection for the items that follow. -/
  | makeCollection (shape : Collection) (element : Kind) (result size : Temporary)
  /-- Make an empty map for the entries that follow. -/
  | makeMap (key value : Kind) (result size : Temporary)
  /-- Put an element into a collection. -/
  | insertElement (shape : Collection) (result item : Temporary)
  /-- Put an entry into a map. -/
  | insertEntry (result key value : Temporary)
  /-- Store a value that was read in a field of the message. -/
  | assignField (field : String) (value : Temporary)
  /-- Leave with the message as it is. -/
  | returnMessage
  deriving DecidableEq, Repr

/-- The first line of a block. -/
inductive Header where
  /-- Once for each element of a collection. -/
  | forEachElement (shape : Collection) (element : Temporary) (container : Operand)
  /-- Once for each entry of a map. -/
  | forEachEntry (key value : Temporary) (container : Operand)
  /-- As often as a size says. -/
  | forIndex (index size : Temporary)
  /-- Only when nothing is left to read. -/
  | whenExhausted
  deriving DecidableEq, Repr

/-- A sequence of statements and blocks. -/
inductive Code where
  /-- Nothing more. -/
  | done
  /-- A statement and what follows it. -/
  | line (statement : Statement) (rest : Code)
  /-- A block and what follows it. -/
  | block (header : Header) (body rest : Code)
  deriving DecidableEq, Repr

namespace Code

/-- One sequence after another. -/
def append : Code → Code → Code
  | done, second => second
  | line statement rest, second => line statement (append rest second)
  | block header body rest, second => block header body (append rest second)

instance : Append Code := ⟨append⟩

end Code

/-- The word by which the buffer's methods name a scalar. -/
def Scalar.method (language : Language) (scalar : Scalar) : String :=
  match language, scalar with
  | .go, .bool => "Bool"
  | .go, .byte => "Int8"
  | .go, .short => "Short"
  | .go, .int => "Int"
  | .go, .long => "Long"
  | .go, .float => "Float"
  | .go, .double => "Double"
  | .go, .char => "Char"
  | .go, .string => "String"
  | .python, scalar => scalar.name

/-- The text of a message number in generated code. -/
def ProtocolId.literal (id : ProtocolId) : String :=
  toString id.toInt

/-- How a statement is spelled. -/
def Statement.text (language : Language) : Statement → String
  | writeScalar base value =>
    match language with
    | .go => "buffer.Write" ++ base.method .go ++ "(" ++ value.text ++ ")"
    | .python => "buffer.write_" ++ base.method .python ++ "(" ++ value.text ++ ")"
  | writeSize container =>
    match language with
    | .go => "buffer.WriteInt(len(" ++ container.text ++ "))"
    | .python =>
      "buffer.write_int(0 if " ++ container.text ++ " is None else len(" ++ container.text ++ "))"
  | writeMessage reference value =>
    match language with
    | .go => "buffer.WritePacket(" ++ value.text ++ ", " ++ ProtocolId.literal reference.id ++ ")"
    | .python =>
      "buffer.write_packet(" ++ value.text ++ ", " ++ ProtocolId.literal reference.id ++ ")"
  | readScalar base result =>
    match language with
    | .go => result.text ++ " := buffer.Read" ++ base.method .go ++ "()"
    | .python => result.text ++ " = buffer.read_" ++ base.method .python ++ "()"
  | readSize size =>
    match language with
    | .go => size.text ++ " := buffer.ReadInt()"
    | .python => size.text ++ " = buffer.read_int()"
  | readMessage reference result =>
    match language with
    | .go =>
      result.text ++ ", _ := buffer.ReadPacket(" ++ ProtocolId.literal reference.id ++ ").(" ++
        (Kind.message reference).typeName .go ++ ")"
    | .python => result.text ++ " = buffer.read_packet(" ++ ProtocolId.literal reference.id ++ ")"
  | makeCollection shape element result size =>
    match language, shape with
    | .go, .array | .go, .list =>
      result.text ++ " := make([]" ++ element.typeName .go ++ ", 0, " ++ size.text ++ ")"
    | .go, .set =>
      result.text ++ " := make(map[" ++ element.typeName .go ++ "]bool, " ++ size.text ++ ")"
    | .python, .array | .python, .list => result.text ++ " = []"
    | .python, .set => result.text ++ " = set()"
  | makeMap key value result size =>
    match language with
    | .go =>
      result.text ++ " := make(map[" ++ key.typeName .go ++ "]" ++ value.typeName .go ++ ", " ++
        size.text ++ ")"
    | .python => result.text ++ " = \x7b\x7d"
  | insertElement shape result item =>
    match language, shape with
    | .go, .array | .go, .list =>
      result.text ++ " = append(" ++ result.text ++ ", " ++ item.text ++ ")"
    | .go, .set => result.text ++ "[" ++ item.text ++ "] = true"
    | .python, .array | .python, .list => result.text ++ ".append(" ++ item.text ++ ")"
    | .python, .set => result.text ++ ".add(" ++ item.text ++ ")"
  | insertEntry result key value => result.text ++ "[" ++ key.text ++ "] = " ++ value.text
  | assignField field value => "packet." ++ field ++ " = " ++ value.text
  | returnMessage => "return packet"

/-- How the first line of a block is spelled. -/
def Header.text (language : Language) : Header → String
  | forEachElement shape element container =>
    match language, shape with
    | .go, .array | .go, .list =>
      "for _, " ++ element.text ++ " := range " ++ container.text ++ " \x7b"
    | .go, .set => "for " ++ element.text ++ " := range " ++ container.text ++ " \x7b"
    | .python, _ => "for " ++ element.text ++ " in " ++ container.text ++ " or ():"
  | forEachEntry key value container =>
    match language with
    | .go =>
      "for " ++ key.text ++ ", " ++ value.text ++ " := range " ++ container.text ++ " \x7b"
    | .python =>
      "for " ++ key.text ++ ", " ++ value.text ++ " in (" ++ container.text ++
        " or \x7b\x7d).items():"
  | forIndex index size =>
    match language with
    | .go =>
      "for " ++ index.text ++ " := 0; " ++ index.text ++ " < " ++ size.text ++ "; " ++
        index.text ++ "++ \x7b"
    | .python => "for " ++ index.text ++ " in range(" ++ size.text ++ "):"
  | whenExhausted =>
    match language with
    | .go => "if !buffer.IsReadable() \x7b"
    | .python => "if not buffer.is_readable():"

/-- One line of a file: its depth of indentation and its text. -/
structure Line where
  /-- The number of levels of indentation. -/
  depth : Nat
  /-- What stands behind the indentation. -/
  text : String
  deriving DecidableEq, Repr

/-- The lines that close a block, where the language closes blocks. -/
def Language.closing (language : Language) (depth : Nat) : List Line :=
  match language with
  | .go => [⟨depth, "\x7d"⟩]
  | .python => []

/-- The lines of a sequence at a depth. -/
def Code.lines (language : Language) (depth : Nat) : Code → List Line
  | done => []
  | line statement rest => ⟨depth, statement.text language⟩ :: rest.lines language depth
  | block header body rest =>
    ⟨depth, header.text language⟩ :: body.lines language (depth + 1) ++
      language.closing depth ++ rest.lines language depth

/-- A text several times over. -/
def repeated (text : String) : Nat → String
  | 0 => ""
  | count + 1 => text ++ repeated text count

/-- A line with its indentation and its end. -/
def Line.render (language : Language) (line : Line) : String :=
  repeated language.layout.indent line.depth ++ line.text ++ "\n"

/-- Lines put together. -/
def renderLines (language : Language) : List Line → String
  | [] => ""
  | line :: lines => line.render language ++ renderLines language lines

end PacketSmith
