import PacketSmith.Code

/-!
# Code that writes and reads fields

The code for a kind is a function of the kind, of the number of the first temporary, and for
writing of the value. A container numbers its own temporaries before those of its parts, so
that the temporaries of nested containers differ from those around them.
-/

namespace PacketSmith

namespace Kind

/-- The number of temporaries that writing a kind takes. -/
def writeTemporaries : Kind → Nat
  | scalar _ => 0
  | collection _ element => 1 + element.writeTemporaries
  | map key value => 2 + key.writeTemporaries + value.writeTemporaries
  | message _ => 0

/-- The code that writes a value of a kind. -/
def writeCode (value : Operand) (next : Nat) : Kind → Code
  | scalar base => .line (.writeScalar base value) .done
  | collection shape element =>
    let item : Temporary := ⟨.element, next⟩
    .line (.writeSize value) (.block (.forEachElement shape item value)
      (element.writeCode (.temporary item) (next + 1)) .done)
  | map key entry =>
    let keyItem : Temporary := ⟨.key, next⟩
    let entryItem : Temporary := ⟨.value, next + 1⟩
    .line (.writeSize value) (.block (.forEachEntry keyItem entryItem value)
      (key.writeCode (.temporary keyItem) (next + 2) ++
        entry.writeCode (.temporary entryItem) (next + 2 + key.writeTemporaries)) .done)
  | message reference => .line (.writeMessage reference value) .done

/-- The number of temporaries that reading a kind takes. -/
def readTemporaries : Kind → Nat
  | scalar _ => 1
  | collection _ element => 3 + element.readTemporaries
  | map key value => 3 + key.readTemporaries + value.readTemporaries
  | message _ => 1

/-- The temporary that holds the value once the code that reads it has run. -/
def readResult (next : Nat) : Kind → Temporary
  | scalar _ | message _ => ⟨.result, next⟩
  | collection _ _ | map _ _ => ⟨.result, next + 1⟩

/-- The code that reads a value of a kind. -/
def readCode (next : Nat) : Kind → Code
  | scalar base => .line (.readScalar base ⟨.result, next⟩) .done
  | collection shape element =>
    let size : Temporary := ⟨.size, next⟩
    let result : Temporary := ⟨.result, next + 1⟩
    .line (.readSize size) (.line (.makeCollection shape element result size)
      (.block (.forIndex ⟨.index, next + 2⟩ size)
        (element.readCode (next + 3) ++
          .line (.insertElement shape result (element.readResult (next + 3))) .done)
        .done))
  | map key entry =>
    let size : Temporary := ⟨.size, next⟩
    let result : Temporary := ⟨.result, next + 1⟩
    let entryNext := next + 3 + key.readTemporaries
    .line (.readSize size) (.line (.makeMap key entry result size)
      (.block (.forIndex ⟨.index, next + 2⟩ size)
        (key.readCode (next + 3) ++ (entry.readCode entryNext ++
          .line (.insertEntry result (key.readResult (next + 3)) (entry.readResult entryNext))
            .done))
        .done))
  | message reference => .line (.readMessage reference ⟨.result, next⟩) .done

end Kind

/-- The code in front of an appended field: everything from there on keeps its default when
the buffer ends. -/
def exhaustionGuard : Code :=
  .block .whenExhausted (.line .returnMessage .done) .done

namespace Field

/-- The expression of a field of the message that is written. -/
def valueText (field : Field) : String :=
  "message." ++ field.name

/-- The code that writes a field. -/
def writeCode (next : Nat) (field : Field) : Code :=
  field.kind.writeCode (.expression field.valueText) next

/-- The code that reads a field, with the guard in front if the field is appended. -/
def readCode (next : Nat) (field : Field) : Code :=
  (if field.appended then exhaustionGuard else .done) ++
    (field.kind.readCode next ++
      .line (.assignField field.name (field.kind.readResult next)) .done)

end Field

/-- The code that writes fields in order. -/
def writeFields (next : Nat) : List Field → Code
  | [] => .done
  | field :: fields =>
    field.writeCode next ++ writeFields (next + field.kind.writeTemporaries) fields

/-- The code that reads fields in order. -/
def readFields (next : Nat) : List Field → Code
  | [] => .done
  | field :: fields =>
    field.readCode next ++ readFields (next + field.kind.readTemporaries) fields

/-- The value of a field before anything is read, where the language writes one. -/
def Kind.initialText : Kind → String
  | .scalar .bool => "False"
  | .scalar .byte | .scalar .short | .scalar .int | .scalar .long => "0"
  | .scalar .float | .scalar .double => "0.0"
  | .scalar .char | .scalar .string => "\"\""
  | .collection .array _ | .collection .list _ => "[]"
  | .collection .set _ => "set()"
  | .map _ _ => "\x7b\x7d"
  | .message _ => "None"

/-- The declaration of a field of a type. -/
def Field.declaration (language : Language) (typeText : String) (field : Field) : String :=
  match language with
  | .go => field.name ++ " " ++ typeText
  | .python =>
    let optional := match field.kind with
      | .message _ => " | None"
      | _ => ""
    "self." ++ field.name ++ ": " ++ typeText ++ optional ++ " = " ++ field.kind.initialText

/-- The statement that stores an expression in a field of the message that is read. -/
def Field.assignment (field : Field) (value : String) : String :=
  "packet." ++ field.name ++ " = " ++ value

/-- The statement that registers the type of a message under its number. -/
def Message.registration (language : Language) (message : Message) : String :=
  let typeName := Name.pascal message.name
  match language with
  | .go => "Protocols[" ++ ProtocolId.literal message.id ++ "] = new(" ++ typeName ++ ")"
  | .python =>
    "protocols[" ++ ProtocolId.literal message.id ++ "] = import_module(\"." ++ typeName ++
      "\", __package__)." ++ typeName

end PacketSmith
