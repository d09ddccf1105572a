import PacketSmith.Proofs.Code.Segments
import PacketSmith.Proofs.Linking

/-!
# Fields added at the end

A block is the lines of its fields in order, and the lines of a field depend on the fields in
front of it only. The lines of fields begin and end with something other than a blank, so that
trimming a block takes off the first indentation and the last line end and nothing else. When
fields are added at the end of a message, every block therefore keeps its text and goes on behind
it in a new line.
-/

namespace PacketSmith

namespace Text

/-- Whether a text begins with something other than a blank. -/
def BeginsSolid (text : String) : Prop :=
  ∃ character ∈ text.toList.head?, isBlank character = false

/-- Whether a text ends with something other than a blank. -/
def EndsSolid (text : String) : Prop :=
  ∃ character ∈ text.toList.getLast?, isBlank character = false

/-- A text begins like the front of it. -/
theorem BeginsSolid.append {front : String} (solid : BeginsSolid front) (back : String) :
    BeginsSolid (front ++ back) := by
  obtain ⟨character, first, solid⟩ := solid
  refine ⟨character, ?_, solid⟩
  rw [String.toList_append, List.head?_append, Option.mem_def.mp first]
  rfl

/-- A text ends like the back of it. -/
theorem EndsSolid.append {back : String} (solid : EndsSolid back) (front : String) :
    EndsSolid (front ++ back) := by
  obtain ⟨character, last, solid⟩ := solid
  refine ⟨character, ?_, solid⟩
  rw [String.toList_append, List.getLast?_append, Option.mem_def.mp last]
  rfl

/-- A line end is a blank. -/
theorem line_end_blank : ∀ character ∈ "\n".toList, isBlank character = true :=
  List.all_eq_true.mp (by decide)

/-- Trimming leaves what begins and ends with something other than a blank. -/
theorem trimmed_padded (padding code back : String)
    (blank : ∀ character ∈ padding.toList, isBlank character = true)
    (behind : ∀ character ∈ back.toList, isBlank character = true)
    (begins : BeginsSolid code) (ends : EndsSolid code) :
    trimmed (padding ++ (code ++ back)) = code := by
  obtain ⟨first, firstMember, firstSolid⟩ := begins
  obtain ⟨last, lastMember, lastSolid⟩ := ends
  have inhabited : code.toList ≠ [] := by
    intro empty
    simp [empty] at firstMember
  rw [trimmed, String.toList_append, String.toList_append,
    trim_padded padding.toList code.toList back.toList blank behind _ _ inhabited,
    String.ofList_toList]
  · intro character member
    rwa [Option.mem_unique member firstMember]
  · intro character member
    rwa [Option.mem_unique member lastMember]

end Text

open Text (BeginsSolid EndsSolid)

/-- Whether lines begin and end with something other than a blank. -/
structure Framed (lines : List Line) : Prop where
  /-- The first line begins so. -/
  first : ∃ line ∈ lines.head?, BeginsSolid line.text
  /-- The last line ends so. -/
  last : ∃ line ∈ lines.getLast?, EndsSolid line.text

namespace Framed

/-- Framed lines put together are framed. -/
theorem append {front back : List Line} (framed : Framed front) (others : Framed back) :
    Framed (front ++ back) := by
  obtain ⟨first, firstMember, begins⟩ := framed.first
  obtain ⟨last, lastMember, ends⟩ := others.last
  constructor
  · refine ⟨first, ?_, begins⟩
    rw [List.head?_append, Option.mem_def.mp firstMember]
    rfl
  · refine ⟨last, ?_, ends⟩
    rw [List.getLast?_append, Option.mem_def.mp lastMember]
    rfl

/-- Framed lines are an indentation, a text that begins and ends with something other than a
blank, and a line end. -/
theorem render {lines : List Line} (framed : Framed lines) (language : Language) :
    ∃ depth code, renderLines language lines =
        repeated language.layout.indent depth ++ (code ++ "\n") ∧
      BeginsSolid code ∧ EndsSolid code := by
  obtain ⟨first, firstMember, begins⟩ := framed.first
  obtain ⟨last, lastMember, ends⟩ := framed.last
  obtain ⟨others, rfl⟩ := List.head?_eq_some_iff.mp firstMember
  refine ⟨first.depth, ?_⟩
  rcases List.eq_nil_or_concat' others with rfl | ⟨middle, final, rfl⟩
  · obtain rfl : first = last := by simpa using lastMember
    exact ⟨first.text, by simp [renderLines, Line.render, String.append_assoc], begins, ends⟩
  · obtain rfl : final = last := by
      rw [← List.cons_append] at lastMember
      simpa only [List.getLast?_concat, Option.mem_def, Option.some.injEq] using lastMember
    refine ⟨first.text ++ ("\n" ++ (renderLines language middle ++
      (repeated language.layout.indent final.depth ++ final.text))), ?_, begins.append _,
      (((ends.append _).append _).append _).append _⟩
    rw [renderLines, render_lines_append]
    simp [renderLines, Line.render, String.append_assoc]

/-- Trimming framed lines takes off the first indentation and the last line end. -/
theorem trimmed {lines : List Line} (framed : Framed lines) (language : Language) :
    ∃ depth, renderLines language lines = repeated language.layout.indent depth ++
        (Text.trimmed (renderLines language lines) ++ "\n") ∧
      BeginsSolid (Text.trimmed (renderLines language lines)) ∧
      EndsSolid (Text.trimmed (renderLines language lines)) := by
  obtain ⟨depth, code, rendered, begins, ends⟩ := framed.render language
  have same : Text.trimmed (renderLines language lines) = code := by
    rw [rendered]
    exact Text.trimmed_padded _ code _
      (fun character member => (indentation_class language depth character member).1)
      Text.line_end_blank begins ends
  rw [same]
  exact ⟨depth, rendered, begins, ends⟩

/-- Framed lines behind others go on behind their code in a new line. -/
theorem trimmed_append {front back : List Line} (framed : Framed front) (others : Framed back)
    (language : Language) :
    ∃ depth, Text.trimmed (renderLines language (front ++ back)) =
      Text.trimmed (renderLines language front) ++
        ("\n" ++ (repeated language.layout.indent depth ++
          Text.trimmed (renderLines language back))) := by
  obtain ⟨depth, rendered, begins, _⟩ := framed.trimmed language
  obtain ⟨laterDepth, laterRendered, _, ends⟩ := others.trimmed language
  refine ⟨laterDepth, ?_⟩
  have whole : renderLines language (front ++ back) = repeated language.layout.indent depth ++
      ((Text.trimmed (renderLines language front) ++ ("\n" ++
        (repeated language.layout.indent laterDepth ++
          Text.trimmed (renderLines language back)))) ++ "\n") := by
    rw [render_lines_append]
    conv_lhs => rw [rendered, laterRendered]
    simp only [String.append_assoc]
  rw [whole]
  exact Text.trimmed_padded _ _ _
    (fun character member => (indentation_class language depth character member).1)
    Text.line_end_blank (begins.append _) (((ends.append _).append _).append _)

end Framed

/-- A framed block is its lines without the blanks around them. -/
theorem Block.finish_framed (language : Language) (block : Block) (lines : List Line)
    (framed : Framed lines) :
    block.finish language lines = Text.trimmed (renderLines language lines) := by
  obtain ⟨_, _, ⟨first, member, _⟩, _⟩ := framed.trimmed language
  have inhabited : (Text.trimmed (renderLines language lines)).isEmpty = false := by
    rw [String.isEmpty_eq_false_iff]
    intro empty
    simp [empty] at member
  rw [finish]
  simp [inhabited]

/-! ## The lines of one field -/

/-- A word begins with something other than a blank. -/
theorem Text.word_begins_solid (text : String) (inhabited : text.toList ≠ [])
    (solid : ∀ character ∈ text.toList, isBlank character = false) : BeginsSolid text :=
  ⟨text.toList.head inhabited, List.head?_eq_some_head inhabited,
    solid _ (List.head_mem inhabited)⟩

/-- A word ends with something other than a blank. -/
theorem Text.word_ends_solid (text : String) (inhabited : text.toList ≠ [])
    (solid : ∀ character ∈ text.toList, isBlank character = false) : EndsSolid text :=
  ⟨text.toList.getLast inhabited, List.getLast?_eq_some_getLast inhabited,
    solid _ (List.getLast_mem inhabited)⟩

/-- The characters of identifiers are no blanks. -/
theorem Name.identifier_solid (name : String) (identifier : isIdentifier name = true) :
    ∀ character ∈ name.toList, Text.isBlank character = false := by
  intro character member
  have subsequent := identifier_characters name identifier character member
  have either : character.isAlphanum = true ∨ (character == '_') = true := by
    simpa [isSubsequent] using subsequent
  rcases either with alphanumeric | underscore
  · exact TypeName.alphanumeric_not_blank character alphanumeric
  · rw [beq_iff_eq.mp underscore]
    rfl

/-- A temporary begins with the word of its role. -/
theorem Temporary.text_begins (temporary : Temporary) : BeginsSolid temporary.text := by
  apply BeginsSolid.append
  cases temporary.role <;> exact ⟨_, rfl, rfl⟩

/-- A temporary ends with a digit. -/
theorem Temporary.text_ends (temporary : Temporary) : EndsSolid temporary.text := by
  apply EndsSolid.append
  obtain ⟨inhabited, digits⟩ := number_characters temporary.number
  refine Text.word_ends_solid _ inhabited fun character member => ?_
  exact TypeName.alphanumeric_not_blank character
    (by simp [Char.isAlphanum, digits character member])

/-- The Go type of a kind ends with something other than a blank. -/
theorem Kind.type_name_ends (kind : Kind) (named : kind.NamesIdentifiers) :
    EndsSolid (kind.typeName .go) := by
  induction kind with
  | scalar base => cases base <;> exact ⟨_, rfl, rfl⟩
  | collection shape element inductionHypothesis =>
    cases shape with
    | array | list => exact (inductionHypothesis named).append _
    | set =>
      have word : EndsSolid "]bool" := ⟨'l', rfl, rfl⟩
      exact word.append _
  | map key value _ valueHypothesis =>
    exact (valueHypothesis fun reference member =>
      named reference (List.mem_append_right _ member)).append _
  | message reference =>
    have alphanumeric := reference.type_name_characters .go (named reference List.mem_cons_self)
    refine Text.word_ends_solid _ (by simp [typeName]) fun character member => ?_
    rcases List.mem_append.mp ((String.toList_append (s := "*")) ▸ member) with star | stands
    · obtain rfl : character = '*' := by simpa using star
      rfl
    · exact TypeName.alphanumeric_not_blank character (alphanumeric character stands)

/-- A line that begins and ends with something other than a blank is framed. -/
theorem Framed.single (line : Line) (begins : BeginsSolid line.text) (ends : EndsSolid line.text) :
    Framed [line] :=
  ⟨⟨line, rfl, begins⟩, ⟨line, rfl, ends⟩⟩

/-- The declaration of a field begins and ends with something other than a blank. -/
theorem Field.declaration_framed (language : Language) (field : Field)
    (identifier : Name.isIdentifier field.name = true) (named : field.kind.NamesIdentifiers) :
    BeginsSolid (field.declaration language (field.kind.typeName language)) ∧
      EndsSolid (field.declaration language (field.kind.typeName language)) := by
  cases language with
  | go =>
    have begins := Text.word_begins_solid field.name (Name.identifier_word field.name identifier).1
      (Name.identifier_solid field.name identifier)
    exact ⟨(begins.append _).append _, (field.kind.type_name_ends named).append _⟩
  | python =>
    have self : BeginsSolid "self." := ⟨'s', rfl, rfl⟩
    have initial : EndsSolid field.kind.initialText := by
      cases field.kind with
      | scalar base => cases base <;> (rw [Kind.initialText]; exact ⟨_, rfl, rfl⟩)
      | collection shape element => cases shape <;> (rw [Kind.initialText]; exact ⟨_, rfl, rfl⟩)
      | map key value => rw [Kind.initialText]; exact ⟨_, rfl, rfl⟩
      | message reference => rw [Kind.initialText]; exact ⟨_, rfl, rfl⟩
    exact ⟨((((self.append _).append _).append _).append _).append _ |>.append _, initial.append _⟩

/-- Documented lines begin with something other than a blank if the lines themselves do. -/
theorem comment_lines_begin (language : Language) (depth : Nat) (docs : List String)
    (lines : List Line) (begins : ∃ line ∈ lines.head?, BeginsSolid line.text) :
    ∃ line ∈ (commentLines language depth docs ++ lines).head?, BeginsSolid line.text := by
  cases docs with
  | nil => exact begins
  | cons doc docs =>
    have comment : BeginsSolid language.layout.comment := by
      cases language <;> exact ⟨_, rfl, rfl⟩
    refine ⟨_, rfl, ?_⟩
    dsimp only
    rw [commentText]
    split
    · exact comment
    · exact (comment.append _).append _

/-- The lines that declare a field are framed. -/
theorem Field.definition_framed (language : Language) (field : Field)
    (identifier : Name.isIdentifier field.name = true) (named : field.kind.NamesIdentifiers) :
    Framed (commentLines language language.layout.bodyDepth field.docs ++
      [⟨language.layout.bodyDepth,
        field.declaration language (field.kind.typeName language)⟩]) := by
  obtain ⟨begins, ends⟩ := field.declaration_framed language identifier named
  exact ⟨comment_lines_begin language _ field.docs _ ⟨_, rfl, begins⟩,
    ⟨_, List.getLast?_concat, ends⟩⟩

/-- Framed lines stay framed behind lines of which the first begins with something other than a
blank. -/
theorem Framed.behind {lines : List Line} (framed : Framed lines) (line : Line)
    (others : List Line) (begins : BeginsSolid line.text) :
    Framed (line :: (others ++ lines)) := by
  obtain ⟨last, member, ends⟩ := framed.last
  refine ⟨⟨line, rfl, begins⟩, ⟨last, ?_, ends⟩⟩
  rw [← List.cons_append, List.getLast?_append, Option.mem_def.mp member]
  rfl

/-- Framed lines stay framed in a block that is closed. -/
theorem Framed.closed {lines : List Line} (framed : Framed lines) (language : Language)
    (depth : Nat) : Framed (lines ++ language.closing depth) := by
  cases language with
  | go =>
    have begins : BeginsSolid "\x7d" := ⟨'\x7d', rfl, rfl⟩
    have ends : EndsSolid "\x7d" := ⟨'\x7d', rfl, rfl⟩
    exact framed.append (.single ⟨depth, "\x7d"⟩ begins ends)
  | python =>
    rw [Language.closing, List.append_nil]
    exact framed

/-- The line that writes a scalar begins with the buffer and ends with a bracket. -/
theorem Statement.write_scalar_framed (language : Language) (depth : Nat) (base : Scalar)
    (value : Operand) : Framed [⟨depth, (writeScalar base value).text language⟩] := by
  have bracket : EndsSolid ")" := ⟨')', rfl, rfl⟩
  cases language with
  | go =>
    have write : BeginsSolid "buffer.Write" := ⟨'b', rfl, rfl⟩
    have text : (writeScalar base value).text .go =
        "buffer.Write" ++ base.method .go ++ "(" ++ value.text ++ ")" := rfl
    rw [text]
    exact .single _ ((((write.append _).append _).append _).append _) (bracket.append _)
  | python =>
    have write : BeginsSolid "buffer.write_" := ⟨'b', rfl, rfl⟩
    have text : (writeScalar base value).text .python =
        "buffer.write_" ++ base.method .python ++ "(" ++ value.text ++ ")" := rfl
    rw [text]
    exact .single _ ((((write.append _).append _).append _).append _) (bracket.append _)

/-- The line that writes a message begins with the buffer and ends with a bracket. -/
theorem Statement.write_message_framed (language : Language) (depth : Nat)
    (reference : Reference) (value : Operand) :
    Framed [⟨depth, (writeMessage reference value).text language⟩] := by
  have bracket : EndsSolid ")" := ⟨')', rfl, rfl⟩
  cases language with
  | go =>
    have write : BeginsSolid "buffer.WritePacket(" := ⟨'b', rfl, rfl⟩
    have text : (writeMessage reference value).text .go = "buffer.WritePacket(" ++ value.text ++
        ", " ++ ProtocolId.literal reference.id ++ ")" := rfl
    rw [text]
    exact .single _ ((((write.append _).append _).append _).append _) (bracket.append _)
  | python =>
    have write : BeginsSolid "buffer.write_packet(" := ⟨'b', rfl, rfl⟩
    have text : (writeMessage reference value).text .python = "buffer.write_packet(" ++
        value.text ++ ", " ++ ProtocolId.literal reference.id ++ ")" := rfl
    rw [text]
    exact .single _ ((((write.append _).append _).append _).append _) (bracket.append _)

/-- The statement that writes a size begins with the buffer. -/
theorem Statement.write_size_begins (language : Language) (container : Operand) :
    BeginsSolid ((writeSize container).text language) := by
  cases language with
  | go =>
    have write : BeginsSolid "buffer.WriteInt(len(" := ⟨'b', rfl, rfl⟩
    exact (write.append container.text).append "))"
  | python =>
    have write : BeginsSolid "buffer.write_int(0 if " := ⟨'b', rfl, rfl⟩
    exact (((write.append container.text).append " is None else len(").append container.text).append
      "))"

/-- The lines that write a value are framed.

Proof: induction on the kind. A language that closes no blocks ends a container like its items. -/
theorem Kind.write_framed (language : Language) (kind : Kind) (value : Operand)
    (next depth : Nat) : Framed ((kind.writeCode value next).lines language depth) := by
  induction kind generalizing value next depth with
  | scalar base => exact Statement.write_scalar_framed language depth base value
  | message reference => exact Statement.write_message_framed language depth reference value
  | collection shape element inductionHypothesis =>
    have size := Statement.write_size_begins language value
    have body := inductionHypothesis (.temporary ⟨.element, next⟩) (next + 1) (depth + 1)
    simp only [writeCode, Code.lines, List.cons_append, List.append_nil]
    exact (body.closed language depth).behind _ [_] size
  | map key entry keyHypothesis entryHypothesis =>
    have size := Statement.write_size_begins language value
    have keys := keyHypothesis (.temporary ⟨.key, next⟩) (next + 2) (depth + 1)
    have entries := entryHypothesis (.temporary ⟨.value, next + 1⟩)
      (next + 2 + key.writeTemporaries) (depth + 1)
    simp only [writeCode, Code.lines, Code.lines_append, List.cons_append, List.append_nil]
    exact ((keys.append entries).closed language depth).behind _ [_] size

/-- The first line that reads a value begins with a temporary. -/
theorem Kind.read_begins (language : Language) (kind : Kind) (next depth : Nat) :
    ∃ line others, (kind.readCode next).lines language depth = line :: others ∧
      BeginsSolid line.text := by
  have begins (statement : Statement) (target : Temporary)
      (found : statement.target? = some target) : BeginsSolid (statement.text language) := by
    obtain ⟨rest, text⟩ := statement.text_target language target found
    have whole : statement.text language = target.text ++ String.ofList rest := by
      rw [← String.toList_inj, text, String.toList_append, String.toList_ofList]
    exact whole ▸ target.text_begins.append _
  cases kind with
  | scalar base | message reference => exact ⟨_, _, rfl, begins _ _ rfl⟩
  | collection shape element | map key entry => exact ⟨_, _, rfl, begins _ _ rfl⟩

/-- The lines that read a field are framed. -/
theorem Field.read_framed (language : Language) (field : Field) (next depth : Nat) :
    Framed ((field.readCode next).lines language depth) := by
  obtain ⟨line, others, lines, begins⟩ := field.kind.read_begins language next depth
  have packet : BeginsSolid "packet." := ⟨'p', rfl, rfl⟩
  have assignment : Framed ((Code.line
      (.assignField field.name (field.kind.readResult next)) .done).lines language depth) :=
    .single _ ((packet.append _).append _ |>.append _)
      ((field.kind.readResult next).text_ends.append _)
  have reading := assignment.behind line others begins
  rw [readCode, Code.lines_append, Code.lines_append, lines, List.cons_append]
  cases field.appended with
  | false => exact reading
  | true =>
    have guard : BeginsSolid (Header.whenExhausted.text language) := by
      cases language <;> exact ⟨'i', rfl, rfl⟩
    exact reading.behind ⟨depth, Header.whenExhausted.text language⟩ _ guard

/-! ## The lines of fields in order -/

namespace Block

/-- The lines of a block for fields in order, with the number of the first temporary. -/
def fieldLines (language : Language) (next : Nat) (fields : List Field) : Block → List Line
  | fieldDefinition => fields.flatMap fun field =>
    commentLines language language.layout.bodyDepth field.docs ++
      [⟨language.layout.bodyDepth, field.declaration language (field.kind.typeName language)⟩]
  | writeObject => (writeFields next fields).lines language language.layout.bodyDepth
  | readObject => (readFields next fields).lines language language.layout.bodyDepth

/-- The number of the first temporary behind a field. -/
def following (next : Nat) (field : Field) : Block → Nat
  | fieldDefinition => next
  | writeObject => next + field.kind.writeTemporaries
  | readObject => next + field.kind.readTemporaries

/-- The lines of the first field stand in front of those of the others. -/
theorem field_lines_cons (language : Language) (next : Nat) (field : Field)
    (fields : List Field) (block : Block) :
    block.fieldLines language next (field :: fields) =
      block.fieldLines language next [field] ++
        block.fieldLines language (block.following next field) fields := by
  cases block with
  | fieldDefinition => simp [fieldLines]
  | writeObject => simp [fieldLines, following, writeFields, Code.lines_append, Code.lines]
  | readObject => simp [fieldLines, following, readFields, Code.lines_append, Code.lines]

/-- The lines of fields do not depend on the fields behind them. -/
theorem field_lines_append (language : Language) (next : Nat) (fields further : List Field)
    (block : Block) :
    ∃ later, block.fieldLines language next (fields ++ further) =
      block.fieldLines language next fields ++ block.fieldLines language later further := by
  induction fields generalizing next with
  | nil =>
    refine ⟨next, ?_⟩
    cases block <;> rfl
  | cons field fields inductionHypothesis =>
    obtain ⟨later, same⟩ := inductionHypothesis (block.following next field)
    refine ⟨later, ?_⟩
    rw [List.cons_append, field_lines_cons, same, block.field_lines_cons language next field fields,
      List.append_assoc]

/-- The lines of fields that are named by identifiers, like the messages to which they refer, are
framed. -/
theorem field_lines_framed (language : Language) (next : Nat) (fields : List Field)
    (inhabited : fields ≠ []) (names : ∀ field ∈ fields, Name.isIdentifier field.name = true)
    (references : ∀ field ∈ fields, field.kind.NamesIdentifiers) (block : Block) :
    Framed (block.fieldLines language next fields) := by
  have single (next : Nat) (field : Field) (identifier : Name.isIdentifier field.name = true)
      (named : field.kind.NamesIdentifiers) :
      Framed (block.fieldLines language next [field]) := by
    cases block with
    | fieldDefinition =>
      simpa [fieldLines] using field.definition_framed language identifier named
    | writeObject =>
      simpa [fieldLines, writeFields, Field.writeCode, Code.lines_append, Code.lines] using
        field.kind.write_framed language (.expression field.valueText) next _
    | readObject =>
      simpa [fieldLines, readFields, Code.lines_append, Code.lines] using
        field.read_framed language next _
  induction fields generalizing next with
  | nil => exact absurd rfl inhabited
  | cons field fields inductionHypothesis =>
    rw [List.forall_mem_cons] at names references
    have first := single next field names.1 references.1
    cases fields with
    | nil => exact first
    | cons other fields =>
      rw [field_lines_cons]
      exact first.append (inductionHypothesis _ (List.cons_ne_nil _ _) names.2 references.2)

end Block

namespace Message

/-- A message with fields added at the end. -/
def extended (message : Message) (further : List Field) : Message :=
  { message with fields := message.fields ++ further }

/-- Whether a message is valid, alone or among others that it refers to. -/
def IsValid (message : Message) : Prop :=
  ∃ messages table, Table.ofMessages messages = .ok table ∧ message ∈ messages

/-- The fields of a valid message, and the messages to which they refer, are named by
identifiers. -/
theorem IsValid.names {message : Message} (valid : message.IsValid) :
    (∀ field ∈ message.fields, Name.isIdentifier field.name = true) ∧
      ∀ field ∈ message.fields, field.kind.NamesIdentifiers := by
  obtain ⟨messages, table, built, member⟩ := valid
  obtain ⟨validated, _⟩ := (Table.of_messages_iff messages table).mp built
  refine ⟨fun field held => (validated.fields message member field held).named,
    fun field held reference found => ?_⟩
  obtain ⟨declared, declaredMember, _, sameName⟩ := validated.target message member reference
    (List.mem_flatMap.mpr ⟨field, held, found⟩)
  exact sameName ▸ (validated.heads declared declaredMember).named

/-- The text of a block is the finished lines of the fields. -/
theorem block_text (language : Language) (message : Message) (block : Block) :
    message.blockText language block =
      block.finish language (block.fieldLines language 0 message.fields) := by
  cases block <;> rfl

end Message

/-- When fields are added at the end of a message that has fields, every block keeps its text. It
goes on behind it in a new line, unless nothing is added.

Proof: the lines of the added fields stand behind those of the old ones, which do not depend on
them. Both are framed, so that the block is trimmed at its two ends only. -/
theorem blocks_grow (language : Language) (message : Message) (further : List Field)
    (inhabited : message.fields ≠ []) (valid : (message.extended further).IsValid)
    (block : Block) :
    ∃ rest, (message.extended further).blockText language block =
        message.blockText language block ++ rest ∧
      (further = [] → rest = "") ∧ (further ≠ [] → rest.toList.head? = some '\n') := by
  obtain ⟨names, references⟩ := valid.names
  rw [Message.extended, List.forall_mem_append] at names references
  have old := block.field_lines_framed language 0 message.fields inhabited names.1 references.1
  obtain ⟨later, lines⟩ := block.field_lines_append language 0 message.fields further
  rw [Message.block_text, Message.block_text, Message.extended, lines, block.finish_framed _ _ old]
  by_cases added : further = []
  · subst added
    have none : block.fieldLines language later [] = [] := by
      cases block <;> rfl
    refine ⟨"", ?_, fun _ => rfl, fun some => absurd rfl some⟩
    rw [none, List.append_nil, block.finish_framed _ _ old, String.append_empty]
  · have new := block.field_lines_framed language later further added names.2 references.2
    obtain ⟨depth, grown⟩ := old.trimmed_append new language
    refine ⟨"\n" ++ (repeated language.layout.indent depth ++
      Text.trimmed (renderLines language (block.fieldLines language later further))), ?_,
      fun none => absurd none added, fun _ => ?_⟩
    · rw [block.finish_framed _ _ (old.append new), grown]
    · simp

/-- The message of a parcel before its stops were added. -/
def lightParcel : Message :=
  { parcelMessage with fields := parcelMessage.fields.take 1 }

/-- A list of messages is added to a message with one field. -/
theorem blocks_grow_parcel :
    lightParcel.fields ≠ [] ∧ lightParcel.extended (parcelMessage.fields.drop 1) = parcelMessage ∧
      parcelMessage.IsValid ∧
      ∀ language block, ∃ rest, parcelMessage.blockText language block =
        lightParcel.blockText language block ++ rest ∧ rest.toList.head? = some '\n' := by
  have inhabited : lightParcel.fields ≠ [] := List.cons_ne_nil _ _
  have whole : lightParcel.extended (parcelMessage.fields.drop 1) = parcelMessage := rfl
  have valid : parcelMessage.IsValid :=
    ⟨[parcelMessage, stopMessage], ⟨Table.fill [parcelMessage, stopMessage]⟩, rfl,
      List.mem_cons_self⟩
  refine ⟨inhabited, whole, valid, fun language block => ?_⟩
  obtain ⟨rest, grown, _, further⟩ := blocks_grow language lightParcel
    (parcelMessage.fields.drop 1) inhabited (whole ▸ valid) block
  exact ⟨rest, whole ▸ grown, further (List.cons_ne_nil _ _)⟩

end PacketSmith
