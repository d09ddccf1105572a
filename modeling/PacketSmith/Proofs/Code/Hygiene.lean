import PacketSmith.Proofs.Code.Blocks
import PacketSmith.Proofs.Code.Placement
import PacketSmith.Proofs.Code.StatementNames

/-!
# Temporaries of blocks

The temporaries of a block are declared line by line, each of them once and under a name of its own.
No such name is one that the templates use, or the name of a type. A line makes use of a temporary
only behind the line that declares it, and only as long as no line between them leaves the block of
the declaration; the temporaries of a loop are declared in the block of the loop. In Go, where an
unused variable is an error, every temporary is evaluated somewhere.
-/

namespace PacketSmith

/-- The depth of the block to which the names that a line declares belong: the block that the line
opens, or else the one in which it stands. -/
def Line.scope (language : Language) (line : Line) : Nat :=
  if line.opens language then line.depth + 1 else line.depth

/-- Whether a name is declared behind some lines: one of them declares it, and neither the lines
behind that one nor the line that follows leaves the block to which it belongs. -/
def IsDeclared (language : Language) (front : List Line) (line : Line) (name : List Char) : Prop :=
  ∃ before declaring between, front = before ++ declaring :: between ∧
    name ∈ (declaring.names language).declared ∧
      ∀ other ∈ between ++ [line], declaring.scope language ≤ other.depth

/-- Whether a temporary stands in a list or is declared behind some lines. -/
def IsSeen (language : Language) (outer : List Temporary) (front : List Line) (line : Line)
    (temporary : Temporary) : Prop :=
  temporary ∈ outer ∨ IsDeclared language front line temporary.text.toList

/-- What is seen behind some lines is seen if there are lines in front of them. -/
theorem IsSeen.behind {language : Language} {outer : List Temporary} {front : List Line}
    {line : Line} {temporary : Temporary} (seen : IsSeen language outer front line temporary)
    (earlier : List Line) : IsSeen language outer (earlier ++ front) line temporary := by
  refine seen.imp_right ?_
  rintro ⟨before, declaring, between, rfl, named, inside⟩
  exact ⟨earlier ++ before, declaring, between, by simp, named, inside⟩

/-- Whether a line behind some lines makes use only of temporaries that it sees. -/
structure Line.IsSound (language : Language) (outer : List Temporary) (front : List Line)
    (line : Line) : Prop where
  /-- What stands in front of the declarations of the line is seen there. -/
  outside : ∀ word ∈ (line.names language).before ++ (line.names language).assigned,
    ∀ temporary : Temporary, Text.pathHead word = temporary.text.toList →
      IsSeen language outer front line temporary
  /-- What stands behind them may also be declared by the line. -/
  inside : ∀ word ∈ (line.names language).behind,
    ∀ temporary : Temporary, Text.pathHead word = temporary.text.toList →
      IsSeen language outer front line temporary ∨
        temporary.text.toList ∈ (line.names language).declared

/-- A line is sound wherever it sees as much. -/
theorem Line.IsSound.mono {language : Language} {outer others : List Temporary}
    {front further : List Line} {line : Line} (sound : line.IsSound language outer front)
    (more : ∀ temporary, IsSeen language outer front line temporary →
      IsSeen language others further line temporary) : line.IsSound language others further :=
  ⟨fun word member temporary head => more temporary (sound.outside word member temporary head),
    fun word member temporary head =>
      (sound.inside word member temporary head).imp_left (more temporary)⟩

/-- Whether lines make use only of temporaries that they see. -/
def AreSound (language : Language) (outer : List Temporary) (lines : List Line) : Prop :=
  ∀ front line back, lines = front ++ line :: back → line.IsSound language outer front

namespace AreSound

variable {language : Language} {outer : List Temporary}

/-- Lines after lines. -/
theorem append {lines others : List Line} (sound : AreSound language outer lines)
    (further : AreSound language outer others) : AreSound language outer (lines ++ others) := by
  intro front line back same
  rcases List.append_eq_append_iff.mp same with ⟨behind, rfl, rest⟩ | ⟨inner, here, rest⟩
  · exact (further behind line back rest).mono fun temporary seen => seen.behind lines
  · rcases inner with _ | ⟨first, inner⟩
    · obtain rfl : lines = front := by simpa using here
      exact (further [] line back rest.symm).mono fun temporary seen => by
        simpa using seen.behind lines
    · obtain ⟨rfl, -⟩ := List.cons.inj rest
      exact sound front line inner here

/-- Lines behind a line see what it declares as long as they do not leave its block. -/
theorem cons {first : Line} {lines : List Line} {declares : List Temporary}
    (sound : first.IsSound language outer [])
    (declared : (first.names language).declared =
      declares.map fun temporary => temporary.text.toList)
    (deep : ∀ line ∈ lines, first.scope language ≤ line.depth)
    (further : AreSound language (outer ++ declares) lines) :
    AreSound language outer (first :: lines) := by
  intro front line back same
  rcases front with _ | ⟨other, front⟩
  · obtain ⟨rfl, -⟩ := List.cons.inj same
    exact sound
  · obtain ⟨rfl, rfl⟩ := List.cons.inj same
    refine (further front line back rfl).mono fun temporary seen => ?_
    rcases seen with member | earlier
    · rcases List.mem_append.mp member with standing | here
      · exact Or.inl standing
      · refine Or.inr ⟨[], first, front, rfl, ?_, ?_⟩
        · rw [declared]
          exact List.mem_map_of_mem here
        · intro other member
          apply deep
          rcases List.mem_append.mp member with inner | last
          · exact List.mem_append_left _ inner
          · obtain rfl := List.mem_singleton.mp last
            exact List.mem_append_right _ List.mem_cons_self
    · exact IsSeen.behind (Or.inr earlier) [first]

end AreSound

/-- A line that fits is sound where all is seen of which it makes use. -/
theorem LineNames.Fits.sound {language : Language} {line : Line}
    {declares uses counts outer : List Temporary}
    (fits : (line.names language).Fits declares uses counts)
    (held : ∀ temporary ∈ uses, temporary ∈ outer)
    (counted : ∀ temporary ∈ counts, temporary ∈ declares) : line.IsSound language outer [] := by
  constructor
  case outside =>
    exact fun word member temporary head =>
      Or.inl (held temporary (fits.outside word member temporary head))
  case inside =>
    intro word member temporary head
    rcases List.mem_append.mp (fits.inside word member temporary head) with used | counting
    · exact Or.inl (Or.inl (held temporary used))
    · rw [fits.declared]
      exact Or.inr (List.mem_map_of_mem (counted temporary counting))

/-- Lines that close a block are sound. -/
theorem closing_sound (language : Language) (depth : Nat) (outer : List Temporary) :
    AreSound language outer (language.closing depth) := by
  intro front line back same
  have member : line ∈ language.closing depth := by simp [same]
  have names := closing_names language depth line member
  constructor <;> simp [names, LineNames.plain]

/-- The lines of plain code make use only of temporaries that they see.

Proof: induction on the code. What a statement declares is seen by all lines behind it, because none
of them stands outside. What a header declares is seen by the lines of its block, which stand one
level deeper. -/
theorem Code.lines_sound (language : Language) (depth : Nat) (code : Code) (plain : code.IsPlain)
    (outer : List Temporary) (declared : code.Scoped outer) :
    AreSound language outer (code.lines language depth) := by
  induction code generalizing depth outer with
  | done => exact fun front line back same => by simp [lines] at same
  | line statement rest inductionHypothesis =>
    have names := statement.names_text language depth plain.1
    have fits := names ▸ statement.line_names_fit language plain.1
    have scope : (Line.mk depth (statement.text language)).scope language = depth := by
      rw [Line.scope, statement.text_opens]
      rfl
    exact .cons (fits.sound declared.1 (List.forall_mem_nil _)) fits.declared
      (fun line member => scope.le.trans (rest.lines_depth language depth line member))
      (inductionHypothesis depth plain.2 _ declared.2)
  | block header body rest bodyHypothesis restHypothesis =>
    have names := header.names_text language depth plain.1
    have fits := names ▸ header.line_names_fit language plain.1
    have scope : (Line.mk depth (header.text language)).scope language = depth + 1 := by
      rw [Line.scope, header.text_opens]
      rfl
    have counted : ∀ temporary ∈ header.counts, temporary ∈ header.declares := by
      cases header <;> simp [Header.counts, Header.declares]
    have inner : AreSound language outer
        (⟨depth, header.text language⟩ :: body.lines language (depth + 1)) :=
      .cons (fits.sound declared.1 counted) fits.declared
        (fun line member => scope.le.trans (body.lines_depth language (depth + 1) line member))
        (bodyHypothesis (depth + 1) plain.2.1 _ declared.2.1)
    exact (inner.append (closing_sound language depth outer)).append
      (restHypothesis depth plain.2.2 outer declared.2.2)

/-- The lines of plain code declare the temporaries of the code, in order. -/
theorem Code.lines_declare (language : Language) (depth : Nat) (code : Code)
    (plain : code.IsPlain) :
    (code.lines language depth).flatMap (fun line => (line.names language).declared) =
      code.declares.map fun temporary => temporary.text.toList := by
  induction code generalizing depth with
  | done => rfl
  | line statement rest inductionHypothesis =>
    have names := statement.names_text language depth plain.1
    have fits := names ▸ statement.line_names_fit language plain.1
    rw [lines, List.flatMap_cons, fits.declared, inductionHypothesis depth plain.2, declares,
      List.map_append]
  | block header body rest bodyHypothesis restHypothesis =>
    have names := header.names_text language depth plain.1
    have fits := names ▸ header.line_names_fit language plain.1
    have closing : (language.closing depth).flatMap
        (fun line => (line.names language).declared) = [] := by
      rw [List.flatMap_eq_nil_iff]
      exact fun line member => by rw [closing_names language depth line member]; rfl
    rw [lines, List.flatMap_append, List.flatMap_append, List.flatMap_cons, fits.declared,
      bodyHypothesis (depth + 1) plain.2.1, restHypothesis depth plain.2.2, closing, declares]
    simp

/-- Whether a line evaluates a name. -/
def Line.Evaluates (language : Language) (line : Line) (name : List Char) : Prop :=
  ∃ word ∈ (line.names language).before ++ (line.names language).behind,
    Text.pathHead word = name

/-- The name of a temporary is all of its path. -/
theorem Temporary.path_head (temporary : Temporary) :
    Text.pathHead temporary.text.toList = temporary.text.toList := by
  rw [Text.pathHead, List.takeWhile_eq_self_iff]
  exact temporary.text_undotted

/-- The lines of plain Go code evaluate every temporary of which the code makes use. -/
theorem Code.lines_evaluate (depth : Nat) (code : Code) (plain : code.IsPlain) :
    ∀ temporary ∈ code.uses, ∃ line ∈ code.lines .go depth,
      line.Evaluates .go temporary.text.toList := by
  induction code generalizing depth with
  | done => exact List.forall_mem_nil _
  | line statement rest inductionHypothesis =>
    have names := statement.names_text .go depth plain.1
    intro temporary member
    rcases List.mem_append.mp member with here | later
    · refine ⟨_, List.mem_cons_self, _, ?_, temporary.path_head⟩
      rw [names]
      exact List.mem_append_left _ (statement.line_evaluates temporary here)
    · obtain ⟨line, stands, evaluates⟩ := inductionHypothesis depth plain.2 temporary later
      exact ⟨line, List.mem_cons_of_mem _ stands, evaluates⟩
  | block header body rest bodyHypothesis restHypothesis =>
    have names := header.names_text .go depth plain.1
    obtain ⟨uses, counts⟩ := header.line_evaluates
    have first : ∀ temporary ∈ header.uses ++ header.counts,
        (Line.mk depth (header.text .go)).Evaluates .go temporary.text.toList := by
      intro temporary member
      refine ⟨_, ?_, temporary.path_head⟩
      rw [names]
      rcases List.mem_append.mp member with used | counting
      · exact uses temporary used
      · exact List.mem_append_right _ (counts temporary counting)
    intro temporary member
    simp only [Code.uses, List.mem_append] at member
    simp only [lines, List.cons_append, List.mem_cons, List.mem_append]
    rcases member with used | counting | inner | later
    · exact ⟨_, Or.inl rfl, first temporary (List.mem_append_left _ used)⟩
    · exact ⟨_, Or.inl rfl, first temporary (List.mem_append_right _ counting)⟩
    · obtain ⟨line, stands, evaluates⟩ := bodyHypothesis (depth + 1) plain.2.1 temporary inner
      exact ⟨line, Or.inr (Or.inl (Or.inl stands)), evaluates⟩
    · obtain ⟨line, stands, evaluates⟩ := restHypothesis depth plain.2.2 temporary later
      exact ⟨line, Or.inr (Or.inr stands), evaluates⟩

/-- Whatever a code is about stands in a list or is declared in the code. -/
theorem Code.temporaries_declared (code : Code) (outer : List Temporary)
    (declared : code.Scoped outer) :
    ∀ temporary ∈ code.temporaries, temporary ∈ outer ∨ temporary ∈ code.declares := by
  induction code generalizing outer with
  | done => exact List.forall_mem_nil _
  | line statement rest inductionHypothesis =>
    have own : ∀ temporary ∈ statement.temporaries,
        temporary ∈ statement.uses ∨ temporary ∈ statement.declares := by
      cases statement <;> simp [Statement.temporaries, Statement.uses, Statement.declares]
    intro temporary member
    rw [declares, List.mem_append]
    rcases List.mem_append.mp member with here | later
    · rcases own temporary here with used | found
      · exact Or.inl (declared.1 temporary used)
      · exact Or.inr (Or.inl found)
    · rcases inductionHypothesis _ declared.2 temporary later with standing | found
      · rw [List.mem_append] at standing
        exact standing.imp_right Or.inl
      · exact Or.inr (Or.inr found)
  | block header body rest bodyHypothesis restHypothesis =>
    have own : ∀ temporary ∈ header.temporaries,
        temporary ∈ header.uses ∨ temporary ∈ header.declares := by
      cases header <;> simp +contextual [Header.temporaries, Header.uses, Header.declares]
    intro temporary member
    simp only [Code.temporaries, List.mem_append] at member
    rw [declares, List.mem_append, List.mem_append]
    rcases member with here | inner | later
    · rcases own temporary here with used | found
      · exact Or.inl (declared.1 temporary used)
      · exact Or.inr (Or.inl found)
    · rcases bodyHypothesis _ declared.2.1 temporary inner with standing | found
      · rw [List.mem_append] at standing
        exact standing.imp_right Or.inl
      · exact Or.inr (Or.inr (Or.inl found))
    · rcases restHypothesis _ declared.2.2 temporary later with standing | found
      · exact Or.inl standing
      · exact Or.inr (Or.inr (Or.inr found))

/-! ## The blocks of a message -/

/-- The names that the templates of messages give to variables. -/
def templateNames : List String :=
  ["buffer", "packet", "message", "protocol", "cls"]

/-- What is to be said of the temporaries in the lines of a block, for which so many numbers were
taken, among messages with types. -/
structure BlockHygiene (language : Language) (messages : List Message) (count : Nat)
    (lines : List Line) : Prop where
  /-- The names that the lines declare are those of one temporary for each number, in order. -/
  numbered : ∃ temporaries : List Temporary,
    temporaries.map Temporary.number = List.range count ∧
      lines.flatMap (fun line => (line.names language).declared) =
        temporaries.map fun temporary => temporary.text.toList
  /-- No name is declared twice. -/
  once : (lines.flatMap fun line => (line.names language).declared).Nodup
  /-- Every temporary that a line mentions is declared. -/
  complete : ∀ line ∈ lines, ∀ temporary, line.Mentions temporary →
    temporary.text.toList ∈ lines.flatMap fun line => (line.names language).declared
  /-- No name is one of the template, or that of a type. -/
  apart : ∀ name ∈ lines.flatMap fun line => (line.names language).declared,
    name ∉ templateNames.map String.toList ∧ ∀ other ∈ messages, name ≠ other.typeName.toList
  /-- What a line makes use of is declared in front of it, in its block or in one around it. -/
  sound : AreSound language [] lines
  /-- In Go, whatever is declared is evaluated. -/
  evaluated : language = .go →
    ∀ name ∈ lines.flatMap fun line => (line.names language).declared,
      ∃ line ∈ lines, line.Evaluates .go name

/-- What is to be said of the variables in the blocks of a message. -/
structure MessageHygiene (language : Language) (messages : List Message) (message : Message) :
    Prop where
  /-- The temporaries of the block that writes. -/
  written : BlockHygiene language messages (message.writeEmitter language).next
    (linesOf language (message.writeEmitter language).code)
  /-- The temporaries of the block that reads. -/
  read : BlockHygiene language messages (message.readEmitter language).next
    (linesOf language (message.readEmitter language).code)
  /-- In Go, the block that writes evaluates the variable that the template declares for it. -/
  message : language = .go → ∃ line ∈ linesOf .go (message.blockText .go .writeObject ++ "\n"),
    line.Evaluates .go "message".toList

/-- The names of temporaries are none of the template, and none of types. -/
theorem Temporary.text_apart (temporary : Temporary) :
    temporary.text.toList ∉ templateNames.map String.toList ∧
      ∀ name, Name.isIdentifier name = true →
        temporary.text.toList ≠ (Name.pascal name).toList := by
  obtain ⟨first, head, small⟩ : ∃ first ∈ Role.initials,
      temporary.text.toList.head? = some first ∧ first.isLower = true := by
    obtain ⟨role, number⟩ := temporary
    cases role <;> simp [Role.initials, Temporary.text, Role.word]
  constructor
  · intro member
    obtain ⟨name, listed, same⟩ := List.mem_map.mp member
    have other : ∀ name ∈ templateNames,
        Role.initials.all (fun first => name.toList.head? != some first) = true := by decide
    have apart : name.toList.head? ≠ some first := by
      simpa using List.all_eq_true.mp (other name listed) first head
    exact apart (same ▸ small.1)
  · intro name identifier same
    have capital := Name.pascal_capital name identifier first (same ▸ small.1)
    exact absurd (small.2.symm.trans capital) (by decide)

/-- The lines of plain code with temporaries in order are hygienic. -/
theorem Code.lines_hygienic (language : Language) (messages : List Message) (depth count : Nat)
    (code : Code) (plain : code.IsPlain) (tidy : code.IsTidy 0 count)
    (identifiers : ∀ other ∈ messages, Name.isIdentifier other.name = true) :
    BlockHygiene language messages count (code.lines language depth) := by
  have declare := code.lines_declare language depth plain
  constructor
  case numbered =>
    exact ⟨code.declares, by rw [tidy.numbered, List.range_eq_range'], declare⟩
  case once =>
    rw [declare]
    have numbers : (code.declares.map Temporary.number).Nodup := by
      rw [tidy.numbered]
      exact List.nodup_range'
    exact numbers.of_map.map fun first second same =>
      first.text_injective second (String.toList_inj.mp same)
  case complete =>
    intro line member temporary mentions
    rw [declare]
    have found := code.lines_mention language depth plain line member temporary mentions
    rcases code.temporaries_declared [] (tidy.declared []) temporary found with nothing | here
    · exact absurd nothing List.not_mem_nil
    · exact List.mem_map_of_mem here
  case apart =>
    rw [declare]
    intro name member
    obtain ⟨temporary, _, rfl⟩ := List.mem_map.mp member
    obtain ⟨template, types⟩ := temporary.text_apart
    exact ⟨template, fun other member => types other.name (identifiers other member)⟩
  case sound => exact code.lines_sound language depth plain [] (tidy.declared [])
  case evaluated =>
    rintro rfl
    rw [declare]
    intro name member
    obtain ⟨temporary, here, rfl⟩ := List.mem_map.mp member
    exact code.lines_evaluate depth plain temporary (tidy.used here)

namespace Emitter

/-- Writing fields takes the numbers of their temporaries. -/
theorem write_fields_next (emitter : Emitter) (fields : List Field) :
    (fields.foldl writeField emitter).next = emitter.next + writtenTemporaries fields := by
  induction fields generalizing emitter with
  | nil => rfl
  | cons field fields inductionHypothesis =>
    rw [List.foldl_cons, inductionHypothesis, writtenTemporaries, ← Nat.add_assoc]
    rfl

/-- Reading fields takes the numbers of their temporaries. -/
theorem read_fields_next (emitter : Emitter) (fields : List Field) :
    (fields.foldl readField emitter).next = emitter.next + readTemporaries fields := by
  induction fields generalizing emitter with
  | nil => rfl
  | cons field fields inductionHypothesis =>
    have first : (emitter.readField field).next =
        emitter.next + field.kind.readTemporaries := by
      cases appended : field.appended <;>
        simp [readField, appended, line, read, guard, add]
    rw [List.foldl_cons, inductionHypothesis, first, readTemporaries, Nat.add_assoc]

end Emitter

/-- The first line that writes a field evaluates the message. -/
theorem Field.write_code_evaluates (field : Field) (next depth : Nat)
    (identifier : Name.isIdentifier field.name = true) :
    ∃ line lines, (field.writeCode next).lines .go depth = line :: lines ∧
      ∀ place, (Line.mk place line.text).Evaluates .go "message".toList := by
  have operand : (Operand.expression field.valueText).IsPlain := ⟨field.name, identifier, rfl⟩
  have head : Text.pathHead field.valueText.toList = "message".toList := by
    simp [valueText, Text.pathHead]
  have first (statement : Statement) (plain : statement.IsPlain)
      (member : field.valueText.toList ∈ (statement.lineNames .go).before) (place : Nat) :
      (Line.mk place (statement.text .go)).Evaluates .go "message".toList := by
    refine ⟨_, ?_, head⟩
    rw [statement.names_text .go place plain]
    exact List.mem_append_left _ member
  rw [writeCode]
  cases field.kind with
  | scalar base | message reference | collection shape element | map key entry =>
    refine ⟨_, _, rfl, first _ operand ?_⟩
    simp [Statement.lineNames, Statement.words, LineNames.plain, Operand.text]

/-- In Go, the block that writes a message evaluates the variable for it, also without any
fields. -/
theorem Message.write_block_evaluates (message : Message) (valid : message.IsValid) :
    ∃ line ∈ linesOf .go (message.blockText .go .writeObject ++ "\n"),
      line.Evaluates .go "message".toList := by
  obtain ⟨names, references⟩ := valid.names
  cases found : message.fields with
  | nil =>
    have text : message.blockText .go .writeObject = "_ = message" := by
      rw [message.block_text, found]
      decide
    refine ⟨⟨0, "_ = message"⟩, ?_, "message".toList, ?_, by decide⟩
    · rw [text]
      decide
    · decide
  | cons field fields =>
    have inhabited : message.fields ≠ [] := by simp [found]
    have framed := Block.writeObject.field_lines_framed .go 0 message.fields inhabited names
      references
    have plain := Code.lines_plain .go Language.go.layout.bodyDepth _
      (write_fields_plain 0 message.fields names)
    obtain ⟨line, lines, first, evaluates⟩ := field.write_code_evaluates 0
      Language.go.layout.bodyDepth (names field (by simp [found]))
    obtain ⟨others, whole⟩ : ∃ others, Block.writeObject.fieldLines .go 0 message.fields =
        line :: others := by
      rw [found, Block.fieldLines, writeFields, Code.lines_append, first]
      exact ⟨_, rfl⟩
    have text := Block.writeObject.finish_lines .go (whole ▸ framed)
    have all : ∀ other ∈ line :: others, other.IsPlain := by
      rw [← whole]
      exact plain
    obtain ⟨firstPlain, othersPlain⟩ := List.forall_mem_cons.mp all
    have read := lines_of_render .go (⟨0, line.text⟩ :: others)
      (List.forall_mem_cons.mpr ⟨firstPlain, othersPlain⟩)
    rw [message.block_text, whole, text, read]
    exact ⟨_, List.mem_cons_self, evaluates 0⟩

/-- The temporaries of all blocks of messages that validation accepts are hygienic. -/
theorem temporaries_hygienic (messages : List Message) (table : Table)
    (accepted : Table.ofMessages messages = .ok table) (language : Language) :
    ∀ message ∈ messages, MessageHygiene language messages message := by
  obtain ⟨validated, _⟩ := (Table.of_messages_iff messages table).mp accepted
  have identifiers : ∀ other ∈ messages, Name.isIdentifier other.name = true :=
    fun other member => (validated.heads other member).named
  intro message member
  have valid : message.IsValid := ⟨messages, table, accepted, member⟩
  obtain ⟨names, references⟩ := valid.names
  have writePlain := write_fields_plain 0 message.fields names
  have readPlain := read_fields_plain 0 message.fields names references
  constructor
  case written =>
    have count : (message.writeEmitter language).next = writtenTemporaries message.fields :=
      (Emitter.write_fields_next _ message.fields).trans (Nat.zero_add _)
    rw [message.write_emitter_lines language names, count]
    exact Code.lines_hygienic language messages _ _ _ writePlain
      (write_fields_tidy 0 message.fields) identifiers
  case read =>
    have count : (message.readEmitter language).next = readTemporaries message.fields :=
      (Emitter.read_fields_next _ message.fields).trans (Nat.zero_add _)
    rw [message.read_emitter_lines language names references, count]
    exact Code.lines_hygienic language messages _ _ _ readPlain
      (read_fields_tidy 0 message.fields) identifiers
  case message =>
    rintro rfl
    exact message.write_block_evaluates valid

/-- In a package of two messages, the temporaries of the blocks of one with a list in a map are
hygienic. -/
theorem temporaries_hygienic_route :
    Table.ofMessages [Wire.routeMessage, stopMessage] =
      .ok ⟨Table.fill [Wire.routeMessage, stopMessage]⟩ ∧
    ∀ language, MessageHygiene language [Wire.routeMessage, stopMessage] Wire.routeMessage := by
  have built : Table.ofMessages [Wire.routeMessage, stopMessage] =
      .ok ⟨Table.fill [Wire.routeMessage, stopMessage]⟩ := by rfl
  exact ⟨built, fun language =>
    temporaries_hygienic _ _ built language _ List.mem_cons_self⟩

end PacketSmith
