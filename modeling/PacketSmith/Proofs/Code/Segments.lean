import Mathlib.Data.List.Forall2
import Mathlib.Data.List.Nodup
import PacketSmith.Proofs.Code.Emission
import PacketSmith.Proofs.Code.Execution
import PacketSmith.Proofs.Code.WrittenFields

/-!
# Blocks are segments of fields

The blocks that define, write and read the fields of a message consist of one segment for each
field, in schema order. A segment that reads has a guard if the field is appended, reads a
value of the kind of the field and assigns to the field the temporary that holds the value. Other
segments use other temporaries, because every segment takes its numbers behind those of the
segments in front of it.

Flags for appended fields make guards and nothing else: without its guards, the code is that of
the same message without flags.
-/

namespace PacketSmith

open Execution (Buffer Cell Machine decode run)

/-- Whether running a code reads a value of a kind, leaves it in a temporary and assigns no field.
The code gets stuck where no value can be read. -/
def Code.Reads (code : Code) (kind : Kind) (value : Temporary) : Prop :=
  ∀ (State Value : Type) (buffer : Buffer State Value) (machine : Machine State Value),
    match decode buffer kind machine.state with
    | none => run buffer code machine = .stuck
    | some (datum, state) => ∃ after, run buffer code machine = .running after ∧
        after.state = state ∧ after.memory value = some (.datum datum) ∧
        after.packet = machine.packet

/-- The code that reads a kind reads a value of the kind. -/
theorem Kind.read_code_reads (kind : Kind) (next : Nat) :
    (kind.readCode next).Reads kind (kind.readResult next) := by
  intro State Value buffer machine
  have delivers := Execution.read_code_delivers buffer kind next machine
  rw [Execution.expected] at delivers
  cases decoded : decode buffer kind machine.state with
  | none =>
    rw [decoded] at delivers
    exact delivers
  | some pair =>
    obtain ⟨datum, state⟩ := pair
    rw [decoded] at delivers
    obtain ⟨after, ran, reached⟩ := delivers
    exact ⟨after, ran, reached.buffered, reached.stored, reached.assigned⟩

/-- A part of the code that reads, for one field. -/
structure ReadSegment where
  /-- Whether a guard stands in front. -/
  guarded : Bool
  /-- The code that reads a value. -/
  reading : Code
  /-- The temporary that is assigned. -/
  value : Temporary
  /-- The name of the field to which it is assigned. -/
  field : String

namespace ReadSegment

/-- The code of a segment. -/
def code (segment : ReadSegment) : Code :=
  (if segment.guarded then exhaustionGuard else .done) ++
    (segment.reading ++ .line (.assignField segment.field segment.value) .done)

/-- The lines of a segment: the guard, the reading and one assignment. -/
def lines (language : Language) (segment : ReadSegment) : List Line :=
  (if segment.guarded then exhaustionGuard.lines language language.layout.bodyDepth else []) ++
    (segment.reading.lines language language.layout.bodyDepth ++
      [⟨language.layout.bodyDepth, "packet." ++ segment.field ++ " = " ++ segment.value.text⟩])

/-- The lines of a segment are those of its code. -/
theorem lines_code (language : Language) (segment : ReadSegment) :
    segment.lines language = segment.code.lines language language.layout.bodyDepth := by
  rw [lines, code, Code.lines_append, Code.lines_append]
  cases segment.guarded <;> rfl

/-- Whether a segment is for a field: it has a guard exactly if the field is appended, and it
assigns to the field a temporary that holds a value of the kind of the field. -/
structure Serves (segment : ReadSegment) (field : Field) : Prop where
  /-- The guard is there exactly for appended fields. -/
  guard : segment.guarded = field.appended
  /-- The reading leaves a value of the kind in the temporary. -/
  reads : segment.reading.Reads field.kind segment.value
  /-- The assignment is to the field. -/
  assigns : segment.field = field.name

/-- Whether two segments use the temporaries with the values of each other. -/
def Apart (segment other : ReadSegment) : Prop :=
  segment.value ∉ other.code.temporaries ∧ other.value ∉ segment.code.temporaries

/-- Whether the lines of two segments mention the temporaries with the values of each other. -/
def ApartIn (language : Language) (segment other : ReadSegment) : Prop :=
  (∀ line ∈ other.lines language, ¬ line.Mentions segment.value) ∧
    ∀ line ∈ segment.lines language, ¬ line.Mentions other.value

end ReadSegment

/-- The segments that read fields, with the number of the first temporary. -/
def readSegments (next : Nat) : List Field → List ReadSegment
  | [] => []
  | field :: fields =>
    ⟨field.appended, field.kind.readCode next, field.kind.readResult next, field.name⟩ ::
      readSegments (next + field.kind.readTemporaries) fields

/-- The segments make up the code that reads the fields. -/
theorem read_segments_lines (language : Language) (next : Nat) (fields : List Field) :
    (readFields next fields).lines language language.layout.bodyDepth =
      (readSegments next fields).flatMap (ReadSegment.lines language) := by
  induction fields generalizing next with
  | nil => rfl
  | cons field fields inductionHypothesis =>
    rw [readFields, Code.lines_append, inductionHypothesis, readSegments, List.flatMap_cons,
      ReadSegment.lines_code]
    rfl

/-- There is one segment for each field, in order. -/
theorem read_segments_serve (next : Nat) (fields : List Field) :
    List.Forall₂ (fun field segment => ReadSegment.Serves segment field) fields
      (readSegments next fields) := by
  induction fields generalizing next with
  | nil => exact .nil
  | cons field fields inductionHypothesis =>
    exact .cons ⟨rfl, field.kind.read_code_reads next, rfl⟩ (inductionHypothesis _)

/-- The segments take their temporaries from the first number on. -/
theorem read_segments_numbers (next : Nat) (fields : List Field) :
    ∀ segment ∈ readSegments next fields,
      next ≤ segment.value.number ∧
        ∀ temporary ∈ segment.code.temporaries, next ≤ temporary.number := by
  induction fields generalizing next with
  | nil => simp [readSegments]
  | cons field fields inductionHypothesis =>
    rw [readSegments, List.forall_mem_cons]
    constructor
    · exact ⟨(field.kind.read_result_range next).1, fun temporary member =>
        (field.read_code_numbered next temporary member).1⟩
    · intro segment member
      obtain ⟨value, temporaries⟩ := inductionHypothesis _ segment member
      constructor
      · omega
      · intro temporary found
        have bound := temporaries temporary found
        omega

/-- No segment uses the temporary with the value of another one.

Proof: induction on the fields. The segments behind the first take larger numbers than all of
its temporaries have. -/
theorem read_segments_apart (next : Nat) (fields : List Field) :
    (readSegments next fields).Pairwise ReadSegment.Apart := by
  induction fields generalizing next with
  | nil => exact List.Pairwise.nil
  | cons field fields inductionHypothesis =>
    rw [readSegments, List.pairwise_cons]
    constructor
    · intro other member
      obtain ⟨otherValue, otherTemporaries⟩ := read_segments_numbers _ fields other member
      have result := (field.kind.read_result_range next).2
      constructor
      · intro used
        have bound := otherTemporaries _ used
        simp only at bound
        omega
      · intro used
        have bound := (field.read_code_numbered next other.value used).2
        omega
    · exact inductionHypothesis _

/-- The segments of fields that are named by identifiers, like the messages to which they refer,
are plain. -/
theorem read_segments_plain (next : Nat) (fields : List Field)
    (names : ∀ field ∈ fields, Name.isIdentifier field.name = true)
    (references : ∀ field ∈ fields, field.kind.NamesIdentifiers) :
    ∀ segment ∈ readSegments next fields, segment.code.IsPlain := by
  induction fields generalizing next with
  | nil => simp [readSegments]
  | cons field fields inductionHypothesis =>
    rw [readSegments, List.forall_mem_cons]
    rw [List.forall_mem_cons] at names references
    refine ⟨?_, inductionHypothesis _ names.2 references.2⟩
    have whole := read_fields_plain next [field] (by simpa using names.1)
      (by simpa using references.1)
    rw [readFields, Code.plain_append] at whole
    exact whole.1

/-- No line of a segment mentions the temporary with the value of another segment. -/
theorem read_segments_apart_in (language : Language) (next : Nat) (fields : List Field)
    (names : ∀ field ∈ fields, Name.isIdentifier field.name = true)
    (references : ∀ field ∈ fields, field.kind.NamesIdentifiers) :
    (readSegments next fields).Pairwise (ReadSegment.ApartIn language) := by
  have plain := read_segments_plain next fields names references
  refine (read_segments_apart next fields).imp_of_mem ?_
  intro segment other member otherMember apart
  constructor
  · intro line found mentions
    rw [other.lines_code] at found
    exact apart.1
      (other.code.lines_mention language _ (plain other otherMember) line found _ mentions)
  · intro line found mentions
    rw [segment.lines_code] at found
    exact apart.2
      (segment.code.lines_mention language _ (plain segment member) line found _ mentions)

/-- Whether a line opens a guard. -/
def Line.isGuard (language : Language) (line : Line) : Bool :=
  line.text == Header.whenExhausted.text language

/-- Lines without guards, where a number of lines is still to be left out. A guard is left out
with all the lines that it consists of. -/
def withoutGuards (language : Language) : Nat → List Line → List Line
  | _, [] => []
  | left + 1, _ :: lines => withoutGuards language left lines
  | 0, line :: lines =>
    if line.isGuard language then
      withoutGuards language ((exhaustionGuard.lines language 0).length - 1) lines
    else line :: withoutGuards language 0 lines

/-- Lines of which none opens a guard stay. -/
theorem without_guards_kept (language : Language) (front back : List Line)
    (unguarded : ∀ line ∈ front, line.isGuard language = false) :
    withoutGuards language 0 (front ++ back) = front ++ withoutGuards language 0 back := by
  induction front with
  | nil => rfl
  | cons line front inductionHypothesis =>
    obtain ⟨first, others⟩ := List.forall_mem_cons.mp unguarded
    rw [List.cons_append, withoutGuards, first, inductionHypothesis others]
    rfl

/-- A guard is left out. -/
theorem without_guards_dropped (language : Language) (depth : Nat) (back : List Line) :
    withoutGuards language 0 (exhaustionGuard.lines language depth ++ back) =
      withoutGuards language 0 back := by
  cases language <;>
    simp [exhaustionGuard, Code.lines, withoutGuards, Line.isGuard, Language.closing]

/-- The temporary to which a statement of reading code gives something, or of which it makes
use first. -/
def Statement.target? : Statement → Option Temporary
  | readScalar _ result | readSize result | readMessage _ result => some result
  | makeCollection _ _ result _ | makeMap _ _ result _ => some result
  | insertElement _ result _ | insertEntry result _ _ => some result
  | _ => none

/-- The text of such a statement begins with the temporary. -/
theorem Statement.text_target (language : Language) (statement : Statement) (target : Temporary)
    (found : statement.target? = some target) :
    ∃ rest, (statement.text language).toList = target.text.toList ++ rest := by
  rw [text_fragments]
  cases statement with
  | makeCollection shape | insertElement shape =>
    cases found
    cases language <;> cases shape <;> exact ⟨_, rfl⟩
  | _ => cases found <;> cases language <;> exact ⟨_, rfl⟩

/-- A line that begins with another letter than a guard opens none. -/
theorem Line.unguarded (language : Language) (line : Line) (first : Char) (others : List Char)
    (text : line.text.toList = first :: others) (different : first ≠ 'i') :
    line.isGuard language = false := by
  have guard : ∃ rest, (Header.whenExhausted.text language).toList = 'i' :: rest := by
    cases language <;> exact ⟨_, rfl⟩
  obtain ⟨rest, guard⟩ := guard
  rw [isGuard, beq_eq_false_iff_ne]
  intro same
  rw [same, guard] at text
  exact different (List.cons.inj text).1.symm

/-- A statement that begins with a result or a size opens no guard. -/
theorem Statement.unguarded (language : Language) (depth : Nat) (statement : Statement)
    (target : Temporary) (found : statement.target? = some target)
    (role : target.role = .result ∨ target.role = .size) :
    (Line.mk depth (statement.text language)).isGuard language = false := by
  obtain ⟨rest, text⟩ := statement.text_target language target found
  obtain ⟨kind, number⟩ := target
  rcases role with rfl | rfl
  · exact Line.unguarded language _ 'r' _ (text.trans (by simp [Temporary.text, Role.word]; rfl))
      (by decide)
  · exact Line.unguarded language _ 's' _ (text.trans (by simp [Temporary.text, Role.word]; rfl))
      (by decide)

/-- The first line of a counted loop opens no guard. -/
theorem Header.loop_unguarded (language : Language) (depth : Nat) (index size : Temporary) :
    (Line.mk depth ((Header.forIndex index size).text language)).isGuard language = false := by
  have text : ∃ rest, ((Header.forIndex index size).text language).toList = 'f' :: rest := by
    rw [text_fragments]
    cases language <;> exact ⟨_, rfl⟩
  obtain ⟨rest, text⟩ := text
  exact Line.unguarded language _ 'f' rest text (by decide)

/-- The lines that close a block open no guard. -/
theorem closing_unguarded (language : Language) (depth : Nat) :
    ∀ line ∈ language.closing depth, line.isGuard language = false := by
  cases language with
  | go =>
    have bracket : (Line.mk depth "\x7d").isGuard .go = false :=
      Line.unguarded .go (Line.mk depth "\x7d") '\x7d' [] (by simp) (by decide)
    simpa [Language.closing] using bracket
  | python => simp [Language.closing]

/-- Reading a value needs no guard. -/
theorem Kind.read_code_unguarded (language : Language) (kind : Kind) (next depth : Nat) :
    ∀ line ∈ (kind.readCode next).lines language depth, line.isGuard language = false := by
  induction kind generalizing next depth with
  | scalar base | message reference =>
    simp only [readCode, Code.lines, List.forall_mem_cons, List.not_mem_nil, false_implies,
      implies_true, and_true]
    exact Statement.unguarded language depth _ ⟨.result, next⟩ rfl (Or.inl rfl)
  | collection shape element inductionHypothesis =>
    have inner := inductionHypothesis (next + 3) (depth + 1)
    have closing := closing_unguarded language depth
    have loop := Header.loop_unguarded language depth ⟨.index, next + 2⟩ ⟨.size, next⟩
    simp only [readCode, Code.lines, Code.lines_append, List.cons_append, List.append_nil,
      List.forall_mem_cons, List.forall_mem_append, List.not_mem_nil, false_implies,
      implies_true, and_true]
    refine ⟨?_, ?_, loop, ⟨inner, ?_⟩, closing⟩
    · exact Statement.unguarded language depth _ ⟨.size, next⟩ rfl (Or.inr rfl)
    · exact Statement.unguarded language depth _ ⟨.result, next + 1⟩ rfl (Or.inl rfl)
    · exact Statement.unguarded language _ _ ⟨.result, next + 1⟩ rfl (Or.inl rfl)
  | map key value keyHypothesis valueHypothesis =>
    have keyInner := keyHypothesis (next + 3) (depth + 1)
    have valueInner := valueHypothesis (next + 3 + key.readTemporaries) (depth + 1)
    have closing := closing_unguarded language depth
    have loop := Header.loop_unguarded language depth ⟨.index, next + 2⟩ ⟨.size, next⟩
    simp only [readCode, Code.lines, Code.lines_append, List.cons_append, List.append_nil,
      List.forall_mem_cons, List.forall_mem_append, List.not_mem_nil, false_implies,
      implies_true, and_true]
    refine ⟨?_, ?_, loop, ⟨keyInner, valueInner, ?_⟩, closing⟩
    · exact Statement.unguarded language depth _ ⟨.size, next⟩ rfl (Or.inr rfl)
    · exact Statement.unguarded language depth _ ⟨.result, next + 1⟩ rfl (Or.inl rfl)
    · exact Statement.unguarded language _ _ ⟨.result, next + 1⟩ rfl (Or.inl rfl)

/-- A field as if it had been there from the first layout on. -/
def Field.unflagged (field : Field) : Field :=
  { field with appended := false }

/-- A message as if all its fields had been there from the first layout on. -/
def Message.unflagged (message : Message) : Message :=
  { message with fields := message.fields.map Field.unflagged }

/-- Without their guards, the lines that read fields are those of the fields without flags. -/
theorem read_fields_without_guards (language : Language) (depth next : Nat) (fields : List Field) :
    withoutGuards language 0 ((readFields next fields).lines language depth) =
      (readFields next (fields.map Field.unflagged)).lines language depth := by
  induction fields generalizing next with
  | nil => rfl
  | cons field fields inductionHypothesis =>
    obtain ⟨behind, text⟩ : ∃ behind, ((Statement.assignField field.name
        (field.kind.readResult next)).text language).toList = 'p' :: behind := by
      rw [Statement.text_fragments]
      exact ⟨_, rfl⟩
    have assignment := Line.unguarded language (Line.mk depth _) 'p' behind text (by decide)
    obtain ⟨body, same⟩ : ∃ body, body = field.kind.readCode next ++
      .line (.assignField field.name (field.kind.readResult next)) .done := ⟨_, rfl⟩
    have flagged : field.readCode next =
        (if field.appended then exhaustionGuard else .done) ++ body := same ▸ rfl
    have unflagged : field.unflagged.readCode next = body := same ▸ rfl
    have value : ∀ line ∈ body.lines language depth, line.isGuard language = false := by
      rw [same, Code.lines_append, List.forall_mem_append]
      refine ⟨field.kind.read_code_unguarded language next depth, ?_⟩
      simp only [Code.lines, List.forall_mem_cons, List.not_mem_nil, false_implies, implies_true,
        and_true]
      exact assignment
    have rest := without_guards_kept language (body.lines language depth)
      ((readFields (next + field.kind.readTemporaries) fields).lines language depth) value
    rw [inductionHypothesis] at rest
    rw [List.map_cons, readFields, readFields, flagged, unflagged, Code.lines_append,
      Code.lines_append, Code.lines_append, List.append_assoc]
    change withoutGuards language 0 (_ ++ (_ ++ _)) = _ ++
      (readFields (next + field.kind.readTemporaries) _).lines language depth
    cases field.appended with
    | false => exact rest
    | true =>
      rw [if_pos rfl, without_guards_dropped]
      exact rest

/-- Lines put together in many parts. -/
theorem render_lines_flatten (language : Language) (parts : List (List Line)) :
    renderLines language parts.flatten = String.join (parts.map (renderLines language)) := by
  induction parts with
  | nil => rfl
  | cons part parts inductionHypothesis =>
    rw [List.flatten_cons, render_lines_append, inductionHypothesis, List.map_cons,
      String.join_cons]

/-- The segments that write fields, with the number of the first temporary. -/
def writeSegments (language : Language) (next : Nat) : List Field → List (List Line)
  | [] => []
  | field :: fields =>
    (field.writeCode next).lines language language.layout.bodyDepth ::
      writeSegments language (next + field.kind.writeTemporaries) fields

/-- The segments make up the code that writes the fields. -/
theorem write_segments_lines (language : Language) (next : Nat) (fields : List Field) :
    (writeFields next fields).lines language language.layout.bodyDepth =
      (writeSegments language next fields).flatten := by
  induction fields generalizing next with
  | nil => rfl
  | cons field fields inductionHypothesis =>
    rw [writeFields, Code.lines_append, inductionHypothesis, writeSegments, List.flatten_cons]

/-- Each segment that writes mentions the field that it is for, among fields of different names,
and no other. -/
theorem write_segments_mention (language : Language) (next : Nat) (fields all : List Field)
    (names : ∀ field ∈ fields, Name.isIdentifier field.name = true)
    (distinct : ∀ field ∈ fields, ∀ other ∈ all, other.name = field.name → other = field) :
    List.Forall₂ (fun field segment =>
      ∀ other ∈ all, (∃ line ∈ segment, other.name ∈ line.fields) ↔ other = field)
      fields (writeSegments language next fields) := by
  induction fields generalizing next with
  | nil => exact .nil
  | cons field fields inductionHypothesis =>
    rw [List.forall_mem_cons] at names distinct
    refine .cons (fun other member => ?_) (inductionHypothesis _ names.2 distinct.2)
    rw [field.write_code_mentions language next _ names.1]
    exact ⟨distinct.1 other member, fun same => same ▸ rfl⟩

/-- What the blocks of a message are made of. -/
structure Message.InOrder (language : Language) (message : Message) : Prop where
  /-- The definition block has one segment for each field, in order: the comments of the field
  and then its declaration. -/
  defined : ∃ segments : List (List Line),
    (message.definitionEmitter language).code =
      String.join (segments.map (renderLines language)) ∧
    List.Forall₂ (fun field segment => segment =
      commentLines language language.layout.bodyDepth field.docs ++
        [⟨language.layout.bodyDepth, field.declaration language (field.kind.typeName language)⟩])
      message.fields segments
  /-- The write block has one segment for each field, in order. A segment mentions its field and
  no other field of the message. -/
  written : ∃ segments : List (List Line),
    (message.writeEmitter language).code = String.join (segments.map (renderLines language)) ∧
    List.Forall₂ (fun field segment =>
      ∀ other ∈ message.fields, (∃ line ∈ segment, other.name ∈ line.fields) ↔ other = field)
      message.fields segments
  /-- The read block has one segment for each field, in order: a guard if the field is appended,
  the reading of a value, and its assignment to the field. The temporaries with the values are
  apart from the other segments, in their code, and in their lines if messages are named by
  identifiers. -/
  read : ∃ segments : List ReadSegment,
    (message.readEmitter language).code =
      String.join (segments.map fun segment => renderLines language (segment.lines language)) ∧
    List.Forall₂ (fun field segment => ReadSegment.Serves segment field) message.fields segments ∧
    segments.Pairwise ReadSegment.Apart ∧
    ((∀ field ∈ message.fields, field.kind.NamesIdentifiers) →
      segments.Pairwise (ReadSegment.ApartIn language))
  /-- Without its guards, the read block is that of the message without flags. -/
  unguarded : renderLines language (withoutGuards language 0 (message.readEmitter language).lines) =
    (message.unflagged.readEmitter language).code
  /-- Messages that differ in flags only have one definition block and one write block. -/
  flagless : ∀ other : Message, other.unflagged = message.unflagged →
    (other.definitionEmitter language).code = (message.definitionEmitter language).code ∧
      (other.writeEmitter language).code = (message.writeEmitter language).code

/-- Fields of different names are told apart by their names. -/
theorem fields_named_apart (fields : List Field)
    (distinct : fields.Pairwise fun field other => field.name ≠ other.name) :
    ∀ field ∈ fields, ∀ other ∈ fields, other.name = field.name → other = field := by
  intro field member other otherMember same
  have nodup : (fields.map Field.name).Nodup := by
    rw [List.Nodup, List.pairwise_map]
    exact distinct
  exact List.inj_on_of_nodup_map nodup otherMember member same

/-- Writing is the same for fields that differ in flags only. -/
theorem write_fields_unflagged (next : Nat) (fields : List Field) :
    writeFields next (fields.map Field.unflagged) = writeFields next fields := by
  induction fields generalizing next with
  | nil => rfl
  | cons field fields inductionHypothesis =>
    rw [List.map_cons, writeFields, writeFields, inductionHypothesis]
    rfl

/-- Declarations are the same for fields that differ in flags only. -/
theorem Message.definition_lines_unflagged (language : Language) (message : Message) :
    message.unflagged.definitionLines language = message.definitionLines language := by
  rw [definitionLines, unflagged, List.flatMap_map]
  rfl

/-- The blocks of a message whose fields have different identifiers as names consist of one
segment for each field, in order. -/
theorem blocks_in_order (language : Language) (message : Message)
    (names : ∀ field ∈ message.fields, Name.isIdentifier field.name = true)
    (distinct : message.fields.Pairwise fun field other => field.name ≠ other.name) :
    message.InOrder language := by
  constructor
  case defined =>
    refine ⟨message.fields.map fun field =>
      commentLines language language.layout.bodyDepth field.docs ++
        [⟨language.layout.bodyDepth, field.declaration language (field.kind.typeName language)⟩],
      ?_, ?_⟩
    · rw [message.definition_emitter_code, ← render_lines_flatten]
      rfl
    · rw [List.forall₂_map_right_iff]
      exact List.forall₂_same.mpr fun _ _ => rfl
  case written =>
    refine ⟨writeSegments language 0 message.fields, ?_, ?_⟩
    · rw [message.write_emitter_code, Message.writeLines, write_segments_lines,
        render_lines_flatten]
    · exact write_segments_mention language 0 message.fields message.fields names
        (fields_named_apart message.fields distinct)
  case read =>
    refine ⟨readSegments 0 message.fields, ?_, read_segments_serve 0 message.fields,
      read_segments_apart 0 message.fields,
      read_segments_apart_in language 0 message.fields names⟩
    rw [message.read_emitter_code, Message.readLines, read_segments_lines, List.flatMap,
      render_lines_flatten, List.map_map]
    rfl
  case unguarded =>
    obtain ⟨_, lines⟩ := Emitter.read_fields_exact (Emitter.new language) message.fields
    rw [message.unflagged.read_emitter_code, Message.readLines, Message.unflagged,
      ← read_fields_without_guards]
    exact congrArg (fun lines => renderLines language (withoutGuards language 0 lines)) lines
  case flagless =>
    intro other same
    have writing := congrArg (fun message => writeFields 0 message.fields) same
    simp only [Message.unflagged, write_fields_unflagged] at writing
    have defining := congrArg (Message.definitionLines language) same
    simp only [Message.definition_lines_unflagged] at defining
    rw [other.definition_emitter_code, message.definition_emitter_code, defining,
      other.write_emitter_code, message.write_emitter_code, Message.writeLines,
      Message.writeLines, writing]
    exact ⟨rfl, rfl⟩

/-- A message with an appended field that refers to another message. -/
def parcelMessage : Message :=
  { id := 4, name := "parcel", docs := ["A parcel on its way."]
    fields := [
      { name := "weight", kind := .scalar .double, appended := false, docs := ["In kilograms."] },
      { name := "stops", kind := .collection .list (.message ⟨2, "Stop"⟩), appended := true,
        docs := [] }] }

/-- The blocks of a message with an appended field, in both target languages. -/
theorem blocks_in_order_parcel :
    ((∀ field ∈ parcelMessage.fields, Name.isIdentifier field.name = true) ∧
      parcelMessage.fields.Pairwise fun field other => field.name ≠ other.name) ∧
    parcelMessage.InOrder .go ∧ parcelMessage.InOrder .python := by
  have names : ∀ field ∈ parcelMessage.fields, Name.isIdentifier field.name = true := by
    simp only [parcelMessage, List.forall_mem_cons]
    decide
  have distinct : parcelMessage.fields.Pairwise fun field other => field.name ≠ other.name := by
    simp [parcelMessage]
  exact ⟨⟨names, distinct⟩, blocks_in_order .go parcelMessage names distinct,
    blocks_in_order .python parcelMessage names distinct⟩

end PacketSmith
