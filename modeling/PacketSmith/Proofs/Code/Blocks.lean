import Mathlib.Data.List.Chain
import PacketSmith.Proofs.Code.Plain

/-!
# Blocks of lines

Where a block is can be read off the lines. In Go a line that ends in an opening brace opens a
block and a line with a closing brace alone closes one, so that the indentation of a line is the
number of blocks that are open around it. In Python a line that ends in a colon opens a block, the
lines of the block stand one level deeper, and a block ends where the indentation does. The lines of
code are in this order at any depth, however its blocks are nested.
-/

namespace PacketSmith

open Text (Fragment)

/-- The character with which lines that open a block end. -/
def Language.opening : Language → Char
  | go => '\x7b'
  | python => ':'

/-- Whether a line opens a block. -/
def Line.opens (language : Language) (line : Line) : Bool :=
  line.text.toList.getLast? == some language.opening

/-- Whether a line is a closing brace. -/
def Line.closes (line : Line) : Bool :=
  line.text == "\x7d"

/-! ## The ends of lines -/

/-- A text ends like the last of its parts. -/
theorem Text.Fragment.text_last (fragments : List Fragment) (fragment : Fragment)
    (last : fragments.getLast? = some fragment) (character : Char)
    (ends : fragment.text.getLast? = some character) :
    (fragments.flatMap Fragment.text).getLast? = some character := by
  obtain ⟨front, rfl⟩ := List.getLast?_eq_some_iff.mp last
  simp [List.flatMap_append, List.getLast?_append, ends]

/-- Headers open blocks. -/
theorem Header.text_opens (language : Language) (depth : Nat) (header : Header) :
    (Line.mk depth (header.text language)).opens language = true := by
  have last (text : String) (ends : text.toList.getLast? = some language.opening)
      (stands : (header.fragments language).getLast? = some (.fixed text)) :
      (Line.mk depth (header.text language)).opens language = true := by
    rw [Line.opens, beq_iff_eq, text_fragments]
    exact Fragment.text_last _ _ stands _ ends
  cases header with
  | forEachElement shape element container =>
    cases language with
    | go => cases shape <;> exact last " \x7b" (by decide) rfl
    | python => exact last " or ():" (by decide) rfl
  | forEachEntry key value container =>
    cases language with
    | go => exact last " \x7b" (by decide) rfl
    | python => exact last " or \x7b\x7d).items():" (by decide) rfl
  | forIndex index size =>
    cases language with
    | go => exact last "++ \x7b" (by decide) rfl
    | python => exact last "):" (by decide) rfl
  | whenExhausted =>
    cases language with
    | go => exact last "if !buffer.IsReadable() \x7b" (by decide) rfl
    | python => exact last "if not buffer.is_readable():" (by decide) rfl

/-- The name of a temporary ends in a digit. -/
theorem Temporary.text_last (temporary : Temporary) :
    ∃ digit, temporary.text.toList.getLast? = some digit ∧ digit.isDigit = true := by
  obtain ⟨inhabited, digits⟩ := number_characters temporary.number
  refine ⟨_, ?_, digits _ (List.getLast_mem inhabited)⟩
  rw [Temporary.text, String.toList_append, List.getLast?_append,
    List.getLast?_eq_some_getLast inhabited]
  rfl

/-- Statements open no blocks: they end in a bracket, in a word or in the name of a temporary. -/
theorem Statement.text_opens (language : Language) (depth : Nat) (statement : Statement) :
    (Line.mk depth (statement.text language)).opens language = false := by
  have last (fragment : Fragment) (character : Char)
      (stands : (statement.fragments language).getLast? = some fragment)
      (ends : fragment.text.getLast? = some character) (other : character ≠ language.opening) :
      (Line.mk depth (statement.text language)).opens language = false := by
    rw [Line.opens, text_fragments, Fragment.text_last _ _ stands _ ends]
    simpa using other
  have fixed (text : String) (character : Char)
      (stands : (statement.fragments language).getLast? = some (.fixed text))
      (ends : text.toList.getLast? = some character) (other : character ≠ language.opening) :=
    last (.fixed text) character stands ends other
  have named (temporary : Temporary)
      (stands : (statement.fragments language).getLast? = some (.run temporary.text.toList)) :
      (Line.mk depth (statement.text language)).opens language = false := by
    obtain ⟨digit, ends, isDigit⟩ := temporary.text_last
    refine last _ digit stands ends ?_
    rintro rfl
    revert isDigit
    cases language <;> decide
  cases statement with
  | writeScalar base value | writeMessage reference value =>
    cases language <;> exact fixed ")" ')' rfl (by decide) (by decide)
  | writeSize container =>
    cases language <;> exact fixed "))" ')' rfl (by decide) (by decide)
  | readScalar base result =>
    cases language <;> exact fixed "()" ')' rfl (by decide) (by decide)
  | readSize size =>
    cases language with
    | go => exact fixed " := buffer.ReadInt()" ')' rfl (by decide) (by decide)
    | python => exact fixed " = buffer.read_int()" ')' rfl (by decide) (by decide)
  | readMessage reference result =>
    cases language with
    | go => exact last (.phrase _ ')') ')' rfl (by simp [Fragment.text]) (by decide)
    | python => exact fixed ")" ')' rfl (by decide) (by decide)
  | makeCollection shape element result size =>
    cases language with
    | go => cases shape <;> exact fixed ")" ')' rfl (by decide) (by decide)
    | python =>
      cases shape with
      | array | list => exact fixed " = []" ']' rfl (by decide) (by decide)
      | set => exact fixed " = set()" ')' rfl (by decide) (by decide)
  | makeMap key value result size =>
    cases language with
    | go => exact fixed ")" ')' rfl (by decide) (by decide)
    | python => exact fixed " = \x7b\x7d" '\x7d' rfl (by decide) (by decide)
  | insertElement shape result item =>
    cases language with
    | go =>
      cases shape with
      | array | list => exact fixed ")" ')' rfl (by decide) (by decide)
      | set => exact fixed "] = true" 'e' rfl (by decide) (by decide)
    | python => cases shape <;> exact fixed ")" ')' rfl (by decide) (by decide)
  | insertEntry result key value | assignField field value => exact named value rfl
  | returnMessage => cases language <;> exact fixed "return packet" 't' rfl (by decide) (by decide)

/-- A line that begins with a word is no closing brace. -/
theorem Line.word_not_closing (depth : Nat) (text : String)
    (word : ∀ character ∈ text.toList.head?, Text.isWordCharacter character = true) :
    (Line.mk depth text).closes = false := by
  rw [closes, beq_eq_false_iff_ne]
  rintro rfl
  have brace := word '\x7d' (by decide)
  revert brace
  decide

/-- No statement is a closing brace. -/
theorem Statement.text_closes (language : Language) (depth : Nat) (statement : Statement)
    (plain : statement.IsPlain) : (Line.mk depth (statement.text language)).closes = false :=
  Line.word_not_closing depth _ (statement.text_head language plain)

/-- No header is a closing brace. -/
theorem Header.text_closes (language : Language) (depth : Nat) (header : Header)
    (plain : header.IsPlain) : (Line.mk depth (header.text language)).closes = false :=
  Line.word_not_closing depth _ (header.text_head language plain)

/-- No line of code stands outside of the code. -/
theorem Code.lines_depth (language : Language) (depth : Nat) (code : Code) :
    ∀ line ∈ code.lines language depth, depth ≤ line.depth := by
  induction code generalizing depth with
  | done => exact List.forall_mem_nil _
  | line statement rest inductionHypothesis =>
    exact List.forall_mem_cons.mpr ⟨Nat.le_refl _, inductionHypothesis depth⟩
  | block header body rest bodyHypothesis restHypothesis =>
    have closing : ∀ line ∈ language.closing depth, depth ≤ line.depth := by
      cases language <;> simp [Language.closing]
    have inner : ∀ line ∈ body.lines language (depth + 1), depth ≤ line.depth :=
      fun line member => Nat.le_of_succ_le (bodyHypothesis (depth + 1) line member)
    simp only [lines, List.cons_append, List.forall_mem_cons, List.forall_mem_append]
    exact ⟨Nat.le_refl _, ⟨inner, closing⟩, restHypothesis depth⟩

/-! ## Braces -/

/-- The number of blocks that lines open and do not close. -/
def nesting (lines : List Line) : Int :=
  (lines.countP (Line.opens .go) : Int) - lines.countP Line.closes

/-- Lines after lines open what both open. -/
@[simp] theorem nesting_append (front back : List Line) :
    nesting (front ++ back) = nesting front + nesting back := by
  simp only [nesting, List.countP_append]
  omega

/-- Whether the blocks of lines from a depth on are those that their indentation shows. -/
structure Braced (depth : Nat) (lines : List Line) : Prop where
  /-- In front of a line as many blocks are open as the line is indented. A closing brace is
  indented like the line that opens its block. -/
  indented : ∀ front line back, lines = front ++ line :: back →
    nesting front - (if line.closes then 1 else 0) = (line.depth : Int) - depth
  /-- In the end no block is open. -/
  balanced : nesting lines = 0

namespace Braced

/-- No lines open no blocks. -/
theorem nil (depth : Nat) : Braced depth [] :=
  ⟨fun front line back same => by simp at same, rfl⟩

/-- Lines after lines. -/
theorem append {depth : Nat} {lines others : List Line} (braced : Braced depth lines)
    (further : Braced depth others) : Braced depth (lines ++ others) := by
  constructor
  case balanced => rw [nesting_append, braced.balanced, further.balanced]; rfl
  case indented =>
    intro front line back same
    rcases List.append_eq_append_iff.mp same with ⟨behind, rfl, rest⟩ | ⟨inner, here, rest⟩
    · rw [nesting_append, braced.balanced, Int.zero_add]
      exact further.indented behind line back rest
    · rcases inner with _ | ⟨first, inner⟩
      · rw [List.append_nil] at here
        rw [← here, braced.balanced]
        have whole := further.indented [] line back rest.symm
        simpa [nesting] using whole
      · obtain ⟨rfl, -⟩ := List.cons.inj rest
        exact braced.indented front line inner here

/-- A line that neither opens nor closes a block. -/
theorem single {depth : Nat} {line : Line} (stands : line.depth = depth)
    (opens : line.opens .go = false) (closes : line.closes = false) : Braced depth [line] := by
  constructor
  case balanced => simp [nesting, opens, closes]
  case indented =>
    intro front other back same
    rcases front with _ | ⟨first, front⟩
    · obtain ⟨rfl, -⟩ := List.cons.inj same
      simp [nesting, closes, stands]
    · simp at same

/-- Lines in a block of their own. -/
theorem block {depth : Nat} {header : Line} {body : List Line} (stands : header.depth = depth)
    (opens : header.opens .go = true) (closes : header.closes = false)
    (braced : Braced (depth + 1) body) :
    Braced depth (header :: body ++ Language.go.closing depth) := by
  have brace : (Line.mk depth "\x7d").closes = true := by simp [Line.closes]
  have shut : (Line.mk depth "\x7d").opens .go = false := by simp [Line.opens, Language.opening]
  have opened : nesting [header] = 1 := by simp [nesting, opens, closes]
  have around : nesting (header :: body) = 1 := by
    rw [← List.singleton_append, nesting_append, opened, braced.balanced]
    rfl
  have closed : nesting [⟨depth, "\x7d"⟩] = -1 := by simp [nesting, brace, shut]
  constructor
  case balanced =>
    rw [nesting_append, around, Language.closing, closed]
    rfl
  case indented =>
    intro front line back same
    rcases List.append_eq_append_iff.mp same with ⟨behind, rfl, rest⟩ | ⟨inner, here, rest⟩
    · -- The line is the brace, behind the header and the body.
      rcases behind with _ | ⟨first, behind⟩
      · obtain ⟨rfl, -⟩ := List.cons.inj rest
        simp [around, brace]
      · simp [Language.closing] at rest
    · rcases front with _ | ⟨first, front⟩
      · rcases inner with _ | ⟨first, inner⟩
        · simp at here
        · obtain ⟨rfl, -⟩ := List.cons.inj rest
          obtain ⟨rfl, -⟩ := List.cons.inj here
          simp [nesting, closes, stands]
      · obtain ⟨rfl, within⟩ := List.cons.inj here
        rcases inner with _ | ⟨other, inner⟩
        · -- The line is the brace once more: nothing of the body is left.
          obtain ⟨rfl, -⟩ := List.cons.inj rest
          have whole : body = front := within.trans (List.append_nil front)
          rw [← whole]
          simp [around, brace]
        · obtain ⟨rfl, -⟩ := List.cons.inj rest
          have indented := braced.indented front line inner within
          rw [← List.singleton_append, nesting_append, opened]
          omega

end Braced

/-- The braces in the lines of plain code show its blocks. -/
theorem Code.lines_braced (depth : Nat) (code : Code) (plain : code.IsPlain) :
    Braced depth (code.lines .go depth) := by
  induction code generalizing depth with
  | done => exact .nil depth
  | line statement rest inductionHypothesis =>
    have first : Braced depth [⟨depth, statement.text .go⟩] :=
      .single rfl (statement.text_opens .go depth) (statement.text_closes .go depth plain.1)
    exact first.append (inductionHypothesis depth plain.2)
  | block header body rest bodyHypothesis restHypothesis =>
    have first := Braced.block rfl (header.text_opens .go depth)
      (header.text_closes .go depth plain.1) (bodyHypothesis (depth + 1) plain.2.1)
    exact first.append (restHypothesis depth plain.2.2)

/-! ## Indentation -/

/-- Whether a line may stand behind another one: deeper by one level if that opens a block, and
otherwise not deeper. -/
def Line.Continues (line next : Line) : Prop :=
  if line.opens .python then next.depth = line.depth + 1 else next.depth ≤ line.depth

/-- Whether the blocks of lines from a depth on are shown by their indentation. -/
structure Indented (depth : Nat) (lines : List Line) : Prop where
  /-- The first line stands at the depth. -/
  first : ∀ line ∈ lines.head?, line.depth = depth
  /-- No line stands outside. -/
  deep : ∀ line ∈ lines, depth ≤ line.depth
  /-- Every line may stand where it does. -/
  steps : lines.IsChain Line.Continues
  /-- The last line opens no block. -/
  ends : ∀ line ∈ lines.getLast?, line.opens .python = false

namespace Indented

/-- No lines are in order. -/
theorem nil (depth : Nat) : Indented depth [] :=
  ⟨by simp, List.forall_mem_nil _, List.isChain_nil, by simp⟩

/-- Lines after lines. Between them no block is open, and the second lines begin at the depth. -/
theorem append {depth : Nat} {lines others : List Line} (indented : Indented depth lines)
    (further : Indented depth others) : Indented depth (lines ++ others) := by
  constructor
  case first =>
    intro line head
    rw [List.head?_append] at head
    cases found : lines.head? with
    | none => exact further.first line (by simpa [found] using head)
    | some first =>
      obtain rfl : first = line := by simpa [found] using head
      exact indented.first first found
  case deep => exact List.forall_mem_append.mpr ⟨indented.deep, further.deep⟩
  case steps =>
    refine indented.steps.append further.steps fun last final next head => ?_
    rw [Line.Continues, indented.ends last final, further.first next head]
    exact indented.deep last (List.mem_of_getLast? final)
  case ends =>
    intro line last
    rw [List.getLast?_append] at last
    cases found : others.getLast? with
    | none => exact indented.ends line (by simpa [found] using last)
    | some final =>
      obtain rfl : final = line := by simpa [found] using last
      exact further.ends final found

/-- A line that opens no block. -/
theorem single {depth : Nat} {line : Line} (stands : line.depth = depth)
    (opens : line.opens .python = false) : Indented depth [line] :=
  ⟨by simpa using stands, by simp [stands], List.isChain_singleton _, by simpa using opens⟩

/-- Lines, of which there are some, in a block of their own. -/
theorem block {depth : Nat} {header : Line} {body : List Line} (stands : header.depth = depth)
    (opens : header.opens .python = true) (indented : Indented (depth + 1) body)
    (inhabited : body ≠ []) : Indented depth (header :: body) := by
  constructor
  case first => simpa using stands
  case deep =>
    exact List.forall_mem_cons.mpr ⟨stands.ge, fun line member =>
      Nat.le_of_succ_le (indented.deep line member)⟩
  case steps =>
    refine indented.steps.cons fun next head => ?_
    rw [Line.Continues, opens, indented.first next head, stands]
    rfl
  case ends =>
    obtain ⟨first, others, rfl⟩ := List.exists_cons_of_ne_nil inhabited
    rw [List.getLast?_cons_cons]
    exact indented.ends

end Indented

namespace Code

/-- Whether no block of a code is empty. -/
def IsFilled : Code → Prop
  | done => True
  | line _ rest => rest.IsFilled
  | block _ body rest => body ≠ done ∧ body.IsFilled ∧ rest.IsFilled

/-- Code after code has no empty block if both have none. -/
theorem filled_append (front back : Code) :
    (front ++ back).IsFilled ↔ front.IsFilled ∧ back.IsFilled := by
  induction front with
  | done => simp [IsFilled]
  | line statement rest inductionHypothesis => simp [IsFilled, inductionHypothesis]
  | block header body rest _ inductionHypothesis =>
    simp [IsFilled, inductionHypothesis, and_assoc]

/-- Code in front of other code is something if it is something. -/
theorem append_not_done (front back : Code) (something : front ≠ done) : front ++ back ≠ done := by
  cases front with
  | done => exact absurd rfl something
  | line statement rest => exact Code.noConfusion
  | block header body rest => exact Code.noConfusion

/-- Code that is something has lines. -/
theorem lines_inhabited (language : Language) (depth : Nat) (code : Code)
    (something : code ≠ done) : code.lines language depth ≠ [] := by
  cases code with
  | done => exact absurd rfl something
  | line statement rest => exact List.cons_ne_nil _ _
  | block header body rest => simp [lines]

/-- The indentation of the lines of code without empty blocks shows its blocks. -/
theorem lines_indented (depth : Nat) (code : Code) (filled : code.IsFilled) :
    Indented depth (code.lines .python depth) := by
  induction code generalizing depth with
  | done => exact .nil depth
  | line statement rest inductionHypothesis =>
    have first : Indented depth [⟨depth, statement.text .python⟩] :=
      .single rfl (statement.text_opens .python depth)
    exact first.append (inductionHypothesis depth filled)
  | block header body rest bodyHypothesis restHypothesis =>
    obtain ⟨something, bodyFilled, restFilled⟩ := filled
    have first := Indented.block rfl (header.text_opens .python depth)
      (bodyHypothesis (depth + 1) bodyFilled) (lines_inhabited .python _ body something)
    have whole := first.append (restHypothesis depth restFilled)
    simpa [lines, Language.closing] using whole

end Code

/-- Writing a value is something, and has no empty block. -/
theorem Kind.write_code_filled (kind : Kind) (value : Operand) (next : Nat) :
    kind.writeCode value next ≠ .done ∧ (kind.writeCode value next).IsFilled := by
  induction kind generalizing value next with
  | scalar base | message reference => exact ⟨Code.noConfusion, trivial⟩
  | collection shape element inductionHypothesis =>
    exact ⟨Code.noConfusion, (inductionHypothesis _ _).1, (inductionHypothesis _ _).2, trivial⟩
  | map key entry keyHypothesis entryHypothesis =>
    exact ⟨Code.noConfusion, Code.append_not_done _ _ (keyHypothesis _ _).1,
      (Code.filled_append _ _).mpr ⟨(keyHypothesis _ _).2, (entryHypothesis _ _).2⟩, trivial⟩

/-- Reading a value is something, and has no empty block. -/
theorem Kind.read_code_filled (kind : Kind) (next : Nat) :
    kind.readCode next ≠ .done ∧ (kind.readCode next).IsFilled := by
  induction kind generalizing next with
  | scalar base | message reference => exact ⟨Code.noConfusion, trivial⟩
  | collection shape element inductionHypothesis =>
    obtain ⟨something, filled⟩ := inductionHypothesis (next + 3)
    exact ⟨Code.noConfusion, Code.append_not_done _ _ something,
      (Code.filled_append _ _).mpr ⟨filled, trivial⟩, trivial⟩
  | map key entry keyHypothesis entryHypothesis =>
    obtain ⟨something, filled⟩ := keyHypothesis (next + 3)
    exact ⟨Code.noConfusion, Code.append_not_done _ _ something, (Code.filled_append _ _).mpr
      ⟨filled, (Code.filled_append _ _).mpr ⟨(entryHypothesis _).2, trivial⟩⟩, trivial⟩

/-- The code that writes fields has no empty block. -/
theorem write_fields_filled (next : Nat) (fields : List Field) :
    (writeFields next fields).IsFilled := by
  induction fields generalizing next with
  | nil => trivial
  | cons field fields inductionHypothesis =>
    exact (Code.filled_append _ _).mpr
      ⟨(field.kind.write_code_filled _ _).2, inductionHypothesis _⟩

/-- The code that reads fields has no empty block. -/
theorem read_fields_filled (next : Nat) (fields : List Field) :
    (readFields next fields).IsFilled := by
  induction fields generalizing next with
  | nil => trivial
  | cons field fields inductionHypothesis =>
    have guard : (if field.appended then exhaustionGuard else Code.done).IsFilled := by
      split
      · exact ⟨Code.noConfusion, trivial, trivial⟩
      · trivial
    have value := (field.kind.read_code_filled next).2
    simp only [readFields, Field.readCode, Code.filled_append]
    exact ⟨⟨guard, value, trivial⟩, inductionHypothesis _⟩

end PacketSmith
