import Mathlib.Data.List.DropRight
import PacketSmith.Proofs.Code.Growth

/-!
# Comments and the lines between them

A text of documentation is put behind the mark of a comment as it is, without the blanks at its end.
What stands in it behind a line end therefore begins a line of its own, which is a comment only if
it begins with the mark itself. Of lines behind documentation, those that are no comments are their
own text and, in front of it, such lines of the documentation.
-/

namespace PacketSmith

open Text (BeginsSolid)

/-! ## Lines that are no comments -/

/-- The lines of a text. -/
def textLines (text : List Char) : List (List Char) :=
  Text.splitWhere (fun character => character == '\n') text

/-- Whether the first characters of a line, but for blanks, are the mark of a comment. -/
def isCommentLine (language : Language) (line : List Char) : Bool :=
  language.layout.comment.toList.isPrefixOf (Text.trimLeft line)

/-- The lines of a text that are no comments. -/
def codeLines (language : Language) (text : String) : List (List Char) :=
  (textLines text.toList).filter fun line => !isCommentLine language line

/-- A line end between two texts separates their lines. -/
theorem code_lines_append (language : Language) (front back : String) :
    codeLines language (front ++ "\n" ++ back) =
      codeLines language front ++ codeLines language back := by
  have text : (front ++ "\n" ++ back).toList = front.toList ++ '\n' :: back.toList := by simp
  rw [codeLines, text, textLines, Text.split_where_append _ _ _ '\n' (by decide),
    List.filter_append]
  rfl

/-- A text on one line that is no comment is its only line of code. -/
theorem code_lines_single (language : Language) (text : String) (oneLine : '\n' ∉ text.toList)
    (code : isCommentLine language text.toList = false) :
    codeLines language text = [text.toList] := by
  have whole : ∀ character ∈ text.toList, (character == '\n') = false := by
    intro character member
    refine beq_eq_false_iff_ne.mpr ?_
    rintro rfl
    exact oneLine member
  rw [codeLines, textLines, Text.split_where_whole _ _ whole]
  simp [code]

/-- The lines of a text behind lines. -/
theorem code_lines_text (language : Language) (lines : List String) (back : String) :
    codeLines language (Template.Bundled.text lines ++ back) =
      lines.flatMap (codeLines language) ++ codeLines language back := by
  induction lines with
  | nil => simp [Template.Bundled.text]
  | cons line lines inductionHypothesis =>
    rw [Template.Bundled.text, String.append_assoc, code_lines_append, inductionHypothesis,
      List.flatMap_cons, List.append_assoc]

/-- The lines of a text behind code. -/
theorem code_lines_render (language : Language) (lines : List Line) (back : String) :
    codeLines language (renderLines language lines ++ back) =
      lines.flatMap (fun line => codeLines language
        (repeated language.layout.indent line.depth ++ line.text)) ++ codeLines language back := by
  induction lines with
  | nil => simp [renderLines]
  | cons line lines inductionHypothesis =>
    rw [renderLines, Line.render, String.append_assoc, code_lines_append, inductionHypothesis,
      List.flatMap_cons, List.append_assoc]

/-! ## Texts of documentation -/

/-- The lines of a text of documentation that do not become comments. -/
def leakedLines (language : Language) (doc : String) : List (List Char) :=
  (textLines (Text.trimRight doc.toList)).tail.filter fun line => !isCommentLine language line

/-- Whether the lines of a text of documentation behind the first one begin with the mark of a
comment themselves. -/
def IsHarmless (language : Language) (doc : String) : Prop :=
  ∀ line ∈ (textLines (Text.trimRight doc.toList)).tail, isCommentLine language line = true

instance (language : Language) (doc : String) : Decidable (IsHarmless language doc) :=
  inferInstanceAs (Decidable (∀ line ∈ _, isCommentLine language line = true))

/-- Harmless texts are those of which no line becomes code. -/
theorem harmless_iff (language : Language) (doc : String) :
    IsHarmless language doc ↔ leakedLines language doc = [] := by
  simp [IsHarmless, leakedLines, List.filter_eq_nil_iff]

/-- A text of one line is harmless. -/
theorem harmless_line (language : Language) (doc : String) (single : '\n' ∉ doc.toList) :
    IsHarmless language doc := by
  have whole : textLines (Text.trimRight doc.toList) = [Text.trimRight doc.toList] := by
    refine Text.split_where_whole _ _ fun character member => ?_
    have held : character ∈ doc.toList :=
      (List.rdropWhile_prefix Text.isBlank _).subset member
    rw [beq_eq_false_iff_ne]
    rintro rfl
    exact single held
  rw [IsHarmless, whole]
  exact List.forall_mem_nil _

/-- The mark of a comment has neither blanks nor line ends. -/
theorem comment_mark (language : Language) :
    language.layout.comment.toList ≠ [] ∧ ∀ character ∈ language.layout.comment.toList,
      Text.isBlank character = false ∧ (character == '\n') = false := by
  have solid : language.layout.comment.toList.all (fun character =>
      !Text.isBlank character && character != '\n') = true := by
    cases language <;> decide
  refine ⟨by cases language <;> decide, fun character member => ?_⟩
  simpa using List.all_eq_true.mp solid character member

/-- A line with the mark of a comment behind indentation is a comment. -/
theorem mark_is_comment (language : Language) (depth : Nat) (text : List Char) :
    isCommentLine language ((repeated language.layout.indent depth).toList ++
      language.layout.comment.toList ++ text) = true := by
  obtain ⟨inhabited, mark⟩ := comment_mark language
  have blank := fun character member => (indentation_class language depth character member).1
  rw [isCommentLine, Text.trimLeft, List.append_assoc, List.dropWhile_append_of_pos blank,
    Text.drop_while_unchanged Text.isBlank, List.isPrefixOf_iff_prefix]
  · exact List.prefix_append _ _
  · intro character member
    rw [List.head?_append_of_ne_nil _ inhabited] at member
    exact (mark character (List.mem_of_head? member)).1

/-- What stands behind the mark of a comment becomes code from its second line on. -/
theorem behind_mark_code (language : Language) (depth : Nat) (text : String) :
    codeLines language (repeated language.layout.indent depth ++
        (language.layout.comment ++ text)) =
      (textLines text.toList).tail.filter fun line => !isCommentLine language line := by
  have whole : ∀ character ∈ (repeated language.layout.indent depth).toList ++
      language.layout.comment.toList, (character == '\n') = false := by
    intro character member
    rcases List.mem_append.mp member with indents | marks
    · exact (indentation_class language depth character indents).2.2
    · exact ((comment_mark language).2 character marks).2
  obtain ⟨first, others, split⟩ := List.exists_cons_of_ne_nil
    (Text.split_where_nonempty (fun character => character == '\n') text.toList)
  have comment := mark_is_comment language depth first
  rw [codeLines, String.toList_append, String.toList_append, ← List.append_assoc, textLines,
    Text.split_where_front _ _ _ whole, textLines, split, List.modifyHead_cons,
    List.filter_cons_of_neg (by simpa using comment), List.tail_cons]

/-- Of a comment, what is code are the leaked lines. -/
theorem comment_code (language : Language) (depth : Nat) (doc : String) :
    codeLines language (repeated language.layout.indent depth ++ commentText language doc) =
      leakedLines language doc := by
  rw [commentText, leakedLines]
  split
  case isTrue blank =>
    have nothing : Text.trimRight doc.toList = [] :=
      List.rdropWhile_eq_nil_iff.mpr (List.all_eq_true.mp blank)
    have mark := behind_mark_code language depth ""
    rw [String.append_empty] at mark
    rw [mark, nothing]
    rfl
  case isFalse something =>
    rw [String.append_assoc, behind_mark_code, String.toList_append, textLines,
      Text.split_where_front _ " ".toList _ (by simp), List.tail_modifyHead, Text.trimmedRight,
      String.toList_ofList, textLines]

/-! ## Passages -/

/-- Code of a file behind texts of documentation. -/
structure Passage where
  /-- The texts of documentation. -/
  docs : List String
  /-- The lines behind them that are no comments. -/
  code : List (List Char)

/-- The lines of a passage that are no comments. -/
def Passage.lines (language : Language) (passage : Passage) : List (List Char) :=
  passage.docs.flatMap (leakedLines language) ++ passage.code

/-- Whether passages are those of documented text: they hold the lines of the text that are no
comments, with only their code left if the text has no documentation. -/
structure AreCut (language : Language) (passages : List Passage) (text bare : List (List Char))
    (docs : List String) : Prop where
  /-- The lines of the text. -/
  documented : text = passages.flatMap (Passage.lines language)
  /-- The lines of the text without documentation. -/
  bare : bare = passages.flatMap Passage.code
  /-- The documentation. -/
  docs : docs = passages.flatMap Passage.docs

/-- Texts of passages one behind the other. -/
theorem AreCut.append {language : Language} {passages others : List Passage}
    {text bare further furtherBare : List (List Char)} {docs furtherDocs : List String}
    (cut : AreCut language passages text bare docs)
    (also : AreCut language others further furtherBare furtherDocs) :
    AreCut language (passages ++ others) (text ++ further) (bare ++ furtherBare)
      (docs ++ furtherDocs) := by
  obtain ⟨rfl, rfl, rfl⟩ := cut
  obtain ⟨rfl, rfl, rfl⟩ := also
  constructor <;> rw [List.flatMap_append]

/-- Text without documentation is a passage. -/
theorem AreCut.plain (language : Language) (code : List (List Char)) :
    AreCut language [⟨[], code⟩] code code [] := by
  constructor <;> simp [Passage.lines]

/-- The lines of all passages are those of their code exactly if no documentation leaks. -/
theorem Passage.lines_iff (language : Language) (passages : List Passage) :
    passages.flatMap (lines language) = passages.flatMap code ↔
      ∀ doc ∈ passages.flatMap docs, leakedLines language doc = [] := by
  induction passages with
  | nil => simp
  | cons passage passages inductionHypothesis =>
    have shorter (passages : List Passage) :
        (passages.flatMap code).length ≤ (passages.flatMap (lines language)).length := by
      induction passages with
      | nil => simp
      | cons passage passages inductionHypothesis =>
        simp only [List.flatMap_cons, List.length_append, lines]
        omega
    rw [List.flatMap_cons, List.flatMap_cons, List.flatMap_cons, List.forall_mem_append,
      ← inductionHypothesis, lines, List.append_assoc]
    constructor
    · intro same
      have lengths := congrArg List.length same
      have rest := shorter passages
      simp only [List.length_append] at lengths
      have nothing : passage.docs.flatMap (leakedLines language) = [] :=
        List.length_eq_zero_iff.mp (by omega)
      refine ⟨List.flatMap_eq_nil_iff.mp nothing, ?_⟩
      rwa [nothing, List.nil_append, List.append_cancel_left_eq] at same
    · rintro ⟨nothing, same⟩
      rw [List.flatMap_eq_nil_iff.mpr nothing, List.nil_append, same]

/-! ## Lines behind documentation -/

/-- A text for a line behind texts of documentation. -/
structure Documented where
  /-- The documentation. -/
  docs : List String
  /-- The text. -/
  text : String

namespace Documented

variable (language : Language) (depth : Nat)

/-- The lines of texts behind documentation. -/
def lines (texts : List Documented) : List Line :=
  texts.flatMap fun documented =>
    commentLines language depth documented.docs ++ [⟨depth, documented.text⟩]

/-- The passage of a text behind documentation. -/
def passage (documented : Documented) : Passage :=
  ⟨documented.docs,
    codeLines language (repeated language.layout.indent depth ++ documented.text)⟩

/-- The lines of documented texts stand at one depth. -/
theorem lines_depth (texts : List Documented) :
    ∀ line ∈ lines language depth texts, line.depth = depth := by
  simp only [lines, List.mem_flatMap, List.mem_append, commentLines, List.mem_map,
    List.mem_singleton]
  rintro line ⟨documented, _, ⟨doc, _, rfl⟩ | rfl⟩ <;> rfl

/-- The lines of documented texts begin with something other than a blank if the first text
does. -/
theorem lines_begin (first : Documented) (texts : List Documented)
    (begins : BeginsSolid first.text) :
    ∃ line ∈ (lines language depth (first :: texts)).head?, BeginsSolid line.text := by
  rw [lines, List.flatMap_cons, List.append_assoc]
  exact comment_lines_begin language depth first.docs _ ⟨_, rfl, begins⟩

/-- The lines of documented texts that are no comments are those of their passages. -/
theorem lines_code (texts : List Documented) :
    (lines language depth texts).flatMap (fun line => codeLines language
        (repeated language.layout.indent line.depth ++ line.text)) =
      (texts.map (passage language depth)).flatMap (Passage.lines language) := by
  rw [lines, List.flatMap_assoc, List.flatMap_map]
  refine List.flatMap_congr fun documented _ => ?_
  rw [List.flatMap_append, commentLines, List.flatMap_map, List.flatMap_singleton]
  simp only [comment_code]
  rfl

end Documented

end PacketSmith
