import PacketSmith.Code
import PacketSmith.Proofs.Text.Split

/-!
# Reading lines back

The lines of a code text can be read from the text alone: it is cut at its line ends, and
the blanks in front of a line, counted in levels of indentation, are its depth. Rendering
loses nothing: lines that hold no line end and do not begin with blanks are read back as they
were.
-/

namespace PacketSmith

/-- Whether a character indents lines. -/
def isIndentation (character : Char) : Bool :=
  character == ' ' || character == '\t'

/-- The line that a text without line ends is. -/
def Line.read (language : Language) (text : List Char) : Line :=
  ⟨(text.takeWhile isIndentation).length / language.layout.indent.toList.length,
    String.ofList (text.dropWhile isIndentation)⟩

/-- The lines of a code text. What stands behind the last line end is no line. -/
def linesOf (language : Language) (code : String) : List Line :=
  (Text.splitWhere (fun character => character == '\n') code.toList).dropLast.map
    (Line.read language)

/-- Whether a line can be told from its neighbours and from its indentation. -/
def Line.IsPlain (line : Line) : Prop :=
  '\n' ∉ line.text.toList ∧ ∀ character ∈ line.text.toList.head?, isIndentation character = false

/-- A repeated text is as often as long. -/
theorem repeated_length (text : String) (count : Nat) :
    (repeated text count).toList.length = count * text.toList.length := by
  induction count with
  | zero => simp [repeated]
  | succ count inductionHypothesis =>
    simp only [repeated, String.toList_append, List.length_append, inductionHypothesis,
      Nat.succ_mul]
    omega

/-- A repeated text holds only characters of the text. -/
theorem repeated_members (text : String) (count : Nat) :
    ∀ character ∈ (repeated text count).toList, character ∈ text.toList := by
  induction count with
  | zero => simp [repeated]
  | succ count inductionHypothesis =>
    intro character member
    simp only [repeated, String.toList_append, List.mem_append] at member
    rcases member with member | member
    · exact member
    · exact inductionHypothesis character member

/-- Every level of indentation is made of characters that indent, and of one at least. -/
theorem indent_characters (language : Language) :
    (∀ character ∈ language.layout.indent.toList, isIndentation character = true) ∧
      0 < language.layout.indent.toList.length := by
  cases language <;> exact ⟨List.all_eq_true.mp (by decide), by decide⟩

/-- Text behind a run of a class that does not begin with the class ends the run. -/
theorem take_run (taken : Char → Bool) (run text : List Char)
    (inside : ∀ character ∈ run, taken character = true)
    (outside : ∀ character ∈ text.head?, taken character = false) :
    (run ++ text).takeWhile taken = run ∧ (run ++ text).dropWhile taken = text := by
  rw [List.takeWhile_append_of_pos inside, List.dropWhile_append_of_pos inside]
  cases text with
  | nil => simp
  | cons first text => simp [outside first rfl]

/-- A plain line is read back from its text without the line end. -/
theorem Line.read_render (language : Language) (line : Line) (plain : line.IsPlain) :
    Line.read language ((repeated language.layout.indent line.depth).toList ++ line.text.toList) =
      line := by
  obtain ⟨indenting, positive⟩ := indent_characters language
  have inside : ∀ character ∈ (repeated language.layout.indent line.depth).toList,
      isIndentation character = true := fun character member =>
    indenting character (repeated_members _ _ character member)
  obtain ⟨taken, dropped⟩ := take_run isIndentation _ line.text.toList inside plain.2
  simp [Line.read, taken, dropped, repeated_length, Nat.mul_div_cancel _ positive]

/-- Lines put together are read back, provided that each of them is plain. -/
theorem lines_of_render (language : Language) (lines : List Line)
    (plain : ∀ line ∈ lines, line.IsPlain) :
    linesOf language (renderLines language lines) = lines := by
  induction lines with
  | nil => simp [linesOf, renderLines, Text.splitWhere]
  | cons line lines inductionHypothesis =>
    have first : line.IsPlain := plain line List.mem_cons_self
    have others : linesOf language (renderLines language lines) = lines :=
      inductionHypothesis fun other member => plain other (List.mem_cons_of_mem line member)
    have whole : ∀ character ∈
        (repeated language.layout.indent line.depth).toList ++ line.text.toList,
        (character == '\n') = false := by
      intro character member
      rcases List.mem_append.mp member with indents | stands
      · have indenting := (indent_characters language).1 character
          (repeated_members _ _ character indents)
        rw [beq_eq_false_iff_ne]
        rintro rfl
        exact absurd indenting (by decide)
      · rw [beq_eq_false_iff_ne]
        rintro rfl
        exact first.1 stands
    have text : (renderLines language (line :: lines)).toList =
        ((repeated language.layout.indent line.depth).toList ++ line.text.toList) ++
          '\n' :: (renderLines language lines).toList := by
      simp [renderLines, Line.render]
    obtain ⟨piece, pieces, split⟩ := List.exists_cons_of_ne_nil
      (Text.split_where_nonempty (fun character => character == '\n')
        (renderLines language lines).toList)
    simp only [linesOf, split] at others
    rw [linesOf, text, Text.split_where_append _ _ _ '\n' (by decide),
      Text.split_where_whole _ _ whole, split]
    simp only [List.singleton_append, List.dropLast_cons_cons, List.map_cons, others,
      Line.read_render language line first]

/-- Lines put together in two parts. -/
theorem render_lines_append (language : Language) (front back : List Line) :
    renderLines language (front ++ back) =
      renderLines language front ++ renderLines language back := by
  induction front with
  | nil => simp [renderLines]
  | cons line front inductionHypothesis =>
    simp [renderLines, inductionHypothesis, String.append_assoc]

end PacketSmith
