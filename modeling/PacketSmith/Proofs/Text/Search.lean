import PacketSmith.Text.Blank
import PacketSmith.Text.Search

/-!
# Texts that hold a mark, and texts that do not

A beginning is found exactly where a text starts with it. A mark with a character that the
text lacks is nowhere in the text, so that cutting at the mark leaves the text whole, and a
text without blanks has nothing to trim.
-/

namespace PacketSmith.Text

/-- A beginning is found exactly where a text starts with it. -/
theorem after_prefix_iff (mark text rest : List Char) :
    afterPrefix? mark text = some rest ↔ text = mark ++ rest := by
  induction mark generalizing text with
  | nil => simp [afterPrefix?, eq_comm]
  | cons expected mark inductionHypothesis =>
    cases text with
    | nil => simp [afterPrefix?]
    | cons character text =>
      by_cases same : expected = character
      · simp [afterPrefix?, same, inductionHypothesis]
      · simp [afterPrefix?, same, Ne.symm same]

/-- What stands behind a beginning is found. -/
theorem after_prefix_append (mark rest : List Char) :
    afterPrefix? mark (mark ++ rest) = some rest :=
  (after_prefix_iff mark (mark ++ rest) rest).mpr rfl

/-- A text does not start with a mark of which it lacks a character. -/
theorem after_prefix_absent (mark text : List Char) (character : Char) (needed : character ∈ mark)
    (absent : character ∉ text) : afterPrefix? mark text = none := by
  cases found : afterPrefix? mark text with
  | none => rfl
  | some rest =>
    rw [after_prefix_iff] at found
    exact absurd (found ▸ List.mem_append_left rest needed) absent

/-- A mark of which a text lacks a character stands nowhere in it. -/
theorem cut_absent (mark text : List Char) (character : Char) (needed : character ∈ mark)
    (absent : character ∉ text) : cutAt? mark text = none := by
  induction text with
  | nil =>
    have inhabited : mark ≠ [] := List.ne_nil_of_mem needed
    simp [cutAt?, inhabited]
  | cons first text inductionHypothesis =>
    have later : character ∉ text := fun member => absent (List.mem_cons_of_mem first member)
    simp [cutAt?, after_prefix_absent mark (first :: text) character needed absent,
      inductionHypothesis later]

/-- A text is cut at the first place of a mark, which is the first one of its first character. -/
theorem cut_behind (front back marks : List Char) (mark : Char) (absent : mark ∉ front) :
    cutAt? (mark :: marks) (front ++ mark :: (marks ++ back)) = some (front, back) := by
  induction front with
  | nil =>
    have found : afterPrefix? (mark :: marks) (mark :: (marks ++ back)) = some back :=
      after_prefix_append (mark :: marks) back
    rw [List.nil_append, cutAt?, found]
  | cons first front inductionHypothesis =>
    obtain ⟨different, absent⟩ : ¬ mark = first ∧ mark ∉ front := by simpa using absent
    simp [cutAt?, afterPrefix?, different, inductionHypothesis absent]

/-- A text is not cut exactly if the mark stands nowhere in it. -/
theorem cut_none_iff (mark text : List Char) : cutAt? mark text = none ↔ ¬ mark <:+: text := by
  induction text with
  | nil => cases mark <;> simp [cutAt?]
  | cons character text inductionHypothesis =>
    have begins_iff : mark <+: character :: text ↔
        ∃ rest, afterPrefix? mark (character :: text) = some rest :=
      ⟨fun ⟨rest, whole⟩ => ⟨rest, (after_prefix_iff _ _ _).mpr whole.symm⟩,
        fun ⟨rest, found⟩ => ⟨rest, ((after_prefix_iff _ _ _).mp found).symm⟩⟩
    rw [List.infix_cons_iff, not_or, ← inductionHypothesis, begins_iff, cutAt?]
    cases afterPrefix? mark (character :: text) <;> simp

/-- Cutting a text loses nothing of it. -/
theorem cut_whole (mark text before after : List Char)
    (cut : cutAt? mark text = some (before, after)) : text = before ++ (mark ++ after) := by
  induction text generalizing before with
  | nil =>
    rw [cutAt?] at cut
    split at cut
    · rename_i nothing
      cases cut
      simpa using nothing
    · cases cut
  | cons character text inductionHypothesis =>
    rw [cutAt?] at cut
    split at cut
    · rename_i rest found
      cases cut
      exact (after_prefix_iff mark _ _).mp found
    · obtain ⟨⟨front, rest⟩, found, same⟩ := Option.map_eq_some_iff.mp cut
      cases same
      rw [inductionHypothesis front found, List.cons_append]

/-- Nothing is behind a mark of which a text lacks a character: the text stays whole. -/
theorem after_last_absent (mark text : List Char) (character : Char) (needed : character ∈ mark)
    (absent : character ∉ text) : afterLast mark text = text := by
  cases text with
  | nil => rfl
  | cons first text =>
    have later : character ∉ text := fun member => absent (List.mem_cons_of_mem first member)
    simp [afterLast, after_prefix_absent mark (first :: text) character needed absent,
      cut_absent mark text character needed later]

/-- What is behind the last place of a mark does not depend on what is in front of another one. -/
theorem after_last_front (mark front text : List Char) (held : mark <:+: text) :
    afterLast mark (front ++ text) = afterLast mark text := by
  induction front with
  | nil => rfl
  | cons character front inductionHypothesis =>
    have later : cutAt? mark (front ++ text) ≠ none := by
      rw [ne_eq, cut_none_iff, Classical.not_not]
      exact held.trans (List.suffix_append front text).isInfix
    obtain ⟨parts, cut⟩ := Option.ne_none_iff_exists'.mp later
    rw [List.cons_append, afterLast, cut]
    exact inductionHypothesis

/-- A text in which a mark does not stand is behind the last place of the mark. -/
theorem after_last_whole (mark text : List Char) (absent : ¬ mark <:+: text) :
    afterLast mark text = text := by
  cases text with
  | nil => rfl
  | cons character text =>
    have nowhere := (cut_none_iff mark _).mpr absent
    rw [cutAt?] at nowhere
    rw [afterLast]
    cases begins : afterPrefix? mark (character :: text) with
    | some rest => simp [begins] at nowhere
    | none =>
      have later : cutAt? mark text = none := by simpa [begins] using nowhere
      simp [later]

/-- What is behind a mark is behind its last place, if the mark does not stand further back. -/
theorem after_last_behind (mark : Char) (marks front text : List Char)
    (absent : ¬ mark :: marks <:+: marks ++ text) :
    afterLast (mark :: marks) (front ++ (mark :: marks ++ text)) = text := by
  rw [after_last_front _ _ _ (List.prefix_append _ _).isInfix, List.cons_append, afterLast,
    (cut_none_iff _ _).mpr absent, ← List.cons_append, after_prefix_append]

/-- What is behind the last place of a mark is so behind another one in front, if no place of the
mark begins inside of that one. -/
theorem after_last_again (mark : Char) (marks front text : List Char)
    (apart : mark :: marks <:+: marks ++ text → mark :: marks <:+: text) :
    afterLast (mark :: marks) (front ++ (mark :: marks ++ text)) =
      afterLast (mark :: marks) text := by
  by_cases held : mark :: marks <:+: text
  · rw [← List.append_assoc, after_last_front _ _ _ held]
  · rw [after_last_behind mark marks front text fun further => held (apart further),
      after_last_whole _ text held]

/-- A mark does not begin in front of its first character. -/
theorem infix_behind (mark : Char) (marks front text : List Char) (absent : mark ∉ front)
    (held : mark :: marks <:+: front ++ text) : mark :: marks <:+: text := by
  induction front with
  | nil => exact held
  | cons first front inductionHypothesis =>
    obtain ⟨different, absent⟩ : mark ≠ first ∧ mark ∉ front := by simpa using absent
    rcases List.infix_cons_iff.mp held with begins | later
    · exact absurd (List.cons_prefix_cons.mp begins).1 different
    · exact inductionHypothesis absent later

/-- Dropping a class from the front of a text that does not begin with it changes nothing. -/
theorem drop_while_unchanged (drops : Char → Bool) (text : List Char)
    (kept : ∀ character ∈ text.head?, drops character = false) : text.dropWhile drops = text := by
  cases text with
  | nil => rfl
  | cons first text => simp [kept first rfl]

/-- A text with no blank at either end has nothing to trim. -/
theorem trim_unchanged (text : List Char)
    (front : ∀ character ∈ text.head?, isBlank character = false)
    (back : ∀ character ∈ text.getLast?, isBlank character = false) : trim text = text := by
  have reversed : ∀ character ∈ text.reverse.head?, isBlank character = false := by
    simpa [List.head?_reverse] using back
  rw [trim, trimLeft, drop_while_unchanged isBlank text front, trimRight,
    drop_while_unchanged isBlank text.reverse reversed, List.reverse_reverse]

end PacketSmith.Text
