import PacketSmith.Text.Search

/-!
# Cutting texts into pieces

`Text.splitWhere` cuts a text at the characters of a class. It is the standard splitting of
lists, so that its laws are theirs: the pieces hold no separator and nothing that was not in
the text, a text without separators is its only piece, and a separator between two texts
separates their pieces.
-/

namespace PacketSmith.Text

/-- Cutting a text is the splitting of a list by a predicate. The accumulated form of the
library and the recursion of `splitWhere` put the next character in front of the same piece. -/
theorem split_where_standard (separates : Char → Bool) (text : List Char) :
    splitWhere separates text = text.splitOnP separates := by
  induction text with
  | nil => rfl
  | cons character text inductionHypothesis =>
    obtain ⟨piece, pieces, split⟩ :=
      List.exists_cons_of_ne_nil (List.splitOnP_ne_nil separates text)
    rw [List.splitOnP_cons_eq_if_modifyHead, splitWhere, inductionHypothesis, split]
    rfl

/-- There is always a first piece, if only an empty one. -/
theorem split_where_nonempty (separates : Char → Bool) (text : List Char) :
    splitWhere separates text ≠ [] := by
  rw [split_where_standard]
  exact List.splitOnP_ne_nil separates text

/-- A separator between two texts separates their pieces. -/
theorem split_where_append (separates : Char → Bool) (front back : List Char) (mark : Char)
    (separator : separates mark = true) :
    splitWhere separates (front ++ mark :: back) =
      splitWhere separates front ++ splitWhere separates back := by
  simp only [split_where_standard]
  exact List.splitOnP_append_cons front back separator

/-- A text without separators is its only piece. -/
theorem split_where_whole (separates : Char → Bool) (text : List Char)
    (whole : ∀ character ∈ text, separates character = false) :
    splitWhere separates text = [text] := by
  rw [split_where_standard]
  exact List.splitOnP_eq_singleton fun character member => by simp [whole character member]

/-- A piece holds characters of the text and no separators. -/
theorem split_where_members (separates : Char → Bool) (text : List Char) :
    ∀ piece ∈ splitWhere separates text, ∀ character ∈ piece,
      character ∈ text ∧ separates character = false := by
  induction text with
  | nil => simp [splitWhere]
  | cons first text inductionHypothesis =>
    obtain ⟨piece, pieces, split⟩ :=
      List.exists_cons_of_ne_nil (split_where_nonempty separates text)
    have inside : ∀ other ∈ piece :: pieces, ∀ character ∈ other,
        character ∈ first :: text ∧ separates character = false := by
      intro other member character held
      obtain ⟨stands, apart⟩ := inductionHypothesis other (split ▸ member) character held
      exact ⟨List.mem_cons_of_mem first stands, apart⟩
    intro other member character held
    simp only [splitWhere, split] at member
    split at member
    · rcases List.mem_cons.mp member with rfl | member
      · simp at held
      · exact inside other member character held
    · rename_i kept
      rcases List.mem_cons.mp member with rfl | member
      · rcases List.mem_cons.mp held with rfl | held
        · exact ⟨List.mem_cons_self, by simpa using kept⟩
        · exact inside piece List.mem_cons_self character held
      · exact inside other (List.mem_cons_of_mem piece member) character held

end PacketSmith.Text
