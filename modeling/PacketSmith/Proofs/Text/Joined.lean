import PacketSmith.Proofs.Text.Search
import PacketSmith.Proofs.Text.Split

/-!
# Texts put together

Pieces with a text between each two of them begin like the first piece and end like the last
one. Cutting at a mark that the pieces lack gives them back, each behind what follows the mark
in the text between them. Trimming takes off blanks on both sides and nothing else.
-/

namespace PacketSmith.Text

/-- Trimming takes off what is blank on both sides. -/
theorem trim_padded (front middle back : List Char)
    (before : ∀ character ∈ front, isBlank character = true)
    (after : ∀ character ∈ back, isBlank character = true)
    (first : ∀ character ∈ middle.head?, isBlank character = false)
    (last : ∀ character ∈ middle.getLast?, isBlank character = false)
    (inhabited : middle ≠ []) : trim (front ++ (middle ++ back)) = middle := by
  have begins : ∀ character ∈ (middle ++ back).head?, isBlank character = false := by
    obtain ⟨initial, others, rfl⟩ := List.exists_cons_of_ne_nil inhabited
    exact first
  have left : trimLeft (front ++ (middle ++ back)) = middle ++ back := by
    rw [trimLeft, List.dropWhile_append_of_pos before]
    exact drop_while_unchanged isBlank _ begins
  have ends : ∀ character ∈ middle.reverse.head?, isBlank character = false := by
    rwa [List.head?_reverse]
  have padding : ∀ character ∈ back.reverse, isBlank character = true := by simpa using after
  rw [trim, left, trimRight, List.reverse_append, List.dropWhile_append_of_pos padding,
    drop_while_unchanged isBlank _ ends, List.reverse_reverse]

/-- Pieces put together begin like the first piece. -/
theorem join_head (between first : String) (pieces : List String) (inhabited : first ≠ "") :
    (joinWith between (first :: pieces)).toList.head? = first.toList.head? := by
  cases pieces with
  | nil => rfl
  | cons next pieces =>
    obtain ⟨initial, others, characters⟩ :=
      List.exists_cons_of_ne_nil (l := first.toList) (by simpa using inhabited)
    simp [joinWith, characters]

/-- A beginning without separators belongs to the first piece. -/
theorem split_where_front (separates : Char → Bool) (front text : List Char)
    (whole : ∀ character ∈ front, separates character = false) :
    splitWhere separates (front ++ text) =
      (splitWhere separates text).modifyHead (front ++ ·) := by
  induction front with
  | nil =>
    rw [List.nil_append]
    cases splitWhere separates text <;> rfl
  | cons character front inductionHypothesis =>
    obtain ⟨piece, pieces, split⟩ :=
      List.exists_cons_of_ne_nil (split_where_nonempty separates text)
    have others := inductionHypothesis fun other member =>
      whole other (List.mem_cons_of_mem character member)
    rw [List.cons_append, splitWhere, others, split]
    simp [whole character List.mem_cons_self]

/-- Cutting pieces apart at the mark between them, when nothing else has the mark. -/
theorem split_join (separates : Char → Bool) (mark : Char) (separator : separates mark = true)
    (padding : List Char) (unmarked : ∀ character ∈ padding, separates character = false)
    (first : String) (pieces : List String)
    (whole : ∀ piece ∈ first :: pieces, ∀ character ∈ piece.toList, separates character = false) :
    splitWhere separates (joinWith (String.ofList (mark :: padding)) (first :: pieces)).toList =
      first.toList :: pieces.map fun piece => padding ++ piece.toList := by
  have firstWhole := split_where_whole separates first.toList (whole first List.mem_cons_self)
  induction pieces generalizing first with
  | nil => simpa [joinWith] using firstWhole
  | cons next pieces inductionHypothesis =>
    have nextWhole := split_where_whole separates next.toList
      (whole next (List.mem_cons_of_mem first List.mem_cons_self))
    have others := inductionHypothesis next
      (fun piece member => whole piece (List.mem_cons_of_mem first member)) nextWhole
    have text : (joinWith (String.ofList (mark :: padding)) (first :: next :: pieces)).toList =
        first.toList ++ mark :: (padding ++
          (joinWith (String.ofList (mark :: padding)) (next :: pieces)).toList) := by
      simp [joinWith]
    rw [text, split_where_append separates _ _ mark separator, firstWhole,
      split_where_front separates padding _ unmarked, others]
    rfl

end PacketSmith.Text
