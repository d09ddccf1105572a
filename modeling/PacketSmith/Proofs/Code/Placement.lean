import Mathlib.Data.List.DropRight
import PacketSmith.Proofs.Code.Growth

/-!
# Blocks in their places

A block is put into a template behind the indentation of its place, without the indentation of its
first line and without its last line end. Where both indentations are the same, the lines in the
file are those of the block, but for blanks at the end of the last line.
-/

namespace PacketSmith

open Text (BeginsSolid EndsSolid)

/-- Two texts that begin with something other than a blank are the same behind blanks only if they
are the same. -/
theorem Text.padded_cancel (padding other text back : String)
    (blank : ∀ character ∈ padding.toList, isBlank character = true)
    (otherBlank : ∀ character ∈ other.toList, isBlank character = true)
    (begins : BeginsSolid text) (otherBegins : BeginsSolid back)
    (same : padding ++ text = other ++ back) : text = back := by
  have dropped (front behind : String)
      (blank : ∀ character ∈ front.toList, isBlank character = true)
      (begins : BeginsSolid behind) :
      (front ++ behind).toList.dropWhile isBlank = behind.toList := by
    obtain ⟨first, member, solid⟩ := begins
    rw [String.toList_append, List.dropWhile_append_of_pos blank]
    apply drop_while_unchanged
    intro character head
    rwa [Option.mem_unique head member]
  rw [← String.toList_inj, ← dropped padding text blank begins, same,
    dropped other back otherBlank otherBegins]

/-- Trimming framed lines takes off the indentation of the first line and the last line end. -/
theorem Framed.trimmed_first {line : Line} {lines : List Line} (framed : Framed (line :: lines))
    (language : Language) :
    Text.trimmed (renderLines language (line :: lines)) ++ "\n" =
      line.text ++ "\n" ++ renderLines language lines := by
  obtain ⟨depth, rendered, begins, _⟩ := framed.trimmed language
  obtain ⟨first, member, firstBegins⟩ := framed.first
  obtain rfl : line = first := by simpa using member
  have blank (depth : Nat) := fun character member =>
    (indentation_class language depth character member).1
  have whole : renderLines language (line :: lines) =
      repeated language.layout.indent line.depth ++
        (line.text ++ "\n" ++ renderLines language lines) := by
    simp [renderLines, Line.render, String.append_assoc]
  refine Text.padded_cancel _ _ _ _ (blank depth) (blank line.depth) (begins.append _)
    ((firstBegins.append _).append _) ?_
  rw [← rendered, ← whole]

/-- Framed lines in a block are the lines of its text, but for the indentation of the first. -/
theorem Block.finish_lines (language : Language) (block : Block) {line : Line} {lines : List Line}
    (framed : Framed (line :: lines)) :
    block.finish language (line :: lines) ++ "\n" =
      renderLines language (⟨0, line.text⟩ :: lines) := by
  rw [block.finish_framed language _ framed, framed.trimmed_first language]
  simp [renderLines, Line.render, repeated]

/-- Behind the indentation of its first line a block is its lines as they are. -/
theorem Block.finish_placed (language : Language) (block : Block) {line : Line} {lines : List Line}
    (framed : Framed (line :: lines)) :
    repeated language.layout.indent line.depth ++ block.finish language (line :: lines) ++ "\n" =
      renderLines language (line :: lines) := by
  rw [String.append_assoc, block.finish_lines language framed]
  simp [renderLines, Line.render, repeated, String.append_assoc]

/-- A text with something other than a blank ends so without the blanks at its end. -/
theorem Text.trimmed_right_split (text : String)
    (something : ∃ character ∈ text.toList, isBlank character = false) :
    EndsSolid (trimmedRight text) ∧ ∃ padding : String, text = trimmedRight text ++ padding ∧
      ∀ character ∈ padding.toList, isBlank character = true := by
  have front : (trimmedRight text).toList = text.toList.rdropWhile isBlank :=
    String.toList_ofList
  constructor
  · have inhabited : text.toList.rdropWhile isBlank ≠ [] := by
      intro nothing
      obtain ⟨character, member, solid⟩ := something
      have blank := List.rdropWhile_eq_nil_iff.mp nothing character member
      exact absurd (solid.symm.trans blank) (by decide)
    refine ⟨_, ?_, eq_false_of_ne_true (List.rdropWhile_last_not isBlank text.toList inhabited)⟩
    rw [front]
    exact List.getLast?_eq_some_getLast inhabited
  · refine ⟨String.ofList (text.toList.rtakeWhile isBlank), ?_, fun character member => ?_⟩
    · rw [← String.toList_inj, String.toList_append, front, String.toList_ofList,
        List.rdropWhile_append_rtakeWhile]
    · rw [String.toList_ofList] at member
      exact List.mem_rtakeWhile_imp member

/-- A text begins as before without the blanks at its end. -/
theorem Text.trimmed_right_begins (text : String) (begins : BeginsSolid text) :
    BeginsSolid (trimmedRight text) := by
  obtain ⟨first, member, solid⟩ := begins
  obtain ⟨⟨last, lastMember, _⟩, padding, whole, _⟩ :=
    trimmed_right_split text ⟨first, List.mem_of_head? member, solid⟩
  have inhabited : (trimmedRight text).toList ≠ [] :=
    List.ne_nil_of_mem (List.mem_of_getLast? lastMember)
  rw [whole, String.toList_append, List.head?_append_of_ne_nil _ inhabited] at member
  exact ⟨first, member, solid⟩

/-- Blanks behind framed lines change nothing in a block. -/
theorem Block.finish_padded (language : Language) (block : Block) {front : List Line}
    {depth : Nat} {text : String} (framed : Framed (front ++ [⟨depth, text⟩])) (padding : String)
    (blank : ∀ character ∈ padding.toList, Text.isBlank character = true) :
    block.finish language (front ++ [⟨depth, text ++ padding⟩]) =
      block.finish language (front ++ [⟨depth, text⟩]) := by
  obtain ⟨indentation, code, rendered, begins, ends⟩ := framed.render language
  have behind : ∀ character ∈ (padding ++ "\n").toList, Text.isBlank character = true := by
    intro character member
    rcases List.mem_append.mp (String.toList_append ▸ member) with padded | ended
    · exact blank character padded
    · exact Text.line_end_blank character ended
  have last (text : String) : renderLines language (front ++ [⟨depth, text⟩]) =
      renderLines language front ++ repeated language.layout.indent depth ++ text ++ "\n" := by
    simp [render_lines_append, renderLines, Line.render, String.append_assoc]
  have same : renderLines language front ++ repeated language.layout.indent depth ++ text =
      repeated language.layout.indent indentation ++ code := by
    rw [last, ← String.append_assoc] at rendered
    have characters := congrArg String.toList rendered
    rw [String.toList_append, String.toList_append (s := _ ++ code)] at characters
    exact String.toList_inj.mp (List.append_cancel_right characters)
  have padded : renderLines language (front ++ [⟨depth, text ++ padding⟩]) =
      repeated language.layout.indent indentation ++ (code ++ (padding ++ "\n")) := by
    rw [last, ← String.append_assoc, same]
    simp only [String.append_assoc]
  have indents := fun character member =>
    (indentation_class language indentation character member).1
  have trimmed : Text.trimmed (renderLines language (front ++ [⟨depth, text ++ padding⟩])) =
      Text.trimmed (renderLines language (front ++ [⟨depth, text⟩])) := by
    rw [padded, rendered, Text.trimmed_padded _ _ _ indents behind begins ends,
      Text.trimmed_padded _ _ _ indents Text.line_end_blank begins ends]
  rw [finish, finish, trimmed]

end PacketSmith
