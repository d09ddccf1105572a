import PacketSmith.Proofs.Name
import PacketSmith.Proofs.Text.Search
import PacketSmith.Target.TypeName

/-!
# The texts of types

A name of letters and digits has no box, no namespace and no blanks around it, so that the
type it stands for is the type of a scalar or the name itself. The type of a kind is
built from such names with brackets, stars, commas and blanks, and never holds a dot or a
line end.
-/

namespace PacketSmith

/-- The messages referred to in a kind, in the order in which their types are written. -/
def Kind.references : Kind → List Reference
  | .scalar _ => []
  | .collection _ element => element.references
  | .map key value => key.references ++ value.references
  | .message reference => [reference]

/-- Whether every message that a kind refers to is named by an identifier. -/
def Kind.NamesIdentifiers (kind : Kind) : Prop :=
  ∀ reference ∈ kind.references, Name.isIdentifier reference.name = true

namespace TypeName

/-- Letters and digits are no blanks. -/
theorem alphanumeric_not_blank (character : Char) (alphanumeric : character.isAlphanum = true) :
    Text.isBlank character = false := by
  have checked : character.isAlphanum = true → Text.isBlank character = false :=
    Name.ascii_property (fun c => c.isAlphanum = true → Text.isBlank c = false)
      (by decide +kernel) character (Name.alphanumeric_ascii character alphanumeric)
  exact checked alphanumeric

/-- A name of letters and digits is bare: there is nothing to strip. -/
theorem stripped_bare (name : List Char)
    (alphanumeric : ∀ character ∈ name, character.isAlphanum = true) : stripped name = name := by
  have lacks : ∀ mark : Char, mark.isAlphanum = false → mark ∉ name := by
    intro mark foreign member
    simp [alphanumeric mark member] at foreign
  have trimmed : Text.trim name = name := by
    apply Text.trim_unchanged
    · exact fun character first =>
        alphanumeric_not_blank character (alphanumeric character (List.mem_of_mem_head? first))
    · exact fun character last =>
        alphanumeric_not_blank character (alphanumeric character (List.mem_of_getLast? last))
  have unboxed : unboxed? name = none := by
    simp [unboxed?, Text.after_prefix_absent ['B', 'o', 'x', '<'] name '<' (by simp)
      (lacks '<' (by decide))]
  have unboxedAll : unboxedAll name.length name = name := by
    cases name.length <;> simp [unboxedAll, unboxed]
  rw [stripped, trimmed, unboxedAll, unqualified,
    Text.after_last_absent [':', ':'] name ':' (by simp) (lacks ':' (by decide)),
    Text.after_last_absent ['.'] name '.' (by simp) (lacks '.' (by decide))]

end TypeName

/-- A name of letters and digits stands for the type of a scalar or for itself. -/
theorem map_type_bare (language : Language) (name : String)
    (alphanumeric : ∀ character ∈ name.toList, character.isAlphanum = true) :
    mapType language name = name ∨
      ∃ scalar : Scalar, mapType language name = scalar.typeName language := by
  simp only [mapType, TypeName.stripped_bare name.toList alphanumeric, String.ofList_toList]
  cases Scalar.ofAlias? name with
  | none => exact Or.inl rfl
  | some scalar => exact Or.inr ⟨scalar, rfl⟩

/-- The types of scalars hold letters and digits only. -/
theorem Scalar.type_name_characters (language : Language) (scalar : Scalar) :
    ∀ character ∈ (scalar.typeName language).toList, character.isAlphanum = true := by
  apply List.all_eq_true.mp
  cases language <;> cases scalar <;> decide

/-- The type of a message that is named by an identifier holds letters and digits only. -/
theorem Reference.type_name_characters (language : Language) (reference : Reference)
    (identifier : Name.isIdentifier reference.name = true) :
    ∀ character ∈ (reference.typeName language).toList, character.isAlphanum = true := by
  have pascal := Name.pascal_characters reference.name identifier
  rcases map_type_bare language (Name.pascal reference.name) pascal with same | ⟨scalar, same⟩
  · rw [Reference.typeName, same]
    exact pascal
  · rw [Reference.typeName, same]
    exact scalar.type_name_characters language

/-- Whether a character can stand in the type of a kind. -/
def isTypeCharacter (character : Char) : Bool :=
  character.isAlphanum || ['[', ']', '*', ',', ' '].contains character

/-- A text of letters and digits can stand in the type of a kind. -/
theorem alphanumeric_type_text (text : String)
    (alphanumeric : ∀ character ∈ text.toList, character.isAlphanum = true) :
    text.toList.all isTypeCharacter = true := by
  rw [List.all_eq_true]
  intro character member
  simp [isTypeCharacter, alphanumeric character member]

/-- The type of a kind holds letters, digits and the signs of collections, maps and pointers
only, whatever is nested in it. -/
theorem Kind.type_name_characters (language : Language) (kind : Kind)
    (named : kind.NamesIdentifiers) :
    (kind.typeName language).toList.all isTypeCharacter = true := by
  induction kind with
  | scalar base => exact alphanumeric_type_text _ (base.type_name_characters language)
  | collection shape element inductionHypothesis =>
    have inner := inductionHypothesis named
    cases language <;> cases shape <;>
      (simp only [Kind.typeName, String.toList_append, List.all_append, inner]; rfl)
  | map key value keyHypothesis valueHypothesis =>
    have keyType := keyHypothesis fun reference member =>
      named reference (List.mem_append_left _ member)
    have valueType := valueHypothesis fun reference member =>
      named reference (List.mem_append_right _ member)
    cases language <;>
      (simp only [Kind.typeName, String.toList_append, List.all_append, keyType, valueType]; rfl)
  | message reference =>
    have target := alphanumeric_type_text _
      (reference.type_name_characters language (named reference List.mem_cons_self))
    cases language with
    | go =>
      simp only [Kind.typeName, String.toList_append, List.all_append, target]
      rfl
    | python => exact target

end PacketSmith
