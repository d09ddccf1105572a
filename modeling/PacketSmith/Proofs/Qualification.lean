import Mathlib.Data.List.TakeWhile
import PacketSmith.Proofs.TypeName

/-!
# Boxes and namespaces around a name

A type can be written with boxes and blanks around it and with namespaces in front of its name.
None of this makes a difference to the type that is meant: what is stripped of a text depends on
what is inside its outermost box, and of a qualified name only the last part is left. What is left
is the type of a scalar if it is one of the scalar's names, and itself otherwise; and the types of
scalars, some of which are names of scalars again, mean themselves.
-/

namespace PacketSmith

namespace Text

/-- Blanks on both sides make no difference to a text that is trimmed. -/
theorem trim_around (front text back : List Char)
    (before : ∀ character ∈ front, isBlank character = true)
    (after : ∀ character ∈ back, isBlank character = true) :
    trim (front ++ (text ++ back)) = trim text := by
  have padding : ∀ character ∈ back.reverse, isBlank character = true := by simpa using after
  rw [trim, trim, trimLeft, trimLeft, List.dropWhile_append_of_pos before, List.dropWhile_append]
  split
  · rename_i nothing
    have blank : ∀ character ∈ text, isBlank character = true := by
      simpa [List.dropWhile_eq_nil_iff] using nothing
    rw [List.dropWhile_eq_nil_iff.mpr blank, List.dropWhile_eq_nil_iff.mpr after]
  · rw [trimRight, trimRight, List.reverse_append, List.dropWhile_append_of_pos padding]

/-- Trimming makes no text longer. -/
theorem trim_length (text : List Char) : (trim text).length ≤ text.length := by
  rw [trim, trimRight, List.length_reverse]
  have back := (List.dropWhile_sublist isBlank (l := (trimLeft text).reverse)).length_le
  rw [List.length_reverse] at back
  exact Nat.le_trans back (List.dropWhile_sublist isBlank).length_le

end Text

/-- Whether a text is a bare name: it has no blank and none of the signs of boxes and namespaces. -/
def TypeName.IsBare (name : String) : Prop :=
  ∀ character ∈ name.toList,
    Text.isBlank character = false ∧ character ∉ ['.', ':', '<', '>']

/-- What separates a namespace from what is in it. -/
inductive TypeName.Separator where
  | colons
  | dot

/-- The text of a separator. -/
def TypeName.Separator.text : Separator → String
  | colons => "::"
  | dot => "."

/-- The texts that name something in namespaces. -/
inductive TypeName.Qualifies (name : String) : String → Prop where
  /-- The name itself. -/
  | bare : Qualifies name name
  /-- A namespace in front. -/
  | inside (namespaceName : String) (separator : Separator) (text : String)
      (identifier : Name.isIdentifier namespaceName = true) (qualified : Qualifies name text) :
      Qualifies name (namespaceName ++ separator.text ++ text)

/-- The texts with a text in any number of boxes, with blanks around each of them. -/
inductive TypeName.Encloses (core : String) : String → Prop where
  /-- The text itself. -/
  | core : Encloses core core
  /-- A box around. -/
  | box (text : String) (enclosed : Encloses core text) : Encloses core ("Box<" ++ text ++ ">")
  /-- Blanks around. -/
  | blanks (before text after : String) (front : ∀ character ∈ before.toList,
      Text.isBlank character = true) (back : ∀ character ∈ after.toList,
      Text.isBlank character = true) (enclosed : Encloses core text) :
      Encloses core (before ++ text ++ after)

namespace TypeName

/-- The inside of a box. -/
theorem unboxed_box (text : List Char) :
    unboxed? (['B', 'o', 'x', '<'] ++ text ++ ['>']) = some text := by
  have opened : Text.afterPrefix? ['B', 'o', 'x', '<'] (['B', 'o', 'x', '<'] ++ text ++ ['>']) =
      some (text ++ ['>']) := by
    rw [List.append_assoc, Text.after_prefix_append]
  have closed : Text.beforeSuffix? ['>'] (text ++ ['>']) = some text := by
    simp [Text.beforeSuffix?, Text.afterPrefix?]
  rw [unboxed?, opened]
  exact closed

/-- The inside of a box is shorter than the box. -/
theorem unboxed_shorter (text inside : List Char) (unboxed : unboxed? text = some inside) :
    inside.length < text.length := by
  obtain ⟨opened, front, back⟩ := Option.bind_eq_some_iff.mp unboxed
  rw [Text.after_prefix_iff] at front
  obtain ⟨reversed, closed, rfl⟩ := Option.map_eq_some_iff.mp back
  rw [Text.after_prefix_iff] at closed
  have sizes := congrArg List.length closed
  simp only [List.length_reverse, List.length_append, List.length_cons, List.length_nil] at sizes
  rw [front, List.length_append, List.length_reverse]
  omega

/-- The length of a text bounds the number of boxes around it: more than that are never taken
off. -/
theorem unboxed_all_bound (text : List Char) (fuel other : Nat) (enough : text.length ≤ fuel)
    (otherEnough : text.length ≤ other) : unboxedAll fuel text = unboxedAll other text := by
  induction fuel generalizing text other with
  | zero =>
    obtain rfl : text = [] := by simpa using enough
    cases other <;> rfl
  | succ fuel inductionHypothesis =>
    cases unboxed : unboxed? text with
    | none => cases other <;> simp [unboxedAll, unboxed]
    | some inside =>
      have shorter := Nat.lt_of_le_of_lt (Text.trim_length inside)
        (unboxed_shorter text inside unboxed)
      cases other with
      | zero => omega
      | succ other =>
        simp only [unboxedAll, unboxed]
        exact inductionHypothesis _ other (by omega) (by omega)

/-- Blanks around a text make no difference to what it is stripped to. -/
theorem stripped_blanks (front text back : List Char)
    (before : ∀ character ∈ front, Text.isBlank character = true)
    (after : ∀ character ∈ back, Text.isBlank character = true) :
    stripped (front ++ (text ++ back)) = stripped text := by
  have shorter := Text.trim_length text
  rw [stripped, stripped, Text.trim_around front text back before after]
  apply congrArg unqualified
  apply unboxed_all_bound
  · simp only [List.length_append]
    omega
  · exact shorter

/-- A box around a text makes no difference to what it is stripped to. -/
theorem stripped_box (text : List Char) :
    stripped (['B', 'o', 'x', '<'] ++ text ++ ['>']) = stripped text := by
  have shorter := Text.trim_length text
  have trimmed : Text.trim (['B', 'o', 'x', '<'] ++ text ++ ['>']) =
      ['B', 'o', 'x', '<'] ++ text ++ ['>'] := by
    apply Text.trim_unchanged
    · intro character first
      obtain rfl : 'B' = character := by simpa using first
      decide
    · intro character last
      obtain rfl : '>' = character := by
        simpa only [List.getLast?_append, List.getLast?_singleton, Option.some_or,
          Option.mem_some_iff] using last
      decide
  have size : (['B', 'o', 'x', '<'] ++ text ++ ['>']).length = text.length + 4 + 1 := by simp
  rw [stripped, trimmed, size, unboxedAll, unboxed_box, stripped]
  apply congrArg unqualified
  apply unboxed_all_bound
  · omega
  · exact shorter

/-- What boxes and blanks enclose is stripped to what it is stripped to itself. -/
theorem Encloses.stripped {core text : String} (enclosed : Encloses core text) :
    TypeName.stripped text.toList = TypeName.stripped core.toList := by
  induction enclosed with
  | core => rfl
  | box text _ inductionHypothesis =>
    have box : ("Box<" ++ text ++ ">").toList = ['B', 'o', 'x', '<'] ++ text.toList ++ ['>'] := by
      simp
    rw [box, stripped_box, inductionHypothesis]
  | blanks before text after front back _ inductionHypothesis =>
    rw [String.toList_append, String.toList_append, List.append_assoc,
      stripped_blanks _ _ _ front back, inductionHypothesis]

/-- An identifier has none of the signs of boxes and namespaces, and no blank. -/
theorem identifier_bare (name : String) (identifier : Name.isIdentifier name = true) :
    IsBare name := by
  intro character member
  have subsequent := Name.identifier_characters name identifier character member
  constructor
  · rcases Bool.or_eq_true_iff.mp subsequent with alphanumeric | underscore
    · exact alphanumeric_not_blank character alphanumeric
    · obtain rfl : character = '_' := by simpa using underscore
      decide
  · intro sign
    have marks : character = '.' ∨ character = ':' ∨ character = '<' ∨ character = '>' := by
      simpa only [List.mem_cons, List.not_mem_nil, or_false] using sign
    rcases marks with rfl | rfl | rfl | rfl <;> cases subsequent

/-- What a name in namespaces is written with: no blank, no sign of a box, and no colon in
front. -/
theorem Qualifies.characters {name text : String} (bare : IsBare name)
    (qualified : Qualifies name text) :
    (∀ character ∈ text.toList, Text.isBlank character = false ∧ character ≠ '<') ∧
      text.toList.head? ≠ some ':' := by
  have clean : ∀ part : String, IsBare part →
      (∀ character ∈ part.toList, Text.isBlank character = false ∧ character ≠ '<') ∧
        ':' ∉ part.toList := by
    intro part partBare
    constructor
    · intro character member
      have foreign := (partBare character member).2
      exact ⟨(partBare character member).1, by rintro rfl; simp at foreign⟩
    · intro colon
      have foreign := (partBare ':' colon).2
      simp at foreign
  induction qualified with
  | bare =>
    obtain ⟨characters, colonless⟩ := clean name bare
    exact ⟨characters, fun first => colonless (List.mem_of_mem_head? first)⟩
  | inside namespaceName separator text identifier _ inductionHypothesis =>
    obtain ⟨characters, colonless⟩ := clean namespaceName (identifier_bare _ identifier)
    obtain ⟨first, others, written, _, _⟩ := Name.identifier_parts _ identifier
    have between : ∀ character ∈ separator.text.toList,
        Text.isBlank character = false ∧ character ≠ '<' := by
      cases separator <;> simp [Separator.text] <;> decide
    constructor
    · simp only [String.toList_append, List.mem_append]
      rintro character ((member | member) | member)
      · exact characters character member
      · exact between character member
      · exact inductionHypothesis.1 character member
    · intro colon
      obtain rfl : first = ':' := by simpa [written] using colon
      exact colonless (written ▸ List.mem_cons_self)

/-- A name in namespaces has no blanks around it and no boxes. -/
theorem Qualifies.stripped {name text : String} (bare : IsBare name)
    (qualified : Qualifies name text) :
    TypeName.stripped text.toList = unqualified text.toList := by
  obtain ⟨characters, _⟩ := qualified.characters bare
  have trimmed : Text.trim text.toList = text.toList := by
    apply Text.trim_unchanged
    · exact fun character first => (characters character (List.mem_of_mem_head? first)).1
    · exact fun character last => (characters character (List.mem_of_getLast? last)).1
  have unboxed : unboxed? text.toList = none := by
    simp [unboxed?, Text.after_prefix_absent ['B', 'o', 'x', '<'] text.toList '<' (by simp)
      fun sign => (characters '<' sign).2 rfl]
  rw [TypeName.stripped, trimmed]
  cases text.toList.length <;> simp [unboxedAll, unboxed]

/-- A namespace in front makes no difference to what is left of a qualified name.

Proof: behind two colons, both searches go on as they would without the namespace, because no
colons begin in front of the text. A dot is passed over by the first search, which finds two colons
behind it if at all, and then by the second. -/
theorem unqualified_inside (front text : List Char) (separator : Separator)
    (colonless : ':' ∉ front) (begins : text.head? ≠ some ':') :
    unqualified (front ++ separator.text.toList ++ text) = unqualified text := by
  rw [unqualified, unqualified]
  cases separator with
  | colons =>
    have apart : [':', ':'] <:+: [':'] ++ text → [':', ':'] <:+: text := by
      intro held
      rcases List.infix_cons_iff.mp held with atOnce | later
      · obtain ⟨rest, rfl⟩ := (List.cons_prefix_cons.mp atOnce).2
        exact absurd rfl begins
      · exact later
    have again := Text.after_last_again ':' [':'] front text apart
    rw [← List.append_assoc] at again
    exact congrArg (Text.afterLast ['.']) again
  | dot =>
    have again := Text.after_last_again '.' [] front text id
    by_cases held : [':', ':'] <:+: text
    · rw [Text.after_last_front _ _ _ held]
    · have absent : ¬ [':', ':'] <:+: front ++ ['.'] ++ text := by
        intro further
        refine held (Text.infix_behind ':' [':'] (front ++ ['.']) text ?_ further)
        simpa using colonless
      have whole : Text.afterLast [':', ':'] (front ++ Separator.dot.text.toList ++ text) =
          front ++ ['.'] ++ text := Text.after_last_whole _ _ absent
      rw [whole, Text.after_last_whole _ text held, List.append_assoc]
      exact again

/-- What is left of a qualified name is the name. -/
theorem Qualifies.unqualified {name text : String} (bare : IsBare name)
    (qualified : Qualifies name text) : TypeName.unqualified text.toList = name.toList := by
  induction qualified with
  | bare =>
    have lacks : ∀ mark ∈ ['.', ':', '<', '>'], mark ∉ name.toList :=
      fun mark sign member => (bare mark member).2 sign
    rw [TypeName.unqualified,
      Text.after_last_absent [':', ':'] name.toList ':' (by simp) (lacks ':' (by simp)),
      Text.after_last_absent ['.'] name.toList '.' (by simp) (lacks '.' (by simp))]
  | inside namespaceName separator text identifier qualified inductionHypothesis =>
    have colonless : ':' ∉ namespaceName.toList := by
      intro colon
      have foreign := (identifier_bare _ identifier ':' colon).2
      simp at foreign
    rw [String.toList_append, String.toList_append,
      unqualified_inside _ _ _ colonless (qualified.characters bare).2, inductionHypothesis]

end TypeName

/-- How little the type that a text means in a language depends on what is around its name. -/
structure IgnoresWrapping (language : Language) : Prop where
  /-- A box around any text makes no difference. -/
  boxed : ∀ text, mapType language ("Box<" ++ text ++ ">") = mapType language text
  /-- Boxes, blanks and namespaces around a bare name make no difference. -/
  enclosed : ∀ name core text, TypeName.IsBare name → TypeName.Qualifies name core →
    TypeName.Encloses core text → mapType language text = mapType language name
  /-- What a text with a bare name in it means, means itself. -/
  settled : ∀ name core text, TypeName.IsBare name → TypeName.Qualifies name core →
    TypeName.Encloses core text → mapType language (mapType language text) = mapType language text
  /-- The names of a scalar mean the type of the scalar. -/
  known : ∀ scalar : Scalar, ∀ name ∈ scalar.aliases,
    mapType language name = scalar.typeName language
  /-- A bare name that does not mean itself is a name of a scalar. -/
  changed : ∀ name, TypeName.IsBare name → mapType language name ≠ name →
    ∃ scalar : Scalar, name ∈ scalar.aliases
  /-- A message is referred to by the name of its type, unless that is a name of a scalar. -/
  referred : ∀ reference : Reference, TypeName.IsBare (Name.pascal reference.name) →
    (∀ scalar : Scalar, Name.pascal reference.name ∉ scalar.aliases) →
    reference.typeName language = Name.pascal reference.name

/-- A bare name that is no name of a scalar means itself. -/
theorem map_type_own (language : Language) (name : String) (bare : TypeName.IsBare name)
    (foreign : ∀ scalar : Scalar, name ∉ scalar.aliases) : mapType language name = name := by
  have stripped : TypeName.stripped name.toList = name.toList :=
    (TypeName.Qualifies.bare.stripped bare).trans (TypeName.Qualifies.bare.unqualified bare)
  have unknown : Scalar.ofAlias? name = none := by
    rw [Scalar.ofAlias?, List.find?_eq_none]
    intro scalar _ found
    exact foreign scalar (by simpa using found)
  rw [mapType, stripped, String.ofList_toList]
  simp only [unknown]

/-- The names of a scalar mean the type of the scalar, and the type means itself. -/
theorem map_type_scalar (language : Language) (scalar : Scalar) :
    (∀ name ∈ scalar.aliases, mapType language name = scalar.typeName language) ∧
      mapType language (scalar.typeName language) = scalar.typeName language := by
  cases language <;> cases scalar <;> decide +kernel

/-- The type that is meant does not depend on boxes, blanks and namespaces, and means itself.

Proof: boxes and blanks are taken off from outside, which leaves the qualified name; of that, both
searches for separators leave the name, however the two separators are mixed. A bare name is that
of a scalar or means itself, and the types of scalars have been looked at one by one. -/
theorem map_type_ignores_wrapping (language : Language) : IgnoresWrapping language := by
  have enclosed : ∀ name core text, TypeName.IsBare name → TypeName.Qualifies name core →
      TypeName.Encloses core text → mapType language text = mapType language name := by
    intro name core text bare qualified encloses
    have stripped : TypeName.stripped text.toList = TypeName.stripped name.toList := by
      rw [encloses.stripped, qualified.stripped bare, qualified.unqualified bare,
        TypeName.Qualifies.bare.stripped bare, TypeName.Qualifies.bare.unqualified bare]
    rw [mapType, mapType, stripped]
  constructor
  case boxed =>
    intro text
    have box : TypeName.Encloses text ("Box<" ++ text ++ ">") := .box text .core
    rw [mapType, mapType, box.stripped]
  case enclosed => exact enclosed
  case settled =>
    intro name core text bare qualified encloses
    rw [enclosed name core text bare qualified encloses]
    by_cases known : ∃ scalar : Scalar, name ∈ scalar.aliases
    · obtain ⟨scalar, member⟩ := known
      obtain ⟨means, itself⟩ := map_type_scalar language scalar
      rw [means name member, itself]
    · have own := map_type_own language name bare fun scalar member => known ⟨scalar, member⟩
      rw [own, own]
  case known => exact fun scalar => (map_type_scalar language scalar).1
  case changed =>
    intro name bare different
    by_contra unknown
    exact different (map_type_own language name bare fun scalar member => unknown ⟨scalar, member⟩)
  case referred => exact fun reference bare foreign => map_type_own language _ bare foreign

/-- Both separators can stand in one text, in any order. -/
example : mapType .go " Box<Box< crate::net.v1::Route > >" = "Route" ∧
    mapType .python "Box<java.lang.Integer>" = "int" := by
  decide +kernel

end PacketSmith
