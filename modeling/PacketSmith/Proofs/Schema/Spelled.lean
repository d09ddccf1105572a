import PacketSmith.Proofs.TypeName
import PacketSmith.Source.TypeKind

/-!
# Types that spell kinds

Several declared types spell one kind: names may stand in namespaces, sets and maps have two names
each, an array has a fixed length or is a boxed slice, a message may be optional or boxed any
number of times, and every type may stand between parentheses. What a declared type means is told
by this spelling alone: it is the kind that is spelled, once the messages that the kind refers to
are known, and a type that spells nothing is refused. A slice is no type of its own, so that a box
means an array around a slice and a message around everything else.
-/

namespace PacketSmith.Source

/-! ## Spellings -/

/-- The scalars by their names in declared types. -/
def scalarSpellings : List (String × Scalar) :=
  [("bool", .bool), ("i8", .byte), ("i16", .short), ("i32", .int), ("i64", .long),
   ("f32", .float), ("f64", .double), ("char", .char), ("String", .string)]

/-- A declared type spells a kind. The name of a message is spelled as it is, whether a message of
this name is known or not. -/
inductive Spells : TypeSyntax → Kind → Prop where
  /-- A scalar is spelled by its name. Arguments of the name mean nothing. -/
  | scalar (spaces : List String) (arguments : List TypeSyntax) {name : String} {base : Scalar}
      (listed : (name, base) ∈ scalarSpellings) :
      Spells (.path spaces name arguments) (.scalar base)
  /-- A list is a vector of its elements. -/
  | list (spaces : List String) {element : TypeSyntax} {kind : Kind}
      (spelled : Spells element kind) :
      Spells (.path spaces "Vec" [element]) (.collection .list kind)
  /-- An array has a fixed length. -/
  | array {element : TypeSyntax} {kind : Kind} (spelled : Spells element kind) :
      Spells (.array element) (.collection .array kind)
  /-- An array is a slice in a box. -/
  | boxedSlice (spaces : List String) (shown : String) {element : TypeSyntax} {kind : Kind}
      (spelled : Spells element kind) :
      Spells (.path spaces "Box" [.slice element shown]) (.collection .array kind)
  /-- A set is hashed or ordered. -/
  | set (spaces : List String) {name : String} (named : name ∈ ["HashSet", "BTreeSet"])
      {element : TypeSyntax} {kind : Kind} (spelled : Spells element kind) :
      Spells (.path spaces name [element]) (.collection .set kind)
  /-- A map is hashed or ordered. -/
  | map (spaces : List String) {name : String} (named : name ∈ ["HashMap", "BTreeMap"])
      {key value : TypeSyntax} {keyKind valueKind : Kind} (keySpelled : Spells key keyKind)
      (valueSpelled : Spells value valueKind) :
      Spells (.path spaces name [key, value]) (.map keyKind valueKind)
  /-- A message is spelled by its name. Arguments of the name mean nothing. -/
  | message (spaces : List String) (arguments : List TypeSyntax) (reference : Reference) :
      Spells (.path spaces reference.name arguments) (.message reference)
  /-- A message can be optional or boxed. -/
  | layer (spaces : List String) {name : String} (named : name ∈ ["Option", "Box"])
      {inner : TypeSyntax} {reference : Reference} (spelled : Spells inner (.message reference)) :
      Spells (.path spaces name [inner]) (.message reference)
  /-- A type can stand between parentheses. -/
  | parens {inner : TypeSyntax} {kind : Kind} (spelled : Spells inner kind) :
      Spells (.parens inner) kind

/-- Whether every reference of a kind has the number that is known for its name. -/
def KnownIds.Cover (ids : KnownIds) (kind : Kind) : Prop :=
  ∀ reference ∈ kind.references, ids.find? reference.name = some reference.id

/-- Whether a kind refers to known messages only, and each of them by a name that has no other
meaning. -/
structure KnownIds.Knows (ids : KnownIds) (kind : Kind) : Prop where
  /-- The numbers are those that are known for the names. -/
  covered : ids.Cover kind
  /-- No message is called by a built-in name. -/
  declared : ∀ reference ∈ kind.references, reference.name ∉ builtInNames.map Prod.fst

/-- A map refers to known messages only if its keys and its values do. -/
theorem KnownIds.knows_map {ids : KnownIds} {key value : Kind} :
    ids.Knows (.map key value) ↔ ids.Knows key ∧ ids.Knows value := by
  constructor
  · rintro ⟨covered, declared⟩
    obtain ⟨keyCovered, valueCovered⟩ := List.forall_mem_append.mp covered
    obtain ⟨keyDeclared, valueDeclared⟩ := List.forall_mem_append.mp declared
    exact ⟨⟨keyCovered, keyDeclared⟩, ⟨valueCovered, valueDeclared⟩⟩
  · rintro ⟨keys, values⟩
    exact ⟨List.forall_mem_append.mpr ⟨keys.covered, values.covered⟩,
      List.forall_mem_append.mpr ⟨keys.declared, values.declared⟩⟩

/-! ## Names -/

/-- A name is listed with what it means, or it is no built-in name. -/
theorem of_name_cases (name : String) :
    (name, NameMeaning.ofName name) ∈ builtInNames ∨
      NameMeaning.ofName name = .declared ∧ name ∉ builtInNames.map Prod.fst := by
  rw [NameMeaning.ofName]
  split
  · rename_i entry found
    have named : entry.1 = name := by simpa using List.find?_some found
    exact Or.inl (named ▸ List.mem_of_find?_eq_some found)
  · rename_i none
    refine Or.inr ⟨rfl, fun member => ?_⟩
    obtain ⟨entry, listed, named⟩ := List.mem_map.mp member
    exact List.find?_eq_none.mp none entry listed (beq_iff_eq.mpr named)

/-- A name has a meaning of its own exactly if it is listed with it. -/
theorem of_name_iff (name : String) (meaning : NameMeaning) (built : meaning ≠ .declared) :
    NameMeaning.ofName name = meaning ↔ (name, meaning) ∈ builtInNames := by
  have distinct : ∀ entry ∈ builtInNames, NameMeaning.ofName entry.1 = entry.2 := by decide
  constructor
  · rintro rfl
    exact (of_name_cases name).resolve_right fun other => built other.1
  · exact fun listed => distinct (name, meaning) listed

/-- A name means a message exactly if it is no built-in name. -/
theorem of_name_declared_iff (name : String) :
    NameMeaning.ofName name = .declared ↔ name ∉ builtInNames.map Prod.fst := by
  rcases of_name_cases name with listed | ⟨declared, absent⟩
  · constructor
    · intro declared
      rw [declared] at listed
      simp [builtInNames] at listed
    · intro absent
      exact absurd (List.mem_map_of_mem listed) absent
  · exact iff_of_true declared absent

/-- The names that mean scalars. -/
theorem of_name_scalar_iff (name : String) (base : Scalar) :
    NameMeaning.ofName name = .scalar base ↔ (name, base) ∈ scalarSpellings := by
  rw [of_name_iff name (.scalar base) nofun]
  simp [builtInNames, scalarSpellings]

/-- The names that mean lists and sets. No name means an array. -/
theorem of_name_collection_iff (name : String) (shape : Collection) :
    NameMeaning.ofName name = .collection shape ↔
      name = "Vec" ∧ shape = .list ∨ name ∈ ["HashSet", "BTreeSet"] ∧ shape = .set := by
  rw [of_name_iff name (.collection shape) nofun]
  simp [builtInNames, or_and_right]

/-- The names that mean maps. -/
theorem of_name_map_iff (name : String) :
    NameMeaning.ofName name = .map ↔ name ∈ ["HashMap", "BTreeMap"] := by
  rw [of_name_iff name .map nofun]
  simp [builtInNames]

/-- The name that means a box. -/
theorem of_name_boxed_iff (name : String) : NameMeaning.ofName name = .boxed ↔ name = "Box" := by
  rw [of_name_iff name .boxed nofun]
  simp [builtInNames]

/-- The name that means an optional type. -/
theorem of_name_optional_iff (name : String) :
    NameMeaning.ofName name = .optional ↔ name = "Option" := by
  rw [of_name_iff name .optional nofun]
  simp [builtInNames]

/-! ## Boxes -/

/-- What a box accepts is what is inside it. -/
theorem in_box_inner (boxed : Bool) {inner : Except TypeFault Kind} {kind : Kind}
    (accepted : inBox boxed inner = .ok kind) : inner = .ok kind := by
  cases boxed with
  | false => exact accepted
  | true =>
    rcases inner with fault | found
    · cases accepted
    · cases found <;> first | exact accepted | cases accepted

/-- An optional type accepts messages, and nothing else. -/
theorem nested_message_iff (inner : Except TypeFault Kind) (kind : Kind) :
    nestedMessage inner = .ok kind ↔ ∃ reference, inner = .ok (.message reference) ∧
      kind = .message reference := by
  constructor
  · intro accepted
    have same : inner = .ok kind := in_box_inner true accepted
    subst same
    cases kind with
    | message reference => exact ⟨reference, rfl, rfl⟩
    | _ => cases accepted
  · rintro ⟨reference, rfl, rfl⟩
    rfl

/-- What is made of an accepted kind. -/
theorem made_iff (make : Kind → Kind) (inner : Except TypeFault Kind) (kind : Kind) :
    (do return make (← inner)) = .ok kind ↔ ∃ found, inner = .ok found ∧ make found = kind := by
  cases inner <;> simp [bind, Except.bind, pure, Except.pure]

/-- What is made of two accepted kinds. -/
theorem made_both_iff (make : Kind → Kind → Kind) (first second : Except TypeFault Kind)
    (kind : Kind) :
    (do return make (← first) (← second)) = .ok kind ↔
      ∃ one other, first = .ok one ∧ second = .ok other ∧ make one other = kind := by
  cases first <;> cases second <;> simp [bind, Except.bind, pure, Except.pure]

/-- Around anything but a slice, a box means what an optional type means. -/
theorem kind_in_boxed (ids : KnownIds) {type : TypeSyntax}
    (sized : ∀ element shown, type ≠ .slice element shown) :
    type.kindIn ids true = nestedMessage (type.kindIn ids false) := by
  cases type with
  | slice element shown => exact absurd rfl (sized element shown)
  | path spaces name arguments =>
    rw [TypeSyntax.kindIn.eq_def, TypeSyntax.kindIn.eq_def ids (.path spaces name arguments) false]
    rfl
  | array | parens | other =>
    rw [TypeSyntax.kindIn, TypeSyntax.kindIn]
    rfl

/-! ## What declared types mean -/

/-- A slice spells nothing. -/
theorem spells_sized {type : TypeSyntax} {kind : Kind} (spelled : Spells type kind) :
    ∀ element shown, type ≠ .slice element shown := by
  rintro element shown rfl
  cases spelled

/-- An optional or boxed type spells a message, unless it is a slice in a box. -/
theorem spells_layer {spaces : List String} {name : String} {arguments : List TypeSyntax}
    {kind : Kind} (layered : name = "Option" ∨ name = "Box")
    (spelled : Spells (.path spaces name arguments) kind) :
    (∃ reference, kind = .message reference) ∨
      name = "Box" ∧ ∃ element shown, arguments = [.slice element shown] := by
  cases spelled with
  | message _ _ reference => exact Or.inl ⟨reference, rfl⟩
  | @layer _ _ _ _ reference _ => exact Or.inl ⟨reference, rfl⟩
  | boxedSlice _ shown _ => exact Or.inr ⟨rfl, _, shown, rfl⟩
  | scalar _ _ listed => rcases layered with rfl | rfl <;> simp [scalarSpellings] at listed
  | list => simp at layered
  | set _ named => rcases layered with rfl | rfl <;> simp at named
  | map _ named => rcases layered with rfl | rfl <;> simp at named

/-- A type that spells a kind of known messages means this kind. -/
theorem spells_kind {ids : KnownIds} {type : TypeSyntax} {kind : Kind}
    (spelled : Spells type kind) (known : ids.Knows kind) : type.kindIn ids false = .ok kind := by
  induction spelled with
  | @scalar spaces arguments name base listed =>
    have meaning := (of_name_scalar_iff name base).mpr listed
    simp [TypeSyntax.kindIn, inBox, meaning]
  | list spaces spelled inductionHypothesis =>
    have meant := inductionHypothesis ⟨known.covered, known.declared⟩
    have meaning : NameMeaning.ofName "Vec" = .collection .list := rfl
    simp [TypeSyntax.kindIn, inBox, meaning, meant, bind, Except.bind, pure, Except.pure]
  | array spelled inductionHypothesis =>
    have meant := inductionHypothesis ⟨known.covered, known.declared⟩
    simp [TypeSyntax.kindIn, inBox, meant, bind, Except.bind, pure, Except.pure]
  | boxedSlice spaces shown spelled inductionHypothesis =>
    have meant := inductionHypothesis ⟨known.covered, known.declared⟩
    have meaning : NameMeaning.ofName "Box" = .boxed := rfl
    simp [TypeSyntax.kindIn, inBox, meaning, meant, bind, Except.bind, pure, Except.pure]
  | @set spaces name named element kind spelled inductionHypothesis =>
    have meant := inductionHypothesis ⟨known.covered, known.declared⟩
    have meaning := (of_name_collection_iff name .set).mpr (Or.inr ⟨named, rfl⟩)
    simp [TypeSyntax.kindIn, inBox, meaning, meant, bind, Except.bind, pure, Except.pure]
  | @map spaces name named key value _ _ keySpelled valueSpelled keyHypothesis valueHypothesis =>
    obtain ⟨keyKnown, valueKnown⟩ := KnownIds.knows_map.mp known
    have meaning := (of_name_map_iff name).mpr named
    simp [TypeSyntax.kindIn, inBox, meaning, keyHypothesis keyKnown, valueHypothesis valueKnown,
      bind, Except.bind, pure, Except.pure]
  | message spaces arguments reference =>
    have covered := known.covered reference (List.mem_singleton_self _)
    have declared := known.declared reference (List.mem_singleton_self _)
    have meaning := (of_name_declared_iff reference.name).mpr declared
    simp [TypeSyntax.kindIn, inBox, meaning, covered]
  | @layer spaces name named inner reference spelled inductionHypothesis =>
    have meant := inductionHypothesis ⟨known.covered, known.declared⟩
    have nested := (nested_message_iff _ _).mpr ⟨reference, meant, rfl⟩
    have boxed := kind_in_boxed ids (spells_sized spelled)
    have optional_or_boxed : name = "Option" ∨ name = "Box" := by simpa using named
    rcases optional_or_boxed with rfl | rfl
    · have meaning : NameMeaning.ofName "Option" = .optional := rfl
      simp [TypeSyntax.kindIn, inBox, meaning, nested]
    · have meaning : NameMeaning.ofName "Box" = .boxed := rfl
      simp [TypeSyntax.kindIn, inBox, meaning, boxed, nested]
  | parens spelled inductionHypothesis =>
    exact inductionHypothesis known

/-- A declared type spells a kind inside a box or outside of one. -/
def SpellsIn (boxed : Bool) (type : TypeSyntax) (kind : Kind) : Prop :=
  if boxed then ∀ spaces, Spells (.path spaces "Box" [type]) kind else Spells type kind

/-- What is accepted in a box or outside of one is spelled there, if the type that is accepted
spells what it means. -/
theorem in_box_spelled {ids : KnownIds} {boxed : Bool} {inner : Except TypeFault Kind}
    {type : TypeSyntax} {kind : Kind} (accepted : inBox boxed inner = .ok kind)
    (spelled : inner = .ok kind → Spells type kind ∧ ids.Knows kind) :
    SpellsIn boxed type kind ∧ ids.Knows kind := by
  cases boxed with
  | false => exact spelled accepted
  | true =>
    obtain ⟨reference, meant, rfl⟩ := (nested_message_iff inner kind).mp accepted
    obtain ⟨inside, known⟩ := spelled meant
    exact ⟨fun spaces => .layer spaces (by simp) inside, known⟩

/-- What a declared type means is spelled by it, and refers to known messages.

Proof: by the recursion of the meaning, inside a box and outside of one together: a slice spells
something only inside a box, and everything else inside a box is a message that is spelled outside
of it as well. -/
theorem kind_in_spelled (ids : KnownIds) (type : TypeSyntax) (boxed : Bool) {kind : Kind}
    (accepted : type.kindIn ids boxed = .ok kind) :
    SpellsIn boxed type kind ∧ ids.Knows kind := by
  induction type, boxed using TypeSyntax.kindIn.induct generalizing kind with
  | case1 spaces name arguments boxed inductionHypothesis =>
    rw [TypeSyntax.kindIn.eq_def] at accepted
    refine in_box_spelled accepted fun meant => ?_
    split at meant
    case h_1 _ _ base meaning =>
      cases meant
      exact ⟨.scalar spaces _ ((of_name_scalar_iff name base).mp meaning),
        ⟨List.forall_mem_nil _, List.forall_mem_nil _⟩⟩
    case h_3 _ _ shape element meaning =>
      simp only [meaning] at inductionHypothesis
      obtain ⟨found, inside, rfl⟩ := (made_iff (.collection shape) _ _).mp meant
      obtain ⟨spelled, known⟩ := inductionHypothesis inside
      refine ⟨?_, known.covered, known.declared⟩
      rcases (of_name_collection_iff name shape).mp meaning with ⟨rfl, rfl⟩ | ⟨named, rfl⟩
      · exact .list spaces spelled
      · exact .set spaces named spelled
    case h_5 _ _ key value meaning =>
      simp only [meaning] at inductionHypothesis
      obtain ⟨keyHypothesis, valueHypothesis⟩ := inductionHypothesis
      obtain ⟨keyKind, valueKind, keyed, valued, rfl⟩ := (made_both_iff .map _ _ _).mp meant
      obtain ⟨keySpelled, keyKnown⟩ := keyHypothesis keyed
      obtain ⟨valueSpelled, valueKnown⟩ := valueHypothesis valued
      exact ⟨.map spaces ((of_name_map_iff name).mp meaning) keySpelled valueSpelled,
        KnownIds.knows_map.mpr ⟨keyKnown, valueKnown⟩⟩
    case h_7 _ _ inner meaning =>
      simp only [meaning] at inductionHypothesis
      obtain ⟨spelled, known⟩ := inductionHypothesis meant
      obtain rfl := (of_name_boxed_iff name).mp meaning
      exact ⟨spelled spaces, known⟩
    case h_9 _ _ inner meaning =>
      simp only [meaning] at inductionHypothesis
      obtain ⟨reference, inside, rfl⟩ := (nested_message_iff _ _).mp meant
      obtain ⟨spelled, known⟩ := inductionHypothesis inside
      obtain rfl := (of_name_optional_iff name).mp meaning
      exact ⟨.layer spaces (by simp) spelled, known⟩
    case h_11 meaning =>
      split at meant
      · rename_i id found
        cases meant
        exact ⟨.message spaces _ ⟨id, name⟩, List.forall_mem_singleton.mpr found,
          List.forall_mem_singleton.mpr ((of_name_declared_iff name).mp meaning)⟩
      · cases meant
    -- Whatever else a name means with its arguments, it is no kind.
    all_goals cases meant
  | case2 element boxed inductionHypothesis =>
    rw [TypeSyntax.kindIn] at accepted
    refine in_box_spelled accepted fun meant => ?_
    obtain ⟨found, inside, rfl⟩ := (made_iff (.collection .array) _ _).mp meant
    obtain ⟨spelled, known⟩ := inductionHypothesis inside
    exact ⟨.array spelled, known.covered, known.declared⟩
  | case3 inner boxed inductionHypothesis =>
    rw [TypeSyntax.kindIn] at accepted
    refine in_box_spelled accepted fun meant => ?_
    obtain ⟨spelled, known⟩ := inductionHypothesis meant
    exact ⟨.parens spelled, known⟩
  | case4 element shown inductionHypothesis =>
    rw [TypeSyntax.kindIn] at accepted
    obtain ⟨found, inside, rfl⟩ := (made_iff (.collection .array) _ _).mp accepted
    obtain ⟨spelled, known⟩ := inductionHypothesis inside
    exact ⟨fun spaces => .boxedSlice spaces shown spelled, known.covered, known.declared⟩
  | case5 element shown boxed unboxed =>
    simp [TypeSyntax.kindIn, unboxed] at accepted
  | case6 shown boxed =>
    rw [TypeSyntax.kindIn] at accepted
    cases in_box_inner _ accepted

/-- What declared types mean under known numbers. -/
structure MeansSpelled (ids : KnownIds) : Prop where
  /-- A type means a kind exactly if it spells the kind and every message that the kind refers to
  is known by its name. -/
  spelled : ∀ type kind, TypeSyntax.kind ids type = .ok kind ↔ Spells type kind ∧ ids.Knows kind
  /-- An optional type means a message if it means anything. -/
  optional : ∀ spaces arguments kind,
    TypeSyntax.kind ids (.path spaces "Option" arguments) = .ok kind →
      ∃ reference, kind = .message reference
  /-- A box means a message if it means anything, unless a slice stands directly inside it. -/
  boxed : ∀ spaces arguments kind, (∀ element shown, arguments ≠ [.slice element shown]) →
    TypeSyntax.kind ids (.path spaces "Box" arguments) = .ok kind →
      ∃ reference, kind = .message reference

/-- Declared types mean what they spell.

Proof: by induction on the spelling in one direction and by the recursion of the meaning in the
other. An optional or boxed type then has only the spellings of a message, because neither name is
one of a scalar or a container. -/
theorem means_spelled (ids : KnownIds) : MeansSpelled ids := by
  constructor
  case spelled =>
    intro type kind
    exact ⟨kind_in_spelled ids type false, fun ⟨spelled, known⟩ => spells_kind spelled known⟩
  case optional =>
    intro spaces arguments kind accepted
    obtain ⟨spelled, _⟩ := kind_in_spelled ids _ false accepted
    exact (spells_layer (Or.inl rfl) spelled).resolve_right fun ⟨boxed, _⟩ =>
      absurd boxed (by decide)
  case boxed =>
    intro spaces arguments kind sized accepted
    obtain ⟨spelled, _⟩ := kind_in_spelled ids _ false accepted
    exact (spells_layer (Or.inr rfl) spelled).resolve_right fun ⟨_, element, shown, same⟩ =>
      sized element shown same

/-- Layers may alternate with parentheses. -/
example : TypeSyntax.kind [("Node", 5)]
    (.path ["std", "option"] "Option" [.parens (.path [] "Box" [.path ["crate"] "Node" []])]) =
      .ok (.message ⟨5, "Node"⟩) := by
  rfl

end PacketSmith.Source
