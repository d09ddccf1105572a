import PacketSmith.Kind
import PacketSmith.Source.TypeSyntax

/-!
# From declared types to kinds

A declared type means a kind: built-in names mean scalars and containers, arrays and boxed
slices mean arrays, and any other name must be the name of a message. An optional or boxed
type means what is inside it, which must be a message.
-/

namespace PacketSmith.Source

/-- Why a declared type means no kind. -/
inductive TypeFault where
  /-- An integer type that is not transmitted. -/
  | untransmitted (name : String)
  /-- A name that is not the name of a message. -/
  | unknown (name : String)
  /-- A type that must have one argument has another number of them. -/
  | needsOne (name : String)
  /-- A type that must have two arguments has another number of them. -/
  | needsTwo (name : String)
  /-- An optional or boxed type has something other than a message inside. -/
  | wrapped (found : Tag)
  /-- A type of a form that means nothing. -/
  | unsupported (shown : String)
  deriving DecidableEq, Repr

/-- The wording of a fault. -/
def TypeFault.message : TypeFault → String
  | untransmitted name => "Integer type " ++ name ++ " has no wire representation"
  | unknown name => "Unknown type " ++ name ++ "; is it missing #[protocol]?"
  | needsOne name => name ++ " expects one type argument"
  | needsTwo name => name ++ " expects key and value type arguments"
  | wrapped found => "Option and Box may only wrap protocol messages, found " ++ found.name
  | unsupported shown => "Unsupported field type: " ++ shown

/-- The numbers of messages by name. Of several entries for a name the last one counts. -/
abbrev KnownIds := List (String × ProtocolId)

/-- The number of the message of a name. -/
def KnownIds.find? (ids : KnownIds) (name : String) : Option ProtocolId :=
  (List.find? (fun entry => entry.1 == name) ids.reverse).map Prod.snd

/-- What a name without its arguments means. -/
inductive NameMeaning where
  /-- A scalar. -/
  | scalar (base : Scalar)
  /-- An integer type that is not transmitted. -/
  | untransmitted
  /-- A container of elements. -/
  | collection (shape : Collection)
  /-- A container of entries. -/
  | map
  /-- A box. -/
  | boxed
  /-- A value that can be absent. -/
  | optional
  /-- The name of a message, or nothing. -/
  | declared
  deriving DecidableEq, Repr

/-- The built-in names and what they mean. -/
def builtInNames : List (String × NameMeaning) :=
  [("bool", .scalar .bool), ("i8", .scalar .byte), ("i16", .scalar .short), ("i32", .scalar .int),
   ("i64", .scalar .long), ("f32", .scalar .float), ("f64", .scalar .double),
   ("char", .scalar .char), ("String", .scalar .string), ("u8", .untransmitted),
   ("u16", .untransmitted), ("u32", .untransmitted), ("u64", .untransmitted),
   ("u128", .untransmitted), ("usize", .untransmitted), ("i128", .untransmitted),
   ("isize", .untransmitted), ("Vec", .collection .list), ("HashSet", .collection .set),
   ("BTreeSet", .collection .set), ("HashMap", .map), ("BTreeMap", .map), ("Box", .boxed),
   ("Option", .optional)]

/-- What a name means. -/
def NameMeaning.ofName (name : String) : NameMeaning :=
  match builtInNames.find? fun entry => entry.1 == name with
  | some entry => entry.2
  | none => declared

/-- The kind of what is inside an optional or boxed type, which must be a message. -/
def nestedMessage (inner : Except TypeFault Kind) : Except TypeFault Kind := do
  match ← inner with
  | .message reference => .ok (.message reference)
  | other => .error (.wrapped other.tag)

/-- What a box around a type means, or the type itself if there is no box. -/
def inBox (boxed : Bool) (inner : Except TypeFault Kind) : Except TypeFault Kind :=
  if boxed then nestedMessage inner else inner

/-- The kind that a declared type means inside a box or outside of one. Only inside a box a
slice means something: an array. -/
def TypeSyntax.kindIn (ids : KnownIds) : TypeSyntax → Bool → Except TypeFault Kind
  | .path _ name arguments, boxed => inBox boxed <|
    match NameMeaning.ofName name, arguments with
    | .scalar base, _ => .ok (.scalar base)
    | .untransmitted, _ => .error (.untransmitted name)
    | .collection shape, [element] => do return .collection shape (← element.kindIn ids false)
    | .collection _, _ => .error (.needsOne name)
    | .map, [key, value] => do
      return .map (← key.kindIn ids false) (← value.kindIn ids false)
    | .map, _ => .error (.needsTwo name)
    | .boxed, [inner] => inner.kindIn ids true
    | .boxed, _ => .error (.needsOne name)
    | .optional, [inner] => nestedMessage (inner.kindIn ids false)
    | .optional, _ => .error (.needsOne name)
    | .declared, _ =>
      match KnownIds.find? ids name with
      | some id => .ok (.message ⟨id, name⟩)
      | none => .error (.unknown name)
  | .array element, boxed => inBox boxed do
    return .collection .array (← element.kindIn ids false)
  | .parens inner, boxed => inBox boxed (inner.kindIn ids false)
  | .slice element shown, boxed =>
    if boxed then do return .collection .array (← element.kindIn ids false)
    else .error (.unsupported shown)
  | .other shown, boxed => inBox boxed (.error (.unsupported shown))
termination_by structural type => type

/-- The kind that a declared type means. -/
def TypeSyntax.kind (ids : KnownIds) (type : TypeSyntax) : Except TypeFault Kind :=
  type.kindIn ids false

end PacketSmith.Source
