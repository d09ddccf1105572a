import PacketSmith.Code.Fields
import PacketSmith.Proofs.TypeName
import PacketSmith.Schema.Table

/-!
# Values and tokens

A buffer is taken as a queue of tokens, each of the type of one scalar. A value is a tree over
tokens: collections and maps hold what was put into them, in order, and a message holds its
fields, with the number of the message. The tokens of a value are its scalars in order, a size in
front of the items of a container, and in front of the fields of a message that it is there.

A message can lack fields that a table has for it. A value grows into a table by the fields that
its messages lack, each at its default.
-/

namespace PacketSmith.Queue

/-- A token: what one scalar takes in a buffer. Floating point numbers are their bits. -/
inductive Token where
  | bool (content : Bool)
  | byte (content : Int8)
  | short (content : Int16)
  | int (content : Int)
  | long (content : Int)
  | float (bits : UInt32)
  | double (bits : UInt64)
  | char (content : String)
  | string (content : String)
  deriving DecidableEq, Repr

namespace Token

/-- The scalar of a token. -/
def base : Token → Scalar
  | bool _ => .bool
  | byte _ => .byte
  | short _ => .short
  | int _ => .int
  | long _ => .long
  | float _ => .float
  | double _ => .double
  | char _ => .char
  | string _ => .string

/-- The token of the default of a scalar. -/
def zero : Scalar → Token
  | .bool => bool false
  | .byte => byte 0
  | .short => short 0
  | .int => int 0
  | .long => long 0
  | .float => float 0
  | .double => double 0
  | .char => char ""
  | .string => string ""

/-- The default of a scalar is one of the scalar. -/
@[simp] theorem base_zero (scalar : Scalar) : (zero scalar).base = scalar := by
  cases scalar <;> rfl

end Token

/-- A value. -/
inductive Value where
  /-- A scalar. -/
  | scalar (token : Token)
  /-- What a collection holds, in order. -/
  | items (shape : Collection) (held : List Value)
  /-- What a map holds, in order. -/
  | entries (held : List (Value × Value))
  /-- No message. -/
  | absent
  /-- A message with its number and its fields. -/
  | message (id : ProtocolId) (fields : List (String × Value))

namespace Value

mutual

/-- The tokens of a value. -/
def tokens : Value → List Token
  | scalar token => [token]
  | items _ held => .int held.length :: itemsTokens held
  | entries held => .int held.length :: entriesTokens held
  | absent => [.bool false]
  | message _ fields => .bool true :: fieldsTokens fields

/-- The tokens of items. -/
def itemsTokens : List Value → List Token
  | [] => []
  | item :: others => tokens item ++ itemsTokens others

/-- The tokens of the entries of a map. -/
def entriesTokens : List (Value × Value) → List Token
  | [] => []
  | (key, value) :: others => tokens key ++ (tokens value ++ entriesTokens others)

/-- The tokens of fields. -/
def fieldsTokens : List (String × Value) → List Token
  | [] => []
  | (_, value) :: others => tokens value ++ fieldsTokens others

end

/-- The tokens of items are those of each of them in a row. -/
theorem items_tokens (held : List Value) : itemsTokens held = held.flatMap tokens := by
  induction held with
  | nil => rfl
  | cons item others inductionHypothesis =>
    rw [itemsTokens, inductionHypothesis, List.flatMap_cons]

/-- The tokens of entries are those of each of them in a row. -/
theorem entries_tokens (held : List (Value × Value)) :
    entriesTokens held = held.flatMap fun entry => tokens entry.1 ++ tokens entry.2 := by
  induction held with
  | nil => rfl
  | cons entry others inductionHypothesis =>
    rw [entriesTokens, inductionHypothesis, List.flatMap_cons, List.append_assoc]

/-- The tokens of fields are those of each of them in a row. -/
theorem fields_tokens (fields : List (String × Value)) :
    fieldsTokens fields = fields.flatMap fun field => tokens field.2 := by
  induction fields with
  | nil => rfl
  | cons field others inductionHypothesis =>
    rw [fieldsTokens, inductionHypothesis, List.flatMap_cons]

/-- The tokens of one of several are no more than those of all in a row. -/
theorem length_le_all {Item : Type} (tokensOf : Item → List Token) (all : List Item) :
    ∀ item ∈ all, (tokensOf item).length ≤ (all.flatMap tokensOf).length := by
  intro item member
  rw [List.flatMap_def]
  exact (List.sublist_flatten_of_mem (List.mem_map_of_mem member)).length_le

/-- Every value takes a token. -/
theorem tokens_inhabited (value : Value) : value.tokens ≠ [] := by
  cases value <;> simp [tokens]

/-- What is kept under the names of distinct fields is kept under distinct names. -/
theorem entries_apart {Content : Type} {declared : List Field} {entries : List (String × Content)}
    (distinct : declared.Pairwise fun field other => field.name ≠ other.name)
    (named : entries.map Prod.fst = declared.map Field.name) :
    entries.Pairwise fun entry other => entry.1 ≠ other.1 := by
  have names : (entries.map Prod.fst).Pairwise (· ≠ ·) := by
    rw [named, List.pairwise_map]
    exact distinct
  exact List.pairwise_map.mp names

/-- The values of a message stand under the names of its fields. -/
theorem zip_named (declared : List Field) (fields : List (String × Value))
    (named : fields.map Prod.fst = declared.map Field.name) :
    ∀ pair ∈ declared.zip fields, pair.2.1 = pair.1.name := by
  induction declared generalizing fields with
  | nil => exact List.forall_mem_nil _
  | cons field declared inductionHypothesis =>
    cases fields with
    | nil => exact List.forall_mem_nil _
    | cons entry fields =>
      obtain ⟨first, others⟩ := List.cons.inj named
      exact List.forall_mem_cons.mpr ⟨first, inductionHypothesis fields others⟩

/-- The value of a kind before anything is read. -/
def initial : Kind → Value
  | .scalar base => scalar (.zero base)
  | .collection shape _ => items shape []
  | .map _ _ => entries []
  | .message _ => absent

/-- The fields of a message in a table, behind so many, at their defaults. -/
def missing (table : Table) (id : ProtocolId) (count : Nat) : List (String × Value) :=
  match table.get? id with
  | some declared =>
    (declared.fields.drop count).map fun field => (field.name, initial field.kind)
  | none => []

/-- A message with a front part of the fields that a table has for it misses the others. -/
theorem missing_exact {table : Table} {id : ProtocolId} {message : Message}
    {front back : List Field} {fields : List (String × Value)}
    (declared : table.get? id = some message) (parts : message.fields = front ++ back)
    (named : fields.map Prod.fst = front.map Field.name) :
    missing table id fields.length =
      back.map fun field => (field.name, initial field.kind) := by
  have count : fields.length = front.length := by
    simpa using congrArg List.length named
  simp [missing, declared, parts, count]

/-- A message with all fields that a table has for it misses nothing. -/
theorem missing_nothing {table : Table} {id : ProtocolId} {message : Message}
    {fields : List (String × Value)} (declared : table.get? id = some message)
    (named : fields.map Prod.fst = message.fields.map Field.name) :
    missing table id fields.length = [] :=
  missing_exact declared (List.append_nil _).symm named

mutual

/-- A value with the fields of a table that its messages lack, at every level. -/
def grown (table : Table) : Value → Value
  | scalar token => scalar token
  | items shape held => items shape (grownItems table held)
  | entries held => entries (grownEntries table held)
  | absent => absent
  | message id fields => message id (grownFields table fields ++ missing table id fields.length)

/-- Items with the fields that their messages lack. -/
def grownItems (table : Table) : List Value → List Value
  | [] => []
  | item :: others => grown table item :: grownItems table others

/-- The entries of a map with the fields that their messages lack. -/
def grownEntries (table : Table) : List (Value × Value) → List (Value × Value)
  | [] => []
  | (key, value) :: others => (grown table key, grown table value) :: grownEntries table others

/-- Fields with the fields that their messages lack. -/
def grownFields (table : Table) : List (String × Value) → List (String × Value)
  | [] => []
  | (name, value) :: others => (name, grown table value) :: grownFields table others

end

/-- Items grow one by one. -/
theorem grown_items (table : Table) (held : List Value) :
    grownItems table held = held.map (grown table) := by
  induction held with
  | nil => rfl
  | cons item others inductionHypothesis => rw [grownItems, inductionHypothesis, List.map_cons]

/-- Entries grow one by one. -/
theorem grown_entries (table : Table) (held : List (Value × Value)) :
    grownEntries table held = held.map fun entry => (grown table entry.1, grown table entry.2) := by
  induction held with
  | nil => rfl
  | cons entry others inductionHypothesis =>
    rw [grownEntries, inductionHypothesis, List.map_cons]

/-- Fields grow one by one. -/
theorem grown_fields (table : Table) (fields : List (String × Value)) :
    grownFields table fields = fields.map fun field => (field.1, grown table field.2) := by
  induction fields with
  | nil => rfl
  | cons field others inductionHypothesis =>
    rw [grownFields, inductionHypothesis, List.map_cons]

/-- Fields keep their names. -/
theorem grown_fields_named (table : Table) (fields : List (String × Value)) :
    (grownFields table fields).map Prod.fst = fields.map Prod.fst := by
  rw [grown_fields, List.map_map]
  rfl

mutual

/-- Whether nothing is written behind a message that lacks fields of a table, given the tokens
behind the value. -/
def LacksLast (table : Table) : Value → List Token → Prop
  | scalar _, _ | absent, _ => True
  | items _ held, rest => ItemsLackLast table held rest
  | entries held, rest => EntriesLackLast table held rest
  | message id fields, rest =>
    (missing table id fields.length ≠ [] → rest = []) ∧ FieldsLackLast table fields rest

/-- Whether nothing is written behind a message in items that lacks fields of a table. -/
def ItemsLackLast (table : Table) : List Value → List Token → Prop
  | [], _ => True
  | item :: others, rest =>
    LacksLast table item (itemsTokens others ++ rest) ∧ ItemsLackLast table others rest

/-- Whether nothing is written behind a message in entries that lacks fields of a table. -/
def EntriesLackLast (table : Table) : List (Value × Value) → List Token → Prop
  | [], _ => True
  | (key, value) :: others, rest =>
    LacksLast table key (tokens value ++ (entriesTokens others ++ rest)) ∧
      LacksLast table value (entriesTokens others ++ rest) ∧ EntriesLackLast table others rest

/-- Whether nothing is written behind a message in fields that lacks fields of a table. -/
def FieldsLackLast (table : Table) : List (String × Value) → List Token → Prop
  | [], _ => True
  | (_, value) :: others, rest =>
    LacksLast table value (fieldsTokens others ++ rest) ∧ FieldsLackLast table others rest

end

/-- Nothing is written behind what items lack if that is so for each of them. -/
theorem items_lack_last {table : Table} {held : List Value} {rest : List Token}
    (each : ∀ item ∈ held, ∀ behind, item.LacksLast table behind) :
    ItemsLackLast table held rest := by
  induction held with
  | nil => exact True.intro
  | cons item others inductionHypothesis =>
    obtain ⟨first, remaining⟩ := List.forall_mem_cons.mp each
    exact ⟨first _, inductionHypothesis remaining⟩

/-- Nothing is written behind what entries lack if that is so for each key and each value. -/
theorem entries_lack_last {table : Table} {held : List (Value × Value)} {rest : List Token}
    (keys : ∀ entry ∈ held, ∀ behind, entry.1.LacksLast table behind)
    (values : ∀ entry ∈ held, ∀ behind, entry.2.LacksLast table behind) :
    EntriesLackLast table held rest := by
  induction held with
  | nil => exact True.intro
  | cons entry others inductionHypothesis =>
    obtain ⟨firstKey, otherKeys⟩ := List.forall_mem_cons.mp keys
    obtain ⟨firstValue, otherValues⟩ := List.forall_mem_cons.mp values
    exact ⟨firstKey _, firstValue _, inductionHypothesis otherKeys otherValues⟩

/-- Nothing is written behind what fields lack if that is so for each value that stands under a
declared field. -/
theorem fields_lack_last {table : Table} {declared : List Field} {fields : List (String × Value)}
    {rest : List Token} (named : fields.map Prod.fst = declared.map Field.name)
    (each : ∀ pair ∈ declared.zip fields, ∀ behind, pair.2.2.LacksLast table behind) :
    FieldsLackLast table fields rest := by
  induction fields generalizing declared with
  | nil => exact True.intro
  | cons entry fields inductionHypothesis =>
    cases declared with
    | nil => cases named
    | cons field declared =>
      obtain ⟨first, remaining⟩ := List.forall_mem_cons.mp each
      exact ⟨first _, inductionHypothesis (List.cons.inj named).2 remaining⟩

/-- Whether a value is one of a kind, with the messages of a table: every scalar is of its type,
and every message has the fields of the table, in order. -/
inductive Fits (table : Table) : Kind → Value → Prop where
  | scalar (token : Token) : Fits table (.scalar token.base) (.scalar token)
  | items (shape : Collection) (element : Kind) (held : List Value)
      (each : ∀ item ∈ held, Fits table element item) :
      Fits table (.collection shape element) (.items shape held)
  | entries (key value : Kind) (held : List (Value × Value))
      (keys : ∀ entry ∈ held, Fits table key entry.1)
      (values : ∀ entry ∈ held, Fits table value entry.2) :
      Fits table (.map key value) (.entries held)
  | absent (reference : Reference) (declared : (table.get? reference.id).isSome = true) :
      Fits table (.message reference) .absent
  | message (reference : Reference) (message : Message) (fields : List (String × Value))
      (declared : table.get? reference.id = some message)
      (named : fields.map Prod.fst = message.fields.map Field.name)
      (each : ∀ pair ∈ message.fields.zip fields, Fits table pair.1.kind pair.2.2) :
      Fits table (.message reference) (.message reference.id fields)

/-- The default of a kind is one of the kind, if a table has its messages. -/
theorem Fits.initial {table : Table} {kind : Kind}
    (linked : ∀ reference ∈ kind.references, (table.get? reference.id).isSome = true) :
    (initial kind).Fits table kind := by
  cases kind with
  | scalar base =>
    have scalar : Fits table (.scalar (Token.zero base).base) (.scalar (.zero base)) :=
      .scalar (.zero base)
    rwa [Token.base_zero] at scalar
  | collection shape element => exact .items shape element [] (List.forall_mem_nil _)
  | map key value => exact .entries key value [] (List.forall_mem_nil _) (List.forall_mem_nil _)
  | message reference => exact .absent reference (linked reference (List.mem_singleton_self _))

/-- A value that has all fields of a table does not grow into it. -/
theorem Fits.complete {table : Table} {kind : Kind} {value : Value} (fits : Fits table kind value) :
    value.grown table = value := by
  induction fits with
  | scalar token => rfl
  | items shape element held each inductionHypothesis =>
    rw [grown, grown_items, List.map_congr_left inductionHypothesis, List.map_id']
  | entries key value held keys values keyHypothesis valueHypothesis =>
    have same : ∀ entry ∈ held, (grown table entry.1, grown table entry.2) = entry :=
      fun entry member =>
        Prod.ext (keyHypothesis entry member) (valueHypothesis entry member)
    rw [grown, grown_entries, List.map_congr_left same, List.map_id']
  | absent reference declared => rfl
  | message reference message fields declared named each inductionHypothesis =>
    have second : (message.fields.zip fields).map Prod.snd = fields :=
      List.map_snd_zip (Nat.le_of_eq (by simpa using congrArg List.length named))
    have same : ∀ field ∈ fields, (field.1, grown table field.2) = field := by
      intro field member
      rw [← second] at member
      obtain ⟨pair, inside, rfl⟩ := List.mem_map.mp member
      exact Prod.ext rfl (inductionHypothesis pair inside)
    rw [grown, grown_fields, List.map_congr_left same, List.map_id',
      missing_nothing declared named, List.append_nil]

end Value
end PacketSmith.Queue
