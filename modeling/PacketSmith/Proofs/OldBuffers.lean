import PacketSmith.Proofs.Queue.Reading
import PacketSmith.Proofs.Queue.Writing
import PacketSmith.Proofs.Schema.Slots

/-!
# Old buffers

A message grows by fields that are appended to it. A table is older than another one if some of
its messages have not grown yet. What the code of the older table writes is read by the code of the
newer one, with the new fields at their defaults, as long as nothing is written behind a message
that has grown: the guard in front of an appended field asks whether the queue is at its end, and
takes whatever follows for the field (`old_buffers_readable`).
-/

namespace PacketSmith

open Queue

/-- Whether a message is another one without some of the appended fields at its end. -/
def Message.IsOlder (older newer : Message) : Prop :=
  ∃ added : List Field, (∀ field ∈ added, field.appended = true) ∧
    newer = { older with fields := older.fields ++ added }

/-- Whether a table is another one whose messages lack some of the appended fields at their ends. -/
def Table.IsOlder (older newer : Table) : Prop :=
  List.Forall₂ (Option.Rel Message.IsOlder) older.slots newer.slots

/-- A message of an older table has a newer form. -/
theorem Table.IsOlder.found {older newer : Table} (grew : older.IsOlder newer) {id : ProtocolId}
    {message : Message} (declared : older.get? id = some message) :
    ∃ latest, newer.get? id = some latest ∧ message.IsOlder latest := by
  rw [Table.get?] at declared
  split at declared
  · cases declared
  · rename_i positive
    have slot := Option.join_eq_some_iff.mp declared
    obtain ⟨inside, same⟩ := List.getElem?_eq_some_iff.mp slot
    have newerInside : id.toNatClampNeg < newer.slots.length := grew.length_eq ▸ inside
    have related := (List.forall₂_iff_get.mp grew).2 id.toNatClampNeg inside newerInside
    rw [List.get_eq_getElem, List.get_eq_getElem, same] at related
    cases held : newer.slots[id.toNatClampNeg] with
    | none =>
      rw [held] at related
      cases related
    | some latest =>
      rw [held] at related
      cases related with
      | some older =>
        refine ⟨latest, ?_, older⟩
        rw [Table.get?, if_neg positive, List.getElem?_eq_getElem newerInside, held]
        rfl

/-- Fields that have distinct names had them before others were added. -/
theorem Table.IsOlder.fields_apart {older newer : Table} (grew : older.IsOlder newer)
    (distinct : newer.FieldsApart) : older.FieldsApart := by
  intro id message declared
  obtain ⟨latest, found, added, _, rfl⟩ := grew.found declared
  exact (List.pairwise_append.mp (distinct id _ found)).1

/-- A value that fits an older table fits the newer one when it has grown into it.

Proof: induction on how the value fits. -/
theorem Queue.Value.Fits.grows {older newer : Table} (grew : older.IsOlder newer)
    (linked : newer.IsLinked) {kind : Kind} {value : Value} (fits : value.Fits older kind) :
    (value.grown newer).Fits newer kind := by
  induction fits with
  | scalar token => exact .scalar token
  | items shape element held each inductionHypothesis =>
    rw [grown, grown_items]
    exact .items shape element _ (List.forall_mem_map.mpr inductionHypothesis)
  | entries key value held keys values keyHypothesis valueHypothesis =>
    rw [grown, grown_entries]
    exact .entries key value _ (List.forall_mem_map.mpr keyHypothesis)
      (List.forall_mem_map.mpr valueHypothesis)
  | absent reference declared =>
    obtain ⟨message, found⟩ := Option.isSome_iff_exists.mp declared
    obtain ⟨latest, newFound, _⟩ := grew.found found
    exact .absent reference (Option.isSome_iff_exists.mpr ⟨latest, newFound⟩)
  | message reference message fields declared named each inductionHypothesis =>
    obtain ⟨latest, found, added, appended, rfl⟩ := grew.found declared
    rw [grown, missing_exact found rfl named]
    refine .message reference _ _ found ?names ?fits
    case names =>
      rw [List.map_append, grown_fields_named, named, List.map_map, List.map_append]
      rfl
    case fits =>
      have sameLength : message.fields.length = (grownFields newer fields).length := by
        simpa [grown_fields] using (congrArg List.length named).symm
      have defaults : added.zip (added.map fun field => (field.name, Value.initial field.kind)) =
          added.map fun field => (field, field.name, Value.initial field.kind) := by
        simpa using List.zip_map' (f := fun field => field)
          (g := fun field => (field.name, Value.initial field.kind)) (l := added)
      rw [List.zip_append sameLength, grown_fields, List.zip_map_right, defaults,
        List.forall_mem_append, List.forall_mem_map, List.forall_mem_map]
      refine ⟨inductionHypothesis, fun field member => .initial ?_⟩
      exact linked _ _ found field (List.mem_append_right _ member)

/-- Reading a value that fits an older table gives the value with the fields that it lacks, and
leaves what is behind it, if nothing is behind a message that lacks fields.

Proof: induction on how the value fits. The fields that a message has are read as they were
written; then the queue is at its end if there are others. -/
theorem read_exact {older newer : Table} (grew : older.IsOlder newer)
    (distinct : newer.FieldsApart) {kind : Kind} {value : Value} (fits : value.Fits older kind)
    (fuel : Nat) (rest : List Token) (enough : value.tokens.length ≤ fuel)
    (last : value.LacksLast newer rest) :
    ∃ datum, Execution.decode (reader newer fuel) kind (value.tokens ++ rest) =
        some (datum, rest) ∧ ofDatum datum = value.grown newer := by
  induction fits generalizing fuel rest with
  | scalar token =>
    exact ⟨.single (.scalar token), by simp [Execution.decode, Value.tokens], rfl⟩
  | items shape element items each inductionHypothesis =>
    simp only [Value.tokens, Value.items_tokens, List.length_cons] at enough
    obtain ⟨data, read, grown⟩ := several_items (Execution.decode (reader newer fuel) element) newer
      items rest (fun item member behind => by
        have within := Value.length_le_all Value.tokens items item member
        exact inductionHypothesis item member fuel behind (by omega)) last
    exact ⟨.items shape data, by simp [Execution.decode, Value.tokens, read],
      by rw [ofDatum, grown, Value.grown]⟩
  | entries key value entries keys values keyHypothesis valueHypothesis =>
    simp only [Value.tokens, Value.entries_tokens, List.length_cons] at enough
    have within (entry : Value × Value) (member : entry ∈ entries) :
        entry.1.tokens.length + entry.2.tokens.length < fuel := by
      have fewer := Value.length_le_all (fun entry => entry.1.tokens ++ entry.2.tokens) entries
        entry member
      simp only [List.length_append] at fewer
      omega
    obtain ⟨data, read, grown⟩ := several_entries (Execution.decode (reader newer fuel) key)
      (Execution.decode (reader newer fuel) value) newer entries rest
      (fun entry member behind => keyHypothesis entry member fuel behind
        (by have := within entry member; omega))
      (fun entry member behind => valueHypothesis entry member fuel behind
        (by have := within entry member; omega)) last
    exact ⟨.entries data, by simp [Execution.decode, Value.tokens, read],
      by rw [ofDatum, grown, Value.grown]⟩
  | absent reference declared =>
    simp only [Value.tokens, List.length_singleton] at enough
    obtain ⟨fuel, rfl⟩ : ∃ less, fuel = less + 1 := ⟨fuel - 1, by omega⟩
    obtain ⟨message, found⟩ := Option.isSome_iff_exists.mp declared
    obtain ⟨latest, newFound, _⟩ := grew.found found
    refine ⟨.single .absent, ?_, rfl⟩
    simp only [Execution.decode, reader, buffer, Value.tokens, List.singleton_append]
    rw [read_nested_absent newer (reader newer fuel) reference.id latest newFound]
    rfl
  | message reference message fields declared named each inductionHypothesis =>
    simp only [Value.tokens, List.length_cons] at enough
    obtain ⟨fuel, rfl⟩ : ∃ less, fuel = less + 1 := ⟨fuel - 1, by omega⟩
    obtain ⟨latest, found, added, appended, grewTo⟩ := grew.found declared
    have lacking := Value.missing_exact found (by rw [grewTo]) named
    obtain ⟨ends, inner⟩ := last
    rw [lacking] at ends
    obtain ⟨assigned, read, grown⟩ := decode_fields (reader newer fuel)
      (reader_exhausted newer fuel) newer message.fields added fields rest named
      (fun pair member behind => by
        have within := Value.length_le_all (fun field : String × Value => field.2.tokens) fields
          pair.2 (List.of_mem_zip member).2
        rw [← Value.fields_tokens] at within
        exact inductionHypothesis pair member fuel behind (by omega))
      inner (fun more => ends (by simpa using more)) appended
    have parts : latest.fields = message.fields ++ added := by rw [grewTo]
    rw [← parts] at read
    refine ⟨.single ((Value.message reference.id fields).grown newer), ?_, rfl⟩
    simp only [Execution.decode, reader, buffer, Value.tokens, List.cons_append]
    rw [read_nested_exact newer (reader newer fuel) reference.id latest message.fields added fields
      assigned rest found parts (distinct reference.id latest found) named read grown]
    rfl

/-! ## Growth at the outermost level -/

/-- Whether no message of a table refers to one that has changed in another table. -/
def Table.GrewOutside (older newer : Table) : Prop :=
  ∀ id message, older.get? id = some message → ∀ field ∈ message.fields,
    ∀ reference ∈ field.kind.references, newer.get? reference.id = older.get? reference.id

/-- A value of a kind whose messages have not changed lacks nothing. -/
theorem Queue.Value.Fits.lacks_nothing {older newer : Table} (outside : older.GrewOutside newer)
    {kind : Kind} {value : Value} (fits : value.Fits older kind)
    (unchanged : ∀ reference ∈ kind.references,
      newer.get? reference.id = older.get? reference.id)
    (rest : List Token) : value.LacksLast newer rest := by
  induction fits generalizing rest with
  | scalar token => exact True.intro
  | items shape element held each inductionHypothesis =>
    exact items_lack_last fun item member => inductionHypothesis item member unchanged
  | entries key value held keys values keyHypothesis valueHypothesis =>
    exact entries_lack_last
      (fun entry member => keyHypothesis entry member fun reference inside =>
        unchanged reference (List.mem_append_left _ inside))
      (fun entry member => valueHypothesis entry member fun reference inside =>
        unchanged reference (List.mem_append_right _ inside))
  | absent reference declared => exact True.intro
  | message reference message fields declared named each inductionHypothesis =>
    have same : newer.get? reference.id = some message :=
      (unchanged reference (List.mem_singleton_self _)).trans declared
    refine ⟨fun lacking => absurd (missing_nothing same named) lacking,
      fields_lack_last named fun pair member => inductionHypothesis pair member ?_⟩
    exact outside _ message declared pair.1 (List.of_mem_zip member).1

/-- If messages have grown that no message refers to, then nothing is written behind what a message
lacks. -/
theorem Queue.Value.Fits.lacks_last {older newer : Table} (outside : older.GrewOutside newer)
    {reference : Reference} {value : Value} (fits : value.Fits older (.message reference)) :
    value.LacksLast newer [] := by
  cases fits with
  | absent _ _ => exact True.intro
  | message _ message fields declared named each =>
    refine ⟨fun _ => rfl, fields_lack_last named fun pair member => ?_⟩
    exact (each pair member).lacks_nothing outside
      (outside _ message declared pair.1 (List.of_mem_zip member).1)

/-! ## An order and its item -/

/-- A message with an item and other fields, and the message of the item. -/
def orderMessages (ofOrder ofItem : List Field) : List Message :=
  [⟨0, "Order", [], ⟨"item", .message ⟨1, "Item"⟩, false, []⟩ :: ofOrder⟩,
    ⟨1, "Item", [], ofItem⟩]

/-- The table of both messages. -/
def orderTable (ofOrder ofItem : List Field) : Table :=
  ⟨(orderMessages ofOrder ofItem).map some⟩

/-- A number that was added to a message. -/
def addedNumber (name : String) : Field :=
  ⟨name, .scalar .int, true, []⟩

/-- The table was older before fields were added. -/
theorem order_table_older (ofOrder ofItem moreOfOrder moreOfItem : List Field)
    (order : ∀ field ∈ moreOfOrder, field.appended = true)
    (item : ∀ field ∈ moreOfItem, field.appended = true) :
    (orderTable ofOrder ofItem).IsOlder
      (orderTable (ofOrder ++ moreOfOrder) (ofItem ++ moreOfItem)) :=
  .cons (.some ⟨moreOfOrder, order, rfl⟩) (.cons (.some ⟨moreOfItem, item, rfl⟩) .nil)

/-- The table in which the order has got a count. -/
def countedTable : Table := orderTable [addedNumber "count"] []

/-- The table in which the item has got a weight. -/
def weighedTable : Table := orderTable [] [addedNumber "weight"]

/-- The table in which both have grown. -/
def grownTable : Table := orderTable [addedNumber "count"] [addedNumber "weight"]

/-- An order with a count, whose item has no weight yet. -/
def countedOrder : Value :=
  .message 0 [("item", .message 1 []), ("count", .scalar (.int 5))]

/-- An order without a count, whose item has a weight. -/
def weighedOrder : Value :=
  .message 0 [("item", .message 1 [("weight", .scalar (.int 5))])]

/-- The order with a count is one of the table in which orders have counts. -/
theorem counted_order_fits : countedOrder.Fits countedTable (.message ⟨0, "Order"⟩) := by
  have item : (Value.message 1 []).Fits countedTable (.message ⟨1, "Item"⟩) :=
    .message ⟨1, "Item"⟩ _ [] rfl rfl (List.forall_mem_nil _)
  exact .message ⟨0, "Order"⟩ _ _ rfl rfl (List.forall_mem_cons.mpr
    ⟨item, List.forall_mem_cons.mpr ⟨.scalar (.int 5), List.forall_mem_nil _⟩⟩)

/-- The order without a count is one of the table in which items have weights. -/
theorem weighed_order_fits : weighedOrder.Fits weighedTable (.message ⟨0, "Order"⟩) := by
  have item : (Value.message 1 [("weight", .scalar (.int 5))]).Fits weighedTable
      (.message ⟨1, "Item"⟩) :=
    .message ⟨1, "Item"⟩ _ _ rfl rfl (List.forall_mem_cons.mpr
      ⟨.scalar (.int 5), List.forall_mem_nil _⟩)
  exact .message ⟨0, "Order"⟩ _ _ rfl rfl (List.forall_mem_cons.mpr
    ⟨item, List.forall_mem_nil _⟩)

/-- An order that has not grown, of an item that has not grown. -/
def plainOrder : Value :=
  .message 0 [("item", .message 1 [])]

/-! ## Reading what an older table wrote -/

/-- What is true of a message of an older table that the code of a newer one reads. -/
structure ReadsOld (newer older : Table) (reference : Reference) (value : Value) : Prop where
  /-- With the fields that it lacks, the value is one of the newer table. -/
  grows : (value.grown newer).Fits newer (.message reference)
  /-- A value of the newer table lacks nothing. -/
  complete : value.Fits newer (.message reference) → value.grown newer = value
  /-- The code of the older table writes the tokens of the value. -/
  written : ∀ fuel, value.tokens.length ≤ fuel →
    writer older fuel reference.id value = some value.tokens
  /-- If nothing is written behind a message that lacks fields, the code of the newer table reads
  the value with these fields at their defaults, at every level, and leaves nothing. -/
  read : value.LacksLast newer [] → ∀ fuel, value.tokens.length ≤ fuel →
    (reader newer fuel).message reference.id value.tokens = some (value.grown newer, [])
  /-- Nothing is written behind a message that lacks fields if no message refers to one that has
  grown. -/
  outside : older.GrewOutside newer → value.LacksLast newer []

/-- What the code of an older table writes is read by the code of a newer one, with the fields that
the older one lacks at their defaults at every level, and nothing is left of it, if nothing is
written behind a message that lacks fields.

Proof: writing a value appends its tokens, and reading them gives the value with what it lacks
(`read_exact`). The tokens bound the messages inside each other, because each of them has one that
says that it is there. -/
theorem old_buffers_readable {messages : List Message} {newer older : Table}
    (accepted : Table.ofMessages messages = .ok newer) (grew : older.IsOlder newer)
    {reference : Reference} {value : Value} (fits : value.Fits older (.message reference)) :
    ReadsOld newer older reference value := by
  have distinct := Table.accepted_apart accepted
  constructor
  case grows => exact fits.grows grew (Table.accepted_linked accepted)
  case complete => exact Value.Fits.complete
  case written =>
    intro fuel enough
    have wrote := write_exact (grew.fields_apart distinct) fits fuel 0 (.expression "message")
      ⟨fun _ => some value, fun _ => none⟩ enough rfl
    simpa [Kind.writeCode, write, appended, Scope.valueOf?] using wrote
  case read =>
    intro last fuel enough
    obtain ⟨datum, read, grown⟩ := read_exact grew distinct fits fuel [] enough last
    rw [List.append_nil, Execution.decode, Option.map_eq_some_iff] at read
    obtain ⟨⟨whole, rest⟩, message, same⟩ := read
    obtain ⟨rfl, rfl⟩ := Prod.mk.inj same
    rw [message, ← grown, ofDatum]
  case outside => exact fun outside => fits.lacks_last outside

/-- An order that was written before orders had counts and items had weights is read with a count
and a weight of zero. -/
theorem old_buffers_readable_plain :
    writer (orderTable [] []) 2 0 plainOrder = some [.bool true, .bool true] ∧
      (reader grownTable 2).message 0 [.bool true, .bool true] =
        some (.message 0 [("item", .message 1 [("weight", .scalar (.int 0))]),
          ("count", .scalar (.int 0))], []) := by
  have item : (Value.message 1 []).Fits (orderTable [] []) (.message ⟨1, "Item"⟩) :=
    .message ⟨1, "Item"⟩ _ [] rfl rfl (List.forall_mem_nil _)
  have order : plainOrder.Fits (orderTable [] []) (.message ⟨0, "Order"⟩) :=
    .message ⟨0, "Order"⟩ _ _ rfl rfl (List.forall_mem_cons.mpr ⟨item, List.forall_mem_nil _⟩)
  have last : plainOrder.LacksLast grownTable [] :=
    ⟨fun _ => rfl, ⟨fun _ => rfl, True.intro⟩, True.intro⟩
  have accepted : Table.ofMessages (orderMessages [addedNumber "count"] [addedNumber "weight"]) =
      .ok grownTable := by decide +kernel
  have older : (orderTable [] []).IsOlder grownTable :=
    order_table_older [] [] _ _ (by simp [addedNumber]) (by simp [addedNumber])
  have reads := old_buffers_readable accepted older order
  exact ⟨reads.written 2 (by decide), reads.read last 2 (by decide)⟩

/-- Where something is written behind a message that lacks fields, it is taken for them: an order
with a count of an item without a weight, and an order without a count of an item with a weight,
are the same tokens, and only one of the two is read back. -/
theorem old_buffers_ambiguous :
    Table.ofMessages (orderMessages [addedNumber "count"] [addedNumber "weight"]) =
        .ok grownTable ∧
      countedTable.IsOlder grownTable ∧ weighedTable.IsOlder grownTable ∧
      countedOrder.Fits countedTable (.message ⟨0, "Order"⟩) ∧
      weighedOrder.Fits weighedTable (.message ⟨0, "Order"⟩) ∧
      writer countedTable 3 0 countedOrder = some [.bool true, .bool true, .int 5] ∧
      writer weighedTable 3 0 weighedOrder = some [.bool true, .bool true, .int 5] ∧
      (reader grownTable 3).message 0 [.bool true, .bool true, .int 5] =
        some (weighedOrder.grown grownTable, []) ∧
      countedOrder.grown grownTable ≠ weighedOrder.grown grownTable := by
  refine ⟨by decide +kernel, order_table_older _ [] [] _ ?_ ?_, order_table_older [] _ _ [] ?_ ?_,
    counted_order_fits, weighed_order_fits, rfl, rfl, rfl, ?apart⟩
  case apart =>
    intro same
    exact absurd (congrArg Value.tokens same) (by decide)
  all_goals simp [addedNumber]

end PacketSmith
