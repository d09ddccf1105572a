import PacketSmith.Command
import PacketSmith.Proofs.Json.Reading

/-!
# Schemas and their JSON form

The JSON form of schemas leaves out documentation where there is none, and has the parameters of
a kind beside its tag. Reading it gives the schemas back, exactly if they do not nest deeper than
the reader allows (`Message.list_read_back`): the room that is left for a kind is what the
containers around it leave. What one command prints is therefore what another one can load
(`schemas_round_trip`).
-/

namespace PacketSmith

namespace Json

mutual

/-- The number of containers inside each other. -/
def nesting : Json → Nat
  | array items => itemsNesting items + 1
  | object members => membersNesting members + 1
  | _ => 0

/-- The number of containers inside each other in items. -/
def itemsNesting : List Json → Nat
  | [] => 0
  | item :: items => max (nesting item) (itemsNesting items)

/-- The number of containers inside each other in members. -/
def membersNesting : List (Option String × Json) → Nat
  | [] => 0
  | (_, value) :: members => max (nesting value) (membersNesting members)

end

/-- An array takes one container more than its items. -/
theorem nesting_array_le (items : List Json) (room : Nat) :
    (array items).nesting ≤ room + 1 ↔ ∀ item ∈ items, item.nesting ≤ room := by
  have inner : itemsNesting items ≤ room ↔ ∀ item ∈ items, item.nesting ≤ room := by
    induction items with
    | nil => simp [itemsNesting]
    | cons item items inductionHypothesis => simp [itemsNesting, inductionHypothesis]
  rw [nesting, Nat.add_le_add_iff_right, inner]

/-- An object takes one container more than the values of its members. -/
theorem nesting_of_members_le (members : List (String × Json)) (room : Nat) :
    (ofMembers members).nesting ≤ room + 1 ↔ ∀ member ∈ members, member.2.nesting ≤ room := by
  have inner : membersNesting (members.map fun member => (some member.1, member.2)) ≤ room ↔
      ∀ member ∈ members, member.2.nesting ≤ room := by
    induction members with
    | nil => simp [membersNesting]
    | cons member members inductionHypothesis => simp [membersNesting, inductionHypothesis]
  rw [ofMembers, nesting, Nat.add_le_add_iff_right]
  exact inner

/-- An object is a container, whatever is in it. -/
theorem nesting_of_members_pos (members : List (String × Json)) :
    0 < (ofMembers members).nesting :=
  Nat.succ_pos _

/-- A text is no container. -/
@[simp] theorem nesting_of_string (value : String) : (ofString value).nesting = 0 := rfl

/-- A number is no container. -/
@[simp] theorem nesting_of_int (value : Int) : (ofInt value).nesting = 0 := rfl

/-- Texts stand in one container. -/
theorem nesting_of_strings_le (values : List String) (room : Nat) :
    (ofStrings values).nesting ≤ room + 1 := by
  rw [ofStrings, nesting_array_le]
  simp

/-- An integer of few digits is finite. -/
theorem is_finite_short (value : Int) (short : value.natAbs < 100000) :
    (JsonNumber.ofInt value).isFinite = true := by
  have length := Nat.toDigits_length 10 value.natAbs 5 (by decide) (by omega)
  have few : (Nat.toDigits 10 value.natAbs).length < 300 := by omega
  simp [JsonNumber.isFinite, JsonNumber.ofInt, few]

/-- An object can be taken as a whole if there is room for it and its values can. -/
theorem is_sound_of_members (members : List (String × Json)) (room : Nat) :
    (ofMembers members).isSound (room + 1) = members.all fun member => member.2.isSound room := by
  rw [ofMembers, isSound]
  induction members with
  | nil => rfl
  | cons member members inductionHypothesis =>
    simp [membersAreSound, inductionHypothesis]

/-- Without room no object can be taken. -/
theorem is_sound_of_members_zero (members : List (String × Json)) :
    (ofMembers members).isSound 0 = false := rfl

/-- A text can be taken. -/
@[simp] theorem is_sound_of_string (value : String) (room : Nat) :
    (ofString value).isSound room = true := by
  simp [ofString, isSound]

/-- The members of an object are those it was made of. -/
@[simp] theorem members_of_members (members : List (String × Json)) :
    (ofMembers members).members? = some members := by
  rw [ofMembers, members?]
  induction members with
  | nil => rfl
  | cons member members inductionHypothesis =>
    rw [List.map_cons, List.mapM_cons, inductionHypothesis]
    rfl

/-- The integer of a number is the one it was made of. -/
@[simp] theorem int_of_int (value : Int) : (ofInt value).int? = some value := by
  rcases Int.lt_or_le value 0 with negative | whole
  · have size : -Int.ofNat value.natAbs = value := by
      have magnitude := Int.ofNat_natAbs_of_nonpos (Int.le_of_lt negative)
      change -(value.natAbs : Int) = value
      omega
    have nonzero : value ≠ 0 := by omega
    simp only [ofInt, int?, JsonNumber.toInt?, JsonNumber.ofInt]
    simp [negative, nonzero, - Int.ofNat_eq_natCast, size]
  · have size : Int.ofNat value.natAbs = value := Int.natAbs_of_nonneg whole
    have positive : ¬ value < 0 := by omega
    simp [ofInt, int?, JsonNumber.toInt?, JsonNumber.ofInt, positive, - Int.ofNat_eq_natCast,
      size]

end Json

/-- Reading what is written item by item gives all the items back, or nothing if one of them is
not read. -/
theorem map_m_written {α β : Type} (read : β → Option α) (write : α → β) (readable : α → Prop)
    [DecidablePred readable] (items : List α)
    (each : ∀ item ∈ items, read (write item) = if readable item then some item else none) :
    (items.map write).mapM read =
      if ∀ item ∈ items, readable item then some items else none := by
  induction items with
  | nil => rfl
  | cons item items inductionHypothesis =>
    rw [List.map_cons, List.mapM_cons, each item List.mem_cons_self,
      inductionHypothesis fun item found => each item (List.mem_cons_of_mem _ found)]
    by_cases first : readable item
    · by_cases others : ∀ item ∈ items, readable item
      · rw [if_pos first, if_pos others, if_pos (List.forall_mem_cons.mpr ⟨first, others⟩)]
        rfl
      · rw [if_pos first, if_neg others, if_neg fun all => others (List.forall_mem_cons.mp all).2]
        rfl
    · rw [if_neg first, if_neg fun all => first (List.forall_mem_cons.mp all).1]
      rfl

/-- Texts are read back from their array. -/
@[simp] theorem Json.texts_of_strings (values : List String) :
    (Json.ofStrings values).texts? = some values := by
  have read := map_m_written Json.text? Json.ofString (fun _ => True) values fun _ _ => by
    simp [Json.ofString, Json.text?]
  simpa [Json.ofStrings, Json.texts?, Json.items?] using read

/-! ## Kinds -/

/-- A message number is read back from its integer. -/
@[simp] theorem ProtocolId.of_json_of_int (id : ProtocolId) :
    ProtocolId.ofJson? (.ofInt id.toInt) = some id := by
  have low := Int16.le_toInt id
  have high := Int16.toInt_lt id
  have fits : -32768 ≤ id.toInt ∧ id.toInt ≤ 32767 := by
    constructor <;> omega
  simp [ProtocolId.ofJson?, ProtocolId.ofInt?, fits]

/-- A tag is read back from its name. -/
@[simp] theorem Tag.of_json_name (inside : Bool) (tag : Tag) :
    Tag.ofJson? inside (.ofString tag.name) = some tag := by
  have named : ∀ tag : Tag, Tag.ofName? tag.name = some tag := by
    intro tag
    cases tag with
    | scalar base => cases base <;> decide
    | collection shape => cases shape <;> decide
    | map | message => decide
  simpa [Tag.ofJson?, Json.ofString, Json.text?] using named tag

namespace Kind

/-- The members of a kind beside its tag. -/
def parameters : Kind → List (String × Json)
  | scalar _ => []
  | collection _ element => [("element", element.toJson)]
  | map key value => [("key", key.toJson), ("value", value.toJson)]
  | message reference =>
    [("protocol_id", .ofInt reference.id.toInt), ("name", .ofString reference.name)]

/-- A kind is written as an object of its tag and its parameters. -/
theorem to_json_eq (kind : Kind) :
    kind.toJson = .ofMembers (("kind", .ofString kind.tag.name) :: kind.parameters) := by
  cases kind <;> rfl

/-- The tag and the parameters of a kind are found in its JSON form. -/
theorem kind_parts (inside : Bool) (kind : Kind) :
    kindParts? inside kind.toJson = some (kind.tag, kind.parameters.map Prod.snd) := by
  have tagged : Json.required? "kind"
      (("kind", .ofString kind.tag.name) :: kind.parameters) = some (.ofString kind.tag.name) := by
    cases kind <;> rfl
  have found : kind.tag.memberNames.mapM (fun name => Json.required? name
      (("kind", .ofString kind.tag.name) :: kind.parameters)) =
        some (kind.parameters.map Prod.snd) := by
    cases kind <;> rfl
  rw [to_json_eq]
  change (Json.members? _).bind _ = _
  rw [Json.members_of_members, Option.bind_some, tagged]
  simp only [Option.bind_eq_bind, Option.bind_some, Tag.of_json_name, found]
  rfl

/-- A kind takes one container more than its parameters. -/
theorem nesting_le_iff (kind : Kind) (room : Nat) :
    kind.toJson.nesting ≤ room + 1 ↔
      ∀ parameter ∈ kind.parameters, parameter.2.nesting ≤ room := by
  rw [to_json_eq, Json.nesting_of_members_le, List.forall_mem_cons]
  simp

/-- A kind is a container. -/
theorem nesting_pos (kind : Kind) : 0 < kind.toJson.nesting := by
  rw [to_json_eq]
  exact Json.nesting_of_members_pos _

/-- A kind can be taken as a whole if there is room for it and its parameters can. -/
theorem is_sound_succ_iff (kind : Kind) (room : Nat) :
    kind.toJson.isSound (room + 1) = true ↔
      ∀ parameter ∈ kind.parameters, parameter.2.isSound room = true := by
  rw [to_json_eq, Json.is_sound_of_members, List.all_cons, Json.is_sound_of_string,
    Bool.true_and, List.all_eq_true]

/-- A message number can be taken. -/
@[simp] theorem is_sound_id (id : ProtocolId) (room : Nat) :
    (Json.ofInt id.toInt).isSound room = true := by
  have low := Int16.le_toInt id
  have high := Int16.toInt_lt id
  rw [Json.ofInt, Json.isSound]
  exact Json.is_finite_short _ (by omega)

/-- A kind can be taken as a whole exactly if there is room for the containers in it. -/
theorem is_sound_iff (kind : Kind) (room : Nat) :
    kind.toJson.isSound room = true ↔ kind.toJson.nesting ≤ room := by
  induction room generalizing kind with
  | zero =>
    have container := kind.nesting_pos
    have unsound : kind.toJson.isSound 0 = false := by
      rw [to_json_eq, Json.is_sound_of_members_zero]
    simp only [unsound, Bool.false_eq_true, false_iff]
    omega
  | succ room inductionHypothesis =>
    rw [is_sound_succ_iff, nesting_le_iff]
    cases kind with
    | scalar base => simp [parameters]
    | collection shape element => simp [parameters, inductionHypothesis]
    | map key value => simp [parameters, inductionHypothesis]
    | message reference => simp [parameters]

/-- A kind is read back from its JSON form with as much fuel as there are containers in it. -/
theorem of_parts_to_json (inside : Bool) (fuel : Nat) (kind : Kind)
    (enough : kind.toJson.nesting ≤ fuel) : ofParts? inside fuel kind.toJson = some kind := by
  induction fuel generalizing inside kind with
  | zero => exact absurd enough (Nat.not_le_of_lt kind.nesting_pos)
  | succ fuel inductionHypothesis =>
    rw [nesting_le_iff] at enough
    rw [ofParts?, kind_parts]
    cases kind with
    | scalar base => rfl
    | collection shape element =>
      have inner : element.toJson.nesting ≤ fuel := enough ("element", _) (by simp [parameters])
      simp [parameters, tag, inductionHypothesis true element inner]
    | map key value =>
      have inKey : key.toJson.nesting ≤ fuel := enough ("key", _) (by simp [parameters])
      have inValue : value.toJson.nesting ≤ fuel := enough ("value", _) (by simp [parameters])
      simp [parameters, tag, inductionHypothesis true key inKey,
        inductionHypothesis true value inValue]
    | message reference => simp [parameters, tag, Json.ofString, Json.text?]

/-- A kind is read back from its JSON form exactly if there is room for it. -/
theorem of_json_to_json (room : Nat) (kind : Kind) :
    ofJson? room kind.toJson = if kind.toJson.nesting ≤ room then some kind else none := by
  simp only [ofJson?, is_sound_iff]
  by_cases fits : kind.toJson.nesting ≤ room
  · rw [if_pos fits, if_pos fits, of_parts_to_json false (room + 1) kind (by omega)]
  · rw [if_neg fits, if_neg fits]

end Kind

/-! ## Fields and messages -/

/-- The value of the member for documentation, if there is one. -/
def docsValue (docs : List String) : Option Json :=
  if docs.isEmpty then none else some (.ofStrings docs)

/-- Documentation is read back, also where it is left out. -/
@[simp] theorem docs_read (docs : List String) :
    Json.orElse [] Json.texts? (docsValue docs) = some docs := by
  cases docs with
  | nil => rfl
  | cons first docs => exact Json.texts_of_strings _

/-- Documentation takes one container. -/
theorem nesting_docs_le (docs : List String) (room : Nat) :
    ∀ member ∈ docsMember docs, member.2.nesting ≤ room + 1 := by
  intro member found
  rw [docsMember] at found
  split at found
  · cases found
  · rw [List.mem_singleton.mp found]
    exact Json.nesting_of_strings_le docs room

namespace Field

/-- The parts of a field are found in its JSON form. -/
theorem parts_to_json (field : Field) :
    Json.parts? ["name", "type", "appended", "docs"] field.toJson =
      some [some (.ofString field.name), some field.kind.toJson, some (.bool field.appended),
        docsValue field.docs] := by
  rw [toJson]
  change (Json.members? _).bind _ = _
  rw [Json.members_of_members, Option.bind_some]
  cases field.docs with
  | nil => rfl
  | cons first docs => rfl

/-- A field takes one container more than its kind. -/
theorem nesting_le_iff (field : Field) (room : Nat) :
    field.toJson.nesting ≤ room + 2 ↔ field.kind.toJson.nesting ≤ room + 1 := by
  rw [toJson, Json.nesting_of_members_le, List.forall_mem_append,
    and_iff_left (nesting_docs_le field.docs room)]
  simp [Json.nesting]

/-- A field is read back from its JSON form exactly if there is room for it. -/
theorem of_json_to_json (room : Nat) (field : Field) :
    ofJson? (room + 2) field.toJson =
      if field.toJson.nesting ≤ room + 2 then some field else none := by
  rw [ofJson?, parts_to_json]
  simp only [nesting_le_iff, Option.bind_eq_bind, Option.bind_some, docs_read]
  rw [show room + 2 - 1 = room + 1 from rfl, Kind.of_json_to_json]
  by_cases fits : field.kind.toJson.nesting ≤ room + 1
  · rw [if_pos fits, if_pos fits]
    rfl
  · rw [if_neg fits, if_neg fits]
    rfl

end Field

namespace Message

/-- The parts of a message are found in its JSON form. -/
theorem parts_to_json (message : Message) :
    Json.parts? ["protocol_id", "name", "docs", "fields"] message.toJson =
      some [some (.ofInt message.id.toInt), some (.ofString message.name),
        docsValue message.docs, some (.array (message.fields.map Field.toJson))] := by
  rw [toJson]
  change (Json.members? _).bind _ = _
  rw [Json.members_of_members, Option.bind_some]
  cases message.docs with
  | nil => rfl
  | cons first docs => rfl

/-- A message takes two containers more than its fields. -/
theorem nesting_le_iff (message : Message) (room : Nat) :
    message.toJson.nesting ≤ room + 4 ↔
      ∀ field ∈ message.fields, field.toJson.nesting ≤ room + 2 := by
  rw [toJson, Json.nesting_of_members_le, List.forall_mem_append, List.forall_mem_append,
    and_iff_left (nesting_docs_le message.docs (room + 2))]
  simp [Json.nesting_array_le]

/-- A message is read back from its JSON form exactly if there is room for it. -/
theorem of_json_to_json (room : Nat) (message : Message) :
    ofJson? (room + 4) message.toJson =
      if message.toJson.nesting ≤ room + 4 then some message else none := by
  have fields : (message.fields.map Field.toJson).mapM (Field.ofJson? (room + 2)) =
      if ∀ field ∈ message.fields, field.toJson.nesting ≤ room + 2 then some message.fields
      else none :=
    map_m_written _ _ (fun field : Field => field.toJson.nesting ≤ room + 2) _
      fun field _ => Field.of_json_to_json room field
  rw [ofJson?, parts_to_json]
  simp only [nesting_le_iff, Option.bind_eq_bind, Option.bind_some, docs_read,
    ProtocolId.of_json_of_int]
  rw [Json.orElse, Json.items?, Option.bind_some, show room + 4 - 2 = room + 2 from rfl, fields]
  by_cases fits : ∀ field ∈ message.fields, field.toJson.nesting ≤ room + 2
  · rw [if_pos fits, if_pos fits]
    rfl
  · rw [if_neg fits, if_neg fits]
    rfl

/-- Messages are read back from their JSON form exactly if they do not nest too deep. -/
theorem list_of_json_to_json (messages : List Message) :
    listOfJson? (listToJson messages) =
      if (listToJson messages).nesting ≤ deepestNesting then some messages else none := by
  have fits_iff : (listToJson messages).nesting ≤ deepestNesting ↔
      ∀ message ∈ messages, message.toJson.nesting ≤ 122 + 4 := by
    rw [listToJson, show deepestNesting = 122 + 4 + 1 from rfl, Json.nesting_array_le]
    simp
  simp only [fits_iff]
  exact map_m_written _ _ (fun message : Message => message.toJson.nesting ≤ 122 + 4) _
    fun message _ => of_json_to_json 122 message

end Message

/-! ## Printed schemas -/

namespace Json

/-- A text has a printed form. -/
@[simp] theorem IsWritten.of_string (value : String) : (ofString value).IsWritten :=
  .text value

/-- An integer has a printed form. -/
@[simp] theorem IsWritten.of_int (value : Int) : (ofInt value).IsWritten :=
  .number _ _

/-- Texts have a printed form. -/
@[simp] theorem IsWritten.of_strings (values : List String) : (ofStrings values).IsWritten :=
  .array _ fun item found => by
    obtain ⟨value, _, rfl⟩ := List.mem_map.mp found
    exact .text value

/-- An object has a printed form if its values have one. -/
theorem IsWritten.of_members {members : List (String × Json)}
    (written : ∀ member ∈ members, member.2.IsWritten) : (ofMembers members).IsWritten := by
  refine .object _ (fun member found => ?named) fun member found => ?values
  all_goals obtain ⟨pair, among, rfl⟩ := List.mem_map.mp found
  case named => exact ⟨pair.1, rfl⟩
  case values => exact written pair among

end Json

/-- Documentation has a printed form. -/
theorem docs_written (docs : List String) : ∀ member ∈ docsMember docs, member.2.IsWritten := by
  intro member found
  rw [docsMember] at found
  split at found
  · cases found
  · rw [List.mem_singleton.mp found]
    exact .of_strings docs

/-- A kind has a printed form. -/
theorem Kind.to_json_written (kind : Kind) : kind.toJson.IsWritten := by
  induction kind with
  | scalar base => exact .of_members (by simp)
  | collection shape element inductionHypothesis =>
    exact .of_members (by simp [inductionHypothesis])
  | map key value keyHypothesis valueHypothesis =>
    exact .of_members (by simp [keyHypothesis, valueHypothesis])
  | message reference => exact .of_members (by simp)

/-- A field has a printed form. -/
theorem Field.to_json_written (field : Field) : field.toJson.IsWritten := by
  refine .of_members (List.forall_mem_append.mpr ⟨?_, docs_written field.docs⟩)
  simp [field.kind.to_json_written, Json.IsWritten.bool]

/-- A message has a printed form. -/
theorem Message.to_json_written (message : Message) : message.toJson.IsWritten := by
  have fields : (Json.array (message.fields.map Field.toJson)).IsWritten :=
    .array _ fun item found => by
      obtain ⟨field, _, rfl⟩ := List.mem_map.mp found
      exact field.to_json_written
  refine .of_members (List.forall_mem_append.mpr
    ⟨List.forall_mem_append.mpr ⟨?_, docs_written message.docs⟩, ?_⟩)
  · simp
  · simpa using fields

/-- Messages have a printed form. -/
theorem Message.list_to_json_written (messages : List Message) :
    (Message.listToJson messages).IsWritten :=
  .array _ fun item found => by
    obtain ⟨message, _, rfl⟩ := List.mem_map.mp found
    exact message.to_json_written

/-- Printed messages are read back exactly if they do not nest too deep, also with blanks behind
the text. -/
theorem Message.list_read_back (messages : List Message) (behind : String)
    (blank : behind.toList.all Json.isSpace = true) :
    (Json.ofText? ((listToJson messages).pretty ++ behind)).bind listOfJson? =
      if (listToJson messages).nesting ≤ deepestNesting then some messages else none := by
  rw [Json.of_text_pretty (list_to_json_written messages) behind blank, Option.bind_some,
    list_of_json_to_json]

/-- The schemas of one file of listed messages are those messages. -/
theorem Source.load_schemas_listing {disk : Disk} {path text : String} {messages : List Message}
    (listing : SourceSort.ofPath? path = some .listing) (stands : disk.readText path = .ok text)
    (read : (Json.ofText? text).bind Message.listOfJson? = some messages) :
    loadSchemas disk [path] = .ok messages := by
  have file : Sources.ofFile disk path = .ok ⟨messages, []⟩ := by
    simp only [Sources.ofFile, stands, listing, read]
  have files : Sources.ofFiles disk [path] = .ok ⟨messages, []⟩ := by
    simp [Sources.ofFiles, file, bind, Except.bind, pure, Except.pure]
  rw [loadSchemas, files]
  simp [bind, Except.bind, Sources.resolve, pure, Except.pure]

/-- The command for schemas prints the messages of the sources and a line break. -/
theorem Command.schema_printed {sources paths : List String} {manifest : Option String}
    {disk : Disk} {messages : List Message}
    (named : schemaSources sources manifest disk = .ok paths)
    (loaded : Source.loadSchemas disk paths = .ok messages) :
    schema sources manifest disk =
      ⟨disk, (Message.listToJson messages).pretty ++ "\n", .ok ()⟩ := by
  have text : schemaText sources manifest disk =
      .ok ((Message.listToJson messages).pretty ++ "\n") := by
    simp [schemaText, named, loaded, bind, Except.bind, Except.mapError, pure, Except.pure]
  rw [schema, text]

/-- Messages whose JSON form does not nest too deep are read back from their printed form, and so
a file with the output of the command for schemas has the schemas of the sources it was printed
from.

Proof: every kind, field and message has an object with its parts, in which the reader finds the
same parts again; whether there is room for a kind is a count of its containers. -/
theorem schemas_round_trip (messages : List Message)
    (shallow : (Message.listToJson messages).nesting ≤ deepestNesting) :
    (Json.ofText? (Message.listToJson messages).pretty).bind Message.listOfJson? =
        some messages ∧
      ∀ (disk : Disk) (sources : List String) (manifest : Option String) (paths : List String),
        Command.schemaSources sources manifest disk = .ok paths →
        Source.loadSchemas disk paths = .ok messages →
        ∃ printed, Command.schema sources manifest disk = ⟨disk, printed, .ok ()⟩ ∧
          ∀ (after : Disk) (path : String), Source.SourceSort.ofPath? path = some .listing →
            after.readText path = .ok printed →
            Source.loadSchemas after [path] = .ok messages := by
  constructor
  · have read := Message.list_read_back messages "" rfl
    rwa [String.append_empty, if_pos shallow] at read
  · intro disk sources manifest paths named loaded
    refine ⟨_, Command.schema_printed named loaded, ?_⟩
    intro after path listing stands
    refine Source.load_schemas_listing listing stands ?_
    rw [Message.list_read_back messages "\n" (by decide), if_pos shallow]

/-- A message with documentation and nested kinds. -/
def listedChart : List Message :=
  [⟨7, "Chart", ["The \"marks\"."],
    [⟨"marks", .map (.scalar .int) (.collection .list (.message ⟨-7, "Mark"⟩)), true, []⟩]⟩]

/-- A file that lists the message in the short form. -/
def chartDisk : Disk where
  entries := [(["chart.json"], .file (.text
      ("[[7, \"Chart\", [\"The \\u0022marks\\u0022.\"], [[\"marks\", [\"map\", [\"int\"], " ++
        "[\"list\", [\"protocol\", -7, \"Mark\"]]], true]]]]")))]
  here := []

/-- The message is printed in the long form, and a file of the printed text lists it again. -/
theorem schemas_round_trip_chart :
    ∃ printed, Command.schema ["chart.json"] none chartDisk = ⟨chartDisk, printed, .ok ()⟩ ∧
      Source.loadSchemas ⟨[(["printed.json"], .file (.text printed))], []⟩ ["printed.json"] =
        .ok listedChart := by
  obtain ⟨printed, prints, loads⟩ := (schemas_round_trip listedChart (by decide +kernel)).2
    chartDisk ["chart.json"] none ["chart.json"] rfl (by decide +kernel)
  exact ⟨printed, prints, loads _ _ (by decide +kernel) rfl⟩

end PacketSmith
