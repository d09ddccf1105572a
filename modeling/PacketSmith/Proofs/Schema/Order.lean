import Mathlib.Data.List.Perm.Basic
import PacketSmith.Command
import PacketSmith.Proofs.Schema.Slots

/-!
# The order of sources

Sources in another order give the same messages in another order, once no two of them have one
name: a declared type then means the same kind whichever declaration comes last. Validation
refuses lists in which names or numbers come twice, in every order of the list, and a list that
it accepts fills the slots in the same way in every order. The table of sources therefore does
not depend on their order.
-/

namespace PacketSmith

/-- The results of steps on the entries of a list are the results of the step on each of them. -/
theorem map_m_accepts_iff {Entry Result Problem : Type} (step : Entry → Except Problem Result)
    (entries : List Entry) (results : List Result) :
    entries.mapM step = .ok results ↔
      List.Forall₂ (fun entry result => step entry = .ok result) entries results := by
  induction entries generalizing results with
  | nil => simp [pure, Except.pure, eq_comm]
  | cons entry entries inductionHypothesis =>
    rw [List.mapM_cons, List.forall₂_cons_left_iff]
    constructor
    · intro done
      cases first : step entry with
      | error problem => simp [first, bind, Except.bind] at done
      | ok result =>
        cases others : entries.mapM step with
        | error problem => simp [first, others, bind, Except.bind] at done
        | ok rest =>
          have whole : result :: rest = results := by
            simpa [first, others, bind, Except.bind, pure, Except.pure] using done
          exact ⟨result, rest, rfl, (inductionHypothesis rest).mp others, whole.symm⟩
    · rintro ⟨result, rest, first, others, rfl⟩
      simp [first, (inductionHypothesis rest).mpr others, bind, Except.bind, pure, Except.pure]

/-- Steps on entries in another order give the results in another order. -/
theorem map_m_permuted {Entry Result Problem : Type} (step : Entry → Except Problem Result)
    {entries others : List Entry} (permuted : entries.Perm others) {results : List Result}
    (done : entries.mapM step = .ok results) :
    ∃ rearranged, others.mapM step = .ok rearranged ∧ results.Perm rearranged := by
  obtain ⟨rearranged, related, same⟩ :=
    List.perm_comp_forall₂ permuted.symm ((map_m_accepts_iff step _ _).mp done)
  exact ⟨rearranged, (map_m_accepts_iff step _ _).mpr related, same.symm⟩

namespace Source

/-! ## Files -/

/-- Whether sources hold the same, in whatever order. -/
structure Sources.Same (sources others : Sources) : Prop where
  /-- The listed messages are the same. -/
  messages : sources.messages.Perm others.messages
  /-- The declarations are the same. -/
  declarations : sources.declarations.Perm others.declarations

/-- Files that are read are read one by one. -/
theorem Sources.of_files_cons (disk : Disk) (path : String) (paths : List String)
    (sources : Sources) :
    ofFiles disk (path :: paths) = .ok sources ↔
      ∃ first others, ofFile disk path = .ok first ∧ ofFiles disk paths = .ok others ∧
        sources = ⟨first.messages ++ others.messages,
          first.declarations ++ others.declarations⟩ := by
  rw [ofFiles]
  cases ofFile disk path with
  | error fault => simp [bind, Except.bind]
  | ok first =>
    cases ofFiles disk paths with
    | error fault => simp [bind, Except.bind]
    | ok others => simp [bind, Except.bind, pure, Except.pure, eq_comm]

/-- Files that are read in one order are read in every order, and hold the same. -/
theorem Sources.of_files_permuted (disk : Disk) {paths others : List String}
    (permuted : paths.Perm others) {sources : Sources}
    (read : ofFiles disk paths = .ok sources) :
    ∃ rearranged, ofFiles disk others = .ok rearranged ∧ sources.Same rearranged := by
  induction permuted generalizing sources with
  | nil => exact ⟨sources, read, .refl _, .refl _⟩
  | cons path _ inductionHypothesis =>
    obtain ⟨first, rest, one, all, rfl⟩ := (of_files_cons _ _ _ _).mp read
    obtain ⟨rearranged, reread, same⟩ := inductionHypothesis all
    exact ⟨_, (of_files_cons _ _ _ _).mpr ⟨first, rearranged, one, reread, rfl⟩,
      same.messages.append_left _, same.declarations.append_left _⟩
  | swap path other paths =>
    obtain ⟨first, further, one, both, rfl⟩ := (of_files_cons _ _ _ _).mp read
    obtain ⟨second, rest, two, all, rfl⟩ := (of_files_cons _ _ _ _).mp both
    refine ⟨_, (of_files_cons _ _ _ _).mpr ⟨second, _, two,
      (of_files_cons _ _ _ _).mpr ⟨first, rest, one, all, rfl⟩, rfl⟩, ?_, ?_⟩ <;>
    · simp only [← List.append_assoc]
      exact List.perm_append_comm.append_right _
  | trans _ _ firstHypothesis secondHypothesis =>
    obtain ⟨middle, reread, same⟩ := firstHypothesis read
    obtain ⟨last, final, further⟩ := secondHypothesis reread
    exact ⟨last, final, same.messages.trans further.messages,
      same.declarations.trans further.declarations⟩

/-! ## Declared types -/

/-- A number that is known for a name is an entry. -/
theorem known_id_entry (ids : KnownIds) (name : String) (id : ProtocolId)
    (known : ids.find? name = some id) : (name, id) ∈ ids := by
  rw [KnownIds.find?, Option.map_eq_some_iff] at known
  obtain ⟨entry, found, rfl⟩ := known
  have named : entry.1 = name := by simpa using List.find?_some found
  exact named ▸ List.mem_reverse.mp (List.mem_of_find?_eq_some found)

/-- Of entries with different names, the number that is found for a name is the one of its
entry. -/
theorem known_id_iff (ids : KnownIds) (distinct : (ids.map Prod.fst).Nodup) (name : String)
    (id : ProtocolId) : ids.find? name = some id ↔ (name, id) ∈ ids := by
  constructor
  · exact known_id_entry ids name id
  · intro member
    rw [KnownIds.find?, Option.map_eq_some_iff]
    cases found : ids.reverse.find? fun entry => entry.1 == name with
    | none =>
      have absent := List.find?_eq_none.mp found (name, id) (List.mem_reverse.mpr member)
      simp at absent
    | some entry =>
      have named : entry.1 = name := by simpa using List.find?_some found
      have held := List.mem_reverse.mp (List.mem_of_find?_eq_some found)
      exact ⟨entry, rfl, congrArg Prod.snd (List.inj_on_of_nodup_map distinct held member named)⟩

/-- Of entries with different names, the same numbers are found in every order. -/
theorem known_ids_permuted {ids others : KnownIds} (permuted : ids.Perm others)
    (distinct : (ids.map Prod.fst).Nodup) (name : String) :
    ids.find? name = others.find? name := by
  have same : (others.map Prod.fst).Nodup := (permuted.map Prod.fst).nodup_iff.mp distinct
  apply Option.ext
  intro id
  rw [known_id_iff ids distinct, known_id_iff others same, permuted.mem_iff]

/-- A declared type means the same kind under numbers that are found alike. -/
theorem kind_in_same {ids others : KnownIds} (same : ∀ name, ids.find? name = others.find? name)
    (type : TypeSyntax) (boxed : Bool) : type.kindIn ids boxed = type.kindIn others boxed := by
  induction type, boxed using TypeSyntax.kindIn.induct with
  | case1 spaces name arguments boxed inductionHypothesis =>
    cases meaning : NameMeaning.ofName name with
    | scalar | untransmitted => simp [TypeSyntax.kindIn, meaning]
    | declared => simp [TypeSyntax.kindIn, meaning, same]
    | collection shape =>
      rcases arguments with _ | ⟨element, _ | ⟨second, rest⟩⟩ <;>
        simp_all [TypeSyntax.kindIn]
    | map =>
      rcases arguments with _ | ⟨key, _ | ⟨value, _ | ⟨third, rest⟩⟩⟩ <;>
        simp_all [TypeSyntax.kindIn]
    | boxed | optional =>
      rcases arguments with _ | ⟨inner, _ | ⟨second, rest⟩⟩ <;>
        simp_all [TypeSyntax.kindIn]
  | case2 element boxed inductionHypothesis | case3 element boxed inductionHypothesis =>
    rw [TypeSyntax.kindIn, TypeSyntax.kindIn, inductionHypothesis]
  | case4 element shown inductionHypothesis =>
    rw [TypeSyntax.kindIn, TypeSyntax.kindIn, inductionHypothesis]
  | case5 element shown boxed unboxed => simp [TypeSyntax.kindIn, unboxed]
  | case6 shown boxed => rw [TypeSyntax.kindIn, TypeSyntax.kindIn]

/-- A declaration means the same message under numbers that are found alike. -/
theorem resolve_same {ids others : KnownIds} (same : ∀ name, ids.find? name = others.find? name) :
    Declaration.resolve ids = Declaration.resolve others := by
  have fields (schema : String) :
      DeclaredField.resolve ids schema = DeclaredField.resolve others schema := by
    funext field
    rw [DeclaredField.resolve, DeclaredField.resolve, TypeSyntax.kind, TypeSyntax.kind,
      kind_in_same same]
  funext declaration
  rw [Declaration.resolve, Declaration.resolve, fields]

/-! ## Messages -/

/-- The message that a declaration means has its number and its name. -/
theorem resolve_head {ids : KnownIds} {declaration : Declaration} {message : Message}
    (resolved : declaration.resolve ids = .ok message) :
    (message.name, message.id) = (declaration.name, declaration.id) := by
  rw [Declaration.resolve] at resolved
  cases fields : declaration.fields.mapM (DeclaredField.resolve ids declaration.name) with
  | error fault => simp [fields, bind, Except.bind] at resolved
  | ok found =>
    simp only [fields, bind, Except.bind, pure, Except.pure, Except.ok.injEq] at resolved
    rw [← resolved]

/-- The numbers by name are those of the messages that the sources mean. -/
theorem Sources.ids_messages {sources : Sources} {messages : List Message}
    (resolved : sources.resolve = .ok messages) :
    sources.ids = messages.map fun message => (message.name, message.id) := by
  rw [resolve] at resolved
  split at resolved
  · rename_i declared found
    cases resolved
    have heads : idsOf sources.declarations =
        declared.map fun message => (message.name, message.id) := by
      rw [idsOf, ← List.forall₂_eq_eq_eq, List.forall₂_map_left_iff, List.forall₂_map_right_iff]
      exact ((map_m_accepts_iff _ _ _).mp found).imp fun _ _ resolved =>
        (resolve_head resolved).symm
    rw [ids, heads, List.map_append]
  · cases resolved

/-- Sources that hold the same, with messages of different names, mean the same messages. -/
theorem Sources.resolve_permuted {sources others : Sources} (same : sources.Same others)
    {messages : List Message} (resolved : sources.resolve = .ok messages)
    (distinct : (messages.map Message.name).Nodup) :
    ∃ rearranged, others.resolve = .ok rearranged ∧ messages.Perm rearranged := by
  have ids := sources.ids_messages resolved
  have names : (sources.ids.map Prod.fst).Nodup := by
    rw [ids, List.map_map]
    exact distinct
  have permuted : sources.ids.Perm others.ids :=
    (same.messages.map _).append (same.declarations.map _)
  have step := resolve_same (known_ids_permuted permuted names)
  rw [resolve] at resolved ⊢
  split at resolved
  · rename_i declared found
    cases resolved
    rw [step] at found
    obtain ⟨rearranged, done, moved⟩ := map_m_permuted _ same.declarations found
    exact ⟨others.messages ++ rearranged, by rw [done], same.messages.append moved⟩
  · cases resolved

end Source

/-! ## Tables -/

/-- A list of messages is accepted in every order. -/
theorem Validated.permuted {messages others : List Message} (permuted : messages.Perm others)
    (validated : Validated messages) : Validated others := by
  have declared (reference : Reference) (found : reference.isDeclaredIn messages = true) :
      reference.isDeclaredIn others = true := by
    obtain ⟨message, member, same⟩ := List.any_eq_true.mp found
    exact List.any_eq_true.mpr ⟨message, permuted.mem_iff.mp member, same⟩
  constructor
  case heads => exact fun message member => validated.heads message (permuted.mem_iff.mpr member)
  case apart =>
    exact (permuted.pairwise_iff fun apart => ⟨Ne.symm apart.numbers, Ne.symm apart.types⟩).mp
      validated.apart
  case fields =>
    intro message member field held
    have sound := validated.fields message (permuted.mem_iff.mpr member) field held
    exact ⟨sound.named, sound.hashed, fun reference found =>
      declared reference (sound.declared reference found)⟩
  case distinct =>
    exact fun message member => validated.distinct message (permuted.mem_iff.mpr member)

/-- The messages of an accepted list have different names. -/
theorem Validated.names_distinct {messages : List Message} (validated : Validated messages) :
    (messages.map Message.name).Nodup := by
  rw [List.Nodup, List.pairwise_map]
  exact validated.apart.imp fun apart same => apart.types (congrArg Name.pascal same)

/-- The number of slots is the least that has room for every message. -/
theorem Table.slot_count_le_iff (messages : List Message) (count : Nat) :
    slotCount messages ≤ count ↔ ∀ message ∈ messages, message.slot < count := by
  have counted (start : Nat) :
      messages.foldl (fun count message => max count (message.slot + 1)) start ≤ count ↔
        start ≤ count ∧ ∀ message ∈ messages, message.slot < count := by
    induction messages generalizing start with
    | nil => simp
    | cons message messages inductionHypothesis =>
      rw [List.foldl_cons, inductionHypothesis, List.forall_mem_cons, Nat.max_le, and_assoc]
      exact Iff.rfl
  exact (counted 0).trans (by simp)

/-- An accepted list fills the slots alike in every order. -/
theorem Validated.fill_permuted {messages others : List Message} (permuted : messages.Perm others)
    (validated : Validated messages) : Table.fill messages = Table.fill others := by
  have count : Table.slotCount messages = Table.slotCount others := by
    apply Nat.le_antisymm
    · rw [Table.slot_count_le_iff]
      exact fun message member => Table.slot_inside others message (permuted.mem_iff.mp member)
    · rw [Table.slot_count_le_iff]
      exact fun message member => Table.slot_inside messages message (permuted.mem_iff.mpr member)
  have lengths : (Table.fill messages).length = (Table.fill others).length := by
    have length (list : List Message) : (Table.fill list).length = Table.slotCount list :=
      (fill_length list _).trans List.length_replicate
    rw [length, length, count]
  apply List.ext_getElem lengths
  intro index inside otherInside
  apply Option.ext
  intro message
  have one := validated.slot_exact index message
  have other := (validated.permuted permuted).slot_exact index message
  rw [List.getElem?_eq_getElem inside, Option.some_inj] at one
  rw [List.getElem?_eq_getElem otherInside, Option.some_inj] at other
  rw [one, other, permuted.mem_iff]

namespace Command

/-- A table of sources is the table of the sources in every order. -/
theorem load_table_permuted (disk : Disk) {paths others : List String}
    (permuted : paths.Perm others) {table : Table} (loaded : loadTable disk paths = .ok table) :
    loadTable disk others = .ok table := by
  rw [loadTable, Source.loadSchemas] at loaded ⊢
  cases read : Source.Sources.ofFiles disk paths with
  | error fault => simp [read, bind, Except.bind, Except.mapError] at loaded
  | ok sources =>
    cases resolved : sources.resolve with
    | error fault => simp [read, resolved, bind, Except.bind, Except.mapError] at loaded
    | ok messages =>
      cases built : Table.ofMessages messages with
      | error error => simp [read, resolved, built, bind, Except.bind, Except.mapError] at loaded
      | ok made =>
        obtain rfl : made = table := by
          simpa [read, resolved, built, bind, Except.bind, Except.mapError] using loaded
        obtain ⟨validated, rfl⟩ := (Table.of_messages_iff messages made).mp built
        obtain ⟨reread, readAgain, same⟩ := Source.Sources.of_files_permuted disk permuted read
        obtain ⟨moved, resolvedAgain, movement⟩ :=
          Source.Sources.resolve_permuted same resolved validated.names_distinct
        have builtAgain : Table.ofMessages moved = .ok ⟨Table.fill messages⟩ :=
          (Table.of_messages_iff moved _).mpr
            ⟨validated.permuted movement, by rw [validated.fill_permuted movement]⟩
        simp [readAgain, resolvedAgain, builtAgain, bind, Except.bind, Except.mapError]

/-- A manifest is valid if it lists sources, all of them supported, its output root is not empty,
and its languages are known. -/
theorem manifest_valid_iff (manifest : Manifest) :
    manifest.validate = .ok () ↔
      manifest.sources ≠ [] ∧ (∀ source ∈ manifest.sources, Source.isSupported source = true) ∧
        manifest.output.isEmpty = false ∧ ∃ languages, manifest.selection = .ok languages := by
  rw [Manifest.validate]
  simp only [refusal_accepts_iff]
  rw [List.isEmpty_iff]
  refine and_congr_right fun _ => ?_
  cases found : manifest.sources.find? fun source => !Source.isSupported source with
  | some source =>
    have unsupported := List.find?_some found
    have member := List.mem_of_find?_eq_some found
    constructor
    · intro accepted
      simp [bind, Except.bind] at accepted
    · rintro ⟨supported, _⟩
      simp [supported source member] at unsupported
  | none =>
    have supported : ∀ source ∈ manifest.sources, Source.isSupported source = true := by
      simpa using List.find?_eq_none.mp found
    rw [and_iff_right supported]
    cases manifest.output.isEmpty <;> cases manifest.selection <;>
      simp [bind, Except.bind, pure, Except.pure]

/-- What a request can be prepared for is made of a valid manifest, of the table of its sources and
of its languages. -/
theorem prepare_iff (request : GenerateRequest) (disk : Disk) (prepared : Prepared) :
    prepare request disk = .ok prepared ↔
      ∃ base table languages, baseManifest request disk = .ok base ∧
        (override request base).validate = .ok () ∧
        loadTable disk (override request base).sources = .ok table ∧
        (override request base).selection = .ok languages ∧
        prepared = ⟨override request base, table, ⟨(override request base).output, languages,
          (override request base).templates⟩⟩ := by
  rw [prepare]
  cases baseManifest request disk with
  | error fault => simp [Except.mapError, bind, Except.bind]
  | ok base =>
    cases valid : (override request base).validate with
    | error fault => simp [valid, Except.mapError, bind, Except.bind]
    | ok value =>
      cases loaded : loadTable disk (override request base).sources with
      | error fault => simp [valid, loaded, Except.mapError, bind, Except.bind]
      | ok table =>
        cases selected : (override request base).selection with
        | error fault => simp [valid, loaded, selected, Except.mapError, bind, Except.bind]
        | ok languages =>
          simp [valid, loaded, selected, Except.mapError, bind, Except.bind, pure, Except.pure,
            eq_comm]

/-- A request that can be prepared can be prepared with its sources in another order, and nothing
else is then different. -/
theorem prepare_permuted (request : GenerateRequest) (disk : Disk) {others : List String}
    (permuted : request.sources.Perm others) {prepared : Prepared}
    (ready : prepare request disk = .ok prepared) :
    ∃ sources, prepared.manifest.sources.Perm sources ∧
      prepare { request with sources := others } disk =
        .ok { prepared with manifest := { prepared.manifest with sources := sources } } := by
  obtain ⟨base, table, languages, loaded, valid, tabled, selected, rfl⟩ :=
    (prepare_iff request disk prepared).mp ready
  have moved : (override request base).sources.Perm
      (override { request with sources := others } base).sources := by
    have empty : request.sources.isEmpty = others.isEmpty := by
      rw [Bool.eq_iff_iff, List.isEmpty_iff, List.isEmpty_iff]
      exact ⟨fun none => List.nil_perm.mp (none ▸ permuted),
        fun none => List.perm_nil.mp (none ▸ permuted)⟩
    simp only [override, empty]
    cases others.isEmpty
    · exact permuted
    · exact .refl _
  obtain ⟨listed, supported, output, known⟩ := (manifest_valid_iff _).mp valid
  have validAgain : (override { request with sources := others } base).validate = .ok () := by
    refine (manifest_valid_iff _).mpr ⟨fun none => ?_, fun source member => ?_, output, known⟩
    · exact listed (List.perm_nil.mp (none ▸ moved))
    · exact supported source (moved.mem_iff.mpr member)
  exact ⟨_, moved, (prepare_iff _ disk _).mpr ⟨base, table, languages, loaded, validAgain,
    load_table_permuted disk moved tabled, selected, rfl⟩⟩

section Run

-- Comparing commands must not look into their runs.
attribute [local irreducible] PacketSmith.generate Archive.write prepare

/-- A command that gets as far as its run does the same with its sources in another order. -/
theorem generate_permuted (request : GenerateRequest) (disk : Disk) {others : List String}
    (permuted : request.sources.Perm others) {prepared : Prepared}
    (ready : prepare request disk = .ok prepared) :
    generate { request with sources := others } disk = generate request disk := by
  obtain ⟨sources, moved, readyAgain⟩ := prepare_permuted request disk permuted ready
  have announced : announcement
      { prepared with manifest := { prepared.manifest with sources := sources } } =
        announcement prepared := by
    rw [announcement, announcement, moved.length_eq]
  rw [generate, generate, ready, readyAgain]
  dsimp only
  rw [announced]
  rfl

end Run

end Command

/-- What does not depend on the order of sources. -/
structure OrderIrrelevant (disk : Disk) (paths others : List String) : Prop where
  /-- The table is built in both orders or in neither. -/
  built : (∃ table, Command.loadTable disk paths = .ok table) ↔
    ∃ table, Command.loadTable disk others = .ok table
  /-- The slots are the same. -/
  slots : ∀ table other, Command.loadTable disk paths = .ok table →
    Command.loadTable disk others = .ok other → table.slots = other.slots
  /-- Whatever a command generates from the sources is the same. -/
  generated : ∀ (request : GenerateRequest) prepared, request.sources = paths →
    Command.prepare request disk = .ok prepared →
      Command.generate { request with sources := others } disk = Command.generate request disk

/-- The order of sources does not matter: the table of sources is built exactly if it is built
from them in another order, and then both tables have the same slots, so that a command generates
the same. -/
theorem source_order (disk : Disk) (paths others : List String) (permuted : paths.Perm others) :
    OrderIrrelevant disk paths others := by
  constructor
  case built =>
    constructor
    · rintro ⟨table, loaded⟩
      exact ⟨table, Command.load_table_permuted disk permuted loaded⟩
    · rintro ⟨table, loaded⟩
      exact ⟨table, Command.load_table_permuted disk permuted.symm loaded⟩
  case slots =>
    intro table other loaded reloaded
    have same := Command.load_table_permuted disk permuted loaded
    cases same.symm.trans reloaded
    rfl
  case generated =>
    rintro request prepared rfl ready
    exact Command.generate_permuted request disk permuted ready

/-- A disk with a message that refers to another one, each in a file of its own. -/
def routeSources : Disk where
  entries := [(["route.rs"], .file (.text
      "#[protocol(id = 7)] struct Route \x7b stops: Vec<Stop> \x7d")),
    (["stop.json"], .file (.text "[[2, \"Stop\", [], []]]"))]
  here := []

/-- A message can come before the one that it refers to, or behind it. -/
theorem source_order_route :
    ["route.rs", "stop.json"].Perm ["stop.json", "route.rs"] ∧
      OrderIrrelevant routeSources ["route.rs", "stop.json"] ["stop.json", "route.rs"] ∧
      (Command.loadTable routeSources ["stop.json", "route.rs"]).toOption =
        some ⟨Table.fill [⟨2, "Stop", [], []⟩, ⟨7, "Route", [],
          [⟨"stops", .collection .list (.message ⟨2, "Stop"⟩), false, []⟩]⟩]⟩ := by
  have permuted : ["route.rs", "stop.json"].Perm ["stop.json", "route.rs"] := List.Perm.swap ..
  exact ⟨permuted, source_order routeSources _ _ permuted, by decide +kernel⟩

end PacketSmith
