import PacketSmith.Proofs.Schema.Order
import PacketSmith.Proofs.Schema.Refusal
import PacketSmith.Proofs.Schema.Spelled

/-!
# References of declared messages

A declared type refers to a message by the number that is known for its name, and every number that
is known belongs to a message of that name in the list. References of declared messages are
therefore never unresolved, however many messages have one name or one number. A reference that
validation reports as unresolved stands in a file that lists messages, and no file declares a
message of the name that is reported: both would be in the list, and their heads would have been
refused before.
-/

namespace PacketSmith.Source

/-! ## Where messages come from -/

/-- A file lists messages. -/
structure Lists (disk : Disk) (path : String) (messages : List Message) : Prop where
  /-- The extension is that of a list. -/
  extension : Path.extension? path = some "json"
  /-- The content is a list of these messages. -/
  content : ∃ text, disk.readText path = .ok text ∧
    (Json.ofText? text).bind Message.listOfJson? = some messages

/-- A file declares messages. -/
structure Declares (disk : Disk) (path : String) (declarations : List Declaration) : Prop where
  /-- The extension is that of a source file. -/
  extension : Path.extension? path = some "rs"
  /-- The content declares these messages. -/
  content : ∃ text, disk.readText path = .ok text ∧ Declaration.ofText text = .ok declarations

/-- The sort of a file is told by one of two extensions. -/
theorem sort_of_path_iff (path : String) :
    (SourceSort.ofPath? path = some .listing ↔ Path.extension? path = some "json") ∧
      (SourceSort.ofPath? path = some .declaring ↔ Path.extension? path = some "rs") := by
  rw [SourceSort.ofPath?]
  split <;> simp_all

/-- What a file holds is what it lists, or what it declares. -/
theorem Sources.of_file_iff (disk : Disk) (path : String) (sources : Sources) :
    ofFile disk path = .ok sources ↔
      Lists disk path sources.messages ∧ sources.declarations = [] ∨
        Declares disk path sources.declarations ∧ sources.messages = [] := by
  obtain ⟨messages, declarations⟩ := sources
  obtain ⟨listing, declaring⟩ := sort_of_path_iff path
  rw [ofFile]
  constructor
  · intro held
    split at held
    · cases held
    · rename_i text read
      split at held
      · rename_i sort
        split at held
        · rename_i found
          cases held
          exact Or.inl ⟨⟨listing.mp sort, text, read, found⟩, rfl⟩
        · cases held
      · rename_i sort
        split at held
        · rename_i found
          cases held
          exact Or.inr ⟨⟨declaring.mp sort, text, read, found⟩, rfl⟩
        · cases held
      · cases held
  · rintro (⟨⟨extension, text, read, found⟩, rfl⟩ | ⟨⟨extension, text, read, found⟩, rfl⟩)
    · simp only [read, listing.mpr extension, found]
    · simp only [read, declaring.mpr extension, found]

/-- A listed message comes from a file that lists it. -/
theorem Sources.of_files_lists (disk : Disk) {paths : List String} {sources : Sources}
    (read : ofFiles disk paths = .ok sources) :
    ∀ message ∈ sources.messages,
      ∃ path ∈ paths, ∃ listed, Lists disk path listed ∧ message ∈ listed := by
  induction paths generalizing sources with
  | nil =>
    cases read
    exact List.forall_mem_nil _
  | cons path paths inductionHypothesis =>
    obtain ⟨first, others, one, rest, rfl⟩ := (of_files_cons _ _ _ _).mp read
    intro message member
    rcases List.mem_append.mp member with here | later
    · rcases (of_file_iff disk path first).mp one with ⟨lists, _⟩ | ⟨_, none⟩
      · exact ⟨path, List.mem_cons_self, _, lists, here⟩
      · simp [none] at here
    · obtain ⟨other, held, listed⟩ := inductionHypothesis rest message later
      exact ⟨other, List.mem_cons_of_mem _ held, listed⟩

/-- What a file declares is among all declarations. -/
theorem Sources.of_files_declares (disk : Disk) {paths : List String} {sources : Sources}
    (read : ofFiles disk paths = .ok sources) {path : String} (held : path ∈ paths)
    {declarations : List Declaration} (declares : Declares disk path declarations) :
    ∀ declaration ∈ declarations, declaration ∈ sources.declarations := by
  induction paths generalizing sources with
  | nil => exact absurd held List.not_mem_nil
  | cons first paths inductionHypothesis =>
    obtain ⟨sources, others, one, rest, rfl⟩ := (of_files_cons _ _ _ _).mp read
    intro declaration member
    rcases List.mem_cons.mp held with rfl | later
    · have same : ofFile disk path = .ok ⟨[], declarations⟩ :=
        (of_file_iff disk path _).mpr (Or.inr ⟨declares, rfl⟩)
      cases one.symm.trans same
      exact List.mem_append_left _ member
    · exact List.mem_append_right _ (inductionHypothesis rest later declaration member)

/-! ## References of declared types -/

/-- Steps on all entries give the result of each of them, and nothing else. -/
theorem map_m_results {Entry Result Problem : Type} (step : Entry → Except Problem Result)
    {entries : List Entry} {results : List Result} (done : entries.mapM step = .ok results) :
    (∀ entry ∈ entries, ∃ result ∈ results, step entry = .ok result) ∧
      ∀ result ∈ results, ∃ entry ∈ entries, step entry = .ok result := by
  rw [map_m_accepts_iff] at done
  induction done with
  | nil => exact ⟨List.forall_mem_nil _, List.forall_mem_nil _⟩
  | cons here _ inductionHypothesis =>
    obtain ⟨forward, backward⟩ := inductionHypothesis
    simp only [List.forall_mem_cons, List.exists_mem_cons_iff]
    exact ⟨⟨Or.inl here, fun entry member => Or.inr (forward entry member)⟩,
      ⟨Or.inl here, fun result member => Or.inr (backward result member)⟩⟩

/-- Every message that a field of a declared message refers to has the number that is known for its
name. -/
theorem resolve_covered {ids : KnownIds} {declaration : Declaration} {message : Message}
    (resolved : declaration.resolve ids = .ok message) :
    ∀ field ∈ message.fields, ids.Cover field.kind := by
  rw [Declaration.resolve] at resolved
  cases all : declaration.fields.mapM (DeclaredField.resolve ids declaration.name) with
  | error fault => simp [all, bind, Except.bind] at resolved
  | ok fields =>
    simp only [all, bind, Except.bind, pure, Except.pure, Except.ok.injEq] at resolved
    subst resolved
    intro field member
    obtain ⟨declared, _, found⟩ := (map_m_results _ all).2 field member
    rw [DeclaredField.resolve] at found
    split at found
    · rename_i kind meant
      cases found
      exact (kind_in_spelled ids declared.type false meant).2.covered
    · cases found

/-- Under the numbers of a list of messages, every reference that is covered is declared. -/
theorem covered_declared (messages : List Message) (kind : Kind)
    (covered : KnownIds.Cover (messages.map fun message => (message.name, message.id)) kind) :
    ∀ reference ∈ kind.references, reference.isDeclaredIn messages = true := by
  intro reference member
  have entry := known_id_entry _ _ _ (covered reference member)
  obtain ⟨message, held, same⟩ := List.mem_map.mp entry
  obtain ⟨named, numbered⟩ := Prod.mk.inj same
  exact List.any_eq_true.mpr ⟨message, held, by simp [named, numbered]⟩

/-- Schemas that are loaded are those that the files list and those that they declare. -/
theorem load_schemas_sources {disk : Disk} {paths : List String} {messages : List Message}
    (loaded : loadSchemas disk paths = .ok messages) :
    ∃ sources declared, Sources.ofFiles disk paths = .ok sources ∧
      sources.declarations.mapM (Declaration.resolve sources.ids) = .ok declared ∧
      messages = sources.messages ++ declared ∧
      sources.ids = messages.map fun message => (message.name, message.id) := by
  rw [loadSchemas] at loaded
  cases read : Sources.ofFiles disk paths with
  | error fault => simp [read, bind, Except.bind] at loaded
  | ok sources =>
    have resolved : sources.resolve = .ok messages := by
      simpa [read, bind, Except.bind] using loaded
    have ids := Sources.ids_messages resolved
    rw [Sources.resolve] at resolved
    split at resolved
    · rename_i declared meant
      cases resolved
      exact ⟨sources, declared, rfl, meant, rfl, ids⟩
    · cases resolved

/-- A reference that is reported is not one of the messages at the end of a list if those are
linked, and the messages are apart. -/
theorem unresolved_reported (front back : List Message)
    (linked : ∀ message ∈ back, ∀ field ∈ message.fields, ∀ reference ∈ field.kind.references,
      reference.isDeclaredIn (front ++ back) = true)
    (schema field : String) (reference : Reference)
    (refused : Table.ofMessages (front ++ back) =
      .error (.unresolvedReference schema field reference)) :
    (∃ message ∈ front, message.name = schema ∧
      ∃ offending ∈ message.fields, offending.name = field ∧
        reference ∈ offending.kind.references ∧
          reference.isDeclaredIn (front ++ back) = false) ∧
      ∀ message ∈ back, message.name ≠ schema := by
  obtain ⟨present, heads⟩ := Table.of_messages_refuses _ _ refused
  obtain ⟨_, apart⟩ := heads not_false
  obtain ⟨message, among, named, offending, held, called, referring, absent⟩ := present
  rcases List.mem_append.mp among with listed | other
  · refine ⟨⟨message, listed, named, offending, held, called, referring, absent⟩, ?_⟩
    intro second behind same
    have types := ((List.pairwise_append.mp apart).2.2 message listed second behind).types
    exact types (congrArg Name.pascal (named.trans same.symm))
  · have found := linked message other offending held reference referring
    exact absurd (found.symm.trans absent) (by decide)

/-- Whether the references of declared messages are linked in the messages that sources mean. -/
structure DeclaredLinked (disk : Disk) (paths : List String) (messages : List Message) :
    Prop where
  /-- Every declaration of a file is one of the messages, and whatever its fields refer to is
  declared under the number and the name. -/
  linked : ∀ path ∈ paths, ∀ declarations, Declares disk path declarations →
    ∀ declaration ∈ declarations, ∃ message ∈ messages,
      message.name = declaration.name ∧ message.id = declaration.id ∧
        ∀ field ∈ message.fields, ∀ reference ∈ field.kind.references,
          reference.isDeclaredIn messages = true
  /-- A reference that is reported is one of a field that a file lists. -/
  listed : ∀ schema field reference,
    Table.ofMessages messages = .error (.unresolvedReference schema field reference) →
      ∃ path ∈ paths, ∃ others, Lists disk path others ∧
        ∃ message ∈ others, message.name = schema ∧
          ∃ offending ∈ message.fields, offending.name = field ∧
            reference ∈ offending.kind.references ∧ reference.isDeclaredIn messages = false
  /-- No file declares a message of the name that is reported. -/
  undeclared : ∀ schema field reference,
    Table.ofMessages messages = .error (.unresolvedReference schema field reference) →
      ∀ path ∈ paths, ∀ declarations, Declares disk path declarations →
        ∀ declaration ∈ declarations, declaration.name ≠ schema

/-- References of declared messages always link.

Proof: the numbers by name are those of the messages, so a declared type refers to messages of
the list only. A reported reference is therefore one of a listed message, and a declaration of the
same name would have been refused together with it before any field is looked at. -/
theorem declared_references_link (disk : Disk) (paths : List String) (messages : List Message)
    (loaded : loadSchemas disk paths = .ok messages) : DeclaredLinked disk paths messages := by
  obtain ⟨sources, declared, read, meant, rfl, ids⟩ := load_schemas_sources loaded
  obtain ⟨forward, backward⟩ := map_m_results _ meant
  have links : ∀ message ∈ declared, ∀ field ∈ message.fields,
      ∀ reference ∈ field.kind.references,
        reference.isDeclaredIn (sources.messages ++ declared) = true := by
    intro message member field held
    obtain ⟨declaration, _, found⟩ := backward message member
    exact covered_declared _ _ (ids ▸ resolve_covered found field held)
  -- What a file declares is one of the declared messages, with its number and its name.
  have resolved : ∀ path ∈ paths, ∀ declarations, Declares disk path declarations →
      ∀ declaration ∈ declarations, ∃ message ∈ declared,
        (message.name, message.id) = (declaration.name, declaration.id) := by
    intro path held declarations declares declaration member
    obtain ⟨message, among, found⟩ := forward declaration
      (Sources.of_files_declares disk read held declares declaration member)
    exact ⟨message, among, resolve_head found⟩
  have reported := unresolved_reported sources.messages declared links
  constructor
  case linked =>
    intro path held declarations declares declaration member
    obtain ⟨message, among, same⟩ := resolved path held declarations declares declaration member
    obtain ⟨named, numbered⟩ := Prod.mk.inj same
    exact ⟨message, List.mem_append_right _ among, named, numbered, links message among⟩
  case listed =>
    intro schema field reference refused
    obtain ⟨⟨message, among, offending⟩, _⟩ := reported schema field reference refused
    obtain ⟨path, held, others, lists, member⟩ := Sources.of_files_lists disk read message among
    exact ⟨path, held, others, lists, message, member, offending⟩
  case undeclared =>
    intro schema field reference refused path held declarations declares declaration member same
    obtain ⟨message, among, both⟩ := resolved path held declarations declares declaration member
    exact (reported schema field reference refused).2 message among
      ((Prod.mk.inj both).1.trans same)

/-- A disk with a declared message that refers to a listed one, which refers to a message that
there is not. -/
def danglingSources : Disk where
  entries := [(["route.rs"], .file (.text
      "#[protocol(id = 7)] struct Route \x7b stops: Vec<Stop> \x7d")),
    (["stop.json"], .file (.text
      "[[2, \"Stop\", [], [[\"next\", [\"protocol\", 9, \"Gone\"], false, []]]]]"))]
  here := []

/-- The messages of that disk. -/
def danglingMessages : List Message :=
  [⟨2, "Stop", [], [⟨"next", .message ⟨9, "Gone"⟩, false, []⟩]⟩,
    ⟨7, "Route", [], [⟨"stops", .collection .list (.message ⟨2, "Stop"⟩), false, []⟩]⟩]

/-- The reference that is reported is the one of the listed message. -/
theorem declared_references_link_dangling :
    loadSchemas danglingSources ["route.rs", "stop.json"] = .ok danglingMessages ∧
      Table.ofMessages danglingMessages =
        .error (.unresolvedReference "Stop" "next" ⟨9, "Gone"⟩) ∧
      DeclaredLinked danglingSources ["route.rs", "stop.json"] danglingMessages := by
  have loaded : loadSchemas danglingSources ["route.rs", "stop.json"] = .ok danglingMessages := by
    decide +kernel
  exact ⟨loaded, by decide +kernel, declared_references_link _ _ _ loaded⟩

end PacketSmith.Source
