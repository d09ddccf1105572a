import PacketSmith.Proofs.Code.LineNames
import PacketSmith.Proofs.Code.Scopes

/-!
# Names in statements and headers

The line of a plain statement, or of a header, does with names what its words say. It declares the
temporaries of the statement or the header, and makes use of those of which that makes use. In one
language it also evaluates them: they stand for values, and not only for places.
-/

namespace PacketSmith

/-! ## Statements -/

/-- What the line of a statement does with names. -/
def Statement.lineNames (language : Language) (statement : Statement) : LineNames :=
  let words := statement.words language
  match statement with
  | readScalar _ result | readSize result => ⟨[result.text.toList], words.tail, [], []⟩
  | readMessage _ result =>
    -- One language gives the result a second name, which stands for nothing.
    match language with
    | .go => ⟨[result.text.toList], words.drop 2, [], []⟩
    | .python => ⟨[result.text.toList], words.tail, [], []⟩
  | makeCollection _ _ result _ | makeMap _ _ result _ =>
    ⟨[result.text.toList], words.tail, [], []⟩
  | insertElement shape result _ =>
    match language, shape with
    | .go, .array | .go, .list => ⟨[], words.tail, [], [result.text.toList]⟩
    | .go, .set | .python, _ => .plain words
  | assignField field _ => ⟨[], words.tail, [], [("packet." ++ field).toList]⟩
  | writeScalar _ _ | writeSize _ | writeMessage _ _ | insertEntry _ _ _ | returnMessage =>
    .plain words

/-- The text of a plain statement has no clauses. -/
theorem Statement.text_one_clause (language : Language) (statement : Statement)
    (plain : statement.IsPlain) : ';' ∉ (statement.text language).toList := by
  have run (text : List Char) (member : Text.Fragment.run text ∈ statement.fragments language) :
      ';' ∉ text :=
    run_lacks ';' (by decide) text (statement.fragments_proper language plain _ member).2
  have type (kind : Kind) (named : kind.NamesIdentifiers) :
      ';' ∉ (kind.typeName language).toList := by
    intro member
    have allowed := List.all_eq_true.mp (kind.type_name_characters language named) ';' member
    exact absurd allowed (by decide)
  rw [text_fragments]
  cases statement with
  | makeCollection shape element result size =>
    have element := type element plain
    cases language <;> cases shape <;> simp_all [fragments, Text.Fragment.text]
  | makeMap key value result size =>
    have keyType := type key plain.1
    have valueType := type value plain.2
    cases language <;> simp_all [fragments, Text.Fragment.text]
  | readMessage reference result =>
    have identifier : Name.isIdentifier reference.name = true := plain
    have type := type (.message reference) (by
      simp [Kind.NamesIdentifiers, Kind.references, identifier])
    cases language <;> simp_all [fragments, Text.Fragment.text]
  | insertElement shape result item =>
    cases language <;> cases shape <;> simp_all [fragments, Text.Fragment.text]
  | _ => cases language <;> simp_all [fragments, Text.Fragment.text]

/-- The path of a field of the message that is read is one word, with a dot in it. -/
theorem packet_field_word (field : String) (identifier : Name.isIdentifier field = true) :
    Text.words ("packet.".toList ++ field.toList) = ["packet.".toList ++ field.toList] ∧
      '=' ∉ "packet.".toList ++ field.toList := by
  have front : ∀ character ∈ "packet.".toList, Text.isWordCharacter character = true :=
    List.all_eq_true.mp (by decide)
  have solid := List.forall_mem_append.mpr ⟨front, (Name.identifier_word field identifier).2⟩
  exact ⟨Text.words_run _ (by simp) solid, run_lacks '=' (by decide) _ solid⟩

/-- A Go line that makes a collection declares it. -/
theorem Statement.make_collection_declares (shape : Collection) (element : Kind)
    (result size : Temporary) :
    ∃ source, ((makeCollection shape element result size).text .go).toList =
      result.text.toList ++ ' ' :: ':' :: '=' :: source := by
  rw [text_fragments]
  cases shape <;> exact ⟨_, by simp [fragments, Text.Fragment.text]; rfl⟩

/-- What a Go line does with names is what its statement does. -/
theorem Statement.names_go (statement : Statement) (plain : statement.IsPlain) :
    LineNames.ofGo (statement.text .go).toList = statement.lineNames .go := by
  have words := statement.words_text .go plain
  have clause := statement.text_one_clause .go plain
  have lacks (temporary : Temporary) := temporary.text_lacks '=' (by decide)
  cases statement with
  | writeScalar base value =>
    have operand := run_lacks '=' (by decide) _ (value.text_word plain).2
    have method := run_lacks '=' (by decide) _ (base.method_word .go).2
    have absent : '=' ∉ ((writeScalar base value).text .go).toList := by
      rw [text_fragments]
      simp [fragments, Text.Fragment.text, operand, method]
    rw [LineNames.go_plain _ absent, words]
    rfl
  | writeSize container =>
    have operand := run_lacks '=' (by decide) _ (container.text_word plain).2
    have absent : '=' ∉ ((writeSize container).text .go).toList := by
      rw [text_fragments]
      simp [fragments, Text.Fragment.text, operand]
    rw [LineNames.go_plain _ absent, words]
    rfl
  | writeMessage reference value =>
    have operand := run_lacks '=' (by decide) _ (value.text_word plain).2
    have number := run_lacks '=' (by decide) _ reference.id.literal_word.2
    have absent : '=' ∉ ((writeMessage reference value).text .go).toList := by
      rw [text_fragments]
      simp [fragments, Text.Fragment.text, operand, number]
    rw [LineNames.go_plain _ absent, words]
    rfl
  | readScalar base result | readSize result | makeMap key value result size =>
    rw [LineNames.go_declares_temporary _ result
      ⟨_, by rw [text_fragments]; simp [fragments, Text.Fragment.text]; rfl⟩ clause, words]
    rfl
  | readMessage reference result =>
    have named : Text.words (result.text.toList ++ ", _ ".toList) =
        [result.text.toList, "_".toList] := by
      have behind : Text.words " _ ".toList = ["_".toList] := by decide
      have split := Text.words_append result.text.toList " _ ".toList ',' (by decide)
      rwa [behind, result.words_text] at split
    rw [LineNames.go_declares _ (result.text.toList ++ ", _ ".toList)
      ⟨_, by rw [text_fragments]; simp [fragments, Text.Fragment.text]; rfl⟩
      (by simpa using lacks result) clause, words, named,
      List.filter_cons_of_pos result.text_name.1]
    rfl
  | makeCollection shape element result size =>
    rw [LineNames.go_declares_temporary _ result
      (make_collection_declares shape element result size) clause, words]
    rfl
  | insertElement shape result item =>
    cases shape with
    | array | list =>
      rw [LineNames.go_assigns _ result.text.toList
        ⟨_, by rw [text_fragments]; simp [fragments, Text.Fragment.text]; rfl⟩ (lacks result) _
        result.words_text, words]
      rfl
    | set =>
      have stored := LineNames.stores_entry (((insertElement .set result item).text .go).toList)
        result item ⟨_, by rw [text_fragments]; simp [fragments, Text.Fragment.text]; rfl⟩
      rw [stored.1, words]
      rfl
  | insertEntry result key value =>
    have stored := LineNames.stores_entry (((insertEntry result key value).text .go).toList)
      result key ⟨_, by rw [text_fragments]; simp [fragments, Text.Fragment.text]; rfl⟩
    rw [stored.1, words]
    rfl
  | assignField field value =>
    obtain ⟨word, absent⟩ := packet_field_word field plain
    rw [LineNames.go_assigns _ ("packet.".toList ++ field.toList)
      ⟨_, by rw [text_fragments]; simp [fragments, Text.Fragment.text]; rfl⟩ absent _ word, words,
      ← String.toList_append]
    rfl
  | returnMessage =>
    have absent : '=' ∉ (returnMessage.text .go).toList := by
      rw [text_fragments]
      simp [fragments, Text.Fragment.text]
    rw [LineNames.go_plain _ absent, words]
    rfl

/-- What a Python line does with names is what its statement does. -/
theorem Statement.names_python (statement : Statement) (plain : statement.IsPlain) :
    LineNames.ofPython (statement.text .python).toList = statement.lineNames .python := by
  have words := statement.words_text .python plain
  have lacks (temporary : Temporary) := temporary.text_lacks '=' (by decide)
  cases statement with
  | writeScalar base value =>
    have operand := run_lacks '=' (by decide) _ (value.text_word plain).2
    have method := run_lacks '=' (by decide) _ (base.method_word .python).2
    have absent : '=' ∉ ((writeScalar base value).text .python).toList := by
      rw [text_fragments]
      simp [fragments, Text.Fragment.text, operand, method]
    rw [LineNames.python_plain _ absent (by simp [words, Statement.words]), words]
    rfl
  | writeSize container =>
    have operand := run_lacks '=' (by decide) _ (container.text_word plain).2
    have absent : '=' ∉ ((writeSize container).text .python).toList := by
      rw [text_fragments]
      simp [fragments, Text.Fragment.text, operand]
    rw [LineNames.python_plain _ absent (by simp [words, Statement.words]), words]
    rfl
  | writeMessage reference value =>
    have operand := run_lacks '=' (by decide) _ (value.text_word plain).2
    have number := run_lacks '=' (by decide) _ reference.id.literal_word.2
    have absent : '=' ∉ ((writeMessage reference value).text .python).toList := by
      rw [text_fragments]
      simp [fragments, Text.Fragment.text, operand, number]
    rw [LineNames.python_plain _ absent (by simp [words, Statement.words]), words]
    rfl
  | readScalar base result | readSize result | readMessage reference result
    | makeMap key value result size =>
    rw [LineNames.python_declares_temporary _ result
      ⟨_, by rw [text_fragments]; simp [fragments, Text.Fragment.text]; rfl⟩, words]
    rfl
  | makeCollection shape element result size =>
    have whole : ∃ source, ((makeCollection shape element result size).text .python).toList =
        result.text.toList ++ ' ' :: '=' :: source := by
      rw [text_fragments]
      cases shape <;> exact ⟨_, by simp [fragments, Text.Fragment.text]; rfl⟩
    rw [LineNames.python_declares_temporary _ result whole, words]
    rfl
  | insertElement shape result item =>
    have absent : '=' ∉ ((insertElement shape result item).text .python).toList := by
      rw [text_fragments]
      cases shape <;> simp [fragments, Text.Fragment.text, lacks]
    have other : (Text.words ((insertElement shape result item).text .python).toList).head? ≠
        some "for".toList := by
      rw [words]
      cases shape <;> exact fun same => result.method_name _ (Option.some.inj same)
    rw [LineNames.python_plain _ absent other, words]
    rfl
  | insertEntry result key value =>
    have stored := LineNames.stores_entry (((insertEntry result key value).text .python).toList)
      result key ⟨_, by rw [text_fragments]; simp [fragments, Text.Fragment.text]; rfl⟩
    rw [stored.2, words]
    rfl
  | assignField field value =>
    obtain ⟨word, absent⟩ := packet_field_word field plain
    rw [LineNames.python_assigns _ ("packet.".toList ++ field.toList)
      ⟨_, by rw [text_fragments]; simp [fragments, Text.Fragment.text]; rfl⟩ absent _ word
      (by simp), words, ← String.toList_append]
    rfl
  | returnMessage =>
    have absent : '=' ∉ (returnMessage.text .python).toList := by
      rw [text_fragments]
      simp [fragments, Text.Fragment.text]
    rw [LineNames.python_plain _ absent (by simp [words, Statement.words]), words]
    rfl

/-- What the line of a statement does with names is what the statement does. -/
theorem Statement.names_text (language : Language) (depth : Nat) (statement : Statement)
    (plain : statement.IsPlain) :
    (Line.mk depth (statement.text language)).names language = statement.lineNames language := by
  cases language with
  | go => exact statement.names_go plain
  | python => exact statement.names_python plain

/-! ## Headers -/

/-- What the first line of a block does with names. -/
def Header.lineNames (language : Language) (header : Header) : LineNames :=
  match header with
  | forEachElement _ element container =>
    match language with
    | .go => ⟨[element.text.toList], ["range".toList, container.text.toList], [], []⟩
    | .python => ⟨[element.text.toList], [container.text.toList, "or".toList], [], []⟩
  | forEachEntry key value container =>
    match language with
    | .go => ⟨[key.text.toList, value.text.toList], ["range".toList, container.text.toList], [],
        []⟩
    | .python => ⟨[key.text.toList, value.text.toList],
        [container.text.toList, "or".toList, ".items".toList], [], []⟩
  | forIndex index size =>
    match language with
    | .go => ⟨[index.text.toList], ["0".toList],
        [index.text.toList, size.text.toList, index.text.toList], []⟩
    | .python => ⟨[index.text.toList], ["range".toList, size.text.toList], [], []⟩
  | whenExhausted => .plain (header.words language)

/-- What a Python line does with names is what its header does. -/
theorem Header.names_python (header : Header) (plain : header.IsPlain) :
    LineNames.ofPython (header.text .python).toList = header.lineNames .python := by
  have words := header.words_text .python plain
  have name (temporary : Temporary) := temporary.text_name.2.2
  cases header with
  | forEachElement shape element container =>
    exact LineNames.python_loop _ [element.text.toList] _ words (by simpa using name element)
  | forEachEntry key value container =>
    exact LineNames.python_loop _ [key.text.toList, value.text.toList] _ words
      (by simpa using ⟨name key, name value⟩)
  | forIndex index size =>
    exact LineNames.python_loop _ [index.text.toList] _ words (by simpa using name index)
  | whenExhausted =>
    have absent : '=' ∉ (whenExhausted.text .python).toList := by
      rw [text_fragments]
      simp [fragments, Text.Fragment.text]
    rw [LineNames.python_plain _ absent (by simp [words, Header.words]), words]
    rfl

/-- What a Go line does with names is what its header does. -/
theorem Header.names_go (header : Header) (plain : header.IsPlain) :
    LineNames.ofGo (header.text .go).toList = header.lineNames .go := by
  have words := header.words_text .go plain
  have lacks (temporary : Temporary) := temporary.text_lacks '=' (by decide)
  have clause (temporary : Temporary) := temporary.text_lacks ';' (by decide)
  have loop : Text.words "for".toList = ["for".toList] := by decide
  cases header with
  | forEachElement shape element container =>
    have operand := run_lacks ';' (by decide) _ (container.text_word plain).2
    have single : ';' ∉ ((forEachElement shape element container).text .go).toList := by
      rw [text_fragments]
      cases shape <;> simp [fragments, Text.Fragment.text, clause, operand]
    cases shape with
    | array | list =>
      have unnamed : Text.words "for _,".toList = ["for".toList, "_".toList] := by decide
      rw [LineNames.go_ranges _ ("for _,".toList ++ ' ' :: (element.text.toList ++ [' ']))
        ["for".toList, "_".toList] [element]
        ⟨_, by rw [text_fragments]; simp [fragments, Text.Fragment.text]; rfl⟩
        (by simpa using lacks element) single
        (by rw [element.words_behind _ _ (by decide), unnamed]; rfl) (by decide), words]
      rfl
    | set =>
      rw [LineNames.go_ranges _ ("for".toList ++ ' ' :: (element.text.toList ++ [' ']))
        ["for".toList] [element]
        ⟨_, by rw [text_fragments]; simp [fragments, Text.Fragment.text]; rfl⟩
        (by simpa using lacks element) single
        (by rw [element.words_behind _ _ (by decide), loop]; rfl) (by decide), words]
      rfl
  | forEachEntry key value container =>
    have operand := run_lacks ';' (by decide) _ (container.text_word plain).2
    have single : ';' ∉ ((forEachEntry key value container).text .go).toList := by
      rw [text_fragments]
      simp [fragments, Text.Fragment.text, clause, operand]
    rw [LineNames.go_ranges _ (("for".toList ++ ' ' :: (key.text.toList ++ [','])) ++
        ' ' :: (value.text.toList ++ [' '])) ["for".toList] [key, value]
      ⟨_, by rw [text_fragments]; simp [fragments, Text.Fragment.text]; rfl⟩
      (by simpa using ⟨lacks key, lacks value⟩) single
      (by rw [value.words_behind _ _ (by decide), key.words_behind _ _ (by decide), loop]; rfl)
      (by decide), words]
    rfl
  | forIndex index size =>
    let target := "for".toList ++ ' ' :: (index.text.toList ++ [' '])
    let clauses := [.fixed " ", .run index.text.toList, .fixed " < ", .run size.text.toList,
      .fixed "; ", .run index.text.toList, .fixed "++ \x7b"].flatMap Text.Fragment.text
    have whole : ((forIndex index size).text .go).toList =
        target ++ ':' :: '=' :: (" 0".toList ++ ';' :: clauses) := by
      rw [text_fragments]
      simp [fragments, Text.Fragment.text, target, clauses]
    have named : Text.words target =
        ["for".toList] ++ [index].map fun temporary => temporary.text.toList := by
      rw [index.words_behind _ _ (by decide), loop]
      rfl
    have run (temporary : Temporary) : (Text.Fragment.run temporary.text.toList).IsProper :=
      temporary.text_word
    have behind : Text.words clauses =
        [index.text.toList, size.text.toList, index.text.toList] := by
      rw [Text.words_fragments _ (by simp [run])]
      simp [Text.Fragment.words, Text.Fragment.wordsFrom, Text.Fragment.scanned, Text.scanned,
        Text.isWordCharacter]
    have zero : Text.words " 0".toList = ["0".toList] := by decide
    rw [whole, LineNames.go_counts _ _ _ (by simpa [target] using lacks index) (by decide), named,
      LineNames.names_kept _ _ (by decide), behind, zero]
    rfl
  | whenExhausted =>
    have absent : '=' ∉ (whenExhausted.text .go).toList := by
      rw [text_fragments]
      simp [fragments, Text.Fragment.text]
    rw [LineNames.go_plain _ absent, words]
    rfl

/-- What the first line of a block does with names is what its header does. -/
theorem Header.names_text (language : Language) (depth : Nat) (header : Header)
    (plain : header.IsPlain) :
    (Line.mk depth (header.text language)).names language = header.lineNames language := by
  cases language with
  | go => exact header.names_go plain
  | python => exact header.names_python plain

/-! ## Temporaries -/

/-- Whether a line declares some temporaries and makes use of others: of those declared before it,
and behind the declaration also of some that it declares. -/
structure LineNames.Fits (names : LineNames) (declares uses counts : List Temporary) : Prop where
  /-- The names that are declared are those of the temporaries. -/
  declared : names.declared = declares.map fun temporary => temporary.text.toList
  /-- No other temporary is made use of in front of the declaration. -/
  outside : ∀ word ∈ names.before ++ names.assigned, NamesOnly uses word
  /-- No other temporary is made use of behind the declaration. -/
  inside : ∀ word ∈ names.behind, NamesOnly (uses ++ counts) word

/-- A line that declares nothing fits if its words name the temporaries of which it makes use. -/
theorem LineNames.plain_fits {words : List (List Char)} {uses : List Temporary}
    (named : ∀ word ∈ words, NamesOnly uses word) : (plain words).Fits [] uses [] :=
  ⟨rfl, by simpa [plain] using named, List.forall_mem_nil _⟩

/-- The line of a plain statement declares and makes use of what the statement does. -/
theorem Statement.line_names_fit (language : Language) (statement : Statement)
    (plain : statement.IsPlain) :
    (statement.lineNames language).Fits statement.declares statement.uses [] := by
  have named := statement.words_name language plain
  cases statement with
  | writeScalar base value | writeSize value | writeMessage reference value
    | insertEntry result key value | returnMessage => exact LineNames.plain_fits named
  | insertElement shape result item =>
    cases language with
    | go =>
      cases shape with
      | array | list =>
        refine ⟨rfl, ?_, List.forall_mem_nil _⟩
        rw [List.forall_mem_append]
        exact ⟨fun word member => named word (List.mem_of_mem_tail member),
          List.forall_mem_singleton.mpr (named _ List.mem_cons_self)⟩
      | set => exact LineNames.plain_fits named
    | python => cases shape <;> exact LineNames.plain_fits named
  | assignField field value =>
    refine ⟨rfl, ?_, List.forall_mem_nil _⟩
    rw [List.forall_mem_append]
    refine ⟨fun word member => named word (List.mem_of_mem_tail member),
      List.forall_mem_singleton.mpr ?_⟩
    rw [String.toList_append]
    exact named _ List.mem_cons_self
  | readScalar base result | readSize result =>
    refine ⟨rfl, ?_, List.forall_mem_nil _⟩
    cases language <;>
      simp (disch := decide) only [lineNames, words, uses, List.append_nil, List.tail_cons,
        List.forall_mem_cons, List.not_mem_nil, false_implies, implies_true, and_true,
        names_front, names_foreign]
  | readMessage reference result =>
    have identifier : Name.isIdentifier reference.name = true := plain
    have type := names_type [] (.message reference) (by
      simp [Kind.NamesIdentifiers, Kind.references, identifier])
    cases language with
    | go =>
      refine ⟨rfl, ?_, List.forall_mem_nil _⟩
      simp (disch := decide) only [lineNames, words, uses, List.append_nil, List.cons_append,
        List.drop_succ_cons, List.drop_zero, List.nil_append, List.forall_mem_cons, names_foreign,
        names_number, true_and]
      exact type
    | python =>
      refine ⟨rfl, ?_, List.forall_mem_nil _⟩
      simp (disch := decide) only [lineNames, words, uses, List.append_nil, List.tail_cons,
        List.forall_mem_cons, List.not_mem_nil, false_implies, implies_true, and_true,
        names_foreign, names_number]
  | makeCollection shape element result size =>
    have itself := names_itself [size] size List.mem_cons_self
    have type := names_type [size] element plain
    refine ⟨rfl, ?_, List.forall_mem_nil _⟩
    cases language <;> cases shape <;>
      simp (disch := decide) only [lineNames, words, uses, List.append_nil, List.tail_cons,
        List.cons_append, List.nil_append, List.forall_mem_cons, List.forall_mem_append,
        List.not_mem_nil, false_implies, implies_true, and_true, true_and, itself, names_foreign]
    all_goals exact type
  | makeMap key value result size =>
    have itself := names_itself [size] size List.mem_cons_self
    have keyType := names_type [size] key plain.1
    have valueType := names_type [size] value plain.2
    refine ⟨rfl, ?_, List.forall_mem_nil _⟩
    cases language <;>
      simp (disch := decide) only [lineNames, words, uses, List.append_nil, List.tail_cons,
        List.cons_append, List.nil_append, List.forall_mem_cons, List.forall_mem_append,
        List.not_mem_nil, false_implies, implies_true, and_true, true_and, itself, names_foreign]
    exact ⟨keyType, valueType⟩

/-- The first line of a block declares and makes use of what its header does. -/
theorem Header.line_names_fit (language : Language) (header : Header) (plain : header.IsPlain) :
    (header.lineNames language).Fits header.declares header.uses header.counts := by
  cases header with
  | forEachElement shape element container =>
    have operand := names_operand container.temporaries container plain fun _ member => member
    cases language <;>
    · refine ⟨rfl, ?_, List.forall_mem_nil _⟩
      simp (disch := decide) only [lineNames, uses, List.append_nil, List.forall_mem_cons,
        List.not_mem_nil, false_implies, implies_true, and_true, operand, names_foreign]
  | forEachEntry key value container =>
    have operand := names_operand container.temporaries container plain fun _ member => member
    cases language <;>
    · refine ⟨rfl, ?_, List.forall_mem_nil _⟩
      simp (disch := decide) only [lineNames, uses, List.append_nil, List.forall_mem_cons,
        List.not_mem_nil, false_implies, implies_true, and_true, operand, names_foreign]
  | forIndex index size =>
    have outside := names_itself [size] size List.mem_cons_self
    have both : ∀ temporary ∈ [size, index], NamesOnly [size, index] temporary.text.toList :=
      fun temporary member => names_itself _ temporary member
    simp only [List.forall_mem_cons] at both
    cases language <;>
    · refine ⟨rfl, ?_, ?_⟩ <;>
        simp (disch := decide) only [lineNames, uses, counts, List.append_nil,
          List.singleton_append, List.forall_mem_cons, List.not_mem_nil, false_implies,
          implies_true, and_true, outside, both, names_foreign]
  | whenExhausted =>
    exact LineNames.plain_fits (whenExhausted.words_name language plain)

/-- A Go line evaluates every temporary of which its statement makes use. -/
theorem Statement.line_evaluates (statement : Statement) :
    ∀ temporary ∈ statement.uses, temporary.text.toList ∈ (statement.lineNames .go).before := by
  cases statement with
  | writeScalar base value | writeSize value | writeMessage reference value =>
    cases value <;> simp [uses, lineNames, LineNames.plain, words, Operand.temporaries,
      Operand.text]
  | makeCollection shape element result size | insertElement shape result item =>
    cases shape <;> simp [uses, lineNames, LineNames.plain, words]
  | makeMap key value result size | insertEntry result key value | assignField field value =>
    simp [uses, lineNames, LineNames.plain, words]
  | readScalar base result | readSize result | readMessage reference result | returnMessage =>
    exact List.forall_mem_nil _

/-- The first line of a Go block evaluates every temporary of which its header makes use. -/
theorem Header.line_evaluates (header : Header) :
    (∀ temporary ∈ header.uses, temporary.text.toList ∈
      (header.lineNames .go).before ++ (header.lineNames .go).behind) ∧
      ∀ temporary ∈ header.counts, temporary.text.toList ∈ (header.lineNames .go).behind := by
  cases header with
  | forEachElement shape element container | forEachEntry key value container =>
    cases container <;> simp [uses, counts, lineNames, Operand.temporaries, Operand.text]
  | forIndex index size => simp [uses, counts, lineNames]
  | whenExhausted => exact ⟨List.forall_mem_nil _, List.forall_mem_nil _⟩

/-- The lines that close a block do nothing with names. -/
theorem closing_names (language : Language) (depth : Nat) :
    ∀ line ∈ language.closing depth, line.names language = .plain [] := by
  have words : Text.words "\x7d".toList = [] := by decide
  have absent : '=' ∉ "\x7d".toList := by decide
  cases language with
  | go =>
    rw [Language.closing, List.forall_mem_singleton]
    exact (LineNames.go_plain _ absent).trans (congrArg LineNames.plain words)
  | python => exact List.forall_mem_nil _

end PacketSmith
