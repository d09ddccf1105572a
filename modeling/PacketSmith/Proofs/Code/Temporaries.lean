import Std.Data.String.ToNat
import PacketSmith.Proofs.Code.Vocabulary

/-!
# Temporaries of code

The temporaries of a code are those that its statements and headers are about. Code that reads
a value takes its temporaries from a range of numbers, so that the codes of different fields
have none in common.

A line mentions a temporary where one of its words is the name of the temporary or a path that
begins with it. Plain lines mention no other temporaries than those of their code: all other
words begin differently.
-/

namespace PacketSmith

/-- The temporary of an operand, if it is one. -/
def Operand.temporaries : Operand → List Temporary
  | .expression _ => []
  | .temporary numbered => [numbered]

/-- The temporaries of a statement. -/
def Statement.temporaries : Statement → List Temporary
  | .writeScalar _ value | .writeSize value | .writeMessage _ value => value.temporaries
  | .readScalar _ result | .readSize result | .readMessage _ result => [result]
  | .makeCollection _ _ result size | .makeMap _ _ result size => [result, size]
  | .insertElement _ result item => [result, item]
  | .insertEntry result key value => [result, key, value]
  | .assignField _ value => [value]
  | .returnMessage => []

/-- The temporaries of a header. -/
def Header.temporaries : Header → List Temporary
  | .forEachElement _ element container => element :: container.temporaries
  | .forEachEntry key value container => key :: value :: container.temporaries
  | .forIndex index size => [index, size]
  | .whenExhausted => []

/-- The temporaries of a code. -/
def Code.temporaries : Code → List Temporary
  | .done => []
  | .line statement rest => statement.temporaries ++ rest.temporaries
  | .block header body rest => header.temporaries ++ (body.temporaries ++ rest.temporaries)

/-- The temporaries of code after code are those of both. -/
theorem Code.temporaries_append (front back : Code) :
    (front ++ back).temporaries = front.temporaries ++ back.temporaries := by
  induction front with
  | done => rfl
  | line statement rest inductionHypothesis => simp [temporaries, inductionHypothesis]
  | block header body rest _ inductionHypothesis => simp [temporaries, inductionHypothesis]

/-- The number of the temporary that holds a value is one of those that reading it takes. -/
theorem Kind.read_result_range (kind : Kind) (next : Nat) :
    next ≤ (kind.readResult next).number ∧
      (kind.readResult next).number < next + kind.readTemporaries := by
  cases kind <;> simp only [readResult, readTemporaries] <;> omega

/-- Whether all temporaries of a list have numbers from one up to, but not including, another. -/
def Numbered (first last : Nat) (temporaries : List Temporary) : Prop :=
  ∀ temporary ∈ temporaries, first ≤ temporary.number ∧ temporary.number < last

/-- No temporaries have any numbers. -/
@[simp] theorem numbered_nil (first last : Nat) : Numbered first last [] := by
  simp [Numbered]

/-- A temporary and others have numbers in a range if it has and they have. -/
@[simp] theorem numbered_cons (first last : Nat) (temporary : Temporary)
    (temporaries : List Temporary) :
    Numbered first last (temporary :: temporaries) ↔
      (first ≤ temporary.number ∧ temporary.number < last) ∧ Numbered first last temporaries := by
  simp [Numbered]

/-- Two lists of temporaries have numbers in a range if both have. -/
@[simp] theorem numbered_append (first last : Nat) (front back : List Temporary) :
    Numbered first last (front ++ back) ↔
      Numbered first last front ∧ Numbered first last back :=
  List.forall_mem_append

/-- Numbers in a range are in every wider range. -/
theorem Numbered.wider {first last : Nat} {temporaries : List Temporary}
    (numbered : Numbered first last temporaries) (start stop : Nat) (before : start ≤ first)
    (behind : last ≤ stop) : Numbered start stop temporaries := by
  intro temporary member
  have range := numbered temporary member
  omega

/-- Reading a kind takes its temporaries from a range of numbers.

Proof: induction on the kind. The parts of a container take theirs behind those of the
container, and a value takes its own behind those of the key. -/
theorem Kind.read_code_numbered (kind : Kind) (next : Nat) :
    Numbered next (next + kind.readTemporaries) (kind.readCode next).temporaries := by
  induction kind generalizing next with
  | scalar base => simp [readCode, Code.temporaries, Statement.temporaries, readTemporaries]
  | collection shape element inductionHypothesis =>
    have inner := (inductionHypothesis (next + 3)).wider next
      (next + (3 + element.readTemporaries)) (by omega) (by omega)
    have result := element.read_result_range (next + 3)
    simp only [readCode, Code.temporaries, Statement.temporaries, Header.temporaries,
      Code.temporaries_append, readTemporaries, numbered_append, numbered_cons, numbered_nil,
      and_true, inner, true_and]
    omega
  | map key value keyHypothesis valueHypothesis =>
    have keyInner := (keyHypothesis (next + 3)).wider next
      (next + (3 + key.readTemporaries + value.readTemporaries)) (by omega) (by omega)
    have valueInner := (valueHypothesis (next + 3 + key.readTemporaries)).wider next
      (next + (3 + key.readTemporaries + value.readTemporaries)) (by omega) (by omega)
    have keyResult := key.read_result_range (next + 3)
    have valueResult := value.read_result_range (next + 3 + key.readTemporaries)
    simp only [readCode, Code.temporaries, Statement.temporaries, Header.temporaries,
      Code.temporaries_append, readTemporaries, numbered_append, numbered_cons, numbered_nil,
      and_true, keyInner, valueInner, true_and]
    omega
  | message reference => simp [readCode, Code.temporaries, Statement.temporaries, readTemporaries]

/-- The temporaries of the code that reads a field are those of its value. -/
theorem Field.read_code_numbered (field : Field) (next : Nat) :
    Numbered next (next + field.kind.readTemporaries) (field.readCode next).temporaries := by
  have value := field.kind.read_code_numbered next
  have result := field.kind.read_result_range next
  have guard : (if field.appended then exhaustionGuard else Code.done).temporaries = [] := by
    split <;> rfl
  simp only [readCode, Code.temporaries_append, guard, Code.temporaries, Statement.temporaries,
    numbered_append, numbered_cons, numbered_nil, and_true, true_and]
  exact ⟨value, result⟩

/-- Two temporaries with one name are the same: the names of roles begin differently, and
numbers are written in one way only. -/
theorem Temporary.text_injective (first second : Temporary) (same : first.text = second.text) :
    first = second := by
  obtain ⟨role, number⟩ := first
  obtain ⟨otherRole, otherNumber⟩ := second
  have characters := congrArg String.toList same
  simp only [text, String.toList_append] at characters
  have roles : role = otherRole := by
    have heads := congrArg List.head? characters
    revert heads
    cases role <;> cases otherRole <;> simp [Role.word]
  subst roles
  have numbers := String.toList_inj.mp (List.append_cancel_left characters)
  rw [Nat.toString_eq_repr, Nat.toString_eq_repr, Nat.repr_inj] at numbers
  rw [numbers]

namespace Text

/-- The first name of a path. -/
def pathHead (word : List Char) : List Char :=
  word.takeWhile fun character => character != '.'

/-- Whether no name of a temporary begins a word: none of the words for roles does. -/
def isForeign (word : List Char) : Bool :=
  [Role.element, .key, .value, .size, .result, .index].all fun role =>
    (afterPrefix? role.word.toList word).isNone

end Text

/-- A word that is no path from a temporary outside a list. -/
def NamesOnly (temporaries : List Temporary) (word : List Char) : Prop :=
  ∀ temporary : Temporary, Text.pathHead word = temporary.text.toList → temporary ∈ temporaries

/-- The characters in the name of a temporary are no dots. -/
theorem Temporary.text_undotted (temporary : Temporary) :
    ∀ character ∈ temporary.text.toList, (character != '.') = true := by
  have role : ∀ character ∈ temporary.role.word.toList, (character != '.') = true := by
    apply List.all_eq_true.mp
    cases temporary.role <;> decide
  intro character member
  simp only [text, String.toList_append, List.mem_append] at member
  rcases member with member | member
  · exact role character member
  · have digit := (number_characters temporary.number).2 character member
    rw [bne_iff_ne]
    rintro rfl
    exact absurd digit (by decide)

/-- Foreign words name no temporaries. -/
theorem names_foreign (temporaries : List Temporary) (word : List Char)
    (foreign : Text.isForeign word = true) : NamesOnly temporaries word := by
  intro temporary head
  have begins : word = temporary.role.word.toList ++ ((toString temporary.number).toList ++
      word.dropWhile fun character => character != '.') := by
    have parts :=
      List.takeWhile_append_dropWhile (p := fun character => character != '.') (l := word)
    rw [← List.append_assoc, ← String.toList_append]
    exact (parts.symm.trans (congrArg (· ++ _) head))
  have found := Text.after_prefix_append temporary.role.word.toList
    ((toString temporary.number).toList ++ word.dropWhile fun character => character != '.')
  rw [← begins] at found
  have absent : (Text.afterPrefix? temporary.role.word.toList word).isNone = true := by
    apply List.all_eq_true.mp foreign temporary.role
    cases temporary.role <;> decide
  simp [found] at absent

/-- The name of a temporary names it, also with a method behind it. -/
theorem names_temporary (temporaries : List Temporary) (numbered : Temporary)
    (method : List Char) (dotted : method.head?.all (· == '.') = true)
    (member : numbered ∈ temporaries) :
    NamesOnly temporaries (numbered.text.toList ++ method) := by
  intro temporary head
  have whole : Text.pathHead (numbered.text.toList ++ method) = numbered.text.toList := by
    rw [Text.pathHead, List.takeWhile_append_of_pos numbered.text_undotted]
    cases method with
    | nil => simp
    | cons first method =>
      have dot : first = '.' := by simpa using dotted
      simp [dot]
  have same : numbered = temporary :=
    numbered.text_injective temporary (String.toList_inj.mp (whole.symm.trans head))
  exact same ▸ member

/-- A plain operand names its temporary, if it is one. -/
theorem names_operand (temporaries : List Temporary) (operand : Operand) (plain : operand.IsPlain)
    (members : ∀ temporary ∈ operand.temporaries, temporary ∈ temporaries) :
    NamesOnly temporaries operand.text.toList := by
  cases operand with
  | expression written =>
    obtain ⟨name, _, rfl⟩ := plain
    apply names_foreign
    simp [Operand.text, Text.isForeign, Role.word, Text.afterPrefix?]
  | temporary numbered =>
    have named := names_temporary temporaries numbered [] rfl (members numbered List.mem_cons_self)
    simpa [Operand.text] using named

/-- A word that does not begin with a small letter is foreign. -/
theorem foreign_capital (word : List Char)
    (capital : ∀ character ∈ word.head?, character.isLower = false) :
    Text.isForeign word = true := by
  cases word with
  | nil => rfl
  | cons first others =>
    have small (character : Char) (lower : character.isLower = true) : character ≠ first := by
      rintro rfl
      simp [capital character rfl] at lower
    simp [Text.isForeign, Role.word, Text.afterPrefix?, small 'e' rfl, small 'k' rfl,
      small 'v' rfl, small 's' rfl, small 'r' rfl, small 'i' rfl]

/-- The types of scalars are foreign words. -/
theorem Scalar.type_name_foreign (scalar : Scalar) :
    ∀ word ∈ Text.words (scalar.typeName .go).toList, Text.isForeign word = true := by
  apply List.all_eq_true.mp
  cases scalar <;> decide

/-- The type of a message is a foreign word. -/
theorem Reference.type_name_foreign (reference : Reference)
    (identifier : Name.isIdentifier reference.name = true) :
    ∀ word ∈ Text.words (reference.typeName .go).toList, Text.isForeign word = true := by
  have pascal := Name.pascal_characters reference.name identifier
  rcases map_type_bare .go (Name.pascal reference.name) pascal with same | ⟨scalar, same⟩
  · rw [typeName, same]
    intro word found
    by_cases empty : (Name.pascal reference.name).toList = []
    · simp [empty, Text.words, Text.wordsFrom, Text.scanned] at found
    · have single := Text.words_run _ empty fun character member =>
        Name.alphanumeric_word character (pascal character member)
      rw [single] at found
      rw [List.mem_singleton.mp found]
      exact foreign_capital _ (Name.pascal_capital reference.name identifier)
  · rw [typeName, same]
    exact scalar.type_name_foreign

/-- The words of types are foreign, whatever is nested in them. -/
theorem Kind.type_name_foreign (kind : Kind) (named : kind.NamesIdentifiers) :
    ∀ word ∈ Text.words (kind.typeName .go).toList, Text.isForeign word = true := by
  have map : ∀ word ∈ Text.words "map".toList, Text.isForeign word = true :=
    List.all_eq_true.mp (by decide)
  have bool : ∀ word ∈ Text.words "bool".toList, Text.isForeign word = true :=
    List.all_eq_true.mp (by decide)
  induction kind with
  | scalar base => exact base.type_name_foreign
  | collection shape element inductionHypothesis =>
    have inner := inductionHypothesis named
    have list : ("[]" ++ element.typeName .go).toList =
        ['[', ']'] ++ (element.typeName .go).toList := by simp
    have set : (Kind.typeName .go (.collection .set element)).toList =
        "map".toList ++ '[' :: ((element.typeName .go).toList ++ ']' :: "bool".toList) := by
      simp [typeName]
    cases shape with
    | array | list =>
      rw [typeName, list, Text.words_padding _ _ (by simp [Text.isWordCharacter])]
      exact inner
    | set =>
      rw [set, Text.words_append _ _ '[' (by decide), Text.words_append _ _ ']' (by decide)]
      simp only [List.forall_mem_append]
      exact ⟨map, inner, bool⟩
  | map key value keyHypothesis valueHypothesis =>
    have keyWords := keyHypothesis fun reference member =>
      named reference (List.mem_append_left _ member)
    have valueWords := valueHypothesis fun reference member =>
      named reference (List.mem_append_right _ member)
    have text : (Kind.typeName .go (.map key value)).toList =
        "map".toList ++ '[' :: ((key.typeName .go).toList ++ ']' ::
          (value.typeName .go).toList) := by
      simp [typeName]
    rw [text, Text.words_append _ _ '[' (by decide), Text.words_append _ _ ']' (by decide)]
    simp only [List.forall_mem_append]
    exact ⟨map, keyWords, valueWords⟩
  | message reference =>
    have text : (Kind.typeName .go (.message reference)).toList =
        ['*'] ++ (reference.typeName .go).toList := by simp [typeName]
    rw [text, Text.words_padding _ _ (by simp [Text.isWordCharacter])]
    exact reference.type_name_foreign (named reference List.mem_cons_self)

/-- The letters with which the names of temporaries begin. -/
def Role.initials : List Char := ['e', 'k', 'v', 's', 'r', 'i']

/-- A word that begins like no role is foreign, whatever it goes on with. -/
theorem foreign_front (front back : List Char)
    (other : (front.head?.any fun first => first ∉ Role.initials) = true) :
    Text.isForeign (front ++ back) = true := by
  cases front with
  | nil => simp at other
  | cons first front =>
    have different : first ∉ Role.initials := by simpa using other
    simp only [Role.initials, List.mem_cons, not_or] at different
    simp [Text.isForeign, Role.word, Text.afterPrefix?, Ne.symm different.1,
      Ne.symm different.2.1, Ne.symm different.2.2.1, Ne.symm different.2.2.2.1,
      Ne.symm different.2.2.2.2.1, Ne.symm different.2.2.2.2.2.1]

/-- The number of a message is a foreign word. -/
theorem ProtocolId.literal_foreign (id : ProtocolId) :
    Text.isForeign (ProtocolId.literal id).toList = true := by
  apply foreign_capital
  intro character first
  rcases id.literal_characters.2 character (List.mem_of_mem_head? first) with rfl | digit
  · rfl
  · have ascii := Name.alphanumeric_ascii character (by simp [Char.isAlphanum, digit])
    exact Name.ascii_property (fun c => c.isDigit = true → c.isLower = false)
      (by decide +kernel) character ascii digit

section Naming

variable (temporaries : List Temporary)

/-- A foreign beginning names no temporary. -/
theorem names_front (front back : List Char)
    (other : (front.head?.any fun first => first ∉ Role.initials) = true) :
    NamesOnly temporaries (front ++ back) :=
  names_foreign temporaries _ (foreign_front front back other)

/-- The number of a message names no temporary. -/
theorem names_number (id : ProtocolId) :
    NamesOnly temporaries (ProtocolId.literal id).toList :=
  names_foreign temporaries _ id.literal_foreign

/-- The words of a type name no temporary. -/
theorem names_type (kind : Kind) (named : kind.NamesIdentifiers) :
    ∀ word ∈ Text.words (kind.typeName .go).toList, NamesOnly temporaries word :=
  fun word found => names_foreign temporaries word (kind.type_name_foreign named word found)

/-- The name of a temporary in a list names it. -/
theorem names_itself (temporary : Temporary) (member : temporary ∈ temporaries) :
    NamesOnly temporaries temporary.text.toList := by
  simpa using names_temporary temporaries temporary [] rfl member

end Naming

/-- The words of a plain statement name no temporaries but its own. -/
theorem Statement.words_name (language : Language) (statement : Statement)
    (plain : statement.IsPlain) :
    ∀ word ∈ statement.words language, NamesOnly statement.temporaries word := by
  cases statement with
  | writeScalar base value | writeSize value | writeMessage reference value =>
    have operand := names_operand value.temporaries value plain fun temporary member => member
    cases language <;>
      simp (disch := decide) only [words, temporaries, List.forall_mem_cons, List.not_mem_nil,
        false_implies, implies_true, and_true, operand, names_front, names_number, names_foreign]
  | readScalar base result | readSize result =>
    have itself := names_itself [result] result List.mem_cons_self
    cases language <;>
      simp (disch := decide) only [words, temporaries, List.forall_mem_cons, List.not_mem_nil,
        false_implies, implies_true, and_true, itself, names_front, names_foreign]
  | readMessage reference result =>
    have itself := names_itself [result] result List.mem_cons_self
    have identifier : Name.isIdentifier reference.name = true := plain
    have type := names_type [result] (.message reference) (by
      simp [Kind.NamesIdentifiers, Kind.references, identifier])
    cases language <;>
      simp (disch := decide) only [words, temporaries, List.forall_mem_cons,
        List.forall_mem_append, List.not_mem_nil, false_implies, implies_true, and_true, true_and,
        itself, names_foreign, names_number]
    exact type
  | makeCollection shape element result size =>
    have both : ∀ temporary ∈ [result, size], NamesOnly [result, size] temporary.text.toList :=
      fun temporary member => names_itself _ temporary member
    simp only [List.forall_mem_cons] at both
    have type := names_type [result, size] element plain
    cases language <;> cases shape <;>
      simp (disch := decide) only [words, temporaries, List.forall_mem_cons,
        List.forall_mem_append, List.not_mem_nil, false_implies, implies_true, and_true, true_and,
        both, names_foreign] <;>
      exact type
  | makeMap key value result size =>
    have both : ∀ temporary ∈ [result, size], NamesOnly [result, size] temporary.text.toList :=
      fun temporary member => names_itself _ temporary member
    simp only [List.forall_mem_cons] at both
    have keyType := names_type [result, size] key plain.1
    have valueType := names_type [result, size] value plain.2
    cases language <;>
      simp (disch := decide) only [words, temporaries, List.forall_mem_cons,
        List.forall_mem_append, List.not_mem_nil, false_implies, implies_true, and_true, true_and,
        both, names_foreign]
    exact ⟨keyType, valueType⟩
  | insertElement shape result item =>
    have both : ∀ temporary ∈ [result, item], NamesOnly [result, item] temporary.text.toList :=
      fun temporary member => names_itself _ temporary member
    simp only [List.forall_mem_cons] at both
    have method := names_temporary [result, item] result
    cases language <;> cases shape <;>
      simp (disch := first | decide | exact List.mem_cons_self) only [words, temporaries,
        List.forall_mem_cons, List.not_mem_nil, false_implies, implies_true, and_true, both,
        method, names_foreign]
  | insertEntry result key value =>
    have all : ∀ temporary ∈ [result, key, value],
        NamesOnly [result, key, value] temporary.text.toList :=
      fun temporary member => names_itself _ temporary member
    simp only [List.forall_mem_cons] at all
    simp only [words, temporaries, List.forall_mem_cons, List.not_mem_nil, false_implies,
      implies_true, and_true, all]
  | assignField field value =>
    have itself := names_itself [value] value List.mem_cons_self
    simp (disch := decide) only [words, temporaries, List.forall_mem_cons, List.not_mem_nil,
      false_implies, implies_true, and_true, itself, names_front]
  | returnMessage =>
    simp (disch := decide) only [words, List.forall_mem_cons, List.not_mem_nil, false_implies,
      implies_true, and_true, names_foreign]

/-- The words of a plain header name no temporaries but its own. -/
theorem Header.words_name (language : Language) (header : Header) (plain : header.IsPlain) :
    ∀ word ∈ header.words language, NamesOnly header.temporaries word := by
  cases header with
  | forEachElement shape element container =>
    have itself := names_itself (element :: container.temporaries) element List.mem_cons_self
    have operand := names_operand (element :: container.temporaries) container plain
      fun temporary member => List.mem_cons_of_mem _ member
    cases language <;> cases shape <;>
      simp (disch := decide) only [words, temporaries, List.forall_mem_cons, List.not_mem_nil,
        false_implies, implies_true, and_true, itself, operand, names_foreign]
  | forEachEntry key value container =>
    have both : ∀ temporary ∈ key :: value :: container.temporaries,
        NamesOnly (key :: value :: container.temporaries) temporary.text.toList :=
      fun temporary member => names_itself _ temporary member
    simp only [List.forall_mem_cons] at both
    have operand := names_operand (key :: value :: container.temporaries) container plain
      fun temporary member => List.mem_cons_of_mem _ (List.mem_cons_of_mem _ member)
    cases language <;>
      simp (disch := decide) only [words, temporaries, List.forall_mem_cons, List.not_mem_nil,
        false_implies, implies_true, and_true, both, operand, names_foreign]
  | forIndex index size =>
    have both : ∀ temporary ∈ [index, size], NamesOnly [index, size] temporary.text.toList :=
      fun temporary member => names_itself _ temporary member
    simp only [List.forall_mem_cons] at both
    cases language <;>
      simp (disch := decide) only [words, temporaries, List.forall_mem_cons, List.not_mem_nil,
        false_implies, implies_true, and_true, both, names_foreign]
  | whenExhausted =>
    cases language <;>
      simp (disch := decide) only [words, List.forall_mem_cons, List.not_mem_nil, false_implies,
        implies_true, and_true, names_foreign]

/-- Whether a line mentions a temporary: one of its words is the name of the temporary, or a
path that begins with it. -/
def Line.Mentions (line : Line) (temporary : Temporary) : Prop :=
  ∃ word ∈ Text.words line.text.toList, Text.pathHead word = temporary.text.toList

/-- The lines of plain code mention no temporaries but those of the code. -/
theorem Code.lines_mention (language : Language) (depth : Nat) (code : Code) (plain : code.IsPlain)
    (line : Line) (member : line ∈ code.lines language depth) (temporary : Temporary)
    (mentions : line.Mentions temporary) : temporary ∈ code.temporaries := by
  induction code generalizing depth with
  | done => simp [lines] at member
  | line statement rest inductionHypothesis =>
    rcases List.mem_cons.mp member with rfl | member
    · obtain ⟨word, found, head⟩ := mentions
      rw [statement.words_text language plain.1] at found
      exact List.mem_append_left _ (statement.words_name language plain.1 word found temporary head)
    · exact List.mem_append_right _ (inductionHypothesis depth plain.2 member)
  | block header body rest bodyHypothesis restHypothesis =>
    rw [lines, List.append_assoc, List.cons_append] at member
    rcases List.mem_cons.mp member with rfl | member
    · obtain ⟨word, found, head⟩ := mentions
      rw [header.words_text language plain.1] at found
      exact List.mem_append_left _ (header.words_name language plain.1 word found temporary head)
    · rcases List.mem_append.mp member with member | member
      · exact List.mem_append_right _
          (List.mem_append_left _ (bodyHypothesis (depth + 1) plain.2.1 member))
      · rcases List.mem_append.mp member with closing | member
        · obtain ⟨word, found, _⟩ := mentions
          rw [closing_words language depth line closing] at found
          exact absurd found List.not_mem_nil
        · exact List.mem_append_right _
            (List.mem_append_right _ (restHypothesis depth plain.2.2 member))

end PacketSmith
