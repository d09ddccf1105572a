import PacketSmith.Proofs.Code.Temporaries

/-!
# Names in lines of code

What a line does with names is read off its text. In one language `:=` stands between the names
that a line declares and the values that it gives them, and a single `=` between a place and what
is put there; in the other language both have a single `=`, and a place with a single name in it
is declared. Loops declare the names in front of what they go over. A counted loop makes use of
its counter behind the declaration, in the same line.

Temporaries have names that none of this takes apart: a name lacks the marks that separate words,
and it is no word of a loop.
-/

namespace PacketSmith

/-- What a line does with names. -/
structure LineNames where
  /-- The names that the line declares. -/
  declared : List (List Char)
  /-- The words that stand for values in front of the declaration. -/
  before : List (List Char)
  /-- The words that stand for values behind the declaration. -/
  behind : List (List Char)
  /-- The names to which the line gives another value. -/
  assigned : List (List Char)

namespace LineNames

/-- What a line does where there are no declarations. -/
def plain (words : List (List Char)) : LineNames :=
  ⟨[], words, [], []⟩

/-- Whether a word in front of `:=` is a name, not the word of a loop or the blank for a value that
is not needed. -/
def isName (word : List Char) : Bool :=
  word != "for".toList && word != "_".toList

/-- What a line does with names in Go. -/
def ofGo (text : List Char) : LineNames :=
  match Text.cutAt? ['='] text with
  | none => plain (Text.words text)
  | some (target, source) =>
    if target.getLast? = some ':' then
      let names := (Text.words target).filter isName
      match Text.cutAt? [';'] source with
      | none => ⟨names, Text.words source, [], []⟩
      | some (first, clauses) => ⟨names, Text.words first, Text.words clauses, []⟩
    else
      match Text.words target with
      | [name] => ⟨[], Text.words source, [], [name]⟩
      | _ => plain (Text.words text)

/-- What a line does with names in Python. -/
def ofPython (text : List Char) : LineNames :=
  match Text.words text with
  | ['f', 'o', 'r'] :: words =>
    ⟨words.takeWhile (· != "in".toList), (words.dropWhile (· != "in".toList)).tail, [], []⟩
  | words =>
    match Text.cutAt? ['='] text with
    | none => plain words
    | some (target, source) =>
      match Text.words target with
      | [name] =>
        if name.contains '.' then ⟨[], Text.words source, [], [name]⟩
        else ⟨[name], Text.words source, [], []⟩
      | _ => plain words

end LineNames

/-- What a line does with names. -/
def Line.names (language : Language) (line : Line) : LineNames :=
  match language with
  | .go => .ofGo line.text.toList
  | .python => .ofPython line.text.toList

namespace Text

/-- A text is cut at the first place of a character. -/
theorem cut_append (front back : List Char) (mark : Char) (absent : mark ∉ front) :
    cutAt? [mark] (front ++ mark :: back) = some (front, back) :=
  cut_behind front back [] mark absent

/-- What belongs to no word makes no difference at the end of a text. -/
theorem words_closed (front : List Char) (mark : Char) (between : isWordCharacter mark = false) :
    words (front ++ [mark]) = words front := by
  simpa [words, wordsFrom, scanned] using words_append front [] mark between

/-- A text with a mark and a `=` behind a front is cut there, and has the words of both sides. -/
theorem cut_marked (front back : List Char) (mark : Char)
    (between : isWordCharacter mark = false) (different : '=' ≠ mark) (absent : '=' ∉ front) :
    cutAt? ['='] (front ++ mark :: '=' :: back) = some (front ++ [mark], back) ∧
      words (front ++ [mark]) = words front ∧
      words (front ++ mark :: '=' :: back) = words front ++ words back := by
  have grouped : front ++ mark :: '=' :: back = (front ++ [mark]) ++ '=' :: back := by simp
  have closed := words_closed front mark between
  refine ⟨?_, closed, ?_⟩
  · rw [grouped]
    exact cut_append _ _ _ (by simp [absent, different])
  · rw [grouped, words_append _ _ _ (by decide), closed]

end Text

namespace LineNames

variable (text target : List Char)

/-- A Go line without `=` declares nothing. -/
theorem go_plain (absent : '=' ∉ text) : ofGo text = plain (Text.words text) := by
  rw [ofGo, Text.cut_absent ['='] text '=' (by simp) absent]

/-- A Go line with `:=` declares the names in front of it. -/
theorem go_declares (whole : ∃ source, text = target ++ ':' :: '=' :: source)
    (absent : '=' ∉ target) (single : ';' ∉ text) :
    ofGo text = ⟨(Text.words target).filter isName,
      (Text.words text).drop (Text.words target).length, [], []⟩ := by
  obtain ⟨source, rfl⟩ := whole
  obtain ⟨cut, closed, words⟩ := Text.cut_marked target source ':' (by decide) (by decide) absent
  have clause : ';' ∉ source := by
    simp only [List.mem_append, List.mem_cons, not_or] at single
    exact single.2.2.2
  rw [ofGo, cut, words, List.drop_left]
  simp only [List.getLast?_append, List.getLast?_singleton, Option.some_or, if_true, closed,
    Text.cut_absent [';'] source ';' (by simp) clause]

/-- A Go line with a single `=` behind a name gives the name another value. -/
theorem go_assigns (whole : ∃ source, text = target ++ ' ' :: '=' :: source)
    (absent : '=' ∉ target) (name : List Char) (single : Text.words target = [name]) :
    ofGo text = ⟨[], (Text.words text).tail, [], [name]⟩ := by
  obtain ⟨source, rfl⟩ := whole
  obtain ⟨cut, closed, words⟩ := Text.cut_marked target source ' ' (by decide) (by decide) absent
  rw [ofGo, cut, words, single]
  simp [closed, single]

/-- A Go line with a single `=` behind several words declares nothing. -/
theorem go_stores (whole : ∃ source, text = target ++ ' ' :: '=' :: source)
    (absent : '=' ∉ target) (several : 1 < (Text.words target).length) :
    ofGo text = plain (Text.words text) := by
  obtain ⟨source, rfl⟩ := whole
  obtain ⟨cut, closed, _⟩ := Text.cut_marked target source ' ' (by decide) (by decide) absent
  rw [ofGo, cut]
  simp only [List.getLast?_append, List.getLast?_singleton, Option.some_or, closed]
  split
  · rename_i colon
    simp at colon
  · split
    · rename_i single
      simp [single] at several
    · rfl

/-- A Python line without `=` declares nothing, unless it is a loop. -/
theorem python_plain (absent : '=' ∉ text)
    (other : (Text.words text).head? ≠ some "for".toList) :
    ofPython text = plain (Text.words text) := by
  rw [ofPython]
  split
  · rename_i words loop
    simp [loop] at other
  · rw [Text.cut_absent ['='] text '=' (by simp) absent]

/-- A Python line with `=` behind a name declares the name. -/
theorem python_declares (whole : ∃ source, text = target ++ ' ' :: '=' :: source)
    (absent : '=' ∉ target) (name : List Char) (single : Text.words target = [name])
    (other : name ≠ "for".toList) (undotted : '.' ∉ name) :
    ofPython text = ⟨[name], (Text.words text).tail, [], []⟩ := by
  obtain ⟨source, rfl⟩ := whole
  obtain ⟨cut, closed, words⟩ := Text.cut_marked target source ' ' (by decide) (by decide) absent
  rw [ofPython]
  split
  · rename_i loop
    rw [words, single] at loop
    exact absurd (List.cons.inj loop).1 other
  · simp [cut, closed, single, words, undotted]

/-- A Python line with `=` behind a path stores a value there. -/
theorem python_assigns (whole : ∃ source, text = target ++ ' ' :: '=' :: source)
    (absent : '=' ∉ target) (name : List Char) (single : Text.words target = [name])
    (dotted : '.' ∈ name) :
    ofPython text = ⟨[], (Text.words text).tail, [], [name]⟩ := by
  obtain ⟨source, rfl⟩ := whole
  obtain ⟨cut, closed, words⟩ := Text.cut_marked target source ' ' (by decide) (by decide) absent
  rw [ofPython]
  split
  · rename_i loop
    rw [words, single] at loop
    have same : name = "for".toList := (List.cons.inj loop).1
    simp [same] at dotted
  · simp [cut, closed, single, words, dotted]

/-- A Python line with `=` behind several words declares nothing, unless it is a loop. -/
theorem python_stores (whole : ∃ source, text = target ++ ' ' :: '=' :: source)
    (absent : '=' ∉ target) (several : 1 < (Text.words target).length)
    (other : (Text.words text).head? ≠ some "for".toList) :
    ofPython text = plain (Text.words text) := by
  obtain ⟨source, rfl⟩ := whole
  obtain ⟨cut, closed, _⟩ := Text.cut_marked target source ' ' (by decide) (by decide) absent
  rw [ofPython]
  split
  · rename_i words loop
    simp [loop] at other
  · simp only [cut, closed]
    split
    · rename_i single
      simp [single] at several
    · rfl

end LineNames

/-! ## Temporaries in lines -/

/-- A run of word characters lacks what belongs to no word. -/
theorem run_lacks (mark : Char) (between : Text.isWordCharacter mark = false) (run : List Char)
    (solid : ∀ character ∈ run, Text.isWordCharacter character = true) : mark ∉ run := by
  intro member
  simp [solid mark member] at between

/-- The name of a temporary lacks what belongs to no word. -/
theorem Temporary.text_lacks (mark : Char) (between : Text.isWordCharacter mark = false)
    (temporary : Temporary) : mark ∉ temporary.text.toList :=
  run_lacks mark between _ temporary.text_word.2

/-- The name of a temporary is the only word in front of a blank. -/
theorem Temporary.words_text (temporary : Temporary) :
    Text.words temporary.text.toList = [temporary.text.toList] :=
  Text.words_run _ temporary.text_word.1 temporary.text_word.2

/-- The name of a temporary is a name, and no word of a loop. -/
theorem Temporary.text_name (temporary : Temporary) :
    LineNames.isName temporary.text.toList = true ∧ temporary.text.toList ≠ "for".toList ∧
      temporary.text.toList ≠ "in".toList := by
  obtain ⟨role, number⟩ := temporary
  cases role <;> simp [LineNames.isName, Temporary.text, Role.word]

/-- A Go line declares a temporary in front of `:=`. -/
theorem LineNames.go_declares_temporary (text : List Char) (temporary : Temporary)
    (whole : ∃ source, text = temporary.text.toList ++ ' ' :: ':' :: '=' :: source)
    (single : ';' ∉ text) :
    ofGo text = ⟨[temporary.text.toList], (Text.words text).tail, [], []⟩ := by
  have named := (Text.words_closed temporary.text.toList ' ' (by decide)).trans
    temporary.words_text
  obtain ⟨source, whole⟩ := whole
  have absent : '=' ∉ temporary.text.toList ++ [' '] := by
    simpa using temporary.text_lacks '=' (by decide)
  rw [go_declares text (temporary.text.toList ++ [' ']) ⟨source, by simp [whole]⟩ absent single,
    named, List.filter_cons_of_pos temporary.text_name.1, List.filter_nil, List.length_singleton,
    List.drop_one]

/-- A Python line declares a temporary in front of `=`. -/
theorem LineNames.python_declares_temporary (text : List Char) (temporary : Temporary)
    (whole : ∃ source, text = temporary.text.toList ++ ' ' :: '=' :: source) :
    ofPython text = ⟨[temporary.text.toList], (Text.words text).tail, [], []⟩ := by
  have undotted : '.' ∉ temporary.text.toList := by
    intro member
    have other := temporary.text_undotted '.' member
    simp at other
  exact python_declares text _ whole (temporary.text_lacks '=' (by decide)) _
    temporary.words_text temporary.text_name.2.1 undotted

/-- The words of a place in a container are the container and the key. -/
theorem Temporary.words_entry (container key : Temporary) :
    Text.words (container.text.toList ++ '[' :: (key.text.toList ++ [']'])) =
      [container.text.toList, key.text.toList] := by
  rw [Text.words_append _ _ _ (by decide), Text.words_closed _ _ (by decide),
    container.words_text, key.words_text]
  rfl

/-- A line that stores something in a place of a container declares nothing, in both languages. -/
theorem LineNames.stores_entry (text : List Char) (container key : Temporary)
    (whole : ∃ source, text =
      container.text.toList ++ '[' :: (key.text.toList ++ ']' :: ' ' :: '=' :: source)) :
    ofGo text = plain (Text.words text) ∧ ofPython text = plain (Text.words text) := by
  obtain ⟨source, whole⟩ := whole
  have words := container.words_entry key
  have absent : '=' ∉ container.text.toList ++ '[' :: (key.text.toList ++ [']']) := by
    simpa using ⟨container.text_lacks '=' (by decide), key.text_lacks '=' (by decide)⟩
  have grouped : text =
      (container.text.toList ++ '[' :: (key.text.toList ++ [']'])) ++ ' ' :: '=' :: source := by
    simp [whole]
  have several : 1 < (Text.words
      (container.text.toList ++ '[' :: (key.text.toList ++ [']']))).length := by
    simp [words]
  have other : (Text.words text).head? ≠ some "for".toList := by
    rw [whole, Text.words_append _ _ _ (by decide), container.words_text]
    simpa using container.text_name.2.1
  exact ⟨go_stores text _ ⟨source, grouped⟩ absent several,
    python_stores text _ ⟨source, grouped⟩ absent several other⟩

/-- The name of a temporary with a method behind it is no word of a loop. -/
theorem Temporary.method_name (temporary : Temporary) (method : List Char) :
    temporary.text.toList ++ method ≠ "for".toList := by
  obtain ⟨role, number⟩ := temporary
  cases role <;> simp [Temporary.text, Role.word]

/-- A Python loop declares the names in front of what it goes over. -/
theorem LineNames.python_loop (text : List Char) (names rest : List (List Char))
    (words : Text.words text = "for".toList :: (names ++ "in".toList :: rest))
    (other : ∀ name ∈ names, name ≠ "in".toList) : ofPython text = ⟨names, rest, [], []⟩ := by
  have kept : ∀ name ∈ names, (name != "in".toList) = true := fun name member =>
    bne_iff_ne.mpr (other name member)
  have loop : Text.words text = ['f', 'o', 'r'] :: (names ++ "in".toList :: rest) := by
    simpa using words
  rw [ofPython, loop]
  simp only [List.takeWhile_append_of_pos kept, List.dropWhile_append_of_pos kept]
  simp

/-- A Go loop that counts declares its counter, and makes use of it behind the declaration. -/
theorem LineNames.go_counts (target first clauses : List Char)
    (absent : '=' ∉ target) (single : ';' ∉ first) :
    ofGo (target ++ ':' :: '=' :: (first ++ ';' :: clauses)) =
      ⟨(Text.words target).filter isName, Text.words first, Text.words clauses, []⟩ := by
  obtain ⟨cut, closed, _⟩ := Text.cut_marked target (first ++ ';' :: clauses) ':' (by decide)
    (by decide) absent
  rw [ofGo, cut]
  simp only [List.getLast?_append, List.getLast?_singleton, Option.some_or, if_true, closed,
    Text.cut_append first clauses ';' single]

/-- Of words of a loop and names of temporaries, the names are kept. -/
theorem LineNames.names_kept (others : List (List Char)) (temporaries : List Temporary)
    (nameless : ∀ word ∈ others, isName word = false) :
    (others ++ temporaries.map fun temporary => temporary.text.toList).filter isName =
      temporaries.map fun temporary => temporary.text.toList := by
  have none : others.filter isName = [] := by
    simpa [List.filter_eq_nil_iff] using nameless
  have all : ∀ word ∈ temporaries.map fun temporary => temporary.text.toList,
      isName word = true := by
    intro word member
    obtain ⟨temporary, _, rfl⟩ := List.mem_map.mp member
    exact temporary.text_name.1
  rw [List.filter_append, none, List.nil_append, List.filter_eq_self.mpr all]

/-- A Go loop over a container declares the temporaries in front of `:=`. -/
theorem LineNames.go_ranges (text target : List Char) (others : List (List Char))
    (temporaries : List Temporary) (whole : ∃ source, text = target ++ ':' :: '=' :: source)
    (absent : '=' ∉ target) (single : ';' ∉ text)
    (words : Text.words target =
      others ++ temporaries.map fun temporary => temporary.text.toList)
    (nameless : ∀ word ∈ others, isName word = false) :
    ofGo text = ⟨temporaries.map fun temporary => temporary.text.toList,
      (Text.words text).drop (others.length + temporaries.length), [], []⟩ := by
  rw [go_declares text target whole absent single, words, names_kept others temporaries nameless,
    List.length_append, List.length_map]

/-- The name of a temporary between two marks is the last word. -/
theorem Temporary.words_behind (temporary : Temporary) (front : List Char) (mark : Char)
    (between : Text.isWordCharacter mark = false) :
    Text.words (front ++ ' ' :: (temporary.text.toList ++ [mark])) =
      Text.words front ++ [temporary.text.toList] := by
  rw [Text.words_append _ _ _ (by decide), Text.words_closed _ _ between, temporary.words_text]

end PacketSmith
