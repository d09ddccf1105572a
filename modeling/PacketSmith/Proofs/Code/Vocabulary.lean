import PacketSmith.Proofs.Code.Plain

/-!
# The words of statements and headers

For every statement and header of plain code, in both languages, the words of its text are
listed: which calls are made, on which names, and with which types. These lists are what can
be read off the text, and they are proved from the text.
-/

namespace PacketSmith

open Text (Fragment)

namespace Statement

/-- The words of a statement. -/
def words (language : Language) : Statement → List (List Char)
  | writeScalar base value =>
    match language with
    | .go => ["buffer.Write".toList ++ (base.method .go).toList, value.text.toList]
    | .python => ["buffer.write_".toList ++ (base.method .python).toList, value.text.toList]
  | writeSize container =>
    match language with
    | .go => ["buffer.WriteInt".toList, "len".toList, container.text.toList]
    | .python => ["buffer.write_int".toList, "0".toList, "if".toList, container.text.toList,
        "is".toList, "None".toList, "else".toList, "len".toList, container.text.toList]
  | writeMessage reference value =>
    match language with
    | .go => ["buffer.WritePacket".toList, value.text.toList,
        (ProtocolId.literal reference.id).toList]
    | .python => ["buffer.write_packet".toList, value.text.toList,
        (ProtocolId.literal reference.id).toList]
  | readScalar base result =>
    match language with
    | .go => [result.text.toList, "buffer.Read".toList ++ (base.method .go).toList]
    | .python => [result.text.toList, "buffer.read_".toList ++ (base.method .python).toList]
  | readSize size =>
    match language with
    | .go => [size.text.toList, "buffer.ReadInt".toList]
    | .python => [size.text.toList, "buffer.read_int".toList]
  | readMessage reference result =>
    match language with
    | .go => [result.text.toList, "_".toList, "buffer.ReadPacket".toList,
        (ProtocolId.literal reference.id).toList, ".".toList] ++
          Text.words ((Kind.message reference).typeName .go).toList
    | .python => [result.text.toList, "buffer.read_packet".toList,
        (ProtocolId.literal reference.id).toList]
  | makeCollection shape element result size =>
    match language, shape with
    | .go, .array | .go, .list => [result.text.toList, "make".toList] ++
        Text.words (element.typeName .go).toList ++ ["0".toList, size.text.toList]
    | .go, .set => [result.text.toList, "make".toList, "map".toList] ++
        Text.words (element.typeName .go).toList ++ ["bool".toList, size.text.toList]
    | .python, .array | .python, .list => [result.text.toList]
    | .python, .set => [result.text.toList, "set".toList]
  | makeMap key value result size =>
    match language with
    | .go => [result.text.toList, "make".toList, "map".toList] ++
        (Text.words (key.typeName .go).toList ++
          (Text.words (value.typeName .go).toList ++ [size.text.toList]))
    | .python => [result.text.toList]
  | insertElement shape result item =>
    match language, shape with
    | .go, .array | .go, .list => [result.text.toList, "append".toList, result.text.toList,
        item.text.toList]
    | .go, .set => [result.text.toList, item.text.toList, "true".toList]
    | .python, .array | .python, .list => [result.text.toList ++ ".append".toList,
        item.text.toList]
    | .python, .set => [result.text.toList ++ ".add".toList, item.text.toList]
  | insertEntry result key value => [result.text.toList, key.text.toList, value.text.toList]
  | assignField field value => ["packet.".toList ++ field.toList, value.text.toList]
  | returnMessage => ["return".toList, "packet".toList]

/-- The words of the parts of a statement. -/
theorem words_parts (language : Language) (statement : Statement) :
    Fragment.words (statement.fragments language) = statement.words language := by
  cases statement with
  | makeCollection shape | insertElement shape =>
    cases language <;> cases shape <;>
      simp [fragments, words, Text.words, Fragment.words, Fragment.wordsFrom, Fragment.scanned,
        Text.scanned, Text.isWordCharacter]
  | _ =>
    cases language <;>
      simp [fragments, words, Text.words, Fragment.words, Fragment.wordsFrom, Fragment.scanned,
        Text.scanned, Text.isWordCharacter]

/-- The words of a plain statement are those of its text. -/
theorem words_text (language : Language) (statement : Statement) (plain : statement.IsPlain) :
    Text.words (statement.text language).toList = statement.words language := by
  rw [text_fragments, Text.words_fragments _ (statement.fragments_proper language plain),
    words_parts]

end Statement

namespace Header

/-- The words of a header. -/
def words (language : Language) : Header → List (List Char)
  | forEachElement shape element container =>
    match language, shape with
    | .go, .array | .go, .list => ["for".toList, "_".toList, element.text.toList, "range".toList,
        container.text.toList]
    | .go, .set => ["for".toList, element.text.toList, "range".toList, container.text.toList]
    | .python, _ => ["for".toList, element.text.toList, "in".toList, container.text.toList,
        "or".toList]
  | forEachEntry key value container =>
    match language with
    | .go => ["for".toList, key.text.toList, value.text.toList, "range".toList,
        container.text.toList]
    | .python => ["for".toList, key.text.toList, value.text.toList, "in".toList,
        container.text.toList, "or".toList, ".items".toList]
  | forIndex index size =>
    match language with
    | .go => ["for".toList, index.text.toList, "0".toList, index.text.toList, size.text.toList,
        index.text.toList]
    | .python => ["for".toList, index.text.toList, "in".toList, "range".toList, size.text.toList]
  | whenExhausted =>
    match language with
    | .go => ["if".toList, "buffer.IsReadable".toList]
    | .python => ["if".toList, "not".toList, "buffer.is_readable".toList]

/-- The words of the parts of a header. -/
theorem words_parts (language : Language) (header : Header) :
    Fragment.words (header.fragments language) = header.words language := by
  cases header with
  | forEachElement shape element container =>
    cases language <;> cases shape <;>
      simp [fragments, words, Fragment.words, Fragment.wordsFrom, Fragment.scanned,
        Text.scanned, Text.isWordCharacter]
  | _ =>
    cases language <;>
      simp [fragments, words, Fragment.words, Fragment.wordsFrom, Fragment.scanned,
        Text.scanned, Text.isWordCharacter]

/-- The words of a plain header are those of its text. -/
theorem words_text (language : Language) (header : Header) (plain : header.IsPlain) :
    Text.words (header.text language).toList = header.words language := by
  rw [text_fragments, Text.words_fragments _ (header.fragments_proper language plain), words_parts]

end Header

/-- The lines that close a block have no words. -/
theorem closing_words (language : Language) (depth : Nat) :
    ∀ line ∈ language.closing depth, Text.words line.text.toList = [] := by
  have silent : Text.words ['\x7d'] = [] := by decide
  cases language <;> simp [Language.closing, silent]

end PacketSmith
