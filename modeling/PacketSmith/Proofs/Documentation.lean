import PacketSmith.Proofs.Code.Comments
import PacketSmith.Proofs.MessageFile

/-!
# Documentation in the file of a message

Documentation stands in two places of the file of a message: in front of the type, and in front of
the declaration of each field. The lines of the file that are no comments are therefore those of the
file without any documentation and, in between, the lines of texts behind their first line that do
not begin with the mark of a comment themselves. Texts of one line, and all others without such
lines, change nothing but comments.
-/

namespace PacketSmith

open Text (BeginsSolid EndsSolid)

/-! ## Messages without documentation -/

/-- A field without its documentation. -/
def Field.undocumented (field : Field) : Field :=
  { field with docs := [] }

/-- A message without any documentation. -/
def Message.undocumented (message : Message) : Message :=
  { message with docs := [], fields := message.fields.map Field.undocumented }

/-- The texts of documentation of a message, in the order in which they stand in its file. -/
def Message.documentation (message : Message) : List String :=
  message.docs ++ message.fields.flatMap Field.docs

/-- Documentation does not matter to the code that writes. -/
theorem write_fields_undocumented (next : Nat) (fields : List Field) :
    writeFields next (fields.map Field.undocumented) = writeFields next fields := by
  induction fields generalizing next with
  | nil => rfl
  | cons field fields inductionHypothesis =>
    rw [List.map_cons, writeFields, writeFields, inductionHypothesis]
    rfl

/-- Documentation does not matter to the code that reads. -/
theorem read_fields_undocumented (next : Nat) (fields : List Field) :
    readFields next (fields.map Field.undocumented) = readFields next fields := by
  induction fields generalizing next with
  | nil => rfl
  | cons field fields inductionHypothesis =>
    rw [List.map_cons, readFields, readFields, inductionHypothesis]
    rfl

/-- Documentation does not matter to the check of names. -/
theorem Message.check_names_undocumented (language : Language) (message : Message) :
    message.undocumented.checkNames language = message.checkNames language := by
  rw [checkNames, checkNames, undocumented, List.find?_map]
  have same : ((fun field => language.keywords.contains field.name) ∘ Field.undocumented) =
      fun field : Field => language.keywords.contains field.name := rfl
  rw [same]
  cases message.fields.find? fun field => language.keywords.contains field.name <;> rfl

/-! ## Parts of the template without documentation -/

/-- The names of the markers for which documentation stands. -/
def documentedNames : List String :=
  ["class_note", "field_definition"]

/-- The value for a marker is the same without documentation, unless documentation stands there. -/
theorem Message.value_undocumented (language : Language) (message : Message) (name : String)
    (other : name ∉ documentedNames) :
    Template.valueOf? (message.undocumented.markerValues language) name =
      Template.valueOf? (message.markerValues language) name := by
  have note : ("class_note" == name) = false := by
    rw [beq_eq_false_iff_ne]
    rintro rfl
    exact other (by decide)
  have definition : ("field_definition" == name) = false := by
    rw [beq_eq_false_iff_ne]
    rintro rfl
    exact other (by decide)
  have write : message.undocumented.blockText language .writeObject =
      message.blockText language .writeObject := by
    rw [blockText, blockText, writeLines, writeLines, undocumented, write_fields_undocumented]
  have read : message.undocumented.blockText language .readObject =
      message.blockText language .readObject := by
    rw [blockText, blockText, readLines, readLines, undocumented, read_fields_undocumented]
  simp only [Template.valueOf?, markerValues, List.find?_cons, note, definition, write, read]
  rfl

/-- The line of the message template that names the type, behind the documentation of the
message. -/
def Language.typeLine : Language → String
  | go => "type \x7b\x7bclass_name\x7d\x7d struct \x7b"
  | python => "class \x7b\x7bclass_name\x7d\x7d:"

/-- The parts of the line with the documentation of a message. -/
theorem Language.type_line_parts (language : Language) :
    Template.parts ("\x7b\x7bclass_note\x7d\x7d" ++ language.typeLine).toList =
      .marker "class_note".toList :: Template.parts language.typeLine.toList := by
  cases language <;> decide +kernel

/-- Documentation stands in two lines of the message template. -/
theorem Language.message_lines_documented (language : Language) :
    ∃ front between back, language.messageLines =
        front ++ ("\x7b\x7bclass_note\x7d\x7d" ++ language.typeLine) ::
          (between ++ Block.fieldDefinition.markerLine language :: back) ∧
      ∀ line ∈ front ++ language.typeLine :: (between ++ back),
        ∀ name ∈ Template.names line, name ∉ documentedNames := by
  cases language with
  | go =>
    exact ⟨go.messageLines.take 3, [], go.messageLines.drop 5, by decide +kernel,
      by decide +kernel⟩
  | python =>
    exact ⟨python.messageLines.take 3, (python.messageLines.drop 4).take 2,
      python.messageLines.drop 7, by decide +kernel, by decide +kernel⟩

/-! ## The declarations of fields -/

/-- The Go type of a kind begins with something other than a blank. -/
theorem Kind.type_name_begins (kind : Kind) : BeginsSolid (kind.typeName .go) := by
  cases kind with
  | scalar base => cases base <;> exact ⟨_, rfl, rfl⟩
  | collection shape element =>
    have list : BeginsSolid "[]" := ⟨_, rfl, rfl⟩
    have map : BeginsSolid "map[" := ⟨_, rfl, rfl⟩
    cases shape with
    | array | list => exact list.append _
    | set => exact (map.append _).append _
  | map key value =>
    have map : BeginsSolid "map[" := ⟨_, rfl, rfl⟩
    exact ((map.append _).append _).append _
  | message reference =>
    have pointer : BeginsSolid "*" := ⟨_, rfl, rfl⟩
    exact pointer.append _

namespace Field

/-- The declaration of a field behind its documentation. -/
def documented (language : Language) (field : Field) : Documented :=
  ⟨field.docs, field.declaration language (field.kind.typeName language)⟩

/-- The declaration of a field behind its documentation, without the blanks at its end. -/
def trimmedDocumented (language : Language) (field : Field) : Documented :=
  ⟨field.docs, Text.trimmedRight (field.declaration language (field.kind.typeName language))⟩

/-- A declaration has something other than blanks. -/
theorem declaration_something (language : Language) (field : Field) :
    ∃ character ∈ (field.documented language).text.toList, Text.isBlank character = false := by
  cases language with
  | go =>
    obtain ⟨first, member, solid⟩ := field.kind.type_name_begins
    refine ⟨first, ?_, solid⟩
    have text : (field.documented .go).text = field.name ++ " " ++ field.kind.typeName .go := rfl
    rw [text, String.toList_append]
    exact List.mem_append_right _ (List.mem_of_head? member)
  | python =>
    refine ⟨'s', ?_, rfl⟩
    simp [documented, declaration]

/-- A declaration begins with something other than a blank if the name does. -/
theorem declaration_begins (language : Language) (field : Field)
    (begins : BeginsSolid field.name) : BeginsSolid (field.documented language).text := by
  cases language with
  | go => exact (begins.append _).append _
  | python =>
    have self : BeginsSolid "self." := ⟨'s', rfl, rfl⟩
    exact (((((self.append _).append _).append _).append _).append _).append _

end Field

/-- The declarations of fields behind their documentation, the last one without the blanks at its
end. -/
def documentedFields (language : Language) (fields : List Field) (last : Field) :
    List Documented :=
  fields.map (Field.documented language) ++ [last.trimmedDocumented language]

/-- The lines of the declarations of fields are framed, without the blanks at the end of the last
one. -/
theorem documented_fields_framed (language : Language) (depth : Nat) (fields : List Field)
    (last : Field) (begins : ∀ field ∈ (fields ++ [last]).head?, BeginsSolid field.name) :
    Framed (Documented.lines language depth (documentedFields language fields last)) := by
  obtain ⟨ends, _⟩ := Text.trimmed_right_split _ (last.declaration_something language)
  constructor
  case first =>
    rcases fields with _ | ⟨field, fields⟩
    · have name := last.declaration_begins language (begins last rfl)
      exact Documented.lines_begin language depth _ _ (Text.trimmed_right_begins _ name)
    · have name := field.declaration_begins language (begins field rfl)
      exact Documented.lines_begin language depth _ _ name
  case last =>
    refine ⟨⟨depth, (last.trimmedDocumented language).text⟩, ?_, ends⟩
    simp [Documented.lines, documentedFields]

/-- The lines of the declarations in the text of a message, behind the indentation of their
marker. -/
theorem Message.filled_definition (language : Language) (message : Message)
    (fields : List Field) (last : Field) (whole : message.fields = fields ++ [last])
    (begins : ∀ field ∈ message.fields.head?, BeginsSolid field.name) :
    Template.filled (message.markerValues language)
        (Block.fieldDefinition.markerLine language) ++ "\n" =
      renderLines language (Documented.lines language language.layout.bodyDepth
        (documentedFields language fields last)) := by
  let depth := language.layout.bodyDepth
  let front := Documented.lines language depth (fields.map (Field.documented language)) ++
    commentLines language depth last.docs
  rw [whole] at begins
  have framed := documented_fields_framed language depth fields last begins
  have split : Documented.lines language depth (documentedFields language fields last) =
      front ++ [⟨depth, (last.trimmedDocumented language).text⟩] := by
    simp [Documented.lines, documentedFields, front, Field.trimmedDocumented]
  have fieldLines : Block.fieldDefinition.fieldLines language 0 message.fields =
      front ++ [⟨depth, (last.documented language).text⟩] := by
    simp [whole, Block.fieldLines, Documented.lines, front, Field.documented, List.flatMap_map,
      depth]
  obtain ⟨_, padding, padded, blank⟩ :=
    Text.trimmed_right_split _ (last.declaration_something language)
  have block : message.blockText language .fieldDefinition =
      Block.fieldDefinition.finish language
        (Documented.lines language depth (documentedFields language fields last)) := by
    rw [message.block_text, fieldLines, padded, split]
    exact Block.fieldDefinition.finish_padded language (split ▸ framed) padding blank
  obtain ⟨line, member, _⟩ := framed.first
  obtain ⟨others, lines⟩ := List.head?_eq_some_iff.mp member
  have place : line.depth = language.layout.bodyDepth :=
    Documented.lines_depth language depth _ line (List.mem_of_head? member)
  rw [message.filled_marker, block, lines, ← place]
  exact Block.fieldDefinition.finish_placed language (lines ▸ framed)

/-- The lines of the declarations in the text of a message that are no comments. -/
theorem Message.definition_code (language : Language) (message : Message) (fields : List Field)
    (last : Field) (whole : message.fields = fields ++ [last])
    (begins : ∀ field ∈ message.fields.head?, BeginsSolid field.name) :
    codeLines language (Template.filled (message.markerValues language)
        (Block.fieldDefinition.markerLine language)) =
      ((documentedFields language fields last).map
        (Documented.passage language language.layout.bodyDepth)).flatMap
          (Passage.lines language) := by
  have code := code_lines_append language (Template.filled (message.markerValues language)
    (Block.fieldDefinition.markerLine language)) ""
  rw [message.filled_definition language fields last whole begins, code_lines_render,
    List.append_cancel_right_eq, Documented.lines_code] at code
  exact code.symm

/-- The lines of the declarations of fields that are no comments are cut into passages, one for each
field. -/
theorem Message.definition_cut (language : Language) (message : Message)
    (begins : ∀ field ∈ message.fields.head?, BeginsSolid field.name) :
    ∃ passages, AreCut language passages
      (codeLines language (Template.filled (message.markerValues language)
        (Block.fieldDefinition.markerLine language)))
      (codeLines language (Template.filled (message.undocumented.markerValues language)
        (Block.fieldDefinition.markerLine language)))
      (message.fields.flatMap Field.docs) := by
  rcases List.eq_nil_or_concat' message.fields with none | ⟨fields, last, whole⟩
  · have same : message.undocumented.blockText language .fieldDefinition =
        message.blockText language .fieldDefinition := by
      rw [block_text, block_text, undocumented, none]
      rfl
    rw [filled_marker, filled_marker, same, none]
    exact ⟨_, .plain language _⟩
  · have bareWhole : message.undocumented.fields =
        fields.map Field.undocumented ++ [last.undocumented] := by
      rw [undocumented, whole, List.map_append]
      rfl
    have bareBegins : ∀ field ∈ message.undocumented.fields.head?, BeginsSolid field.name := by
      intro field member
      rw [undocumented, List.head?_map, Option.mem_def, Option.map_eq_some_iff] at member
      obtain ⟨first, head, rfl⟩ := member
      exact begins first head
    refine ⟨_, message.definition_code language fields last whole begins, ?_, ?_⟩
    · rw [message.undocumented.definition_code language _ _ bareWhole bareBegins]
      simp only [documentedFields, List.map_append, List.map_map, List.flatMap_append,
        List.flatMap_map]
      rfl
    · rw [whole]
      simp only [documentedFields, List.map_append, List.map_map, List.flatMap_append,
        List.flatMap_map]
      rfl

/-! ## The whole file -/

/-- The lines of a line of the template that are no comments, with the values of a message. -/
def Message.lineCode (language : Language) (message : Message) (line : String) :
    List (List Char) :=
  codeLines language (Template.filled (message.markerValues language) line)

/-- The lines of the text of a message that are no comments are those of the lines of the
template. -/
theorem Message.text_code (language : Language) (message : Message) :
    codeLines language (message.bundledText language) =
      language.messageLines.flatMap (message.lineCode language) ++ codeLines language "" := by
  have code := code_lines_text language
    (language.messageLines.map (Template.filled (message.markerValues language))) ""
  rw [String.append_empty, List.flatMap_map] at code
  exact code

/-- The line with the documentation of a message is a passage behind it. -/
theorem Message.note_code (language : Language) (message : Message) :
    message.lineCode language ("\x7b\x7bclass_note\x7d\x7d" ++ language.typeLine) =
      (Passage.mk message.docs (message.lineCode language language.typeLine)).lines language := by
  have text : Template.filled (message.markerValues language)
      ("\x7b\x7bclass_note\x7d\x7d" ++ language.typeLine) =
        renderLines language (commentLines language 0 message.docs) ++
          Template.filled (message.markerValues language) language.typeLine := by
    rw [← String.toList_inj, Template.filled, language.type_line_parts]
    simp [Template.characters, Template.valueOf?, markerValues, Template.filled]
  rw [lineCode, text, code_lines_render, commentLines, List.flatMap_map]
  simp only [comment_code]
  rfl

/-- The lines of the text of a message that are no comments are cut into passages. -/
theorem Message.text_cut (language : Language) (message : Message)
    (begins : ∀ field ∈ message.fields.head?, BeginsSolid field.name) :
    ∃ passages, AreCut language passages (codeLines language (message.bundledText language))
      (codeLines language (message.undocumented.bundledText language)) message.documentation := by
  obtain ⟨front, between, back, lines, plain⟩ := language.message_lines_documented
  have same : ∀ line ∈ front ++ language.typeLine :: (between ++ back),
      message.undocumented.lineCode language line = message.lineCode language line := by
    intro line member
    refine congrArg (codeLines language) (Template.filled_congr _ _ line fun name named => ?_)
    exact message.value_undocumented language name (plain line member name named)
  have whole (message : Message) : codeLines language (message.bundledText language) =
      front.flatMap (message.lineCode language) ++
        ((Passage.mk message.docs (message.lineCode language language.typeLine)).lines language ++
          (between.flatMap (message.lineCode language) ++
            (message.lineCode language (Block.fieldDefinition.markerLine language) ++
              (back.flatMap (message.lineCode language) ++ codeLines language "")))) := by
    rw [message.text_code, lines]
    simp only [List.flatMap_append, List.flatMap_cons, message.note_code, List.append_assoc]
  have alike (texts : List String)
      (some : ∀ line ∈ texts, line ∈ front ++ language.typeLine :: (between ++ back)) :
      texts.flatMap (message.undocumented.lineCode language) =
        texts.flatMap (message.lineCode language) :=
    List.flatMap_congr fun line member => same line (some line member)
  obtain ⟨passages, definition⟩ := message.definition_cut language begins
  have note : AreCut language [⟨message.docs, message.lineCode language language.typeLine⟩]
      ((Passage.mk message.docs (message.lineCode language language.typeLine)).lines language)
      (message.lineCode language language.typeLine) message.docs := by
    constructor <;> simp
  have cut := (AreCut.plain language (front.flatMap (message.lineCode language))).append
    (note.append ((AreCut.plain language (between.flatMap (message.lineCode language))).append
      (definition.append (AreCut.plain language
        (back.flatMap (message.lineCode language) ++ codeLines language "")))))
  have docs : message.documentation =
      [] ++ (message.docs ++ ([] ++ (message.fields.flatMap Field.docs ++ []))) := by
    simp [documentation]
  rw [whole, whole, docs, alike front fun line member => List.mem_append_left _ member,
    alike between fun line member => by simp [member],
    alike back fun line member => by simp [member],
    same language.typeLine (by simp)]
  exact ⟨_, cut⟩

/-- Documentation changes nothing but comments exactly if all of its texts are harmless. -/
theorem Message.text_undocumented_iff (language : Language) (message : Message)
    (begins : ∀ field ∈ message.fields.head?, BeginsSolid field.name) :
    codeLines language (message.bundledText language) =
        codeLines language (message.undocumented.bundledText language) ↔
      ∀ doc ∈ message.documentation, IsHarmless language doc := by
  obtain ⟨passages, cut⟩ := message.text_cut language begins
  rw [cut.documented, cut.bare, cut.docs, Passage.lines_iff]
  simp only [harmless_iff]

/-- Two messages that differ in their documentation only, with names that are accepted and that do
not begin with a blank in the first field, have files that differ in comments only, as long as every
text of their documentation is harmless. Against a file without documentation this is exact: any
other text leaves a line in the code.

Proof: the lines of both files that are no comments are cut into passages with the same code, which
is that of the message without documentation. -/
theorem documentation_harmless (language : Language) (disk : Disk) (message other : Message)
    (alike : message.undocumented = other.undocumented)
    (accepted : message.checkNames language = .ok ())
    (begins : ∀ field ∈ message.fields.head?, BeginsSolid field.name) :
    ∃ text otherText, message.render language .bundled disk = .ok text ∧
      other.render language .bundled disk = .ok otherText ∧
      ((∀ doc ∈ message.documentation ++ other.documentation, IsHarmless language doc) →
        codeLines language text = codeLines language otherText) ∧
      (other.documentation = [] →
        (codeLines language text = codeLines language otherText ↔
          ∀ doc ∈ message.documentation, IsHarmless language doc)) := by
  have otherAccepted : other.checkNames language = .ok () := by
    rw [← other.check_names_undocumented, ← alike, message.check_names_undocumented, accepted]
  have otherBegins : ∀ field ∈ other.fields.head?, BeginsSolid field.name := by
    intro field member
    have fields : message.fields.head?.map Field.undocumented =
        other.fields.head?.map Field.undocumented := by
      rw [← List.head?_map, ← List.head?_map]
      exact congrArg (fun message : Message => message.fields.head?) alike
    rw [Option.mem_def.mp member, Option.map_some, Option.map_eq_some_iff] at fields
    obtain ⟨first, head, same⟩ := fields
    have name : first.undocumented.name = field.undocumented.name := congrArg Field.name same
    exact name ▸ begins first head
  have documented := message.text_undocumented_iff language begins
  have otherDocumented := other.text_undocumented_iff language otherBegins
  rw [← alike] at otherDocumented
  refine ⟨_, _, message.render_bundled_text language disk accepted,
    other.render_bundled_text language disk otherAccepted, fun harmless => ?_, fun bare => ?_⟩
  · rw [List.forall_mem_append] at harmless
    rw [documented.mpr harmless.1, otherDocumented.mpr harmless.2]
  · rw [← documented, otherDocumented.mpr (by simp [bare])]

/-- A message with a text of documentation of two lines. -/
def notedMessage : Message :=
  { id := 1, name := "Ping", docs := ["Sent once.\nfunc init() \x7b panic(0) \x7d"], fields := [] }

/-- The second line of the documentation stands in the code of the file. The first line alone
changes nothing but comments. -/
theorem documentation_harmless_ping :
    (∃ text bare, notedMessage.render .go .bundled .empty = .ok text ∧
      notedMessage.undocumented.render .go .bundled .empty = .ok bare ∧
      codeLines .go text ≠ codeLines .go bare) ∧
    ∃ text bare, ({ notedMessage with docs := ["Sent once."] }).render .go .bundled .empty =
        .ok text ∧
      notedMessage.undocumented.render .go .bundled .empty = .ok bare ∧
      codeLines .go text = codeLines .go bare := by
  constructor
  · obtain ⟨text, bare, rendered, bareRendered, _, exact⟩ := documentation_harmless .go .empty
      notedMessage notedMessage.undocumented rfl rfl (by simp [notedMessage])
    refine ⟨text, bare, rendered, bareRendered, fun same => ?_⟩
    have harmless := (exact rfl).mp same
    revert harmless
    decide
  · obtain ⟨text, bare, rendered, bareRendered, same, _⟩ := documentation_harmless .go .empty
      { notedMessage with docs := ["Sent once."] } notedMessage.undocumented rfl rfl
      (by simp [notedMessage])
    refine ⟨text, bare, rendered, bareRendered, same fun doc member => ?_⟩
    obtain rfl : doc = "Sent once." := by
      simpa [notedMessage, Message.documentation, Message.undocumented] using member
    exact harmless_line .go _ (by decide)

end PacketSmith
