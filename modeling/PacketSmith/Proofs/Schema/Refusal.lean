import PacketSmith.Proofs.Schema.Validation

/-!
# What validation refuses

Validation stops at the first problem that it meets, and the error names the problem: the messages,
fields, references and kinds that it mentions are in the list, and they are wrong in the way that
it says. The error is one of a field only where all numbers and names of messages are accepted.
-/

namespace PacketSmith

/-- A refusal in front of other checks gives its problem if it applies, and otherwise theirs. -/
theorem refusal_refuses_iff {Problem : Type} (refused : Prop) [Decidable refused]
    (problem found : Problem) (next : Unit → Except Problem Unit) :
    (if refused then Except.error problem >>= next else next ()) = .error found ↔
      refused ∧ problem = found ∨ ¬ refused ∧ next () = .error found := by
  by_cases applies : refused <;> simp [applies, bind, Except.bind]

/-- Two checks in a row give the problem of the first, or that of the second if the first has
none. -/
theorem sequence_refuses_iff {Problem : Type} (first : Except Problem Unit) (found : Problem)
    (next : Unit → Except Problem Unit) :
    (first >>= next) = .error found ↔
      first = .error found ∨ first = .ok () ∧ next () = .error found := by
  cases first <;> simp [bind, Except.bind]

/-- A check of all entries gives the problem of one of them. -/
theorem all_refuse {Entry Problem : Type} (check : Entry → Except Problem Unit)
    (entries : List Entry) (found : Problem) (refused : entries.forM check = .error found) :
    ∃ entry ∈ entries, check entry = .error found := by
  induction entries with
  | nil => cases refused
  | cons entry entries inductionHypothesis =>
    change (check entry >>= fun _ => entries.forM check) = .error found at refused
    rw [sequence_refuses_iff] at refused
    rcases refused with here | ⟨_, later⟩
    · exact ⟨entry, List.mem_cons_self, here⟩
    · obtain ⟨other, member, found⟩ := inductionHypothesis later
      exact ⟨other, List.mem_cons_of_mem _ member, found⟩

/-- The tags of the members of sets and of the keys of maps in a kind, at any depth. -/
def Kind.keyTags : Kind → List Tag
  | scalar _ | message _ => []
  | collection .set element => element.tag :: element.keyTags
  | collection _ element => element.keyTags
  | map key value => key.tag :: (key.keyTags ++ value.keyTags)

/-- Whether an error names a problem that a list of messages has. -/
def SchemaError.IsPresentIn (messages : List Message) : SchemaError → Prop
  | negativeId schema id =>
    ∃ message ∈ messages, message.name = schema ∧ message.id = id ∧ id < 0
  | duplicateId id first second =>
    ∃ message other, [message, other].Sublist messages ∧
      message.id = id ∧ message.name = first ∧ other.id = id ∧ other.name = second
  | duplicateMessage name =>
    ∃ message other, [message, other].Sublist messages ∧
      message.typeName = other.typeName ∧ other.name = name
  | duplicateField schema field =>
    ∃ message ∈ messages, message.name = schema ∧
      ∃ first second, [first, second].Sublist message.fields ∧
        first.name = field ∧ second.name = field
  | invalidIdentifier name =>
    (∃ message ∈ messages, message.name = name ∧
      ¬ (Name.isIdentifier name = true ∧ message.typeName ≠ "")) ∨
    ∃ message ∈ messages, ∃ field ∈ message.fields,
      message.name ++ "." ++ field.name = name ∧ Name.isIdentifier field.name = false
  | unresolvedReference schema field reference =>
    ∃ message ∈ messages, message.name = schema ∧ ∃ declared ∈ message.fields,
      declared.name = field ∧ reference ∈ declared.kind.references ∧
        reference.isDeclaredIn messages = false
  | unhashableKey schema field tag =>
    ∃ message ∈ messages, message.name = schema ∧ ∃ declared ∈ message.fields,
      declared.name = field ∧ tag ∈ declared.kind.keyTags ∧ tag.isHashable = false
  | reservedWord _ _ _ | reservedTypeName _ _ _ => False

/-- Whether an error can be one of the number or the name of a message. -/
def SchemaError.IsOfHead : SchemaError → Prop
  | negativeId _ _ | duplicateId _ _ _ | duplicateMessage _ | invalidIdentifier _ => True
  | duplicateField _ _ | unresolvedReference _ _ _ | unhashableKey _ _ _
  | reservedWord _ _ _ | reservedTypeName _ _ _ => False

/-- What is refused in a kind is a set element or map key, or a reference. -/
theorem Kind.check_refuses (messages : List Message) (schema field : String) (kind : Kind)
    (error : SchemaError) (refused : kind.check messages schema field = .error error) :
    (∃ tag ∈ kind.keyTags, tag.isHashable = false ∧ error = .unhashableKey schema field tag) ∨
      ∃ reference ∈ kind.references, reference.isDeclaredIn messages = false ∧
        error = .unresolvedReference schema field reference := by
  induction kind with
  | scalar base => cases refused
  | collection shape element inductionHypothesis =>
    have inside : ∀ tag ∈ element.keyTags, tag ∈ (collection shape element).keyTags := by
      intro tag member
      cases shape with
      | array | list => exact member
      | set => exact List.mem_cons_of_mem _ member
    simp only [check, refusal_refuses_iff] at refused
    rcases refused with ⟨applies, rfl⟩ | ⟨_, inner⟩
    · obtain ⟨rfl, unhashable⟩ : shape = .set ∧ element.tag.isHashable = false := by
        simpa using applies
      exact Or.inl ⟨_, List.mem_cons_self, unhashable, rfl⟩
    · rcases inductionHypothesis inner with ⟨tag, member, found⟩ | found
      · exact Or.inl ⟨tag, inside tag member, found⟩
      · exact Or.inr found
  | map key value keyHypothesis valueHypothesis =>
    simp only [check, refusal_refuses_iff, sequence_refuses_iff] at refused
    rcases refused with ⟨unhashable, rfl⟩ | ⟨_, inner | ⟨_, inner⟩⟩
    · exact Or.inl ⟨_, List.mem_cons_self, by simpa using unhashable, rfl⟩
    · rcases keyHypothesis inner with ⟨tag, member, found⟩ | ⟨reference, member, found⟩
      · exact Or.inl ⟨tag, List.mem_cons_of_mem _ (List.mem_append_left _ member), found⟩
      · exact Or.inr ⟨reference, List.mem_append_left _ member, found⟩
    · rcases valueHypothesis inner with ⟨tag, member, found⟩ | ⟨reference, member, found⟩
      · exact Or.inl ⟨tag, List.mem_cons_of_mem _ (List.mem_append_right _ member), found⟩
      · exact Or.inr ⟨reference, List.mem_append_right _ member, found⟩
  | message reference =>
    rw [check] at refused
    split at refused
    · cases refused
    · rename_i absent
      cases refused
      exact Or.inr ⟨reference, List.mem_cons_self, by simpa using absent, rfl⟩

/-- A head is refused for itself, or for one of the heads in front of it. -/
theorem Message.check_head_refuses (front back : List Message) (message : Message)
    (error : SchemaError) (refused : message.checkHead front = .error error) :
    error.IsOfHead ∧ error.IsPresentIn (front ++ message :: back) := by
  have member : message ∈ front ++ message :: back := by simp
  have behind (other : Message) (earlier : other ∈ front) :
      [other, message].Sublist (front ++ message :: back) :=
    (List.singleton_sublist.mpr earlier).append (List.singleton_sublist.mpr List.mem_cons_self)
  simp only [checkHead, refusal_refuses_iff] at refused
  rcases refused with ⟨negative, rfl⟩ | ⟨_, ⟨unnamed, rfl⟩ | ⟨_, later⟩⟩
  · exact ⟨trivial, message, member, rfl, rfl, negative⟩
  · refine ⟨trivial, Or.inl ⟨message, member, rfl, ?_⟩⟩
    rintro ⟨named, typed⟩
    simp [named, typed] at unnamed
  · cases found : front.find? fun other => other.id == message.id with
    | some other =>
      obtain rfl : SchemaError.duplicateId message.id other.name message.name = error := by
        simpa [found, bind, Except.bind] using later
      exact ⟨trivial, other, message, behind other (List.mem_of_find?_eq_some found),
        by simpa using List.find?_some found, rfl, rfl, rfl⟩
    | none =>
      by_cases taken : front.any fun other => other.typeName == message.typeName
      · obtain ⟨other, earlier, same⟩ := List.any_eq_true.mp taken
        obtain rfl : SchemaError.duplicateMessage message.name = error := by
          simpa [found, taken, bind, Except.bind, pure, Except.pure] using later
        exact ⟨trivial, other, message, behind other earlier, by simpa using same, rfl⟩
      · simp [found, taken, pure, Except.pure] at later

/-- Heads are refused for one of them, or for it together with one in front of it. -/
theorem check_heads_refuses (front messages : List Message) (error : SchemaError)
    (refused : checkHeads front messages = .error error) :
    error.IsOfHead ∧ error.IsPresentIn (front ++ messages) := by
  induction messages generalizing front with
  | nil => cases refused
  | cons message messages inductionHypothesis =>
    rw [checkHeads, sequence_refuses_iff] at refused
    rcases refused with here | ⟨_, later⟩
    · exact message.check_head_refuses front messages error here
    · simpa using inductionHypothesis (front ++ [message]) later

/-- Fields are refused for one of them, or for it together with one in front of it. -/
theorem check_fields_refuses (messages : List Message) (message : Message)
    (member : message ∈ messages) (front fields : List Field)
    (whole : message.fields = front ++ fields) (error : SchemaError)
    (refused : Message.checkFields messages message.name front fields = .error error) :
    error.IsPresentIn messages := by
  induction fields generalizing front with
  | nil => cases refused
  | cons field fields inductionHypothesis =>
    have held : field ∈ message.fields := by simp [whole]
    simp only [Message.checkFields, refusal_refuses_iff, sequence_refuses_iff] at refused
    rcases refused with ⟨unnamed, rfl⟩ | ⟨_, ⟨repeatedly, rfl⟩ | ⟨_, inner | ⟨_, later⟩⟩⟩
    · exact Or.inr ⟨message, member, field, held, rfl, by simpa using unnamed⟩
    · obtain ⟨other, earlier, same⟩ := List.any_eq_true.mp repeatedly
      refine ⟨message, member, rfl, other, field, ?_, by simpa using same, rfl⟩
      rw [whole]
      exact (List.singleton_sublist.mpr earlier).append
        (List.singleton_sublist.mpr List.mem_cons_self)
    · rcases field.kind.check_refuses messages message.name field.name error inner with
        ⟨tag, found, unhashable, rfl⟩ | ⟨reference, found, absent, rfl⟩
      · exact ⟨message, member, rfl, field, held, rfl, found, unhashable⟩
      · exact ⟨message, member, rfl, field, held, rfl, found, absent⟩
    · exact inductionHypothesis (front ++ [field]) (by simpa using whole) later

/-- Validation refuses a list of messages for a problem of the list, and for one of a field only
if all heads are accepted. -/
theorem check_messages_refuses (messages : List Message) (error : SchemaError)
    (refused : checkMessages messages = .error error) :
    error.IsPresentIn messages ∧
      (¬ error.IsOfHead → checkHeads [] messages = .ok ()) := by
  rw [checkMessages, sequence_refuses_iff] at refused
  rcases refused with heads | ⟨heads, fields⟩
  · obtain ⟨ofHead, present⟩ := check_heads_refuses [] messages error heads
    exact ⟨present, fun other => absurd ofHead other⟩
  · obtain ⟨message, member, found⟩ := all_refuse _ messages error fields
    exact ⟨check_fields_refuses messages message member [] message.fields rfl error found,
      fun _ => heads⟩

/-- A table is refused for a problem of the messages, and for one of a field only if the messages
are sound and any two of them are apart. -/
theorem Table.of_messages_refuses (messages : List Message) (error : SchemaError)
    (refused : Table.ofMessages messages = .error error) :
    error.IsPresentIn messages ∧
      (¬ error.IsOfHead →
        (∀ message ∈ messages, message.HeadSound) ∧ messages.Pairwise Message.Apart) := by
  have stopped : checkMessages messages = .error error := by
    rw [Table.ofMessages] at refused
    cases checked : checkMessages messages with
    | ok accepted => simp [checked, bind, Except.bind, pure, Except.pure] at refused
    | error found => simpa [checked, bind, Except.bind] using refused
  obtain ⟨present, heads⟩ := check_messages_refuses messages error stopped
  refine ⟨present, fun other => ?_⟩
  obtain ⟨sound, apart, _⟩ := (check_heads_accepts_iff [] messages).mp (heads other)
  exact ⟨sound, apart⟩

end PacketSmith
