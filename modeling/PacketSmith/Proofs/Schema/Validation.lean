import Mathlib.Data.List.Basic
import PacketSmith.Proofs.TypeName
import PacketSmith.Target.Reserved

/-!
# What validation accepts

Each check accepts exactly what it is said to accept, independently of the order in which it
looks for problems: the numbers and names of messages, the fields of a message, and the kinds
of fields with all kinds inside them. The checks for a language leave messages whose types are
free in it.
-/

namespace PacketSmith

/-- A refusal in front of other checks accepts what they accept, unless it applies. -/
theorem refusal_accepts_iff {Problem : Type} (refused : Prop) [Decidable refused]
    (problem : Problem) (next : Unit → Except Problem Unit) :
    (if refused then Except.error problem >>= next else next ()) = .ok () ↔
      ¬ refused ∧ next () = .ok () := by
  by_cases applies : refused <;> simp [applies, bind, Except.bind]

/-- Two checks in a row accept what both accept. -/
theorem sequence_accepts_iff {Problem : Type} (first : Except Problem Unit)
    (next : Unit → Except Problem Unit) :
    (first >>= next) = .ok () ↔ first = .ok () ∧ next () = .ok () := by
  cases first <;> simp [bind, Except.bind]

namespace Message

/-- Whether the number and the name of a message can be used at all. -/
structure HeadSound (message : Message) : Prop where
  /-- The number is not negative. -/
  numbered : 0 ≤ message.id
  /-- The name is an identifier. -/
  named : Name.isIdentifier message.name = true
  /-- The name generates a type. -/
  typed : message.typeName ≠ ""

/-- Whether two messages can be declared together. -/
structure Apart (message other : Message) : Prop where
  /-- Their numbers differ. -/
  numbers : message.id ≠ other.id
  /-- The types that their names generate differ. -/
  types : message.typeName ≠ other.typeName

/-- A head is accepted exactly if it is sound and apart from the heads in front of it. -/
theorem check_head_accepts_iff (earlier : List Message) (message : Message) :
    message.checkHead earlier = .ok () ↔
      message.HeadSound ∧ ∀ other ∈ earlier, other.Apart message := by
  have sound : message.HeadSound ↔ ¬ message.id < 0 ∧
      ¬ (!Name.isIdentifier message.name || message.typeName.isEmpty) = true := by
    constructor
    · rintro ⟨numbered, named, typed⟩
      exact ⟨Int16.not_lt.mpr numbered, by simp [named, typed]⟩
    · rintro ⟨numbered, rest⟩
      have both : Name.isIdentifier message.name = true ∧ message.typeName ≠ "" := by
        simpa using rest
      exact ⟨Int16.not_lt.mp numbered, both.1, both.2⟩
  simp only [checkHead, refusal_accepts_iff]
  rw [sound, and_assoc]
  refine and_congr_right fun _ => and_congr_right fun _ => ?_
  cases found : earlier.find? fun other => other.id == message.id with
  | some other =>
    have member := List.mem_of_find?_eq_some found
    have same : other.id = message.id := by simpa using List.find?_some found
    constructor
    · intro accepted
      simp [bind, Except.bind] at accepted
    · intro apart
      exact absurd same (apart other member).numbers
  | none =>
    have numbers : ∀ other ∈ earlier, other.id ≠ message.id := by
      simpa using found
    by_cases taken : earlier.any fun other => other.typeName == message.typeName
    · obtain ⟨other, member, same⟩ := List.any_eq_true.mp taken
      constructor
      · intro accepted
        simp [taken] at accepted
      · intro apart
        exact absurd (by simpa using same) (apart other member).types
    · constructor
      · intro _ other member
        constructor
        · exact numbers other member
        · intro same
          exact taken (List.any_eq_true.mpr ⟨other, member, by simpa using same⟩)
      · intro _
        simp [taken, pure, Except.pure]

end Message

/-- Heads are accepted exactly if each of them is sound and any two are apart, also from the
heads in front of all of them.

Proof: induction on the heads. Each of them moves to the heads in front of the others. -/
theorem check_heads_accepts_iff (earlier messages : List Message) :
    checkHeads earlier messages = .ok () ↔
      (∀ message ∈ messages, message.HeadSound) ∧
      messages.Pairwise Message.Apart ∧
      ∀ message ∈ messages, ∀ other ∈ earlier, other.Apart message := by
  induction messages generalizing earlier with
  | nil => simp [checkHeads]
  | cons message messages inductionHypothesis =>
    rw [checkHeads, sequence_accepts_iff, Message.check_head_accepts_iff, inductionHypothesis]
    simp only [List.forall_mem_cons, List.pairwise_cons, List.forall_mem_append,
      List.not_mem_nil, false_implies, implies_true, and_true]
    constructor
    · rintro ⟨⟨sound, apart⟩, others, pairs, rest⟩
      exact ⟨⟨sound, others⟩, ⟨fun other member => (rest other member).2, pairs⟩, apart,
        fun other member => (rest other member).1⟩
    · rintro ⟨⟨sound, others⟩, ⟨first, pairs⟩, apart, rest⟩
      exact ⟨⟨sound, apart⟩, others, pairs, fun other member =>
        ⟨rest other member, first other member⟩⟩

namespace Kind

/-- Whether all members of sets and all keys of maps in a kind are scalars. -/
def IsHashed : Kind → Prop
  | scalar _ => True
  | collection shape element => (shape = .set → element.tag.isHashable = true) ∧ element.IsHashed
  | map key value => key.tag.isHashable = true ∧ key.IsHashed ∧ value.IsHashed
  | message _ => True

/-- A kind is accepted exactly if its sets and maps hold scalars where they have to, and every
message that it refers to, at any depth, is declared under the number and the name. -/
theorem check_accepts_iff (messages : List Message) (schema field : String) (kind : Kind) :
    kind.check messages schema field = .ok () ↔
      kind.IsHashed ∧ ∀ reference ∈ kind.references, reference.isDeclaredIn messages = true := by
  induction kind with
  | scalar base => simp [check, IsHashed, references]
  | collection shape element inductionHypothesis =>
    simp only [check, refusal_accepts_iff, inductionHypothesis, IsHashed, references, and_assoc]
    refine and_congr_left fun _ => ?_
    simp
  | map key value keyHypothesis valueHypothesis =>
    simp only [check, refusal_accepts_iff, sequence_accepts_iff, keyHypothesis, valueHypothesis,
      IsHashed, references, List.forall_mem_append]
    simp only [Bool.not_eq_true', Bool.not_eq_false]
    tauto
  | message reference =>
    by_cases declared : reference.isDeclaredIn messages = true <;>
      simp [check, IsHashed, references, declared]

end Kind

namespace Field

/-- Whether the name and the kind of a field can be used in a message. -/
structure Sound (messages : List Message) (field : Field) : Prop where
  /-- The name is an identifier. -/
  named : Name.isIdentifier field.name = true
  /-- Sets and maps hold scalars where they have to. -/
  hashed : field.kind.IsHashed
  /-- Every message that the kind refers to is declared under the number and the name. -/
  declared : ∀ reference ∈ field.kind.references, reference.isDeclaredIn messages = true

end Field

/-- Fields are accepted exactly if each of them is sound and no two have one name, also with
the fields in front of all of them. -/
theorem check_fields_accepts_iff (messages : List Message) (schema : String)
    (earlier fields : List Field) :
    Message.checkFields messages schema earlier fields = .ok () ↔
      (∀ field ∈ fields, field.Sound messages) ∧
      fields.Pairwise (fun field other => field.name ≠ other.name) ∧
      ∀ field ∈ fields, ∀ other ∈ earlier, other.name ≠ field.name := by
  induction fields generalizing earlier with
  | nil => simp [Message.checkFields]
  | cons field fields inductionHypothesis =>
    have sound : field.Sound messages ↔ Name.isIdentifier field.name = true ∧
        field.kind.IsHashed ∧
        ∀ reference ∈ field.kind.references, reference.isDeclaredIn messages = true :=
      ⟨fun ⟨named, hashed, declared⟩ => ⟨named, hashed, declared⟩,
        fun ⟨named, hashed, declared⟩ => ⟨named, hashed, declared⟩⟩
    have fresh : (¬ (earlier.any fun other => other.name == field.name) = true) ↔
        ∀ other ∈ earlier, other.name ≠ field.name := by simp
    rw [Message.checkFields]
    simp only [refusal_accepts_iff, sequence_accepts_iff, Kind.check_accepts_iff,
      inductionHypothesis, fresh]
    simp only [List.forall_mem_cons, List.pairwise_cons, List.forall_mem_append,
      List.not_mem_nil, false_implies, implies_true, and_true, sound, Bool.not_eq_true',
      Bool.not_eq_false]
    constructor
    · rintro ⟨named, apart, ⟨hashed, declared⟩, others, pairs, rest⟩
      exact ⟨⟨⟨named, hashed, declared⟩, others⟩,
        ⟨fun other member => (rest other member).2, pairs⟩, apart,
        fun other member => (rest other member).1⟩
    · rintro ⟨⟨⟨named, hashed, declared⟩, others⟩, ⟨first, pairs⟩, apart, rest⟩
      exact ⟨named, apart, ⟨hashed, declared⟩, others, pairs, fun other member =>
        ⟨rest other member, first other member⟩⟩

/-- Every entry of a list is found under its name, if no two entries have one name. -/
theorem lookup_distinct {Entry : Type} (entries : List (String × Entry))
    (distinct : entries.Pairwise fun entry other => entry.1 ≠ other.1) :
    ∀ entry ∈ entries, entries.lookup entry.1 = some entry.2 := by
  induction entries with
  | nil => exact List.forall_mem_nil _
  | cons first entries inductionHypothesis =>
    obtain ⟨apart, others⟩ := List.pairwise_cons.mp distinct
    obtain ⟨name, held⟩ := first
    rw [List.forall_mem_cons]
    constructor
    · exact List.lookup_cons_self
    · intro entry member
      have other : (entry.1 == name) = false :=
        beq_eq_false_iff_ne.mpr (Ne.symm (apart entry member))
      rw [List.lookup_cons, other]
      exact inductionHypothesis others entry member

/-- What is true of a list of messages that validation accepts. -/
structure Validated (messages : List Message) : Prop where
  /-- The number and the name of every message can be used. -/
  heads : ∀ message ∈ messages, message.HeadSound
  /-- Any two messages can be declared together. -/
  apart : messages.Pairwise Message.Apart
  /-- Every field of every message can be used. -/
  fields : ∀ message ∈ messages, ∀ field ∈ message.fields, field.Sound messages
  /-- No two fields of a message have one name. -/
  distinct : ∀ message ∈ messages,
    message.fields.Pairwise fun field other => field.name ≠ other.name

/-- A check of all entries accepts what the check of each of them accepts. -/
theorem all_accept_iff {Entry Problem : Type} (check : Entry → Except Problem Unit)
    (entries : List Entry) :
    entries.forM check = .ok () ↔ ∀ entry ∈ entries, check entry = .ok () := by
  induction entries with
  | nil => simp [pure, Except.pure]
  | cons entry entries inductionHypothesis =>
    change (check entry >>= fun _ => entries.forM check) = .ok () ↔ _
    rw [sequence_accepts_iff, inductionHypothesis, List.forall_mem_cons]

/-- Validation accepts exactly the lists of messages for which all of this is true. -/
theorem check_messages_accepts_iff (messages : List Message) :
    checkMessages messages = .ok () ↔ Validated messages := by
  rw [checkMessages, sequence_accepts_iff, check_heads_accepts_iff, all_accept_iff]
  simp only [check_fields_accepts_iff, List.not_mem_nil, false_implies, implies_true, and_true]
  constructor
  · rintro ⟨⟨heads, apart⟩, fields⟩
    exact ⟨heads, apart, fun message member => (fields message member).1,
      fun message member => (fields message member).2⟩
  · rintro ⟨heads, apart, fields, distinct⟩
    exact ⟨⟨heads, apart⟩, fun message member => ⟨fields message member, distinct message member⟩⟩

namespace Message

/-- The checks of names accept messages without keywords among the names of fields, whose type name
is free and stands for itself. -/
theorem check_names_accepts_iff (language : Language) (message : Message) :
    message.checkNames language = .ok () ↔
      (∀ field ∈ message.fields, field.name ∉ language.keywords) ∧
        message.typeName ∉ language.takenTypeNames ∧
        mapType language message.typeName = message.typeName := by
  rw [checkNames]
  split
  case h_1 field found =>
    have keyword : field.name ∈ language.keywords := by simpa using List.find?_some found
    constructor
    · exact nofun
    · exact fun accepted => absurd keyword (accepted.1 field (List.mem_of_find?_eq_some found))
  case h_2 none =>
    have plain : ∀ field ∈ message.fields, field.name ∉ language.keywords := by
      simpa using none
    rw [and_iff_right plain]
    simp

/-- The checks of names accept messages whose type name is free and stands for itself. -/
theorem check_names_type (language : Language) (message : Message)
    (accepted : message.checkNames language = .ok ()) :
    message.typeName ∉ language.takenTypeNames ∧
      mapType language message.typeName = message.typeName :=
  ((message.check_names_accepts_iff language).mp accepted).2

end Message

end PacketSmith
