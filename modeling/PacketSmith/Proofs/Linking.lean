import PacketSmith.Proofs.Code.NamedTypes
import PacketSmith.Proofs.Code.WirePlan
import PacketSmith.Proofs.Registrations
import PacketSmith.Proofs.Schema.Slots

/-!
# Linking

The files of a package meet in three places: the manager registers types under numbers, the code
of fields passes numbers to the buffer, and it names types. None of these places looks at
the others. They fit together because references are validated by number and exact name, because
accepted names generate distinct types, and because the rule for type names leaves every
accepted type as it is.
-/

namespace PacketSmith

/-- The messages that the fields of a message refer to, in order and at every depth. -/
def Message.references (message : Message) : List Reference :=
  message.fields.flatMap fun field => field.kind.references

namespace Validated

variable {messages : List Message} {language : Language}

/-- A reference in a validated list names one of its messages by number and name. -/
theorem target (validated : Validated messages) (message : Message) (member : message ∈ messages)
    (reference : Reference) (found : reference ∈ message.references) :
    ∃ declared ∈ messages, declared.id = reference.id ∧ declared.name = reference.name := by
  obtain ⟨field, fieldMember, referenceMember⟩ := List.mem_flatMap.mp found
  have resolved := (validated.fields message member field fieldMember).declared reference
    referenceMember
  obtain ⟨declared, declaredMember, same⟩ := List.any_eq_true.mp resolved
  have parts : declared.id = reference.id ∧ declared.name = reference.name := by
    simpa using same
  exact ⟨declared, declaredMember, parts⟩

end Validated

/-- A message that others refer to. -/
def stopMessage : Message :=
  { id := 2, name := "Stop", docs := [], fields := [] }

end PacketSmith
