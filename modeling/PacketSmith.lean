import PacketSmith.Main
import PacketSmith.Json.Reader
import PacketSmith.Text.WordCharacter
import PacketSmith.Proofs.Code.WirePlan
import PacketSmith.Proofs.Code.Segments
import PacketSmith.Proofs.Schema.Slots
import PacketSmith.Proofs.Linking
import PacketSmith.Proofs.Disk.Following
import PacketSmith.Proofs.Delivery
import PacketSmith.Proofs.Generate
import PacketSmith.Proofs.Rejection
import PacketSmith.Proofs.Code.Growth
import PacketSmith.Proofs.Schema.Order
import PacketSmith.Proofs.Session.Interleaving
import PacketSmith.Proofs.Checking
import PacketSmith.Proofs.Schema.Json
import PacketSmith.Proofs.Typing
import PacketSmith.Proofs.Json.Reading
import PacketSmith.Proofs.Typing.Rules
import PacketSmith.Proofs.Queue.Values
import PacketSmith.Proofs.Queue.Writing
import PacketSmith.Proofs.Queue.Reading
import PacketSmith.Proofs.OldBuffers
import PacketSmith.Proofs.Schema.Declared
import PacketSmith.Proofs.Code.Hygiene
import PacketSmith.Proofs.Documentation
import PacketSmith.Proofs.Schema.Index
import PacketSmith.Proofs.Schema.WellFormed
import PacketSmith.Proofs.TypeNames
import PacketSmith.Proofs.FieldNames
import PacketSmith.Proofs.Template.Cut
import PacketSmith.Proofs.Template.Substitution
import PacketSmith.Proofs.Code.Serializers
import PacketSmith.Proofs.Archive.Run
import PacketSmith.Proofs.ManifestPaths
import PacketSmith.Proofs.Qualification
