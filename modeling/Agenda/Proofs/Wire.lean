import Agenda.Wire
import Agenda.Proofs.Json.Record

/-! Events and notifications travel as bytes and arrive as they were. -/
namespace Agenda

open Json

theorem Event.fields_faithful (description : Option String) : (fields description).Faithful :=
  ⟨Codec.text_faithful, Codec.text_faithful, Codec.timestamp_faithful, Codec.timestamp_faithful,
    Codec.text_faithful, Codec.text_faithful, Codec.timestamp_faithful, trivial⟩

theorem Event.creationCodec_faithful : creationCodec.Faithful := by
  apply Codec.record_faithful (fields_faithful _)
  · decide
  · exact List.cons_ne_nil _ _
  · intro e
    rfl

namespace Notification

theorem codec_faithful : codec.Faithful := by
  apply Codec.record_faithful
  · exact ⟨Codec.text_faithful, Codec.text_faithful, Codec.timestamp_faithful,
      Codec.text_faithful, trivial⟩
  · decide
  · exact List.cons_ne_nil _ _
  · intro n
    rfl

theorem ofBytes_toBytes (n : Notification) : ofBytes n.toBytes = .ok n :=
  Codec.decode_encode codec_faithful n

theorem toBytes_injective {n m : Notification} (same : n.toBytes = m.toBytes) : n = m := by
  have read := ofBytes_toBytes n
  rw [same, ofBytes_toBytes] at read
  exact (Except.ok.inj read).symm

end Notification
end Agenda
