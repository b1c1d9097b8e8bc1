import Midn.Proto.Ngap.Framing
import Midn.Proto.S1ap.Framing

/-!
# Exact framing

Each message is sent in a frame of its variant. What is accepted came in the frame of its variant
exactly when messages without an outcome came as initiating messages.
-/

namespace Midn

open Container

/-- Both encoders give a message the frame of its variant. Both decoders accept octets in the frame
of the message they find there, exactly if octets that hold one of the procedures without an outcome
with all its elements hold it in an initiating message. -/
theorem pduFrame_exact_iff (buf : List UInt8) :
    ((∀ msg bytes, Ngap.encodeNgapPdu msg = some (.ok bytes) → pduFrame bytes = msg.frame) ∧
      ∀ msg bytes, S1ap.encodeS1apPdu msg = some (.ok bytes) → pduFrame bytes = msg.frame) ∧
    ((∀ msg, Ngap.decodeNgapPdu buf = .ok msg → pduFrame buf = msg.frame) ↔
      InitiatesOnly Ngap.requestOnlyProcedures Ngap.slots buf) ∧
    ((∀ msg, S1ap.decodeS1apPdu buf = .ok msg → pduFrame buf = msg.frame) ↔
      InitiatesOnly S1ap.requestOnlyProcedures S1ap.slots buf) := by
  refine ⟨⟨?_, ?_⟩, ?_, ?_⟩
  · exact fun msg bytes => Ngap.pduFrame_of_encode
  · exact fun msg bytes => S1ap.pduFrame_of_encode
  · exact frame_exact_iff Ngap.decodeNgapPdu_eq_ok_iff Ngap.frame_of_outcome
      Ngap.frame_of_requestOnly Ngap.decodeProcedure_iff_readable buf
  · exact frame_exact_iff S1ap.decodeS1apPdu_eq_ok_iff S1ap.frame_of_outcome
      S1ap.frame_of_requestOnly S1ap.decodeProcedure_iff_readable buf

/-- A DownlinkNASTransport of each protocol under a choice that is none of an initiating message:
NGAP under the undefined one, S1AP under that of an unsuccessful outcome. -/
def ngapUndefinedChoice : List UInt8 :=
  [193, 16, 23, 3, 0, 10, 0, 4, 0, 0, 0, 1, 0, 85, 0, 4, 0, 0, 0, 2, 0, 38, 0, 2, 1, 126]

def s1apUnsuccessfulChoice : List UInt8 :=
  [130, 208, 22, 3, 0, 0, 0, 4, 0, 0, 0, 1, 0, 8, 0, 3, 0, 0, 2, 0, 26, 0, 2, 1, 7]

/-- Both are accepted, and not in the frame of the message. -/
theorem otherChoice_accepted :
    (Ngap.decodeNgapPdu ngapUndefinedChoice = .ok (.downlinkNasTransport ⟨1, 2, [126]⟩) ∧
      pduFrame ngapUndefinedChoice = some (3, Ngap.procDownlinkNasTransport) ∧
      (Ngap.NgapMessage.downlinkNasTransport ⟨1, 2, [126]⟩).frame =
        some (0, Ngap.procDownlinkNasTransport)) ∧
    (S1ap.decodeS1apPdu s1apUnsuccessfulChoice = .ok (.downlinkNasTransport ⟨1, 2, [7]⟩) ∧
      pduFrame s1apUnsuccessfulChoice = some (2, S1ap.procDownlinkNasTransport) ∧
      (S1ap.S1apMessage.downlinkNasTransport ⟨1, 2, [7]⟩).frame =
        some (0, S1ap.procDownlinkNasTransport)) := by
  have hngap : containerOf ngapUndefinedChoice =
      some (3, 4, [⟨10, 0, [0, 0, 0, 1]⟩, ⟨85, 0, [0, 0, 0, 2]⟩, ⟨38, 0, [1, 126]⟩]) := by
    decide +kernel
  have hs1ap : containerOf s1apUnsuccessfulChoice =
      some (2, 11, [⟨0, 0, [0, 0, 0, 1]⟩, ⟨8, 0, [0, 0, 2]⟩, ⟨26, 0, [1, 7]⟩]) := by
    decide +kernel
  refine ⟨⟨?_, pduFrame_of_containerOf hngap, rfl⟩, ?_, pduFrame_of_containerOf hs1ap, rfl⟩
  · rw [Ngap.decodeNgapPdu_of_containerOf hngap]
    rfl
  · rw [S1ap.decodeS1apPdu_of_containerOf hs1ap]
    rfl

end Midn
