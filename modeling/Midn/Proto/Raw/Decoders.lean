import Midn.Crypto.Standard
import Midn.Proto.Raw.Nas
import Midn.Proto.Raw.Nas5gs
import Midn.Proto.Raw.Ngap
import Midn.Proto.Raw.S1ap

/-!
# The decoders on untrusted bytes

Everything that takes bytes off a wire, with its accesses checked, against the same decoder without
the checks. A decoder that had an access out of bounds, an arithmetic overflow, a conversion that
fails or a round of a loop without progress would differ from its total counterpart there.
-/

namespace Midn

variable (P : Primitives) (buf : Checked.ByteSlice)

/-- Both directions of the EPS envelope. -/
theorem nasEnvelope_eq_ok (ctx : Nas.NasSecurityContext) (bearer : UInt8) :
    Nas.Raw.decodeProtected P ctx buf.bytes bearer =
        .ok (Nas.decodeProtected P ctx buf.bytes bearer) ∧
      Nas.Raw.decodeProtectedDownlink P ctx buf.bytes bearer =
        .ok (Nas.decodeProtectedDownlink P ctx buf.bytes bearer) :=
  ⟨Nas.Raw.decodeProtected_eq_ok P ctx buf bearer,
    Nas.Raw.decodeProtectedDownlink_eq_ok P ctx buf bearer⟩

/-- Both directions of the 5GS envelope. -/
theorem nas5gsEnvelope_eq_ok (ctx : Nas5gs.Nas5gsSecurityContext) :
    Nas5gs.Raw.decodeProtected P ctx buf.bytes =
        .ok (Nas5gs.decodeProtected P ctx buf.bytes) ∧
      Nas5gs.Raw.decodeProtectedDownlink P ctx buf.bytes =
        .ok (Nas5gs.decodeProtectedDownlink P ctx buf.bytes) :=
  ⟨Nas5gs.Raw.decodeProtected_eq_ok P ctx buf, Nas5gs.Raw.decodeProtectedDownlink_eq_ok P ctx buf⟩

/-- On every slice of bytes, every decoder comes to its result, and to that of the decoder without
the checks, with no fault on the way. -/
theorem decoders_without_faults :
    Nas.Raw.decodeNas buf.bytes = .ok (Nas.decodeNas buf.bytes) ∧
      Nas5gs.Raw.decodeNas5gs buf.bytes = .ok (Nas5gs.decodeNas5gs buf.bytes) ∧
      (∀ (ctx : Nas.NasSecurityContext) (bearer : UInt8),
        Nas.Raw.decodeProtected P ctx buf.bytes bearer =
            .ok (Nas.decodeProtected P ctx buf.bytes bearer) ∧
          Nas.Raw.decodeProtectedDownlink P ctx buf.bytes bearer =
            .ok (Nas.decodeProtectedDownlink P ctx buf.bytes bearer)) ∧
      (∀ ctx : Nas5gs.Nas5gsSecurityContext,
        Nas5gs.Raw.decodeProtected P ctx buf.bytes =
            .ok (Nas5gs.decodeProtected P ctx buf.bytes) ∧
          Nas5gs.Raw.decodeProtectedDownlink P ctx buf.bytes =
            .ok (Nas5gs.decodeProtectedDownlink P ctx buf.bytes)) ∧
      S1ap.Raw.decodeS1apPdu buf.bytes = .ok (S1ap.decodeS1apPdu buf.bytes) ∧
      Ngap.Raw.decodeNgapPdu buf.bytes = .ok (Ngap.decodeNgapPdu buf.bytes) := by
  refine ⟨?_, ?_, ?_, ?_, ?_, ?_⟩
  · exact Nas.Raw.decodeNas_eq_ok buf.bytes
  · exact Nas5gs.Raw.decodeNas5gs_eq_ok buf.bytes
  · exact nasEnvelope_eq_ok P buf
  · exact nas5gsEnvelope_eq_ok P buf
  · exact S1ap.Raw.decodeS1apPdu_eq_ok buf.bytes
  · exact Ngap.Raw.decodeNgapPdu_eq_ok buf.bytes

/-- An attach accept that ends inside its GUTI. -/
def truncatedAccept : Checked.ByteSlice :=
  ⟨[0x07, 0x42, 0x01, 0x49, 0x01, 0x00, 0x50, 0x0B, 0xF6], by decide⟩

theorem truncatedAccept_without_faults :
    Nas.Raw.decodeNas truncatedAccept.bytes = .ok (Nas.decodeNas truncatedAccept.bytes) ∧
      Nas5gs.Raw.decodeNas5gs truncatedAccept.bytes =
        .ok (Nas5gs.decodeNas5gs truncatedAccept.bytes) ∧
      S1ap.Raw.decodeS1apPdu truncatedAccept.bytes =
        .ok (S1ap.decodeS1apPdu truncatedAccept.bytes) ∧
      Ngap.Raw.decodeNgapPdu truncatedAccept.bytes =
        .ok (Ngap.decodeNgapPdu truncatedAccept.bytes) := by
  obtain ⟨hnas, hnas5gs, -, -, hs1ap, hngap⟩ := decoders_without_faults .standard truncatedAccept
  exact ⟨hnas, hnas5gs, hs1ap, hngap⟩

end Midn
