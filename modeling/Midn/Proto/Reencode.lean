import Midn.Proto.Ngap.Reencode
import Midn.Proto.S1ap.Reencode

/-!
# What a decoder accepts is encoded again

A bit rate is read from as many octets as the largest one needs, and nothing compares the two. The
writer does: a setup request that was decoded with a larger rate stops the encoder. No other
field of either protocol can be decoded to a value that is not encoded.
-/

namespace Midn

/-- A message that the octets are decoded to is encoded, and decoded to itself again, exactly if no
bit rate of a setup request is above the largest one of its protocol. -/
theorem decoded_reencodes_iff (buf : List UInt8) :
    (∀ msg, Ngap.decodeNgapPdu buf = .ok msg →
      ((∃ bytes, Ngap.encodeNgapPdu msg = some (.ok bytes) ∧
        Ngap.decodeNgapPdu bytes = .ok msg) ↔ Ngap.RatesWithin buf)) ∧
    (∀ msg, S1ap.decodeS1apPdu buf = .ok msg →
      ((∃ bytes, S1ap.encodeS1apPdu msg = some (.ok bytes) ∧
        S1ap.decodeS1apPdu bytes = .ok msg) ↔ S1ap.RatesWithin buf)) :=
  ⟨fun _ => Ngap.reencodes_iff, fun _ => S1ap.reencodes_iff⟩

/-- Two setup requests, one of each protocol, with rates of 2 Gbit/s down and 500 Mbit/s up. -/
theorem decoded_reencodes_iff_contextSetup :
    (let msg : Ngap.NgapMessage := .initialContextSetupRequest
      ⟨1, 2, [⟨1, 9, Octets.zeros 4, Octets.zeros 4⟩], none, (2000000000, 500000000),
        Octets.zeros 32⟩
     ∃ bytes, Ngap.encodeNgapPdu msg = some (.ok bytes) ∧ Ngap.decodeNgapPdu bytes = .ok msg) ∧
    let msg : S1ap.S1apMessage := .initialContextSetupRequest
      ⟨1, 2, [⟨5, 9, Octets.zeros 4, Octets.zeros 4⟩], none, (2000000000, 500000000),
        Octets.zeros 32⟩
    ∃ bytes, S1ap.encodeS1apPdu msg = some (.ok bytes) ∧ S1ap.decodeS1apPdu bytes = .ok msg := by
  constructor
  · intro msg
    let ngap : List UInt8 :=
      [3, 128, 84, 5, 0, 10, 0, 4, 0, 0, 0, 1, 0, 85, 0, 4, 0, 0, 0, 2, 0, 94, 0, 32] ++
        List.replicate 32 0 ++ [0, 110, 64, 12, 0, 0, 119, 53, 148, 0, 0, 0, 29, 205, 101, 0,
          0, 71, 0, 11, 1, 1, 36, 0, 0, 0, 0, 0, 0, 0, 0]
    have hdecode : Ngap.decodeNgapPdu ngap = .ok msg :=
      Ngap.decode_encodeNgapPdu (by decide +kernel)
    have hrates : Ngap.bitRatesOf ngap = some (2000000000, 500000000) := by decide +kernel
    refine ((decoded_reencodes_iff ngap).1 msg hdecode).mpr ?_
    intro rates hmem
    cases hrates.symm.trans hmem
    exact ⟨by decide, by decide⟩
  · intro msg
    let s1ap : List UInt8 :=
      [2, 64, 81, 5, 0, 0, 0, 4, 0, 0, 0, 1, 0, 8, 0, 3, 0, 0, 2, 0, 66, 0, 10,
        0, 119, 53, 148, 0, 0, 29, 205, 101, 0, 0, 73, 0, 32] ++
        List.replicate 32 0 ++ [0, 24, 0, 11, 1, 80, 144, 0, 0, 0, 0, 0, 0, 0, 0]
    have hdecode : S1ap.decodeS1apPdu s1ap = .ok msg :=
      S1ap.decode_encodeS1apPdu (by decide +kernel)
    have hrates : S1ap.bitRatesOf s1ap = some (2000000000, 500000000) := by decide +kernel
    refine ((decoded_reencodes_iff s1ap).2 msg hdecode).mpr ?_
    intro rates hmem
    cases hrates.symm.trans hmem
    exact ⟨by decide, by decide⟩

/-- An NGAP setup request with a downlink rate of `5_099_511_627_776`. -/
def ngapSetupAboveMax : List UInt8 :=
  [3, 128, 69, 4, 0, 10, 0, 4, 0, 0, 0, 1, 0, 85, 0, 4, 0, 0, 0, 2, 0, 94, 0, 32] ++
    List.replicate 32 0 ++ [0, 110, 64, 12, 4, 163, 82, 148, 64, 0, 0, 0, 0, 0, 0, 0]

/-- An S1AP setup request with a downlink rate of `14_294_967_296`. -/
def s1apSetupAboveMax : List UInt8 :=
  [2, 64, 66, 4, 0, 0, 0, 4, 0, 0, 0, 1, 0, 8, 0, 3, 0, 0, 2, 0, 66, 0, 10,
    3, 84, 11, 228, 0, 0, 0, 0, 0, 0, 0, 73, 0, 32] ++ List.replicate 32 0

/-- Both setup requests are decoded, and the encoder stops at the messages. -/
theorem decoded_not_reencoded :
    (∃ msg, Ngap.decodeNgapPdu ngapSetupAboveMax = .ok msg ∧ Ngap.encodeNgapPdu msg = none) ∧
    (∃ msg, S1ap.decodeS1apPdu s1apSetupAboveMax = .ok msg ∧ S1ap.encodeS1apPdu msg = none) := by
  have hngap : (Ngap.decodeNgapPdu ngapSetupAboveMax).toOption.map Ngap.encodeNgapPdu =
      some none := by decide +kernel
  have hs1ap : (S1ap.decodeS1apPdu s1apSetupAboveMax).toOption.map S1ap.encodeS1apPdu =
      some none := by decide +kernel
  constructor
  · cases hdecode : Ngap.decodeNgapPdu ngapSetupAboveMax with
    | error e => simp [hdecode, Except.toOption] at hngap
    | ok msg => exact ⟨msg, rfl, by simpa [hdecode, Except.toOption] using hngap⟩
  · cases hdecode : S1ap.decodeS1apPdu s1apSetupAboveMax with
    | error e => simp [hdecode, Except.toOption] at hs1ap
    | ok msg => exact ⟨msg, rfl, by simpa [hdecode, Except.toOption] using hs1ap⟩

end Midn
