import Midn.Proto.Nas5gs.Codec

/-!
# Plain NAS-5GS messages on the wire

What the decoder makes of the output of each encoder. A value longer than its length octet can say
is cut at its length modulo 256, so that a long TAI list or PEI comes back shorter, or not at all.
-/

namespace Midn.Nas5gs

open Midn.Nas (readLv writeLv readLv_writeLv exists_fin_of_lt_eight packedFields_split
  highField_split lowField_split)

/-- A call of one of the plain encoders. -/
inductive PlainMessage where
  | registrationRequest (registrationType ngKsi : UInt8) (guti : Option (Octets 11))
      (ueSecurityCap : UInt16)
  | identityRequest (identityType : UInt8)
  | identityResponseSuci (suci : Suci)
  | identityResponseGuti (guti : Octets 11)
  | identityResponsePei (pei : List UInt8)
  | authRequest (ngKsi : UInt8) (rand autn : Octets 16)
  | authResponse (resStar : Octets 16)
  | authReject
  | secModeCmd (nasCipherAlg nasIntegrityAlg : UInt8) (replayedUeSecCap : UInt16)
  | secModeComplete
  | registrationAccept (registrationResult : UInt8) (guti : Octets 11) (taiList : List (Octets 6))
  | registrationComplete
  | registrationReject (cause : UInt8)
  | deregistrationRequest (switchOff : Bool)
  | deregistrationAccept

namespace PlainMessage

def encode : PlainMessage → List UInt8
  | registrationRequest registrationType ngKsi guti ueSecurityCap =>
      encodeRegistrationRequest registrationType ngKsi guti ueSecurityCap
  | identityRequest identityType => encodeIdentityRequest identityType
  | identityResponseSuci suci => encodeIdentityResponseSuci suci
  | identityResponseGuti guti => encodeIdentityResponseGuti guti
  | identityResponsePei pei => encodeIdentityResponsePei pei
  | authRequest ngKsi rand autn => encodeAuthRequest ngKsi rand autn
  | authResponse resStar => encodeAuthResponse resStar
  | authReject => encodeAuthReject
  | secModeCmd nasCipherAlg nasIntegrityAlg replayedUeSecCap =>
      encodeSecModeCmd nasCipherAlg nasIntegrityAlg replayedUeSecCap
  | secModeComplete => encodeSecModeComplete
  | registrationAccept registrationResult guti taiList =>
      encodeRegistrationAccept registrationResult guti taiList
  | registrationComplete => encodeRegistrationComplete
  | registrationReject cause => encodeRegistrationReject cause
  | deregistrationRequest switchOff => encodeDeregistrationRequest switchOff
  | deregistrationAccept => encodeDeregistrationAccept

/-- The variant and the fields that were encoded. -/
def pdu : PlainMessage → Nas5gsPdu
  | registrationRequest registrationType ngKsi guti ueSecurityCap =>
      .registrationRequest ⟨registrationType, ngKsi, guti, ueSecurityCap⟩
  | identityRequest identityType => .identityRequest identityType
  | identityResponseSuci suci => .identityResponse ⟨some suci, none, none⟩
  | identityResponseGuti guti => .identityResponse ⟨none, some guti, none⟩
  | identityResponsePei pei => .identityResponse ⟨none, none, some pei⟩
  | authRequest ngKsi rand autn => .authenticationRequest ⟨ngKsi, rand, autn⟩
  | authResponse resStar => .authenticationResponse ⟨resStar⟩
  | authReject => .authenticationReject
  | secModeCmd nasCipherAlg nasIntegrityAlg replayedUeSecCap =>
      .securityModeCommand ⟨nasCipherAlg, nasIntegrityAlg, replayedUeSecCap⟩
  | secModeComplete => .securityModeComplete
  | registrationAccept registrationResult guti taiList =>
      .registrationAccept ⟨registrationResult, guti, taiList⟩
  | registrationComplete => .registrationComplete
  | registrationReject cause => .registrationReject cause
  | deregistrationRequest switchOff => .deregistrationRequest switchOff
  | deregistrationAccept => .deregistrationAccept

/-- Fields of three and four bits are within their width, and a GUTI sent as an identity carries
its type tag. -/
def InWidth : PlainMessage → Prop
  | registrationRequest registrationType ngKsi _ _ => registrationType < 8 ∧ ngKsi < 8
  | identityRequest identityType => identityType < 16
  | identityResponseGuti guti => guti.get 0 &&& 0x07 = idtype5gGuti
  | authRequest ngKsi _ _ => ngKsi < 8
  | secModeCmd nasCipherAlg nasIntegrityAlg _ => nasCipherAlg < 16 ∧ nasIntegrityAlg < 16
  | registrationAccept registrationResult _ _ => registrationResult < 8
  | _ => True

/-- The lengths of the length-value fields. -/
def lvLengths : PlainMessage → List Nat
  | registrationRequest _ _ guti _ => [if guti.isSome then 11 else 0, 2]
  | identityResponseSuci _ => [16]
  | identityResponseGuti _ => [11]
  | identityResponsePei pei => [1 + pei.length]
  | authRequest _ _ _ => [16, 16]
  | authResponse _ => [16]
  | secModeCmd _ _ _ => [2]
  | registrationAccept _ _ taiList => [11, if taiList = [] then 0 else 1 + 6 * taiList.length]
  | _ => []

/-- Every length-value field is as long as its length octet says. -/
def LvFits (m : PlainMessage) : Prop := ∀ n ∈ m.lvLengths, n < 256

/-- A PEI whose length octet is zero again, which the decoder takes for an empty identity. -/
def EmptiedPei : PlainMessage → Prop
  | identityResponsePei pei => (1 + pei.length) % 256 = 0
  | _ => False

/-- Decoding never succeeds with anything but what was encoded, and it succeeds if every value
fits. -/
def RoundTrips (m : PlainMessage) : Prop :=
  (∀ pdu, decodeNas5gs m.encode = .ok pdu → pdu = m.pdu) ∧
    (m.LvFits → ∃ pdu, decodeNas5gs m.encode = .ok pdu)

theorem RoundTrips.of_decode {m : PlainMessage} (hdecode : decodeNas5gs m.encode = .ok m.pdu) :
    m.RoundTrips := by
  constructor
  · intro pdu hpdu
    rw [hdecode] at hpdu
    exact (Except.ok.inj hpdu).symm
  · exact fun _ => ⟨m.pdu, hdecode⟩

end PlainMessage

/-! ## Values longer than their length octet can say -/

/-- The length octet says the length modulo 256, and the rest of the value is left in front of what
follows. -/
theorem readLv_writeLv_mod (value rest : List UInt8) :
    readLv (writeLv value ++ rest) =
      some (value.take (value.length % 256), value.drop (value.length % 256) ++ rest) := by
  have hlen : (UInt8.ofNat value.length).toNat = value.length % 256 := UInt8.toNat_ofNat'
  have hle : value.length % 256 ≤ value.length := Nat.mod_le _ _
  have hroom : ¬ (value ++ rest).length < value.length % 256 := by
    rw [List.length_append]
    omega
  rw [writeLv, List.cons_append, readLv, hlen, if_neg hroom, List.take_append_of_le_length hle,
    List.drop_append_of_le_length hle]

theorem readTaiEntries_append (tai : Octets 6) (rest : List UInt8) :
    readTaiEntries (tai.toList ++ rest) = tai :: readTaiEntries rest := by
  obtain ⟨octets, hlength⟩ := tai
  match octets, hlength with
  | [_, _, _, _, _, _], _ => rfl

theorem readTaiEntries_flatMap (taiList : List (Octets 6)) :
    readTaiEntries (taiList.flatMap List.Vector.toList) = taiList := by
  induction taiList with
  | nil => rfl
  | cons tai taiList ih => rw [List.flatMap_cons, readTaiEntries_append, ih]

/-- Every entry takes six octets. -/
theorem length_readTaiEntries_le (octets : List UInt8) :
    6 * (readTaiEntries octets).length ≤ octets.length := by
  induction octets using readTaiEntries.induct with
  | case1 a b c d e f rest ih =>
      have hcons : (readTaiEntries (a :: b :: c :: d :: e :: f :: rest)).length =
          (readTaiEntries rest).length + 1 := rfl
      simp only [hcons, List.length_cons]
      omega
  | case2 octets hshort =>
      rw [readTaiEntries]
      · exact Nat.zero_le _
      · exact hshort

theorem length_flatMap_toList (taiList : List (Octets 6)) :
    (taiList.flatMap List.Vector.toList).length = 6 * taiList.length := by
  induction taiList with
  | nil => rfl
  | cons tai taiList ih =>
      rw [List.flatMap_cons, List.length_append, ih, Octets.length_toList, List.length_cons]
      omega

/-! ## Bit fields -/

theorem lowNibble_split : ∀ lo : Fin 16, UInt8.ofNat lo &&& 0x0F &&& 0x0F = UInt8.ofNat lo := by
  decide

theorem switchOff_split : ∀ switchOff : Bool,
    decide (switchOff.toUInt8 &&& 0x01 ≠ 0) = switchOff := by
  decide

/-! ## Message by message -/

theorem decode_registrationRequest {registrationType ngKsi : UInt8} (htype : registrationType < 8)
    (hksi : ngKsi < 8) (guti : Option (Octets 11)) (ueSecurityCap : UInt16) :
    decodeNas5gs (encodeRegistrationRequest registrationType ngKsi guti ueSecurityCap) =
      .ok (.registrationRequest ⟨registrationType, ngKsi, guti, ueSecurityCap⟩) := by
  obtain ⟨t, rfl⟩ := exists_fin_of_lt_eight htype
  obtain ⟨k, rfl⟩ := exists_fin_of_lt_eight hksi
  obtain ⟨hhigh, hlow⟩ := packedFields_split k t
  have hcapability := readCapability_writeLv ueSecurityCap
  cases guti with
  | none =>
      have hidentity := readLv_writeLv [] (writeLv ueSecurityCap.toBeBytes.toList) (by decide)
      simp only [encodeRegistrationRequest, header, List.cons_append, List.nil_append,
        decodeNas5gs_plainHeader, decodeMessage, if_true, decodeRegistrationRequest, hidentity,
        hhigh, hlow, hcapability]
      rfl
  | some guti =>
      have hidentity := readLv_writeLv guti.toList (writeLv ueSecurityCap.toBeBytes.toList)
        (by rw [Octets.length_toList]; decide)
      simp only [encodeRegistrationRequest, header, List.cons_append, List.nil_append,
        decodeNas5gs_plainHeader, decodeMessage, if_true, decodeRegistrationRequest, hidentity,
        hhigh, hlow, hcapability, Octets.ofSlice?_toList]

theorem decode_identityRequest {identityType : UInt8} (htype : identityType < 16) :
    decodeNas5gs (encodeIdentityRequest identityType) = .ok (.identityRequest identityType) := by
  obtain ⟨t, rfl⟩ := Octets.exists_fin_of_lt (UInt8.lt_iff_toNat_lt.mp htype)
  rw [decodeNas5gs_encodeIdentityRequest, lowNibble_split]

theorem decodeMessage_identityResponse (body : List UInt8) :
    decodeMessage mtIdentityResponse body = decodeIdentityResponse body := rfl

theorem decode_identityResponseGuti {guti : Octets 11} (htag : guti.get 0 &&& 0x07 = idtype5gGuti) :
    decodeNas5gs (encodeIdentityResponseGuti guti) =
      .ok (.identityResponse ⟨none, some guti, none⟩) := by
  have hidentity := readLv_writeLv guti.toList [] (by rw [Octets.length_toList]; decide)
  rw [List.append_nil] at hidentity
  simp only [encodeIdentityResponseGuti, header, List.cons_append, List.nil_append,
    decodeNas5gs_plainHeader, decodeMessage_identityResponse, decodeIdentityResponse, hidentity]
  have hguti := Octets.ofSlice?_toList guti
  obtain ⟨octets, hlength⟩ := guti
  obtain ⟨tag, payload, rfl⟩ := List.exists_cons_of_length_eq_add_one hlength
  have htag : tag &&& 0x07 = idtype5gGuti := htag
  have hother : ¬ idtype5gGuti = idtypeSuci := by decide
  simp only [List.Vector.toList_mk] at hguti ⊢
  simp only [htag, if_neg hother, if_true, hguti]

/-- What comes back of a PEI is what its length octet leaves of it. -/
theorem decode_identityResponsePei (pei : List UInt8) :
    decodeNas5gs (encodeIdentityResponsePei pei) =
      if (1 + pei.length) % 256 = 0 then .error (.malformedNas5gs "empty 5GS mobile identity")
      else .ok (.identityResponse ⟨none, none, some (pei.take ((1 + pei.length) % 256 - 1))⟩) := by
  have hidentity := readLv_writeLv_mod (idtypePei :: pei) []
  rw [List.append_nil, List.append_nil, List.length_cons, Nat.add_comm] at hidentity
  simp only [encodeIdentityResponsePei, header, List.cons_append, List.nil_append,
    decodeNas5gs_plainHeader, decodeMessage_identityResponse, decodeIdentityResponse, hidentity]
  cases hlen : (1 + pei.length) % 256 with
  | zero => simp only [List.take_zero, if_true]
  | succ n =>
      have hsuci : ¬ idtypePei &&& 0x07 = idtypeSuci := by decide
      have hguti : ¬ idtypePei &&& 0x07 = idtype5gGuti := by decide
      rw [List.take_succ_cons, if_neg (Nat.succ_ne_zero n), Nat.add_sub_cancel]
      simp only [if_neg hsuci, if_neg hguti]

theorem decode_authRequest {ngKsi : UInt8} (hksi : ngKsi < 8) (rand autn : Octets 16) :
    decodeNas5gs (encodeAuthRequest ngKsi rand autn) =
      .ok (.authenticationRequest ⟨ngKsi, rand, autn⟩) := by
  obtain ⟨k, rfl⟩ := exists_fin_of_lt_eight hksi
  rw [decodeNas5gs_encodeAuthRequest, highField_split]

/-- The octets of a TAI list: none, or its type and count and six octets for each entry. -/
def taiOctets (taiList : List (Octets 6)) : List UInt8 :=
  if taiList = [] then []
  else
    let count := UInt8.ofNat taiList.length
    ((if count = 0 then 0 else count - 1) ||| 0x18) :: taiList.flatMap List.Vector.toList

theorem length_taiOctets (taiList : List (Octets 6)) :
    (taiOctets taiList).length = if taiList = [] then 0 else 1 + 6 * taiList.length := by
  rw [taiOctets]
  split
  next => rfl
  next => rw [List.length_cons, length_flatMap_toList, Nat.add_comm]

theorem readTaiEntries_taiOctets (taiList : List (Octets 6)) :
    readTaiEntries (taiOctets taiList).tail = taiList := by
  rw [taiOctets]
  split
  next hempty => rw [hempty]; rfl
  next => rw [List.tail_cons, readTaiEntries_flatMap]

/-- What comes back of a TAI list is what its length octet leaves of it. -/
theorem decode_registrationAccept {registrationResult : UInt8} (hresult : registrationResult < 8)
    (guti : Octets 11) (taiList : List (Octets 6)) :
    decodeNas5gs (encodeRegistrationAccept registrationResult guti taiList) =
      .ok (.registrationAccept ⟨registrationResult, guti, readTaiEntries
        ((taiOctets taiList).take ((taiOctets taiList).length % 256)).tail⟩) := by
  obtain ⟨k, rfl⟩ := exists_fin_of_lt_eight hresult
  have hguti := readLv_writeLv guti.toList (writeLv (taiOctets taiList))
    (by rw [Octets.length_toList]; decide)
  have htai := readLv_writeLv_mod (taiOctets taiList) []
  rw [List.append_nil] at htai
  have hencode : encodeRegistrationAccept (UInt8.ofNat k) guti taiList =
      header mtRegistrationAccept ++ [UInt8.ofNat k &&& 0x07] ++ writeLv guti.toList ++
        writeLv (taiOctets taiList) := by
    rw [encodeRegistrationAccept, taiOctets]
    split <;> rfl
  have hdispatch : ∀ body, decodeMessage mtRegistrationAccept body =
      decodeRegistrationAccept body := fun _ => rfl
  simp only [hencode, header, List.cons_append, List.nil_append, decodeNas5gs_plainHeader,
    hdispatch, decodeRegistrationAccept, hguti, Octets.ofSlice?_toList, htai, lowField_split]

theorem decode_registrationReject (cause : UInt8) :
    decodeNas5gs (encodeRegistrationReject cause) = .ok (.registrationReject cause) := by
  simp only [encodeRegistrationReject, header, List.cons_append, List.nil_append,
    decodeNas5gs_plainHeader]
  rfl

theorem decode_deregistrationRequest (switchOff : Bool) :
    decodeNas5gs (encodeDeregistrationRequest switchOff) =
      .ok (.deregistrationRequest switchOff) := by
  have hdispatch : ∀ body, decodeMessage mtDeregistrationRequest body =
      decodeDeregistrationRequest body := fun _ => rfl
  simp only [encodeDeregistrationRequest, header, List.cons_append, List.nil_append,
    decodeNas5gs_plainHeader, hdispatch, decodeDeregistrationRequest, switchOff_split]

/-! ## All messages -/

namespace PlainMessage

/-- A message that fits and is decoded to what was encoded. -/
theorem RoundTrips.iff_of_decode {m : PlainMessage}
    (hdecode : decodeNas5gs m.encode = .ok m.pdu) (hfits : m.LvFits) :
    m.RoundTrips ↔ m.LvFits ∨ m.EmptiedPei :=
  iff_of_true (.of_decode hdecode) (Or.inl hfits)

theorem identityResponsePei_roundTrips_iff (pei : List UInt8) :
    (identityResponsePei pei).RoundTrips ↔
      (identityResponsePei pei).LvFits ∨ (identityResponsePei pei).EmptiedPei := by
  have hdecode := decode_identityResponsePei pei
  have hfits : (identityResponsePei pei).LvFits ↔ 1 + pei.length < 256 :=
    List.forall_mem_singleton
  have hemptied : (identityResponsePei pei).EmptiedPei ↔ (1 + pei.length) % 256 = 0 := Iff.rfl
  rw [hfits, hemptied]
  by_cases hzero : (1 + pei.length) % 256 = 0
  · rw [if_pos hzero] at hdecode
    refine iff_of_true ⟨?_, ?_⟩ (Or.inr hzero)
    · intro pdu hpdu
      exact absurd (hdecode.symm.trans hpdu) (by intro h; cases h)
    · intro hshort
      rw [hfits] at hshort
      omega
  · rw [if_neg hzero] at hdecode
    constructor
    · intro htrips
      have hsame := htrips.1 _ hdecode
      simp only [pdu, Nas5gsPdu.identityResponse.injEq, DecodedIdentityResponse.mk.injEq,
        true_and, Option.some.injEq, List.take_eq_self_iff] at hsame
      have hlt := Nat.mod_lt (1 + pei.length) (show 0 < 256 by decide)
      omega
    · intro hshort
      have hshort := hshort.resolve_right hzero
      apply RoundTrips.of_decode
      have hkeep : (1 + pei.length) % 256 - 1 = pei.length := by
        rw [Nat.mod_eq_of_lt hshort, Nat.add_sub_cancel_left]
      rw [hkeep, List.take_length] at hdecode
      exact hdecode

theorem registrationAccept_roundTrips_iff {registrationResult : UInt8}
    (hresult : registrationResult < 8) (guti : Octets 11) (taiList : List (Octets 6)) :
    (registrationAccept registrationResult guti taiList).RoundTrips ↔
      (registrationAccept registrationResult guti taiList).LvFits ∨
        (registrationAccept registrationResult guti taiList).EmptiedPei := by
  have hdecode := decode_registrationAccept hresult guti taiList
  have hfits : (registrationAccept registrationResult guti taiList).LvFits ↔
      (taiOctets taiList).length < 256 := by
    rw [LvFits, lvLengths, List.forall_mem_cons, List.forall_mem_singleton, length_taiOctets,
      and_iff_right (show 11 < 256 by decide)]
  have hemptied : ¬ (registrationAccept registrationResult guti taiList).EmptiedPei := id
  rw [hfits, or_iff_left hemptied]
  constructor
  · intro htrips
    have hsame := htrips.1 _ hdecode
    simp only [pdu, Nas5gsPdu.registrationAccept.injEq, DecodedRegistrationAccept.mk.injEq,
      true_and] at hsame
    -- fewer than 256 octets hold at most 42 entries
    have hentries := length_readTaiEntries_le
      ((taiOctets taiList).take ((taiOctets taiList).length % 256)).tail
    have hlt := Nat.mod_lt (taiOctets taiList).length (show 0 < 256 by decide)
    rw [hsame, List.length_tail, List.length_take] at hentries
    rw [length_taiOctets]
    split <;> omega
  · intro hshort
    apply RoundTrips.of_decode
    rw [Nat.mod_eq_of_lt hshort, List.take_length, readTaiEntries_taiOctets] at hdecode
    exact hdecode

/-- Of the plain messages whose fields are within their width, the round trip holds of exactly those
whose values fit and of the PEIs that come out empty. -/
theorem roundTrips_iff {m : PlainMessage} (hwidth : m.InWidth) :
    m.RoundTrips ↔ m.LvFits ∨ m.EmptiedPei := by
  cases m with
  | registrationRequest registrationType ngKsi guti ueSecurityCap =>
      apply RoundTrips.iff_of_decode
      · exact decode_registrationRequest hwidth.1 hwidth.2 guti ueSecurityCap
      · cases guti <;> simp [LvFits, lvLengths]
  | identityRequest identityType =>
      exact RoundTrips.iff_of_decode (decode_identityRequest hwidth) (List.forall_mem_nil _)
  | identityResponseSuci suci =>
      exact RoundTrips.iff_of_decode (decodeNas5gs_encodeIdentityResponseSuci suci)
        (List.forall_mem_singleton.mpr (by decide))
  | identityResponseGuti guti =>
      exact RoundTrips.iff_of_decode (decode_identityResponseGuti hwidth)
        (List.forall_mem_singleton.mpr (by decide))
  | identityResponsePei pei => exact identityResponsePei_roundTrips_iff pei
  | authRequest ngKsi rand autn =>
      exact RoundTrips.iff_of_decode (decode_authRequest hwidth rand autn)
        (by simp [LvFits, lvLengths])
  | authResponse resStar =>
      exact RoundTrips.iff_of_decode (decodeNas5gs_encodeAuthResponse resStar)
        (List.forall_mem_singleton.mpr (by decide))
  | authReject => exact RoundTrips.iff_of_decode rfl (List.forall_mem_nil _)
  | secModeCmd nasCipherAlg nasIntegrityAlg replayedUeSecCap =>
      exact RoundTrips.iff_of_decode
        (decodeNas5gs_encodeSecModeCmd hwidth.1 hwidth.2 replayedUeSecCap)
        (List.forall_mem_singleton.mpr (by decide))
  | secModeComplete =>
      exact RoundTrips.iff_of_decode decodeNas5gs_encodeSecModeComplete (List.forall_mem_nil _)
  | registrationAccept registrationResult guti taiList =>
      exact registrationAccept_roundTrips_iff hwidth guti taiList
  | registrationComplete => exact RoundTrips.iff_of_decode rfl (List.forall_mem_nil _)
  | registrationReject cause =>
      exact RoundTrips.iff_of_decode (decode_registrationReject cause) (List.forall_mem_nil _)
  | deregistrationRequest switchOff =>
      exact RoundTrips.iff_of_decode (decode_deregistrationRequest switchOff)
        (List.forall_mem_nil _)
  | deregistrationAccept =>
      exact RoundTrips.iff_of_decode decodeNas5gs_encodeDeregistrationAccept
        (List.forall_mem_nil _)

/-- An accept whose TAI list is as long as it can be. -/
theorem fullAccept_roundTrips_iff :
    (registrationAccept 1 (Octets.zeros 11)
        (List.replicate 42 (Octets.zeros 6))).RoundTrips ↔
      (registrationAccept 1 (Octets.zeros 11) (List.replicate 42 (Octets.zeros 6))).LvFits ∨
        (registrationAccept 1 (Octets.zeros 11)
          (List.replicate 42 (Octets.zeros 6))).EmptiedPei :=
  roundTrips_iff (m := registrationAccept 1 (Octets.zeros 11)
    (List.replicate 42 (Octets.zeros 6))) (by decide : (1 : UInt8) < 8)

/-- With one entry more the length octet is 3, and the accept is decoded with no entry at all. -/
theorem longAccept_not_roundTrips :
    decodeNas5gs (registrationAccept 1 (Octets.zeros 11)
        (List.replicate 43 (Octets.zeros 6))).encode =
      .ok (.registrationAccept ⟨1, Octets.zeros 11, []⟩) ∧
    ¬ (registrationAccept 1 (Octets.zeros 11)
        (List.replicate 43 (Octets.zeros 6))).RoundTrips := by
  have hdecode : decodeNas5gs (registrationAccept 1 (Octets.zeros 11)
      (List.replicate 43 (Octets.zeros 6))).encode =
      .ok (.registrationAccept ⟨1, Octets.zeros 11, []⟩) := by
    decide +kernel
  refine ⟨hdecode, fun htrips => ?_⟩
  have hsame := htrips.1 _ hdecode
  simp only [pdu, Nas5gsPdu.registrationAccept.injEq, DecodedRegistrationAccept.mk.injEq,
    true_and] at hsame
  cases hsame

end PlainMessage

end Midn.Nas5gs
