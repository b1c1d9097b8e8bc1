import Midn.Proto.Ngap.RoundTrip

/-!
# Encoding decoded NGAP messages

A decoder reads whole bits or octets, and an encoder asserts exact ranges. The two agree on every
field but the bit rates: a message that was decoded is encoded, and no longer than it came, unless
a bit rate of a setup request is above the largest one.
-/

namespace Midn.Ngap

open Midn.Per Midn.Per.PerReader Midn.Container

/-! ## Elements -/

section Elements

variable {entries : List IeEntry} {criticality : UInt8}

theorem refitsIn_amfUeNgapId (hcriticality : criticality.toNat ≤ 2) {amfUeNgapId : UInt32}
    (hassigned : assigned readAmfUeNgapId entries idAmfUeNgapId = some amfUeNgapId) :
    (amfUeNgapIdIe criticality amfUeNgapId).RefitsIn entries := by
  refine refitsIn_of_assigned hcriticality hassigned fun value hparse => ?_
  exact (refits_number (by decide) (by decide) toNat_ofNat_le32 hparse).2

theorem refitsIn_ranUeNgapId (hcriticality : criticality.toNat ≤ 2) {ranUeNgapId : UInt32}
    (hassigned : assigned readRanUeNgapId entries idRanUeNgapId = some ranUeNgapId) :
    (ranUeNgapIdIe criticality ranUeNgapId).RefitsIn entries := by
  refine refitsIn_of_assigned hcriticality hassigned fun value hparse => ?_
  exact (refits_number (by decide) (by decide) toNat_ofNat_le32 hparse).2

/-- The two ids at the beginning of a message. -/
theorem refitsIn_ueIds (hcriticality : criticality.toNat ≤ 2) {amfUeNgapId ranUeNgapId : UInt32}
    (hamf : assigned readAmfUeNgapId entries idAmfUeNgapId = some amfUeNgapId)
    (hran : assigned readRanUeNgapId entries idRanUeNgapId = some ranUeNgapId) {ies : List Ie}
    (hrest : ∀ ie ∈ ies, ie.RefitsIn entries) :
    ∀ ie ∈ amfUeNgapIdIe criticality amfUeNgapId :: ranUeNgapIdIe criticality ranUeNgapId :: ies,
      ie.RefitsIn entries :=
  List.forall_mem_cons.mpr ⟨refitsIn_amfUeNgapId hcriticality hamf,
    List.forall_mem_cons.mpr ⟨refitsIn_ranUeNgapId hcriticality hran, hrest⟩⟩

theorem refitsIn_nasPdu {nasPdu : List UInt8}
    (hassigned : assigned readOctetString entries idNasPdu = some nasPdu) :
    (nasPduIe nasPdu).RefitsIn entries :=
  refitsIn_of_assigned header_nasPduIe.2 hassigned fun _ => refits_octetString

theorem refitsIn_nasPduOption {nasPdu : Option (List UInt8)}
    (hassigned : assigned readOctetString entries idNasPdu = nasPdu) :
    ∀ ie ∈ (nasPdu.map nasPduIe).toList, ie.RefitsIn entries := by
  intro ie hmem
  obtain ⟨pdu, hpdu, rfl⟩ := Option.map_eq_some_iff.mp (Option.mem_toList.mp hmem)
  exact refitsIn_nasPdu (hassigned.trans hpdu)

theorem refitsIn_userLocationInfo {nrCgi : Octets 9} {tai : Octets 6}
    (hassigned : assigned readUserLocationInfo entries idUserLocationInfo = some (nrCgi, tai)) :
    (userLocationInfoIe nrCgi tai).RefitsIn entries := by
  refine refitsIn_of_assigned header_userLocationInfoIe.2 hassigned fun value hparse => ?_
  obtain ⟨r, hread⟩ := parse_eq_some.mp hparse
  obtain ⟨nrCgi', tai', hpair, hcovers⟩ := covers_readArrays hread
  cases hpair
  exact (refits_of_covers hcovers).of_fresh (writeUserLocationInfo_new nrCgi tai)

theorem refitsIn_rrcEstablishmentCause {rrcEstablishmentCause : UInt8}
    (hassigned : assigned readRrcEstablishmentCause entries idRrcEstablishmentCause =
      some rrcEstablishmentCause) :
    (rrcEstablishmentCauseIe rrcEstablishmentCause).RefitsIn entries := by
  refine refitsIn_of_assigned header_rrcEstablishmentCauseIe.2 hassigned fun value hparse => ?_
  exact (refits_number (by decide) (by decide) toNat_ofNat_le8 hparse).2

theorem refitsIn_securityKey {securityKey : Octets 32}
    (hassigned : assignedIfRead (readArray 32) none some entries idSecurityKey =
      some securityKey) : (securityKeyIe securityKey).RefitsIn entries :=
  refitsIn_of_assignedIfRead header_securityKeyIe.2 hassigned fun _ => refits_array

/-- Bit rates refit if they are in their range. -/
theorem refitsIn_ueAmbr {ueAmbr : UInt64 × UInt64} (hrates : RatesInRange ueAmbr)
    (hassigned : assignedIfRead (readBitRates bitRateMax) none some entries
      idUeAggregateMaxBitRate = some ueAmbr) : (ueAmbrIe ueAmbr).RefitsIn entries :=
  refitsIn_of_assignedIfRead header_ueAmbrIe.2 hassigned fun _ hparse =>
    refits_bitRates (by decide) hparse hrates.1 hrates.2

theorem refitsIn_pduSessionsToSetup {sessions : List PduSessionToSetup}
    (hassigned : assignedIfRead readPduSessionsToSetup [] id entries
      idPduSessionResourceSetupListCtxtReq = sessions) :
    ∀ ie ∈ unlessEmpty sessions (pduSessionsToSetupIe sessions), ie.RefitsIn entries :=
  refitsIn_unlessEmpty header_pduSessionsToSetupIe.2 hassigned fun _ =>
    refits_list fun _ _ _ => covers_readPduSessionToSetup

theorem refitsIn_pduSessionsSetup {items : List PduSessionSetupItem}
    (hassigned : assignedIfRead readPduSessionsSetup [] id entries
      idPduSessionResourceSetupListCtxtRes = items) :
    ∀ ie ∈ unlessEmpty items (pduSessionsSetupIe items), ie.RefitsIn entries :=
  refitsIn_unlessEmpty header_pduSessionsSetupIe.2 hassigned fun _ =>
    refits_list fun _ _ _ => covers_readPduSessionSetupItem

theorem refitsIn_pduSessionsFailed {ids : List UInt8}
    (hassigned : assignedIfRead readPduSessionIds [] id entries
      idPduSessionResourceFailedToSetupListCtxtRes = ids) :
    ∀ ie ∈ unlessEmpty ids (pduSessionsFailedIe ids), ie.RefitsIn entries := by
  refine refitsIn_unlessEmpty header_pduSessionsFailedIe.2 hassigned fun _ =>
    refits_list fun r pduSessionId r' hread => ?_
  obtain ⟨v, hv, rfl⟩ := Tape.run_map_eq_some.mp hread
  exact (readUpTo_eq_some (by decide) hv).2 _ (Nat.le_of_lt_succ (UInt8.toNat_lt _))

end Elements

/-! ## Messages -/

section Messages

variable {value : List UInt8} {entries : List IeEntry} {msg : NgapMessage}
  (hread : parse readIeContainer value = some entries) (hlen : value.length < 16384)
include hread hlen

theorem encode_decodeInitialUeMessage (hdecode : decodeInitialUeMessage entries = .ok msg) :
    ∃ bytes, encodeNgapPdu msg = some (.ok bytes) := by
  obtain ⟨m, ⟨hlocation, hran, hnas, hcause⟩, rfl⟩ := decodeInitialUeMessage_eq_ok_iff.mp hdecode
  have hrefits : ∀ ie ∈ m.ies, ie.RefitsIn entries :=
    List.forall_mem_cons.mpr ⟨refitsIn_ranUeNgapId (by decide) hran,
      List.forall_mem_cons.mpr ⟨refitsIn_nasPdu hnas,
        List.forall_mem_cons.mpr ⟨refitsIn_userLocationInfo hlocation,
          List.forall_mem_singleton.mpr (refitsIn_rrcEstablishmentCause hcause)⟩⟩⟩
  exact exists_map_ok (exists_encodePdu_of_entries (by decide) (by decide) (by decide) hread hlen
    (nodup_initialUeMessage m) hrefits)

theorem encode_decodeUplinkNasTransport (hdecode : decodeUplinkNasTransport entries = .ok msg) :
    ∃ bytes, encodeNgapPdu msg = some (.ok bytes) := by
  obtain ⟨m, ⟨hlocation, hamf, hran, hnas⟩, rfl⟩ := decodeUplinkNasTransport_eq_ok_iff.mp hdecode
  have hrefits : ∀ ie ∈ m.ies, ie.RefitsIn entries :=
    refitsIn_ueIds (by decide) hamf hran
      (List.forall_mem_cons.mpr ⟨refitsIn_nasPdu hnas,
        List.forall_mem_singleton.mpr (refitsIn_userLocationInfo hlocation)⟩)
  exact exists_map_ok (exists_encodePdu_of_entries (by decide) (by decide) (by decide) hread hlen
    (nodup_uplinkNasTransport m) hrefits)

theorem encode_decodeDownlinkNasTransport (hdecode : decodeDownlinkNasTransport entries = .ok msg) :
    ∃ bytes, encodeNgapPdu msg = some (.ok bytes) := by
  obtain ⟨m, ⟨hamf, hran, hnas⟩, rfl⟩ := decodeDownlinkNasTransport_eq_ok_iff.mp hdecode
  have hrefits : ∀ ie ∈ m.ies, ie.RefitsIn entries :=
    refitsIn_ueIds (by decide) hamf hran (List.forall_mem_singleton.mpr (refitsIn_nasPdu hnas))
  exact exists_map_ok (exists_encodePdu_of_entries (by decide) (by decide) (by decide) hread hlen
    (nodup_downlinkNasTransport m) hrefits)

/-- A setup request is encoded again if its bit rates are in their range. -/
theorem encode_decodeInitialContextSetupRequest {m : NgapInitialContextSetupRequest}
    (hdecode : decodeInitialContextSetupRequest entries = .ok (.initialContextSetupRequest m))
    (hrates : RatesInRange m.ueAmbr) :
    ∃ bytes, encodeInitialContextSetupRequest m = some bytes := by
  obtain ⟨m, ⟨hamf, hran, hambr, hkey, hsessions, hnas⟩, hmsg⟩ :=
    decodeInitialContextSetupRequest_eq_ok_iff.mp hdecode
  cases hmsg
  have hreject : criticalityReject.toNat ≤ 2 := by decide
  have hfixed := refitsIn_ueIds hreject hamf hran
    (List.forall_mem_cons.mpr ⟨refitsIn_securityKey hkey,
      List.forall_mem_singleton.mpr (refitsIn_ueAmbr hrates hambr)⟩)
  have hrefits : ∀ ie ∈ m.ies, ie.RefitsIn entries :=
    List.forall_mem_append.mpr ⟨List.forall_mem_append.mpr
      ⟨hfixed, refitsIn_pduSessionsToSetup hsessions⟩, refitsIn_nasPduOption hnas⟩
  exact exists_encodePdu_of_entries (by decide) (by decide) (by decide) hread hlen
    (nodup_initialContextSetupRequest m) hrefits

theorem encode_decodeInitialContextSetupResponse
    (hdecode : decodeInitialContextSetupResponse entries = .ok msg) :
    ∃ bytes, encodeNgapPdu msg = some (.ok bytes) := by
  obtain ⟨m, ⟨hamf, hran, hsetup, hfailed⟩, rfl⟩ :=
    decodeInitialContextSetupResponse_eq_ok_iff.mp hdecode
  have hreject : criticalityReject.toNat ≤ 2 := by decide
  have hfixed := refitsIn_ueIds hreject hamf hran (List.forall_mem_nil _)
  have hrefits : ∀ ie ∈ m.ies, ie.RefitsIn entries :=
    List.forall_mem_append.mpr ⟨List.forall_mem_append.mpr
      ⟨hfixed, refitsIn_pduSessionsSetup hsetup⟩, refitsIn_pduSessionsFailed hfailed⟩
  exact exists_map_ok (exists_encodePdu_of_entries (by decide) (by decide) (by decide) hread hlen
    (nodup_initialContextSetupResponse m) hrefits)

omit hread hlen in
theorem encode_decodeUeContextReleaseCommand
    (hdecode : decodeUeContextReleaseCommand entries = .ok msg) :
    ∃ bytes, encodeNgapPdu msg = some (.ok bytes) := by
  obtain ⟨amf, ran, cause, _, rfl⟩ := decodeUeContextReleaseCommand_eq_ok_iff.mp hdecode
  exact exists_map_ok (exists_encodeUeContextReleaseCommand amf ran cause)

omit hread hlen in
theorem encode_decodeUeContextReleaseComplete
    (hdecode : decodeUeContextReleaseComplete entries = .ok msg) :
    ∃ bytes, encodeNgapPdu msg = some (.ok bytes) := by
  obtain ⟨m, _, rfl⟩ := decodeUeContextReleaseComplete_eq_ok_iff.mp hdecode
  exact exists_map_ok (exists_encodeUeContextReleaseComplete m)

end Messages

/-! ## Bit rates -/

/-- The bit rates that a setup request is decoded with: the last ones that can be read. -/
def bitRatesOf (buf : List UInt8) : Option (UInt64 × UInt64) := do
  let (choice, procCode, _, value) ← decodePduWrapper buf
  let entries ← parse readIeContainer value
  if procCode = procInitialContextSetup ∧ choice = pduChoiceInitiatingMessage then
    assignedIfRead (readBitRates bitRateMax) none some entries idUeAggregateMaxBitRate
  else none

/-- No bit rate of a setup request is above the largest one. -/
def RatesWithin (buf : List UInt8) : Prop := ∀ rates ∈ bitRatesOf buf, RatesInRange rates

theorem bitRatesOf_eq {buf value : List UInt8} {choice : Nat} {procCode : UInt32}
    {criticality : UInt8} {entries : List IeEntry}
    (hwrapper : decodePduWrapper buf = some (choice, procCode, criticality, value))
    (hcontainer : parse readIeContainer value = some entries) :
    bitRatesOf buf =
      if procCode = procInitialContextSetup ∧ choice = pduChoiceInitiatingMessage then
        assignedIfRead (readBitRates bitRateMax) none some entries idUeAggregateMaxBitRate
      else none := by
  simp only [bitRatesOf, hwrapper, Option.bind_eq_bind, Option.bind_some, hcontainer]

/-- A setup request is only encoded with bit rates in their range. -/
theorem ratesInRange_of_encode {m : NgapInitialContextSetupRequest} {bytes : List UInt8}
    (hput : encodeInitialContextSetupRequest m = some bytes) : RatesInRange m.ueAmbr := by
  obtain ⟨value, entries, _, _, hencode⟩ := decode_encodePdu hput
  have hmem : ueAmbrIe m.ueAmbr ∈ m.ies := by simp [NgapInitialContextSetupRequest.ies]
  obtain ⟨_, _, _, w, hambr, _⟩ := exists_entry hencode hmem
  obtain ⟨w₁, hdl, hul⟩ := Option.bind_eq_some_iff.mp hambr
  exact ⟨(mem_of_writeConstrainedInt hdl).2, (mem_of_writeConstrainedInt hul).2⟩

/-- A decoded message is encoded, and decoded to itself again, exactly if no bit rate of a setup
request is above the largest one. -/
theorem reencodes_iff {buf : List UInt8} {msg : NgapMessage}
    (hdecode : decodeNgapPdu buf = .ok msg) :
    (∃ bytes, encodeNgapPdu msg = some (.ok bytes) ∧ decodeNgapPdu bytes = .ok msg) ↔
      RatesWithin buf := by
  have hencodes : (∃ bytes, encodeNgapPdu msg = some (.ok bytes) ∧ decodeNgapPdu bytes = .ok msg) ↔
      ∃ bytes, encodeNgapPdu msg = some (.ok bytes) :=
    exists_congr fun bytes => and_iff_left_of_imp decode_encodeNgapPdu
  rw [hencodes]
  obtain ⟨⟨choice, procCode, criticality, value⟩, hwrapper, hdecode⟩ := bind_eq_ok_iff.mp hdecode
  obtain ⟨entries, hcontainer, hdecode⟩ := bind_eq_ok_iff.mp hdecode
  rw [okOr_eq_ok_iff] at hwrapper hcontainer
  have hlen := decodePduWrapper_eq_some hwrapper
  -- no other procedure has bit rates
  have hother : ¬ (procCode = procInitialContextSetup ∧ choice = pduChoiceInitiatingMessage) →
      RatesWithin buf := by
    intro hprocedure rates hrates
    rw [bitRatesOf_eq hwrapper hcontainer, if_neg hprocedure] at hrates
    cases hrates
  have hsetup : procCode ≠ procInitialContextSetup → RatesWithin buf :=
    fun hproc => hother fun h => hproc h.1
  unfold decodeProcedure at hdecode
  split_ifs at hdecode with hinitial huplink hdownlink hrequest hresponse hcommand hcomplete
  · exact iff_of_true (encode_decodeInitialUeMessage hcontainer hlen hdecode)
      (hsetup (by rw [hinitial]; decide))
  · exact iff_of_true (encode_decodeUplinkNasTransport hcontainer hlen hdecode)
      (hsetup (by rw [huplink]; decide))
  · exact iff_of_true (encode_decodeDownlinkNasTransport hcontainer hlen hdecode)
      (hsetup (by rw [hdownlink]; decide))
  · obtain ⟨m, ⟨_, _, hambr, _⟩, rfl⟩ := decodeInitialContextSetupRequest_eq_ok_iff.mp hdecode
    have hbits : bitRatesOf buf = some m.ueAmbr := by
      rw [bitRatesOf_eq hwrapper hcontainer, if_pos hrequest, hambr]
    constructor
    · rintro ⟨bytes, hput⟩ rates hrates
      obtain rfl : m.ueAmbr = rates := Option.some.inj (hbits.symm.trans hrates)
      exact ratesInRange_of_encode (map_ok_eq_some_iff.mp hput)
    · intro hwithin
      exact exists_map_ok (encode_decodeInitialContextSetupRequest hcontainer hlen hdecode
        (hwithin m.ueAmbr hbits))
  · exact iff_of_true (encode_decodeInitialContextSetupResponse hcontainer hlen hdecode)
      (hother hrequest)
  · exact iff_of_true (encode_decodeUeContextReleaseCommand hdecode) (hother hrequest)
  · exact iff_of_true (encode_decodeUeContextReleaseComplete hdecode) (hother hrequest)

end Midn.Ngap
