import Midn.Proto.S1ap.RoundTrip

/-!
# Encoding decoded S1AP messages

A decoder reads whole bits or octets, and an encoder asserts exact ranges. The two agree on every
field but the bit rates: a message that was decoded is encoded, and no longer than it came, unless
a bit rate of a setup request is above the largest one.
-/

namespace Midn.S1ap

open Midn.Per Midn.Per.PerReader Midn.Container

/-! ## Elements -/

section Elements

variable {entries : List IeEntry} {criticality : UInt8}

theorem refitsIn_mmeUeS1apId (hcriticality : criticality.toNat ≤ 2) {mmeUeS1apId : UInt32}
    (hassigned : assigned readMmeUeS1apId entries idMmeUeS1apId = some mmeUeS1apId) :
    (mmeUeS1apIdIe criticality mmeUeS1apId).RefitsIn entries := by
  refine refitsIn_of_assigned hcriticality hassigned fun value hparse => ?_
  exact (refits_number (by decide) (by decide) toNat_ofNat_le32 hparse).2

theorem refitsIn_enbUeS1apId (hcriticality : criticality.toNat ≤ 2) {enbUeS1apId : UInt32}
    (hassigned : assigned readEnbUeS1apId entries idEnbUeS1apId = some enbUeS1apId) :
    (enbUeS1apIdIe criticality enbUeS1apId).RefitsIn entries := by
  refine refitsIn_of_assigned hcriticality hassigned fun value hparse => ?_
  exact (refits_number (by decide) (by decide) toNat_ofNat_le32 hparse).2

/-- An id that was read from three octets is in the range of the element. -/
theorem enbUeS1apId_le {enbUeS1apId : UInt32}
    (hassigned : assigned readEnbUeS1apId entries idEnbUeS1apId = some enbUeS1apId) :
    enbUeS1apId.toNat ≤ enbUeS1apIdMax := by
  obtain ⟨e, _, _, hparse⟩ := assigned_eq_some hassigned
  exact (refits_number (by decide) (by decide) toNat_ofNat_le32 hparse).1

/-- The two ids at the beginning of a message. -/
theorem refitsIn_ueIds (hcriticality : criticality.toNat ≤ 2) {mmeUeS1apId enbUeS1apId : UInt32}
    (hmme : assigned readMmeUeS1apId entries idMmeUeS1apId = some mmeUeS1apId)
    (henb : assigned readEnbUeS1apId entries idEnbUeS1apId = some enbUeS1apId) {ies : List Ie}
    (hrest : ∀ ie ∈ ies, ie.RefitsIn entries) :
    ∀ ie ∈ mmeUeS1apIdIe criticality mmeUeS1apId :: enbUeS1apIdIe criticality enbUeS1apId :: ies,
      ie.RefitsIn entries :=
  List.forall_mem_cons.mpr ⟨refitsIn_mmeUeS1apId hcriticality hmme,
    List.forall_mem_cons.mpr ⟨refitsIn_enbUeS1apId hcriticality henb, hrest⟩⟩

theorem refitsIn_nasPdu {nasPdu : List UInt8}
    (hassigned : assigned readOctetString entries idNasPdu = some nasPdu) :
    (nasPduIe nasPdu).RefitsIn entries :=
  refitsIn_of_assigned header_nasPduIe.2 hassigned fun _ => refits_octetString

theorem refitsIn_nasPduOption {nasPdu : Option (List UInt8)}
    (hassigned : assigned readOctetString entries idNasPdu = nasPdu) :
    ∀ ie ∈ (nasPdu.map nasPduIe).toList, ie.RefitsIn entries := by
  intro ie hmem
  obtain ⟨pdu, hpdu, rfl⟩ := Option.map_eq_some_iff.mp (Option.mem_toList.mp hmem)
  exact refitsIn_nasPdu (hassigned.trans hpdu)

/-- The two ends of where the UE is. -/
theorem refitsIn_location {tai : Octets 5} {eutranCgi : Octets 7}
    (htai : assigned (readArray 5) entries idTai = some tai)
    (hcgi : assigned (readArray 7) entries idEutranCgi = some eutranCgi) {ies : List Ie}
    (hrest : ∀ ie ∈ ies, ie.RefitsIn entries) :
    ∀ ie ∈ taiIe tai :: eutranCgiIe eutranCgi :: ies, ie.RefitsIn entries :=
  List.forall_mem_cons.mpr
    ⟨refitsIn_of_assigned header_taiIe.2 htai fun _ => refits_array,
      List.forall_mem_cons.mpr
        ⟨refitsIn_of_assigned header_eutranCgiIe.2 hcgi fun _ => refits_array, hrest⟩⟩

theorem refitsIn_rrcEstablishmentCause {rrcCause : UInt8}
    (hassigned : assigned readRrcEstablishmentCause entries idRrcEstablishmentCause =
      some rrcCause) :
    (rrcEstablishmentCauseIe rrcCause).RefitsIn entries := by
  refine refitsIn_of_assigned header_rrcEstablishmentCauseIe.2 hassigned fun value hparse => ?_
  exact (refits_number (by decide) (by decide) toNat_ofNat_le8 hparse).2

theorem refitsIn_securityKey {securityKey : Octets 32}
    (hassigned : assigned (readArray 32) entries idSecurityKey = some securityKey) :
    (securityKeyIe securityKey).RefitsIn entries :=
  refitsIn_of_assigned header_securityKeyIe.2 hassigned fun _ => refits_array

/-- Bit rates refit if they are in their range. -/
theorem refitsIn_ueAmbr {ueAmbr : UInt64 × UInt64} (hrates : RatesInRange ueAmbr)
    (hassigned : assignedIfRead (readBitRates bitRateMax) none some entries
      idUeAggregateMaximumBitrate = some ueAmbr) : (ueAmbrIe ueAmbr).RefitsIn entries :=
  refitsIn_of_assignedIfRead header_ueAmbrIe.2 hassigned fun _ hparse =>
    refits_bitRates (by decide) hparse hrates.1 hrates.2

theorem refitsIn_erabsToSetup {erabs : List ErabToSetup}
    (hassigned : assignedIfRead readErabsToSetup [] id entries idERabToBeSetupListCtxtSuReq =
      erabs) :
    ∀ ie ∈ unlessEmpty erabs (erabsToSetupIe erabs), ie.RefitsIn entries :=
  refitsIn_unlessEmpty header_erabsToSetupIe.2 hassigned fun _ =>
    refits_list fun _ _ _ => covers_readErabToSetup

theorem refitsIn_erabsSetup {items : List ErabSetupItem}
    (hassigned : assignedIfRead readErabsSetup [] id entries idERabSetupListCtxtSuRes = items) :
    ∀ ie ∈ unlessEmpty items (erabsSetupIe items), ie.RefitsIn entries :=
  refitsIn_unlessEmpty header_erabsSetupIe.2 hassigned fun _ =>
    refits_list fun _ _ _ => covers_readErabSetupItem

theorem refitsIn_erabsFailed {ids : List UInt8}
    (hassigned : assignedIfRead readErabIds [] id entries idERabFailedToSetupListCtxtSuRes =
      ids) :
    ∀ ie ∈ unlessEmpty ids (erabsFailedIe ids), ie.RefitsIn entries := by
  refine refitsIn_unlessEmpty header_erabsFailedIe.2 hassigned fun _ =>
    refits_list fun r erabId r' hread => ?_
  obtain ⟨v, hv, rfl⟩ := Tape.run_map_eq_some.mp hread
  obtain ⟨hlt, hcovers⟩ := readUpTo_eq_some (by decide) hv
  exact hcovers _ ((toNat_ofNat_le8 v).trans (Nat.le_of_lt_succ hlt))

end Elements

/-! ## Messages -/

section Messages

variable {value : List UInt8} {entries : List IeEntry} {msg : S1apMessage}
  (hread : parse readIeContainer value = some entries) (hlen : value.length < 16384)
include hread hlen

theorem encode_decodeInitialUeMessage (hdecode : decodeInitialUeMessage entries = .ok msg) :
    ∃ bytes, encodeS1apPdu msg = some (.ok bytes) := by
  obtain ⟨m, ⟨henb, hnas, htai, hcgi, hcause⟩, rfl⟩ :=
    decodeInitialUeMessage_eq_ok_iff.mp hdecode
  have hrefits : ∀ ie ∈ m.ies, ie.RefitsIn entries :=
    List.forall_mem_cons.mpr ⟨refitsIn_enbUeS1apId (by decide) henb,
      List.forall_mem_cons.mpr ⟨refitsIn_nasPdu hnas,
        refitsIn_location htai hcgi
          (List.forall_mem_singleton.mpr (refitsIn_rrcEstablishmentCause hcause))⟩⟩
  exact exists_map_ok (exists_encodePdu_of_entries (by decide) (by decide) (by decide) hread hlen
    (nodup_initialUeMessage m) hrefits)

theorem encode_decodeUplinkNasTransport (hdecode : decodeUplinkNasTransport entries = .ok msg) :
    ∃ bytes, encodeS1apPdu msg = some (.ok bytes) := by
  obtain ⟨m, ⟨hmme, henb, hnas, htai, hcgi⟩, rfl⟩ :=
    decodeUplinkNasTransport_eq_ok_iff.mp hdecode
  have hrefits : ∀ ie ∈ m.ies, ie.RefitsIn entries :=
    refitsIn_ueIds (by decide) hmme henb
      (List.forall_mem_cons.mpr ⟨refitsIn_nasPdu hnas,
        refitsIn_location htai hcgi (List.forall_mem_nil _)⟩)
  exact exists_map_ok (exists_encodePdu_of_entries (by decide) (by decide) (by decide) hread hlen
    (nodup_uplinkNasTransport m) hrefits)

theorem encode_decodeDownlinkNasTransport (hdecode : decodeDownlinkNasTransport entries = .ok msg) :
    ∃ bytes, encodeS1apPdu msg = some (.ok bytes) := by
  obtain ⟨m, ⟨hmme, henb, hnas⟩, rfl⟩ := decodeDownlinkNasTransport_eq_ok_iff.mp hdecode
  have hrefits : ∀ ie ∈ m.ies, ie.RefitsIn entries :=
    refitsIn_ueIds (by decide) hmme henb (List.forall_mem_singleton.mpr (refitsIn_nasPdu hnas))
  exact exists_map_ok (exists_encodePdu_of_entries (by decide) (by decide) (by decide) hread hlen
    (nodup_downlinkNasTransport m) hrefits)

/-- A setup request is encoded again if its bit rates are in their range. -/
theorem encode_decodeInitialContextSetupRequest {m : InitialContextSetupRequest}
    (hdecode : decodeInitialContextSetupRequest entries = .ok (.initialContextSetupRequest m))
    (hrates : RatesInRange m.ueAmbr) :
    ∃ bytes, encodeInitialContextSetupRequest m = some bytes := by
  obtain ⟨m, ⟨hmme, henb, hambr, hkey, herabs, hnas⟩, hmsg⟩ :=
    decodeInitialContextSetupRequest_eq_ok_iff.mp hdecode
  cases hmsg
  have hreject : criticalityReject.toNat ≤ 2 := by decide
  have hfixed := refitsIn_ueIds hreject hmme henb
    (List.forall_mem_cons.mpr ⟨refitsIn_ueAmbr hrates hambr,
      List.forall_mem_singleton.mpr (refitsIn_securityKey hkey)⟩)
  have hrefits : ∀ ie ∈ m.ies, ie.RefitsIn entries :=
    List.forall_mem_append.mpr ⟨List.forall_mem_append.mpr
      ⟨hfixed, refitsIn_erabsToSetup herabs⟩, refitsIn_nasPduOption hnas⟩
  exact exists_encodePdu_of_entries (by decide) (by decide) (by decide) hread hlen
    (nodup_initialContextSetupRequest m) hrefits

theorem encode_decodeInitialContextSetupResponse
    (hdecode : decodeInitialContextSetupResponse entries = .ok msg) :
    ∃ bytes, encodeS1apPdu msg = some (.ok bytes) := by
  obtain ⟨m, ⟨hmme, henb, hsetup, hfailed⟩, rfl⟩ :=
    decodeInitialContextSetupResponse_eq_ok_iff.mp hdecode
  have hreject : criticalityReject.toNat ≤ 2 := by decide
  have hfixed := refitsIn_ueIds hreject hmme henb (List.forall_mem_nil _)
  have hrefits : ∀ ie ∈ m.ies, ie.RefitsIn entries :=
    List.forall_mem_append.mpr ⟨List.forall_mem_append.mpr
      ⟨hfixed, refitsIn_erabsSetup hsetup⟩, refitsIn_erabsFailed hfailed⟩
  exact exists_map_ok (exists_encodePdu_of_entries (by decide) (by decide) (by decide) hread hlen
    (nodup_initialContextSetupResponse m) hrefits)

omit hread hlen in
theorem encode_decodeUeContextReleaseCommand
    (hdecode : decodeUeContextReleaseCommand entries = .ok msg) :
    ∃ bytes, encodeS1apPdu msg = some (.ok bytes) := by
  obtain ⟨mme, enb, cause, ⟨_, henb, _⟩, rfl⟩ :=
    decodeUeContextReleaseCommand_eq_ok_iff.mp hdecode
  exact exists_map_ok (exists_encodeUeContextReleaseCommand mme (enbUeS1apId_le henb) cause)

omit hread hlen in
theorem encode_decodeUeContextReleaseComplete
    (hdecode : decodeUeContextReleaseComplete entries = .ok msg) :
    ∃ bytes, encodeS1apPdu msg = some (.ok bytes) := by
  obtain ⟨m, ⟨_, henb⟩, rfl⟩ := decodeUeContextReleaseComplete_eq_ok_iff.mp hdecode
  exact exists_map_ok (exists_encodeUeContextReleaseComplete (enbUeS1apId_le henb))

end Messages

/-! ## Ids -/

/-- Every decoded message takes its RAN-side id from an element. -/
theorem assigned_enbUeS1apId_of_decode {choice : Nat} {procCode : UInt32}
    {entries : List IeEntry} {msg : S1apMessage}
    (hdecode : decodeProcedure choice procCode entries = .ok msg) :
    assigned readEnbUeS1apId entries idEnbUeS1apId = msg.enbUeS1apId? := by
  unfold decodeProcedure at hdecode
  split_ifs at hdecode
  · obtain ⟨m, ⟨henb, _⟩, rfl⟩ := decodeInitialUeMessage_eq_ok_iff.mp hdecode
    exact henb
  · obtain ⟨m, ⟨_, henb, _⟩, rfl⟩ := decodeUplinkNasTransport_eq_ok_iff.mp hdecode
    exact henb
  · obtain ⟨m, ⟨_, henb, _⟩, rfl⟩ := decodeDownlinkNasTransport_eq_ok_iff.mp hdecode
    exact henb
  · obtain ⟨m, ⟨_, henb, _⟩, rfl⟩ := decodeInitialContextSetupRequest_eq_ok_iff.mp hdecode
    exact henb
  · obtain ⟨m, ⟨_, henb, _⟩, rfl⟩ := decodeInitialContextSetupResponse_eq_ok_iff.mp hdecode
    exact henb
  · obtain ⟨mme, enb, cause, ⟨_, henb, _⟩, rfl⟩ :=
      decodeUeContextReleaseCommand_eq_ok_iff.mp hdecode
    exact henb
  · obtain ⟨m, ⟨_, henb⟩, rfl⟩ := decodeUeContextReleaseComplete_eq_ok_iff.mp hdecode
    exact henb

/-- The RAN-side id of a decoded message is in the range of its element. -/
theorem enbUeS1apId?_le {buf : List UInt8} {msg : S1apMessage}
    (hdecode : decodeS1apPdu buf = .ok msg) :
    ∀ enbUeS1apId ∈ msg.enbUeS1apId?, enbUeS1apId.toNat ≤ enbUeS1apIdMax := by
  intro enbUeS1apId hmem
  obtain ⟨_, _, hdecode⟩ := bind_eq_ok_iff.mp hdecode
  obtain ⟨entries, _, hdecode⟩ := bind_eq_ok_iff.mp hdecode
  exact enbUeS1apId_le ((assigned_enbUeS1apId_of_decode hdecode).trans hmem)

/-! ## Bit rates -/

/-- The bit rates that a setup request is decoded with: the last ones that can be read. -/
def bitRatesOf (buf : List UInt8) : Option (UInt64 × UInt64) := do
  let (choice, procCode, _, value) ← decodePduWrapper buf
  let entries ← parse readIeContainer value
  if procCode = procInitialContextSetup ∧ choice = pduChoiceInitiatingMessage then
    assignedIfRead (readBitRates bitRateMax) none some entries idUeAggregateMaximumBitrate
  else none

/-- No bit rate of a setup request is above the largest one. -/
def RatesWithin (buf : List UInt8) : Prop := ∀ rates ∈ bitRatesOf buf, RatesInRange rates

theorem bitRatesOf_eq {buf value : List UInt8} {choice : Nat} {procCode : UInt32}
    {criticality : UInt8} {entries : List IeEntry}
    (hwrapper : decodePduWrapper buf = some (choice, procCode, criticality, value))
    (hcontainer : parse readIeContainer value = some entries) :
    bitRatesOf buf =
      if procCode = procInitialContextSetup ∧ choice = pduChoiceInitiatingMessage then
        assignedIfRead (readBitRates bitRateMax) none some entries idUeAggregateMaximumBitrate
      else none := by
  simp only [bitRatesOf, hwrapper, Option.bind_eq_bind, Option.bind_some, hcontainer]

/-- A setup request is only encoded with bit rates in their range. -/
theorem ratesInRange_of_encode {m : InitialContextSetupRequest} {bytes : List UInt8}
    (hput : encodeInitialContextSetupRequest m = some bytes) : RatesInRange m.ueAmbr := by
  obtain ⟨value, entries, _, _, hencode⟩ := decode_encodePdu hput
  have hmem : ueAmbrIe m.ueAmbr ∈ m.ies := by simp [InitialContextSetupRequest.ies]
  obtain ⟨_, _, _, w, hambr, _⟩ := exists_entry hencode hmem
  obtain ⟨w₁, hdl, hul⟩ := Option.bind_eq_some_iff.mp hambr
  exact ⟨(mem_of_writeConstrainedInt hdl).2, (mem_of_writeConstrainedInt hul).2⟩

/-- A decoded message is encoded, and decoded to itself again, exactly if no bit rate of a setup
request is above the largest one. -/
theorem reencodes_iff {buf : List UInt8} {msg : S1apMessage}
    (hdecode : decodeS1apPdu buf = .ok msg) :
    (∃ bytes, encodeS1apPdu msg = some (.ok bytes) ∧ decodeS1apPdu bytes = .ok msg) ↔
      RatesWithin buf := by
  have hencodes : (∃ bytes, encodeS1apPdu msg = some (.ok bytes) ∧ decodeS1apPdu bytes = .ok msg) ↔
      ∃ bytes, encodeS1apPdu msg = some (.ok bytes) :=
    exists_congr fun bytes => and_iff_left_of_imp decode_encodeS1apPdu
  rw [hencodes]
  obtain ⟨⟨choice, procCode, criticality, value⟩, hwrapper, hdecode⟩ := bind_eq_ok_iff.mp hdecode
  obtain ⟨entries, hcontainer, hdecode⟩ := bind_eq_ok_iff.mp hdecode
  rw [okOr_eq_ok_iff] at hwrapper hcontainer
  have hlen := decodePduWrapper_eq_some hwrapper
  -- no other procedure has bit rates
  have hother : ¬ (procCode = procInitialContextSetup ∧ choice = pduChoiceInitiatingMessage) →
      RatesWithin buf := by
    intro hprocedure rates hrates
    rw [bitRatesOf_eq hwrapper hcontainer, if_neg hprocedure] at hrates
    cases hrates
  have hsetup : procCode ≠ procInitialContextSetup → RatesWithin buf :=
    fun hproc => hother fun h => hproc h.1
  unfold decodeProcedure at hdecode
  split_ifs at hdecode with hinitial huplink hdownlink hrequest hresponse hcommand hcomplete
  · exact iff_of_true (encode_decodeInitialUeMessage hcontainer hlen hdecode)
      (hsetup (by rw [hinitial]; decide))
  · exact iff_of_true (encode_decodeUplinkNasTransport hcontainer hlen hdecode)
      (hsetup (by rw [huplink]; decide))
  · exact iff_of_true (encode_decodeDownlinkNasTransport hcontainer hlen hdecode)
      (hsetup (by rw [hdownlink]; decide))
  · obtain ⟨m, ⟨_, _, hambr, _⟩, rfl⟩ := decodeInitialContextSetupRequest_eq_ok_iff.mp hdecode
    have hbits : bitRatesOf buf = some m.ueAmbr := by
      rw [bitRatesOf_eq hwrapper hcontainer, if_pos hrequest, hambr]
    constructor
    · rintro ⟨bytes, hput⟩ rates hrates
      obtain rfl : m.ueAmbr = rates := Option.some.inj (hbits.symm.trans hrates)
      exact ratesInRange_of_encode (map_ok_eq_some_iff.mp hput)
    · intro hwithin
      exact exists_map_ok (encode_decodeInitialContextSetupRequest hcontainer hlen hdecode
        (hwithin m.ueAmbr hbits))
  · exact iff_of_true (encode_decodeInitialContextSetupResponse hcontainer hlen hdecode)
      (hother hrequest)
  · exact iff_of_true (encode_decodeUeContextReleaseCommand hdecode) (hother hrequest)
  · exact iff_of_true (encode_decodeUeContextReleaseComplete hdecode) (hother hrequest)

end Midn.S1ap
