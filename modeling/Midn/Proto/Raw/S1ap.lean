import Midn.Proto.Raw.Container
import Midn.Proto.S1ap.Codec

/-!
# S1AP decoding with checked accesses

The decoder of S1AP messages with every access checked, without faults on every byte string.
-/

namespace Midn.S1ap.Raw

open Checked Midn.Per.Raw Midn.Container.Raw
open Midn.Container (IeEntry pduChoiceInitiatingMessage pduChoiceSuccessfulOutcome)

/-! ## Values -/

def readErabToSetup : CheckedRead ErabToSetup := do
  let erabId ← readConstrainedInt 0 erabIdMax
  let qci ← readConstrainedInt 0 qciMax
  let gtpTeid ← readArray 4
  let transportLayerAddr ← readArray 4
  pure ⟨.ofNat erabId, .ofNat qci, gtpTeid, transportLayerAddr⟩

def readErabsToSetup : CheckedRead (List ErabToSetup) := readList readErabToSetup

def readErabSetupItem : CheckedRead ErabSetupItem := do
  let eRabId ← readConstrainedInt 0 erabIdMax
  let transportLayerAddr ← readArray 4
  let gtpTeid ← readArray 4
  pure ⟨.ofNat eRabId, transportLayerAddr, gtpTeid⟩

def readErabsSetup : CheckedRead (List ErabSetupItem) := readList readErabSetupItem

def readErabIds : CheckedRead (List UInt8) :=
  readList (UInt8.ofNat <$> readConstrainedInt 0 erabIdMax)

def readMmeUeS1apId : CheckedRead UInt32 := UInt32.ofNat <$> readConstrainedInt 0 mmeUeS1apIdMax

def readEnbUeS1apId : CheckedRead UInt32 := UInt32.ofNat <$> readConstrainedInt 0 enbUeS1apIdMax

def readRrcEstablishmentCause : CheckedRead UInt8 :=
  UInt8.ofNat <$> readConstrainedInt 0 rrcEstablishmentCauseMax

def readCause : CheckedRead S1apCause := readKnown causeMax s1apCauseFromU64

/-! ## Values without faults -/

theorem reads_readErabsToSetup :
    Reads readErabsToSetup S1ap.readErabsToSetup (fun _ => True) 1 (23 + 16383 * 220) := by
  have hitem := (reads_upTo (by decide) (by decide : erabIdMax < 2 ^ 64 - 1)).bind fun erabId _ =>
    (reads_upTo (by decide) (by decide : qciMax < 2 ^ 64 - 1)).bind fun qci _ =>
      (reads_readArray 4).bind fun gtpTeid _ => (reads_readArray 4).bind fun addr _ =>
        reads_pure (⟨.ofNat erabId, .ofNat qci, gtpTeid, addr⟩ : ErabToSetup)
  exact reads_readList hitem (by decide)

theorem reads_readErabsSetup :
    Reads readErabsSetup S1ap.readErabsSetup (fun _ => True) 1 (23 + 16383 * 149) := by
  have hitem := (reads_upTo (by decide) (by decide : erabIdMax < 2 ^ 64 - 1)).bind fun eRabId _ =>
    (reads_readArray 4).bind fun addr _ => (reads_readArray 4).bind fun gtpTeid _ =>
      reads_pure (⟨.ofNat eRabId, addr, gtpTeid⟩ : ErabSetupItem)
  exact reads_readList hitem (by decide)

theorem reads_readErabIds :
    Reads readErabIds S1ap.readErabIds (fun _ => True) 1 (23 + 16383 * 71) :=
  reads_readList ((reads_upTo (by decide) (by decide : erabIdMax < 2 ^ 64 - 1)).map UInt8.ofNat)
    (by decide)

theorem reads_readMmeUeS1apId :
    Reads readMmeUeS1apId S1ap.readMmeUeS1apId (fun _ => True) 1 71 :=
  (reads_upTo (by decide) (by decide)).map UInt32.ofNat

theorem reads_readEnbUeS1apId :
    Reads readEnbUeS1apId S1ap.readEnbUeS1apId (fun _ => True) 1 71 :=
  (reads_upTo (by decide) (by decide)).map UInt32.ofNat

theorem reads_readRrcEstablishmentCause :
    Reads readRrcEstablishmentCause S1ap.readRrcEstablishmentCause (fun _ => True) 1 71 :=
  (reads_upTo (by decide) (by decide)).map UInt8.ofNat

theorem reads_readCause : Reads readCause S1ap.readCause (fun _ => True) 1 71 := by
  unfold S1ap.readCause
  apply reads_readKnown (by decide) (by decide : causeMax < 2 ^ 64 - 1)
  · intro v cause hknown
    rw [hknown]
  · intro v hknown
    rw [hknown]

/-! ## Decoders -/

def decodeInitialUeMessage (entries : List IeEntry) :
    Checked (Except ProtoError S1apMessage) := do
  let enbUeS1apId ← assigned readEnbUeS1apId entries idEnbUeS1apId
  let nasPdu ← assigned readOctetString entries idNasPdu
  let tai ← assigned (readArray 5) entries idTai
  let eutranCgi ← assigned (readArray 7) entries idEutranCgi
  let rrcCause ← assigned readRrcEstablishmentCause entries idRrcEstablishmentCause
  pure do
    let enbUeS1apId ← missing enbUeS1apId "missing eNB-UE-S1AP-ID"
    let nasPdu ← missing nasPdu "missing NAS-PDU"
    let tai ← missing tai "missing TAI"
    let eutranCgi ← missing eutranCgi "missing E-UTRAN CGI"
    let rrcCause ← missing rrcCause "missing RRC-Establishment-Cause"
    pure (.initialUeMessage ⟨enbUeS1apId, nasPdu, tai, eutranCgi, rrcCause⟩)

def decodeUplinkNasTransport (entries : List IeEntry) :
    Checked (Except ProtoError S1apMessage) := do
  let mmeUeS1apId ← assigned readMmeUeS1apId entries idMmeUeS1apId
  let enbUeS1apId ← assigned readEnbUeS1apId entries idEnbUeS1apId
  let nasPdu ← assigned readOctetString entries idNasPdu
  let tai ← assigned (readArray 5) entries idTai
  let eutranCgi ← assigned (readArray 7) entries idEutranCgi
  pure do
    let mmeUeS1apId ← missing mmeUeS1apId "missing MME-UE-S1AP-ID"
    let enbUeS1apId ← missing enbUeS1apId "missing eNB-UE-S1AP-ID"
    let nasPdu ← missing nasPdu "missing NAS-PDU"
    let tai ← missing tai "missing TAI"
    let eutranCgi ← missing eutranCgi "missing E-UTRAN CGI"
    pure (.uplinkNasTransport ⟨mmeUeS1apId, enbUeS1apId, nasPdu, tai, eutranCgi⟩)

def decodeDownlinkNasTransport (entries : List IeEntry) :
    Checked (Except ProtoError S1apMessage) := do
  let mmeUeS1apId ← assigned readMmeUeS1apId entries idMmeUeS1apId
  let enbUeS1apId ← assigned readEnbUeS1apId entries idEnbUeS1apId
  let nasPdu ← assigned readOctetString entries idNasPdu
  pure do
    let mmeUeS1apId ← missing mmeUeS1apId "missing MME-UE-S1AP-ID"
    let enbUeS1apId ← missing enbUeS1apId "missing eNB-UE-S1AP-ID"
    let nasPdu ← missing nasPdu "missing NAS-PDU"
    pure (.downlinkNasTransport ⟨mmeUeS1apId, enbUeS1apId, nasPdu⟩)

def decodeInitialContextSetupRequest (entries : List IeEntry) :
    Checked (Except ProtoError S1apMessage) := do
  let mmeUeS1apId ← assigned readMmeUeS1apId entries idMmeUeS1apId
  let enbUeS1apId ← assigned readEnbUeS1apId entries idEnbUeS1apId
  let ueAmbr ←
    assignedIfRead (readBitRates bitRateMax) none some entries idUeAggregateMaximumBitrate
  let securityKey ← assigned (readArray 32) entries idSecurityKey
  let eRabs ← assignedIfRead readErabsToSetup [] id entries idERabToBeSetupListCtxtSuReq
  let nasPdu ← assigned readOctetString entries idNasPdu
  pure do
    let mmeUeS1apId ← missing mmeUeS1apId "missing MME-UE-S1AP-ID"
    let enbUeS1apId ← missing enbUeS1apId "missing eNB-UE-S1AP-ID"
    let ueAmbr ← missing ueAmbr "missing UE-AggregateMaximumBitrate"
    let securityKey ← missing securityKey "missing SecurityKey"
    pure (.initialContextSetupRequest
      ⟨mmeUeS1apId, enbUeS1apId, eRabs, nasPdu, ueAmbr, securityKey⟩)

def decodeInitialContextSetupResponse (entries : List IeEntry) :
    Checked (Except ProtoError S1apMessage) := do
  let mmeUeS1apId ← assigned readMmeUeS1apId entries idMmeUeS1apId
  let enbUeS1apId ← assigned readEnbUeS1apId entries idEnbUeS1apId
  let eRabsSetup ← assignedIfRead readErabsSetup [] id entries idERabSetupListCtxtSuRes
  let eRabsFailed ← assignedIfRead readErabIds [] id entries idERabFailedToSetupListCtxtSuRes
  pure do
    let mmeUeS1apId ← missing mmeUeS1apId "missing MME-UE-S1AP-ID"
    let enbUeS1apId ← missing enbUeS1apId "missing eNB-UE-S1AP-ID"
    pure (.initialContextSetupResponse ⟨mmeUeS1apId, enbUeS1apId, eRabsSetup, eRabsFailed⟩)

def decodeUeContextReleaseCommand (entries : List IeEntry) :
    Checked (Except ProtoError S1apMessage) := do
  let mmeUeS1apId ← assigned readMmeUeS1apId entries idMmeUeS1apId
  let enbUeS1apId ← assigned readEnbUeS1apId entries idEnbUeS1apId
  let cause ← assigned readCause entries idCause
  pure do
    let mmeUeS1apId ← missing mmeUeS1apId "missing MME-UE-S1AP-ID"
    let enbUeS1apId ← missing enbUeS1apId "missing eNB-UE-S1AP-ID"
    let cause ← missing cause "missing or invalid Cause"
    pure (.ueContextReleaseCommand mmeUeS1apId enbUeS1apId cause)

def decodeUeContextReleaseComplete (entries : List IeEntry) :
    Checked (Except ProtoError S1apMessage) := do
  let mmeUeS1apId ← assigned readMmeUeS1apId entries idMmeUeS1apId
  let enbUeS1apId ← assigned readEnbUeS1apId entries idEnbUeS1apId
  pure do
    let mmeUeS1apId ← missing mmeUeS1apId "missing MME-UE-S1AP-ID"
    let enbUeS1apId ← missing enbUeS1apId "missing eNB-UE-S1AP-ID"
    pure (.ueContextReleaseComplete ⟨mmeUeS1apId, enbUeS1apId⟩)

/-- Dispatch on the procedure code and, where there is an outcome, on the choice. -/
def decodeProcedure (choice : Nat) (procCode : UInt32) (entries : List IeEntry) :
    Checked (Except ProtoError S1apMessage) :=
  if procCode = procInitialUeMessage then decodeInitialUeMessage entries
  else if procCode = procUplinkNasTransport then decodeUplinkNasTransport entries
  else if procCode = procDownlinkNasTransport then decodeDownlinkNasTransport entries
  else if procCode = procInitialContextSetup ∧ choice = pduChoiceInitiatingMessage then
    decodeInitialContextSetupRequest entries
  else if procCode = procInitialContextSetup ∧ choice = pduChoiceSuccessfulOutcome then
    decodeInitialContextSetupResponse entries
  else if procCode = procUeContextRelease ∧ choice = pduChoiceInitiatingMessage then
    decodeUeContextReleaseCommand entries
  else if procCode = procUeContextRelease ∧ choice = pduChoiceSuccessfulOutcome then
    decodeUeContextReleaseComplete entries
  else pure (.error (.malformedS1ap
    ("unsupported procedure code (or PDU choice) — only InitialUEMessage/Uplink/" ++
      "DownlinkNASTransport/InitialContextSetupRequest/Response/" ++
      "UeContextReleaseCommand/Complete")))

def decodeS1apPdu (buf : List UInt8) : Checked (Except ProtoError S1apMessage) :=
  decodePdu .malformedS1ap decodeProcedure buf

/-! ## Decoders without faults -/

section Faultless

variable (entries : List IeEntry)

theorem decodeInitialUeMessage_eq_ok :
    decodeInitialUeMessage entries = .ok (S1ap.decodeInitialUeMessage entries) := by
  rw [decodeInitialUeMessage, assigned_eq_ok reads_readEnbUeS1apId (by decide), ok_bind,
    assigned_eq_ok reads_readOctetString (by decide), ok_bind,
    assigned_eq_ok (reads_readArray 5) (by decide), ok_bind,
    assigned_eq_ok (reads_readArray 7) (by decide), ok_bind,
    assigned_eq_ok reads_readRrcEstablishmentCause (by decide), ok_bind]
  rfl

theorem decodeUplinkNasTransport_eq_ok :
    decodeUplinkNasTransport entries = .ok (S1ap.decodeUplinkNasTransport entries) := by
  rw [decodeUplinkNasTransport, assigned_eq_ok reads_readMmeUeS1apId (by decide), ok_bind,
    assigned_eq_ok reads_readEnbUeS1apId (by decide), ok_bind,
    assigned_eq_ok reads_readOctetString (by decide), ok_bind,
    assigned_eq_ok (reads_readArray 5) (by decide), ok_bind,
    assigned_eq_ok (reads_readArray 7) (by decide), ok_bind]
  rfl

theorem decodeDownlinkNasTransport_eq_ok :
    decodeDownlinkNasTransport entries = .ok (S1ap.decodeDownlinkNasTransport entries) := by
  rw [decodeDownlinkNasTransport, assigned_eq_ok reads_readMmeUeS1apId (by decide), ok_bind,
    assigned_eq_ok reads_readEnbUeS1apId (by decide), ok_bind,
    assigned_eq_ok reads_readOctetString (by decide), ok_bind]
  rfl

theorem decodeInitialContextSetupRequest_eq_ok :
    decodeInitialContextSetupRequest entries =
      .ok (S1ap.decodeInitialContextSetupRequest entries) := by
  have hrates := reads_readBitRates (by decide) (by decide : bitRateMax < 2 ^ 64 - 1)
  rw [decodeInitialContextSetupRequest, assigned_eq_ok reads_readMmeUeS1apId (by decide), ok_bind,
    assigned_eq_ok reads_readEnbUeS1apId (by decide), ok_bind,
    assignedIfRead_eq_ok hrates (by decide), ok_bind,
    assigned_eq_ok (reads_readArray 32) (by decide), ok_bind,
    assignedIfRead_eq_ok reads_readErabsToSetup (by decide), ok_bind,
    assigned_eq_ok reads_readOctetString (by decide), ok_bind]
  rfl

theorem decodeInitialContextSetupResponse_eq_ok :
    decodeInitialContextSetupResponse entries =
      .ok (S1ap.decodeInitialContextSetupResponse entries) := by
  rw [decodeInitialContextSetupResponse, assigned_eq_ok reads_readMmeUeS1apId (by decide), ok_bind,
    assigned_eq_ok reads_readEnbUeS1apId (by decide), ok_bind,
    assignedIfRead_eq_ok reads_readErabsSetup (by decide), ok_bind,
    assignedIfRead_eq_ok reads_readErabIds (by decide), ok_bind]
  rfl

theorem decodeUeContextReleaseCommand_eq_ok :
    decodeUeContextReleaseCommand entries = .ok (S1ap.decodeUeContextReleaseCommand entries) := by
  rw [decodeUeContextReleaseCommand, assigned_eq_ok reads_readMmeUeS1apId (by decide), ok_bind,
    assigned_eq_ok reads_readEnbUeS1apId (by decide), ok_bind,
    assigned_eq_ok reads_readCause (by decide), ok_bind]
  rfl

theorem decodeUeContextReleaseComplete_eq_ok :
    decodeUeContextReleaseComplete entries =
      .ok (S1ap.decodeUeContextReleaseComplete entries) := by
  rw [decodeUeContextReleaseComplete, assigned_eq_ok reads_readMmeUeS1apId (by decide), ok_bind,
    assigned_eq_ok reads_readEnbUeS1apId (by decide), ok_bind]
  rfl

end Faultless

theorem decodeProcedure_eq_ok (choice : Nat) (procCode : UInt32) (entries : List IeEntry) :
    decodeProcedure choice procCode entries =
      .ok (S1ap.decodeProcedure choice procCode entries) := by
  simp only [decodeProcedure, S1ap.decodeProcedure, decodeInitialUeMessage_eq_ok,
    decodeUplinkNasTransport_eq_ok, decodeDownlinkNasTransport_eq_ok,
    decodeInitialContextSetupRequest_eq_ok, decodeInitialContextSetupResponse_eq_ok,
    decodeUeContextReleaseCommand_eq_ok, decodeUeContextReleaseComplete_eq_ok, pure_eq_ok,
    apply_ite Except.ok]

/-- From every byte string a message or an error is decoded without a fault. -/
theorem decodeS1apPdu_eq_ok (buf : List UInt8) :
    decodeS1apPdu buf = .ok (S1ap.decodeS1apPdu buf) :=
  decodePdu_eq_ok decodeProcedure_eq_ok buf

end Midn.S1ap.Raw
