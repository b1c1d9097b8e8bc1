import Midn.Proto.Ngap.Codec
import Midn.Proto.Raw.Container

/-!
# NGAP decoding with checked accesses

The decoder of NGAP messages with every access checked, without faults on every byte string.
-/

namespace Midn.Ngap.Raw

open Checked Midn.Per.Raw Midn.Container.Raw
open Midn.Container (IeEntry pduChoiceInitiatingMessage pduChoiceSuccessfulOutcome)

/-! ## Values -/

def readUserLocationInfo : CheckedRead (Octets 9 × Octets 6) := do
  let nrCgi ← readArray 9
  let tai ← readArray 6
  pure (nrCgi, tai)

def readPduSessionToSetup : CheckedRead PduSessionToSetup := do
  let pduSessionId ← readConstrainedInt 0 pduSessionIdMax
  let qfi ← readConstrainedInt 0 qfiMax
  let gtpTeid ← readArray 4
  let transportLayerAddr ← readArray 4
  pure ⟨.ofNat pduSessionId, .ofNat qfi, gtpTeid, transportLayerAddr⟩

def readPduSessionsToSetup : CheckedRead (List PduSessionToSetup) := readList readPduSessionToSetup

def readPduSessionSetupItem : CheckedRead PduSessionSetupItem := do
  let pduSessionId ← readConstrainedInt 0 pduSessionIdMax
  let transportLayerAddr ← readArray 4
  let gtpTeid ← readArray 4
  pure ⟨.ofNat pduSessionId, transportLayerAddr, gtpTeid⟩

def readPduSessionsSetup : CheckedRead (List PduSessionSetupItem) :=
  readList readPduSessionSetupItem

def readPduSessionIds : CheckedRead (List UInt8) :=
  readList (UInt8.ofNat <$> readConstrainedInt 0 pduSessionIdMax)

def readAmfUeNgapId : CheckedRead UInt32 := UInt32.ofNat <$> readConstrainedInt 0 amfUeNgapIdMax

def readRanUeNgapId : CheckedRead UInt32 := UInt32.ofNat <$> readConstrainedInt 0 ranUeNgapIdMax

def readRrcEstablishmentCause : CheckedRead UInt8 :=
  UInt8.ofNat <$> readConstrainedInt 0 rrcEstablishmentCauseMax

def readCause : CheckedRead NgapCause := readKnown causeMax ngapCauseFromU64

/-! ## Values without faults -/

theorem reads_readUserLocationInfo :
    Reads readUserLocationInfo Ngap.readUserLocationInfo (fun _ => True) 0 134 :=
  (reads_readArray 9).bind fun nrCgi _ => (reads_readArray 6).bind fun tai _ =>
    reads_pure (nrCgi, tai)

theorem reads_readPduSessionsToSetup :
    Reads readPduSessionsToSetup Ngap.readPduSessionsToSetup (fun _ => True) 1
      (23 + 16383 * 220) := by
  have hitem := (reads_upTo (by decide) (by decide : pduSessionIdMax < 2 ^ 64 - 1)).bind
    fun pduSessionId _ => (reads_upTo (by decide) (by decide : qfiMax < 2 ^ 64 - 1)).bind
      fun qfi _ => (reads_readArray 4).bind fun gtpTeid _ => (reads_readArray 4).bind fun addr _ =>
        reads_pure (⟨.ofNat pduSessionId, .ofNat qfi, gtpTeid, addr⟩ : PduSessionToSetup)
  exact reads_readList hitem (by decide)

theorem reads_readPduSessionsSetup :
    Reads readPduSessionsSetup Ngap.readPduSessionsSetup (fun _ => True) 1
      (23 + 16383 * 149) := by
  have hitem := (reads_upTo (by decide) (by decide : pduSessionIdMax < 2 ^ 64 - 1)).bind
    fun pduSessionId _ => (reads_readArray 4).bind fun addr _ => (reads_readArray 4).bind
      fun gtpTeid _ => reads_pure (⟨.ofNat pduSessionId, addr, gtpTeid⟩ : PduSessionSetupItem)
  exact reads_readList hitem (by decide)

theorem reads_readPduSessionIds :
    Reads readPduSessionIds Ngap.readPduSessionIds (fun _ => True) 1 (23 + 16383 * 71) :=
  reads_readList
    ((reads_upTo (by decide) (by decide : pduSessionIdMax < 2 ^ 64 - 1)).map UInt8.ofNat)
    (by decide)

theorem reads_readAmfUeNgapId :
    Reads readAmfUeNgapId Ngap.readAmfUeNgapId (fun _ => True) 1 71 :=
  (reads_upTo (by decide) (by decide)).map UInt32.ofNat

theorem reads_readRanUeNgapId :
    Reads readRanUeNgapId Ngap.readRanUeNgapId (fun _ => True) 1 71 :=
  (reads_upTo (by decide) (by decide)).map UInt32.ofNat

theorem reads_readRrcEstablishmentCause :
    Reads readRrcEstablishmentCause Ngap.readRrcEstablishmentCause (fun _ => True) 1 71 :=
  (reads_upTo (by decide) (by decide)).map UInt8.ofNat

theorem reads_readCause : Reads readCause Ngap.readCause (fun _ => True) 1 71 := by
  unfold Ngap.readCause
  apply reads_readKnown (by decide) (by decide : causeMax < 2 ^ 64 - 1)
  · intro v cause hknown
    rw [hknown]
  · intro v hknown
    rw [hknown]

/-! ## Decoders -/

def decodeInitialUeMessage (entries : List IeEntry) :
    Checked (Except ProtoError NgapMessage) := do
  let ranUeNgapId ← assigned readRanUeNgapId entries idRanUeNgapId
  let nasPdu ← assigned readOctetString entries idNasPdu
  let location ← assigned readUserLocationInfo entries idUserLocationInfo
  let rrcCause ← assigned readRrcEstablishmentCause entries idRrcEstablishmentCause
  pure do
    let (nrCgi, tai) ← missing location "missing UserLocationInformation"
    let ranUeNgapId ← missing ranUeNgapId "missing RAN-UE-NGAP-ID"
    let nasPdu ← missing nasPdu "missing NAS-PDU"
    let rrcEstablishmentCause ← missing rrcCause "missing RRCEstablishmentCause"
    pure (.initialUeMessage ⟨ranUeNgapId, nasPdu, tai, nrCgi, rrcEstablishmentCause⟩)

def decodeUplinkNasTransport (entries : List IeEntry) :
    Checked (Except ProtoError NgapMessage) := do
  let amfUeNgapId ← assigned readAmfUeNgapId entries idAmfUeNgapId
  let ranUeNgapId ← assigned readRanUeNgapId entries idRanUeNgapId
  let nasPdu ← assigned readOctetString entries idNasPdu
  let location ← assigned readUserLocationInfo entries idUserLocationInfo
  pure do
    let (nrCgi, tai) ← missing location "missing UserLocationInformation"
    let amfUeNgapId ← missing amfUeNgapId "missing AMF-UE-NGAP-ID"
    let ranUeNgapId ← missing ranUeNgapId "missing RAN-UE-NGAP-ID"
    let nasPdu ← missing nasPdu "missing NAS-PDU"
    pure (.uplinkNasTransport ⟨amfUeNgapId, ranUeNgapId, nasPdu, tai, nrCgi⟩)

def decodeDownlinkNasTransport (entries : List IeEntry) :
    Checked (Except ProtoError NgapMessage) := do
  let amfUeNgapId ← assigned readAmfUeNgapId entries idAmfUeNgapId
  let ranUeNgapId ← assigned readRanUeNgapId entries idRanUeNgapId
  let nasPdu ← assigned readOctetString entries idNasPdu
  pure do
    let amfUeNgapId ← missing amfUeNgapId "missing AMF-UE-NGAP-ID"
    let ranUeNgapId ← missing ranUeNgapId "missing RAN-UE-NGAP-ID"
    let nasPdu ← missing nasPdu "missing NAS-PDU"
    pure (.downlinkNasTransport ⟨amfUeNgapId, ranUeNgapId, nasPdu⟩)

def decodeInitialContextSetupRequest (entries : List IeEntry) :
    Checked (Except ProtoError NgapMessage) := do
  let amfUeNgapId ← assigned readAmfUeNgapId entries idAmfUeNgapId
  let ranUeNgapId ← assigned readRanUeNgapId entries idRanUeNgapId
  let securityKey ← assignedIfRead (readArray 32) none some entries idSecurityKey
  let ueAmbr ← assignedIfRead (readBitRates bitRateMax) none some entries idUeAggregateMaxBitRate
  let pduSessions ← assignedIfRead readPduSessionsToSetup [] id entries
    idPduSessionResourceSetupListCtxtReq
  let nasPdu ← assigned readOctetString entries idNasPdu
  pure do
    let amfUeNgapId ← missing amfUeNgapId "missing AMF-UE-NGAP-ID"
    let ranUeNgapId ← missing ranUeNgapId "missing RAN-UE-NGAP-ID"
    let ueAmbr ← missing ueAmbr "missing UEAggregateMaximumBitRate"
    let securityKey ← missing securityKey "missing SecurityKey"
    pure (.initialContextSetupRequest
      ⟨amfUeNgapId, ranUeNgapId, pduSessions, nasPdu, ueAmbr, securityKey⟩)

def decodeInitialContextSetupResponse (entries : List IeEntry) :
    Checked (Except ProtoError NgapMessage) := do
  let amfUeNgapId ← assigned readAmfUeNgapId entries idAmfUeNgapId
  let ranUeNgapId ← assigned readRanUeNgapId entries idRanUeNgapId
  let pduSessionsSetup ← assignedIfRead readPduSessionsSetup [] id entries
    idPduSessionResourceSetupListCtxtRes
  let pduSessionsFailed ← assignedIfRead readPduSessionIds [] id entries
    idPduSessionResourceFailedToSetupListCtxtRes
  pure do
    let amfUeNgapId ← missing amfUeNgapId "missing AMF-UE-NGAP-ID"
    let ranUeNgapId ← missing ranUeNgapId "missing RAN-UE-NGAP-ID"
    pure (.initialContextSetupResponse
      ⟨amfUeNgapId, ranUeNgapId, pduSessionsSetup, pduSessionsFailed⟩)

def decodeUeContextReleaseCommand (entries : List IeEntry) :
    Checked (Except ProtoError NgapMessage) := do
  let amfUeNgapId ← assigned readAmfUeNgapId entries idAmfUeNgapId
  let ranUeNgapId ← assigned readRanUeNgapId entries idRanUeNgapId
  let cause ← assigned readCause entries idCause
  pure do
    let amfUeNgapId ← missing amfUeNgapId "missing AMF-UE-NGAP-ID"
    let ranUeNgapId ← missing ranUeNgapId "missing RAN-UE-NGAP-ID"
    let cause ← missing cause "missing or invalid Cause"
    pure (.ueContextReleaseCommand amfUeNgapId ranUeNgapId cause)

def decodeUeContextReleaseComplete (entries : List IeEntry) :
    Checked (Except ProtoError NgapMessage) := do
  let amfUeNgapId ← assigned readAmfUeNgapId entries idAmfUeNgapId
  let ranUeNgapId ← assigned readRanUeNgapId entries idRanUeNgapId
  pure do
    let amfUeNgapId ← missing amfUeNgapId "missing AMF-UE-NGAP-ID"
    let ranUeNgapId ← missing ranUeNgapId "missing RAN-UE-NGAP-ID"
    pure (.ueContextReleaseComplete ⟨amfUeNgapId, ranUeNgapId⟩)

/-- Dispatch on the procedure code and, where there is an outcome, on the choice. -/
def decodeProcedure (choice : Nat) (procCode : UInt32) (entries : List IeEntry) :
    Checked (Except ProtoError NgapMessage) :=
  if procCode = procInitialUeMessage then decodeInitialUeMessage entries
  else if procCode = procUplinkNasTransport then decodeUplinkNasTransport entries
  else if procCode = procDownlinkNasTransport then decodeDownlinkNasTransport entries
  else if procCode = procInitialContextSetup ∧ choice = pduChoiceInitiatingMessage then
    decodeInitialContextSetupRequest entries
  else if procCode = procInitialContextSetup ∧ choice = pduChoiceSuccessfulOutcome then
    decodeInitialContextSetupResponse entries
  else if procCode = procUeContextRelease ∧ choice = pduChoiceInitiatingMessage then
    decodeUeContextReleaseCommand entries
  else if procCode = procUeContextRelease ∧ choice = pduChoiceSuccessfulOutcome then
    decodeUeContextReleaseComplete entries
  else pure (.error (.malformedNgap
    ("unsupported procedure code (or PDU choice) — only InitialUEMessage/Uplink/ " ++
      "DownlinkNASTransport/InitialContextSetupRequest/Response/ " ++
      "UeContextReleaseCommand/Complete")))

def decodeNgapPdu (buf : List UInt8) : Checked (Except ProtoError NgapMessage) :=
  decodePdu .malformedNgap decodeProcedure buf

/-! ## Decoders without faults -/

section Faultless

variable (entries : List IeEntry)

theorem decodeInitialUeMessage_eq_ok :
    decodeInitialUeMessage entries = .ok (Ngap.decodeInitialUeMessage entries) := by
  rw [decodeInitialUeMessage, assigned_eq_ok reads_readRanUeNgapId (by decide), ok_bind,
    assigned_eq_ok reads_readOctetString (by decide), ok_bind,
    assigned_eq_ok reads_readUserLocationInfo (by decide), ok_bind,
    assigned_eq_ok reads_readRrcEstablishmentCause (by decide), ok_bind]
  rfl

theorem decodeUplinkNasTransport_eq_ok :
    decodeUplinkNasTransport entries = .ok (Ngap.decodeUplinkNasTransport entries) := by
  rw [decodeUplinkNasTransport, assigned_eq_ok reads_readAmfUeNgapId (by decide), ok_bind,
    assigned_eq_ok reads_readRanUeNgapId (by decide), ok_bind,
    assigned_eq_ok reads_readOctetString (by decide), ok_bind,
    assigned_eq_ok reads_readUserLocationInfo (by decide), ok_bind]
  rfl

theorem decodeDownlinkNasTransport_eq_ok :
    decodeDownlinkNasTransport entries = .ok (Ngap.decodeDownlinkNasTransport entries) := by
  rw [decodeDownlinkNasTransport, assigned_eq_ok reads_readAmfUeNgapId (by decide), ok_bind,
    assigned_eq_ok reads_readRanUeNgapId (by decide), ok_bind,
    assigned_eq_ok reads_readOctetString (by decide), ok_bind]
  rfl

theorem decodeInitialContextSetupRequest_eq_ok :
    decodeInitialContextSetupRequest entries =
      .ok (Ngap.decodeInitialContextSetupRequest entries) := by
  have hrates := reads_readBitRates (by decide) (by decide : bitRateMax < 2 ^ 64 - 1)
  rw [decodeInitialContextSetupRequest, assigned_eq_ok reads_readAmfUeNgapId (by decide), ok_bind,
    assigned_eq_ok reads_readRanUeNgapId (by decide), ok_bind,
    assignedIfRead_eq_ok (reads_readArray 32) (by decide), ok_bind,
    assignedIfRead_eq_ok hrates (by decide), ok_bind,
    assignedIfRead_eq_ok reads_readPduSessionsToSetup (by decide), ok_bind,
    assigned_eq_ok reads_readOctetString (by decide), ok_bind]
  rfl

theorem decodeInitialContextSetupResponse_eq_ok :
    decodeInitialContextSetupResponse entries =
      .ok (Ngap.decodeInitialContextSetupResponse entries) := by
  rw [decodeInitialContextSetupResponse, assigned_eq_ok reads_readAmfUeNgapId (by decide), ok_bind,
    assigned_eq_ok reads_readRanUeNgapId (by decide), ok_bind,
    assignedIfRead_eq_ok reads_readPduSessionsSetup (by decide), ok_bind,
    assignedIfRead_eq_ok reads_readPduSessionIds (by decide), ok_bind]
  rfl

theorem decodeUeContextReleaseCommand_eq_ok :
    decodeUeContextReleaseCommand entries = .ok (Ngap.decodeUeContextReleaseCommand entries) := by
  rw [decodeUeContextReleaseCommand, assigned_eq_ok reads_readAmfUeNgapId (by decide), ok_bind,
    assigned_eq_ok reads_readRanUeNgapId (by decide), ok_bind,
    assigned_eq_ok reads_readCause (by decide), ok_bind]
  rfl

theorem decodeUeContextReleaseComplete_eq_ok :
    decodeUeContextReleaseComplete entries =
      .ok (Ngap.decodeUeContextReleaseComplete entries) := by
  rw [decodeUeContextReleaseComplete, assigned_eq_ok reads_readAmfUeNgapId (by decide), ok_bind,
    assigned_eq_ok reads_readRanUeNgapId (by decide), ok_bind]
  rfl

end Faultless

theorem decodeProcedure_eq_ok (choice : Nat) (procCode : UInt32) (entries : List IeEntry) :
    decodeProcedure choice procCode entries =
      .ok (Ngap.decodeProcedure choice procCode entries) := by
  simp only [decodeProcedure, Ngap.decodeProcedure, decodeInitialUeMessage_eq_ok,
    decodeUplinkNasTransport_eq_ok, decodeDownlinkNasTransport_eq_ok,
    decodeInitialContextSetupRequest_eq_ok, decodeInitialContextSetupResponse_eq_ok,
    decodeUeContextReleaseCommand_eq_ok, decodeUeContextReleaseComplete_eq_ok, pure_eq_ok,
    apply_ite Except.ok]

/-- From every byte string a message or an error is decoded without a fault. -/
theorem decodeNgapPdu_eq_ok (buf : List UInt8) :
    decodeNgapPdu buf = .ok (Ngap.decodeNgapPdu buf) :=
  decodePdu_eq_ok decodeProcedure_eq_ok buf

end Midn.Ngap.Raw
