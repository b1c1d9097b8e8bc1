import Midn.Proto.Elements
import Midn.Proto.Ngap.Messages

/-!
# NGAP codec

Encoders and decoders of the seven NGAP messages that the AMF and the gNodeB exchange for a UE. An
encoder whose assertions fail yields nothing; a message without an encoder is refused with an error.
-/

namespace Midn.Ngap

open Midn.Per Midn.Per.PerReader Midn.Container

/-! ## Element ids and ranges -/

def procDownlinkNasTransport : UInt32 := 4
def procInitialUeMessage : UInt32 := 15
def procUplinkNasTransport : UInt32 := 46
def procInitialContextSetup : UInt32 := 14
def procUeContextRelease : UInt32 := 41

def idAmfUeNgapId : UInt32 := 10
def idRanUeNgapId : UInt32 := 85
def idNasPdu : UInt32 := 38
def idUserLocationInfo : UInt32 := 121
def idRrcEstablishmentCause : UInt32 := 90
def idSecurityKey : UInt32 := 94
def idUeAggregateMaxBitRate : UInt32 := 110
def idPduSessionResourceSetupListCtxtReq : UInt32 := 71
def idPduSessionResourceSetupListCtxtRes : UInt32 := 72
def idPduSessionResourceFailedToSetupListCtxtRes : UInt32 := 55
def idCause : UInt32 := 15

def ranUeNgapIdMax : Nat := 4294967295
def amfUeNgapIdMax : Nat := 4294967295
def rrcEstablishmentCauseMax : Nat := 15
def pduSessionIdMax : Nat := 255
def qfiMax : Nat := 63
def bitRateMax : Nat := 4000000000000
def causeMax : Nat := 6

def ngapCauseToU64 : NgapCause → Nat
  | .radioNetworkUnspecified => 0
  | .transportUnspecified => 1
  | .nasNormalRelease => 2
  | .nasDeregister => 3
  | .nasAuthFailure => 4
  | .protocolUnspecified => 5
  | .miscUnspecified => 6

def ngapCauseFromU64 : Nat → Option NgapCause
  | 0 => some .radioNetworkUnspecified
  | 1 => some .transportUnspecified
  | 2 => some .nasNormalRelease
  | 3 => some .nasDeregister
  | 4 => some .nasAuthFailure
  | 5 => some .protocolUnspecified
  | 6 => some .miscUnspecified
  | _ => none

/-! ## Values -/

def writeUserLocationInfo (w : PerWriter) (nrCgi : Octets 9) (tai : Octets 6) : PerWriter :=
  (w.writeOctets nrCgi.toList).writeOctets tai.toList

def readUserLocationInfo : PerRead (Octets 9 × Octets 6) := do
  let nrCgi ← readArray 9
  let tai ← readArray 6
  pure (nrCgi, tai)

def writePduSessionToSetup (w : PerWriter) (s : PduSessionToSetup) : Option PerWriter := do
  let w ← w.writeConstrainedInt s.pduSessionId.toNat 0 pduSessionIdMax
  let w ← w.writeConstrainedInt s.qfi.toNat 0 qfiMax
  -- the two fields are 14 bits, and writing octets does not align
  pure ((w.align.writeOctets s.gtpTeid.toList).writeOctets s.transportLayerAddr.toList)

def readPduSessionToSetup : PerRead PduSessionToSetup := do
  let pduSessionId ← readConstrainedInt 0 pduSessionIdMax
  let qfi ← readConstrainedInt 0 qfiMax
  let gtpTeid ← readArray 4
  let transportLayerAddr ← readArray 4
  pure ⟨.ofNat pduSessionId, .ofNat qfi, gtpTeid, transportLayerAddr⟩

def writePduSessionsToSetup (w : PerWriter) (sessions : List PduSessionToSetup) :
    Option PerWriter :=
  writeList writePduSessionToSetup w sessions

def readPduSessionsToSetup : PerRead (List PduSessionToSetup) := readList readPduSessionToSetup

def writePduSessionSetupItem (w : PerWriter) (it : PduSessionSetupItem) : Option PerWriter := do
  let w ← w.writeConstrainedInt it.pduSessionId.toNat 0 pduSessionIdMax
  pure ((w.align.writeOctets it.transportLayerAddr.toList).writeOctets it.gtpTeid.toList)

def readPduSessionSetupItem : PerRead PduSessionSetupItem := do
  let pduSessionId ← readConstrainedInt 0 pduSessionIdMax
  let transportLayerAddr ← readArray 4
  let gtpTeid ← readArray 4
  pure ⟨.ofNat pduSessionId, transportLayerAddr, gtpTeid⟩

def writePduSessionsSetup (w : PerWriter) (items : List PduSessionSetupItem) : Option PerWriter :=
  writeList writePduSessionSetupItem w items

def readPduSessionsSetup : PerRead (List PduSessionSetupItem) := readList readPduSessionSetupItem

def writePduSessionIds (w : PerWriter) (ids : List UInt8) : Option PerWriter :=
  writeList (fun w id => w.writeConstrainedInt id.toNat 0 pduSessionIdMax) w ids

def readPduSessionIds : PerRead (List UInt8) :=
  readList (UInt8.ofNat <$> readConstrainedInt 0 pduSessionIdMax)

def readAmfUeNgapId : PerRead UInt32 := UInt32.ofNat <$> readConstrainedInt 0 amfUeNgapIdMax

def readRanUeNgapId : PerRead UInt32 := UInt32.ofNat <$> readConstrainedInt 0 ranUeNgapIdMax

def readRrcEstablishmentCause : PerRead UInt8 :=
  UInt8.ofNat <$> readConstrainedInt 0 rrcEstablishmentCauseMax

def readCause : PerRead NgapCause := do
  let v ← readConstrainedInt 0 causeMax
  match ngapCauseFromU64 v with
  | some cause => pure cause
  | none => failure

/-! ## Elements -/

def amfUeNgapIdIe (criticality : UInt8) (amfUeNgapId : UInt32) : Ie :=
  ⟨idAmfUeNgapId, criticality, fun w => w.writeConstrainedInt amfUeNgapId.toNat 0 amfUeNgapIdMax⟩

def ranUeNgapIdIe (criticality : UInt8) (ranUeNgapId : UInt32) : Ie :=
  ⟨idRanUeNgapId, criticality, fun w => w.writeConstrainedInt ranUeNgapId.toNat 0 ranUeNgapIdMax⟩

def nasPduIe (nasPdu : List UInt8) : Ie :=
  ⟨idNasPdu, criticalityReject, fun w => w.writeOctetString nasPdu⟩

def userLocationInfoIe (nrCgi : Octets 9) (tai : Octets 6) : Ie :=
  ⟨idUserLocationInfo, criticalityIgnore, fun w => some (writeUserLocationInfo w nrCgi tai)⟩

def rrcEstablishmentCauseIe (rrcEstablishmentCause : UInt8) : Ie :=
  ⟨idRrcEstablishmentCause, criticalityIgnore,
    fun w => w.writeConstrainedInt rrcEstablishmentCause.toNat 0 rrcEstablishmentCauseMax⟩

def securityKeyIe (securityKey : Octets 32) : Ie :=
  ⟨idSecurityKey, criticalityReject, fun w => some (w.writeOctets securityKey.toList)⟩

def ueAmbrIe (ueAmbr : UInt64 × UInt64) : Ie :=
  ⟨idUeAggregateMaxBitRate, criticalityIgnore, writeBitRates bitRateMax ueAmbr⟩

def pduSessionsToSetupIe (sessions : List PduSessionToSetup) : Ie :=
  ⟨idPduSessionResourceSetupListCtxtReq, criticalityReject,
    fun w => writePduSessionsToSetup w sessions⟩

def pduSessionsSetupIe (items : List PduSessionSetupItem) : Ie :=
  ⟨idPduSessionResourceSetupListCtxtRes, criticalityIgnore, fun w => writePduSessionsSetup w items⟩

def pduSessionsFailedIe (ids : List UInt8) : Ie :=
  ⟨idPduSessionResourceFailedToSetupListCtxtRes, criticalityIgnore,
    fun w => writePduSessionIds w ids⟩

def causeIe (cause : NgapCause) : Ie :=
  ⟨idCause, criticalityIgnore, fun w => w.writeConstrainedInt (ngapCauseToU64 cause) 0 causeMax⟩

/-! ## Encoders -/

def NgapInitialUeMessage.ies (msg : NgapInitialUeMessage) : List Ie :=
  [ranUeNgapIdIe criticalityReject msg.ranUeNgapId, nasPduIe msg.nasPdu,
    userLocationInfoIe msg.nrCgi msg.tai, rrcEstablishmentCauseIe msg.rrcEstablishmentCause]

def encodeInitialUeMessage (msg : NgapInitialUeMessage) : Option (List UInt8) :=
  encodePdu pduChoiceInitiatingMessage procInitialUeMessage criticalityIgnore msg.ies

def NgapUplinkNasTransport.ies (msg : NgapUplinkNasTransport) : List Ie :=
  [amfUeNgapIdIe criticalityReject msg.amfUeNgapId, ranUeNgapIdIe criticalityReject msg.ranUeNgapId,
    nasPduIe msg.nasPdu, userLocationInfoIe msg.nrCgi msg.tai]

def encodeUplinkNasTransport (msg : NgapUplinkNasTransport) : Option (List UInt8) :=
  encodePdu pduChoiceInitiatingMessage procUplinkNasTransport criticalityIgnore msg.ies

def NgapDownlinkNasTransport.ies (msg : NgapDownlinkNasTransport) : List Ie :=
  [amfUeNgapIdIe criticalityReject msg.amfUeNgapId, ranUeNgapIdIe criticalityReject msg.ranUeNgapId,
    nasPduIe msg.nasPdu]

def encodeDownlinkNasTransport (msg : NgapDownlinkNasTransport) : Option (List UInt8) :=
  encodePdu pduChoiceInitiatingMessage procDownlinkNasTransport criticalityIgnore msg.ies

def NgapInitialContextSetupRequest.ies (msg : NgapInitialContextSetupRequest) : List Ie :=
  [amfUeNgapIdIe criticalityReject msg.amfUeNgapId, ranUeNgapIdIe criticalityReject msg.ranUeNgapId,
    securityKeyIe msg.securityKey, ueAmbrIe msg.ueAmbr] ++
    unlessEmpty msg.pduSessions (pduSessionsToSetupIe msg.pduSessions) ++
    (msg.nasPdu.map nasPduIe).toList

def encodeInitialContextSetupRequest (msg : NgapInitialContextSetupRequest) :
    Option (List UInt8) :=
  encodePdu pduChoiceInitiatingMessage procInitialContextSetup criticalityReject msg.ies

def NgapInitialContextSetupResponse.ies (msg : NgapInitialContextSetupResponse) : List Ie :=
  [amfUeNgapIdIe criticalityReject msg.amfUeNgapId,
    ranUeNgapIdIe criticalityReject msg.ranUeNgapId] ++
    unlessEmpty msg.pduSessionsSetup (pduSessionsSetupIe msg.pduSessionsSetup) ++
    unlessEmpty msg.pduSessionsFailed (pduSessionsFailedIe msg.pduSessionsFailed)

def encodeInitialContextSetupResponse (msg : NgapInitialContextSetupResponse) :
    Option (List UInt8) :=
  encodePdu pduChoiceSuccessfulOutcome procInitialContextSetup criticalityReject msg.ies

def ueContextReleaseCommandIes (amfUeNgapId ranUeNgapId : UInt32) (cause : NgapCause) : List Ie :=
  [amfUeNgapIdIe criticalityReject amfUeNgapId, ranUeNgapIdIe criticalityReject ranUeNgapId,
    causeIe cause]

def encodeUeContextReleaseCommand (amfUeNgapId ranUeNgapId : UInt32) (cause : NgapCause) :
    Option (List UInt8) :=
  encodePdu pduChoiceInitiatingMessage procUeContextRelease criticalityIgnore
    (ueContextReleaseCommandIes amfUeNgapId ranUeNgapId cause)

def NgapUeContextReleaseComplete.ies (msg : NgapUeContextReleaseComplete) : List Ie :=
  [amfUeNgapIdIe criticalityIgnore msg.amfUeNgapId, ranUeNgapIdIe criticalityIgnore msg.ranUeNgapId]

def encodeUeContextReleaseComplete (msg : NgapUeContextReleaseComplete) : Option (List UInt8) :=
  encodePdu pduChoiceSuccessfulOutcome procUeContextRelease criticalityIgnore msg.ies

/-! ## Decoders -/

def missing {α : Type} (var : Option α) (reason : String) : Except ProtoError α :=
  okOr var (.malformedNgap reason)

def decodeInitialUeMessage (entries : List IeEntry) : Except ProtoError NgapMessage := do
  let location := assigned readUserLocationInfo entries idUserLocationInfo
  let (nrCgi, tai) ← missing location "missing UserLocationInformation"
  let ranUeNgapId ← missing (assigned readRanUeNgapId entries idRanUeNgapId)
    "missing RAN-UE-NGAP-ID"
  let nasPdu ← missing (assigned readOctetString entries idNasPdu) "missing NAS-PDU"
  let rrcEstablishmentCause ←
    missing (assigned readRrcEstablishmentCause entries idRrcEstablishmentCause)
      "missing RRCEstablishmentCause"
  pure (.initialUeMessage ⟨ranUeNgapId, nasPdu, tai, nrCgi, rrcEstablishmentCause⟩)

def decodeUplinkNasTransport (entries : List IeEntry) : Except ProtoError NgapMessage := do
  let location := assigned readUserLocationInfo entries idUserLocationInfo
  let (nrCgi, tai) ← missing location "missing UserLocationInformation"
  let amfUeNgapId ← missing (assigned readAmfUeNgapId entries idAmfUeNgapId)
    "missing AMF-UE-NGAP-ID"
  let ranUeNgapId ← missing (assigned readRanUeNgapId entries idRanUeNgapId)
    "missing RAN-UE-NGAP-ID"
  let nasPdu ← missing (assigned readOctetString entries idNasPdu) "missing NAS-PDU"
  pure (.uplinkNasTransport ⟨amfUeNgapId, ranUeNgapId, nasPdu, tai, nrCgi⟩)

def decodeDownlinkNasTransport (entries : List IeEntry) : Except ProtoError NgapMessage := do
  let amfUeNgapId ← missing (assigned readAmfUeNgapId entries idAmfUeNgapId)
    "missing AMF-UE-NGAP-ID"
  let ranUeNgapId ← missing (assigned readRanUeNgapId entries idRanUeNgapId)
    "missing RAN-UE-NGAP-ID"
  let nasPdu ← missing (assigned readOctetString entries idNasPdu) "missing NAS-PDU"
  pure (.downlinkNasTransport ⟨amfUeNgapId, ranUeNgapId, nasPdu⟩)

def decodeInitialContextSetupRequest (entries : List IeEntry) :
    Except ProtoError NgapMessage := do
  let pduSessions := assignedIfRead readPduSessionsToSetup [] id entries
    idPduSessionResourceSetupListCtxtReq
  let nasPdu := assigned readOctetString entries idNasPdu
  let amfUeNgapId ← missing (assigned readAmfUeNgapId entries idAmfUeNgapId)
    "missing AMF-UE-NGAP-ID"
  let ranUeNgapId ← missing (assigned readRanUeNgapId entries idRanUeNgapId)
    "missing RAN-UE-NGAP-ID"
  let ueAmbr ←
    missing (assignedIfRead (readBitRates bitRateMax) none some entries idUeAggregateMaxBitRate)
      "missing UEAggregateMaximumBitRate"
  let securityKey ← missing (assignedIfRead (readArray 32) none some entries idSecurityKey)
    "missing SecurityKey"
  pure (.initialContextSetupRequest
    ⟨amfUeNgapId, ranUeNgapId, pduSessions, nasPdu, ueAmbr, securityKey⟩)

def decodeInitialContextSetupResponse (entries : List IeEntry) :
    Except ProtoError NgapMessage := do
  let pduSessionsSetup := assignedIfRead readPduSessionsSetup [] id entries
    idPduSessionResourceSetupListCtxtRes
  let pduSessionsFailed := assignedIfRead readPduSessionIds [] id entries
    idPduSessionResourceFailedToSetupListCtxtRes
  let amfUeNgapId ← missing (assigned readAmfUeNgapId entries idAmfUeNgapId)
    "missing AMF-UE-NGAP-ID"
  let ranUeNgapId ← missing (assigned readRanUeNgapId entries idRanUeNgapId)
    "missing RAN-UE-NGAP-ID"
  pure (.initialContextSetupResponse
    ⟨amfUeNgapId, ranUeNgapId, pduSessionsSetup, pduSessionsFailed⟩)

def decodeUeContextReleaseCommand (entries : List IeEntry) : Except ProtoError NgapMessage := do
  let amfUeNgapId ← missing (assigned readAmfUeNgapId entries idAmfUeNgapId)
    "missing AMF-UE-NGAP-ID"
  let ranUeNgapId ← missing (assigned readRanUeNgapId entries idRanUeNgapId)
    "missing RAN-UE-NGAP-ID"
  let cause ← missing (assigned readCause entries idCause) "missing or invalid Cause"
  pure (.ueContextReleaseCommand amfUeNgapId ranUeNgapId cause)

def decodeUeContextReleaseComplete (entries : List IeEntry) : Except ProtoError NgapMessage := do
  let amfUeNgapId ← missing (assigned readAmfUeNgapId entries idAmfUeNgapId)
    "missing AMF-UE-NGAP-ID"
  let ranUeNgapId ← missing (assigned readRanUeNgapId entries idRanUeNgapId)
    "missing RAN-UE-NGAP-ID"
  pure (.ueContextReleaseComplete ⟨amfUeNgapId, ranUeNgapId⟩)

/-! ## What the decoders accept -/

section Accepted

variable {entries : List IeEntry} {msg : NgapMessage}

theorem decodeInitialUeMessage_eq_ok_iff :
    decodeInitialUeMessage entries = .ok msg ↔ ∃ m : NgapInitialUeMessage,
      (assigned readUserLocationInfo entries idUserLocationInfo = some (m.nrCgi, m.tai) ∧
        assigned readRanUeNgapId entries idRanUeNgapId = some m.ranUeNgapId ∧
        assigned readOctetString entries idNasPdu = some m.nasPdu ∧
        assigned readRrcEstablishmentCause entries idRrcEstablishmentCause =
          some m.rrcEstablishmentCause) ∧
      msg = .initialUeMessage m := by
  simp only [decodeInitialUeMessage, missing, bind_eq_ok_iff, okOr_eq_ok_iff]
  constructor
  · intro hdecode
    obtain ⟨⟨nrCgi, tai⟩, hlocation, ran, hran, nas, hnas, cause, hcause, hpure⟩ := hdecode
    exact ⟨⟨ran, nas, tai, nrCgi, cause⟩, ⟨hlocation, hran, hnas, hcause⟩,
      (Except.ok.inj hpure).symm⟩
  · intro hfields
    obtain ⟨m, ⟨hlocation, hran, hnas, hcause⟩, rfl⟩ := hfields
    exact ⟨_, hlocation, _, hran, _, hnas, _, hcause, rfl⟩

theorem decodeUplinkNasTransport_eq_ok_iff :
    decodeUplinkNasTransport entries = .ok msg ↔ ∃ m : NgapUplinkNasTransport,
      (assigned readUserLocationInfo entries idUserLocationInfo = some (m.nrCgi, m.tai) ∧
        assigned readAmfUeNgapId entries idAmfUeNgapId = some m.amfUeNgapId ∧
        assigned readRanUeNgapId entries idRanUeNgapId = some m.ranUeNgapId ∧
        assigned readOctetString entries idNasPdu = some m.nasPdu) ∧
      msg = .uplinkNasTransport m := by
  simp only [decodeUplinkNasTransport, missing, bind_eq_ok_iff, okOr_eq_ok_iff]
  constructor
  · intro hdecode
    obtain ⟨⟨nrCgi, tai⟩, hlocation, amf, hamf, ran, hran, nas, hnas, hpure⟩ := hdecode
    exact ⟨⟨amf, ran, nas, tai, nrCgi⟩, ⟨hlocation, hamf, hran, hnas⟩,
      (Except.ok.inj hpure).symm⟩
  · intro hfields
    obtain ⟨m, ⟨hlocation, hamf, hran, hnas⟩, rfl⟩ := hfields
    exact ⟨_, hlocation, _, hamf, _, hran, _, hnas, rfl⟩

theorem decodeDownlinkNasTransport_eq_ok_iff :
    decodeDownlinkNasTransport entries = .ok msg ↔ ∃ m : NgapDownlinkNasTransport,
      (assigned readAmfUeNgapId entries idAmfUeNgapId = some m.amfUeNgapId ∧
        assigned readRanUeNgapId entries idRanUeNgapId = some m.ranUeNgapId ∧
        assigned readOctetString entries idNasPdu = some m.nasPdu) ∧
      msg = .downlinkNasTransport m := by
  simp only [decodeDownlinkNasTransport, missing, bind_eq_ok_iff, okOr_eq_ok_iff]
  constructor
  · intro hdecode
    obtain ⟨amf, hamf, ran, hran, nas, hnas, hpure⟩ := hdecode
    exact ⟨⟨amf, ran, nas⟩, ⟨hamf, hran, hnas⟩, (Except.ok.inj hpure).symm⟩
  · intro hfields
    obtain ⟨m, ⟨hamf, hran, hnas⟩, rfl⟩ := hfields
    exact ⟨_, hamf, _, hran, _, hnas, rfl⟩

theorem decodeInitialContextSetupRequest_eq_ok_iff :
    decodeInitialContextSetupRequest entries = .ok msg ↔ ∃ m : NgapInitialContextSetupRequest,
      (assigned readAmfUeNgapId entries idAmfUeNgapId = some m.amfUeNgapId ∧
        assigned readRanUeNgapId entries idRanUeNgapId = some m.ranUeNgapId ∧
        assignedIfRead (readBitRates bitRateMax) none some entries idUeAggregateMaxBitRate =
          some m.ueAmbr ∧
        assignedIfRead (readArray 32) none some entries idSecurityKey = some m.securityKey ∧
        assignedIfRead readPduSessionsToSetup [] id entries idPduSessionResourceSetupListCtxtReq =
          m.pduSessions ∧
        assigned readOctetString entries idNasPdu = m.nasPdu) ∧
      msg = .initialContextSetupRequest m := by
  simp only [decodeInitialContextSetupRequest, missing, bind_eq_ok_iff, okOr_eq_ok_iff]
  constructor
  · intro hdecode
    obtain ⟨amf, hamf, ran, hran, ambr, hambr, key, hkey, hpure⟩ := hdecode
    exact ⟨⟨amf, ran, _, _, ambr, key⟩, ⟨hamf, hran, hambr, hkey, rfl, rfl⟩,
      (Except.ok.inj hpure).symm⟩
  · intro hfields
    obtain ⟨m, ⟨hamf, hran, hambr, hkey, hsessions, hnas⟩, rfl⟩ := hfields
    refine ⟨_, hamf, _, hran, _, hambr, _, hkey, ?_⟩
    rw [hsessions, hnas]
    rfl

theorem decodeInitialContextSetupResponse_eq_ok_iff :
    decodeInitialContextSetupResponse entries = .ok msg ↔ ∃ m : NgapInitialContextSetupResponse,
      (assigned readAmfUeNgapId entries idAmfUeNgapId = some m.amfUeNgapId ∧
        assigned readRanUeNgapId entries idRanUeNgapId = some m.ranUeNgapId ∧
        assignedIfRead readPduSessionsSetup [] id entries idPduSessionResourceSetupListCtxtRes =
          m.pduSessionsSetup ∧
        assignedIfRead readPduSessionIds [] id entries
          idPduSessionResourceFailedToSetupListCtxtRes = m.pduSessionsFailed) ∧
      msg = .initialContextSetupResponse m := by
  simp only [decodeInitialContextSetupResponse, missing, bind_eq_ok_iff, okOr_eq_ok_iff]
  constructor
  · intro hdecode
    obtain ⟨amf, hamf, ran, hran, hpure⟩ := hdecode
    exact ⟨⟨amf, ran, _, _⟩, ⟨hamf, hran, rfl, rfl⟩, (Except.ok.inj hpure).symm⟩
  · intro hfields
    obtain ⟨m, ⟨hamf, hran, hsetup, hfailed⟩, rfl⟩ := hfields
    refine ⟨_, hamf, _, hran, ?_⟩
    rw [hsetup, hfailed]
    rfl

theorem decodeUeContextReleaseCommand_eq_ok_iff :
    decodeUeContextReleaseCommand entries = .ok msg ↔ ∃ amfUeNgapId ranUeNgapId cause,
      (assigned readAmfUeNgapId entries idAmfUeNgapId = some amfUeNgapId ∧
        assigned readRanUeNgapId entries idRanUeNgapId = some ranUeNgapId ∧
        assigned readCause entries idCause = some cause) ∧
      msg = .ueContextReleaseCommand amfUeNgapId ranUeNgapId cause := by
  simp only [decodeUeContextReleaseCommand, missing, bind_eq_ok_iff, okOr_eq_ok_iff]
  constructor
  · intro hdecode
    obtain ⟨amf, hamf, ran, hran, cause, hcause, hpure⟩ := hdecode
    exact ⟨amf, ran, cause, ⟨hamf, hran, hcause⟩, (Except.ok.inj hpure).symm⟩
  · intro hfields
    obtain ⟨amf, ran, cause, ⟨hamf, hran, hcause⟩, rfl⟩ := hfields
    exact ⟨_, hamf, _, hran, _, hcause, rfl⟩

theorem decodeUeContextReleaseComplete_eq_ok_iff :
    decodeUeContextReleaseComplete entries = .ok msg ↔ ∃ m : NgapUeContextReleaseComplete,
      (assigned readAmfUeNgapId entries idAmfUeNgapId = some m.amfUeNgapId ∧
        assigned readRanUeNgapId entries idRanUeNgapId = some m.ranUeNgapId) ∧
      msg = .ueContextReleaseComplete m := by
  simp only [decodeUeContextReleaseComplete, missing, bind_eq_ok_iff, okOr_eq_ok_iff]
  constructor
  · intro hdecode
    obtain ⟨amf, hamf, ran, hran, hpure⟩ := hdecode
    exact ⟨⟨amf, ran⟩, ⟨hamf, hran⟩, (Except.ok.inj hpure).symm⟩
  · intro hfields
    obtain ⟨m, ⟨hamf, hran⟩, rfl⟩ := hfields
    exact ⟨_, hamf, _, hran, rfl⟩

end Accepted

/-! ## Dispatch -/

/-- Encode a message, unless an assertion fails. -/
def encodeNgapPdu : NgapMessage → Option (Except ProtoError (List UInt8))
  | .initialUeMessage m => (encodeInitialUeMessage m).map .ok
  | .uplinkNasTransport m => (encodeUplinkNasTransport m).map .ok
  | .downlinkNasTransport m => (encodeDownlinkNasTransport m).map .ok
  | .initialContextSetupRequest m => (encodeInitialContextSetupRequest m).map .ok
  | .initialContextSetupResponse m => (encodeInitialContextSetupResponse m).map .ok
  | .ueContextReleaseCommand amfUeNgapId ranUeNgapId cause =>
      (encodeUeContextReleaseCommand amfUeNgapId ranUeNgapId cause).map .ok
  | .ueContextReleaseComplete m => (encodeUeContextReleaseComplete m).map .ok
  | _ => some (.error (.malformedNgap
      ("PER encoding not yet implemented for this NGAP message — " ++
        "only InitialUEMessage/Uplink/DownlinkNASTransport/ " ++
        "InitialContextSetupRequest/Response/UeContextReleaseCommand/Complete")))

/-- Procedures with an outcome are told apart by the choice of the wrapper, and the others by the
procedure code alone. -/
def decodeProcedure (choice : Nat) (procCode : UInt32) (entries : List IeEntry) :
    Except ProtoError NgapMessage :=
  if procCode = procInitialUeMessage then decodeInitialUeMessage entries
  else if procCode = procUplinkNasTransport then decodeUplinkNasTransport entries
  else if procCode = procDownlinkNasTransport then decodeDownlinkNasTransport entries
  else if procCode = procInitialContextSetup ∧ choice = pduChoiceInitiatingMessage then
    decodeInitialContextSetupRequest entries
  else if procCode = procInitialContextSetup ∧ choice = pduChoiceSuccessfulOutcome then
    decodeInitialContextSetupResponse entries
  else if procCode = procUeContextRelease ∧ choice = pduChoiceInitiatingMessage then
    decodeUeContextReleaseCommand entries
  else if procCode = procUeContextRelease ∧ choice = pduChoiceSuccessfulOutcome then
    decodeUeContextReleaseComplete entries
  else .error (.malformedNgap
    ("unsupported procedure code (or PDU choice) — only InitialUEMessage/Uplink/ " ++
      "DownlinkNASTransport/InitialContextSetupRequest/Response/ " ++
      "UeContextReleaseCommand/Complete"))

def decodeNgapPdu (buf : List UInt8) : Except ProtoError NgapMessage := do
  let (choice, procCode, _, value) ←
    okOr (decodePduWrapper buf) (.malformedNgap "failed to decode PDU wrapper")
  let entries ←
    okOr (parse readIeContainer value) (.malformedNgap "failed to decode IE container")
  decodeProcedure choice procCode entries

end Midn.Ngap
