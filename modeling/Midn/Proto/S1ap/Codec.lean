import Midn.Proto.Elements
import Midn.Proto.S1ap.Messages

/-!
# S1AP codec

Encoders and decoders of the seven S1AP messages that the MME and the eNodeB exchange for a UE. An
encoder whose assertions fail yields nothing; a message without an encoder is refused with an error.
-/

namespace Midn.S1ap

open Midn.Per Midn.Per.PerReader Midn.Container

/-! ## Element ids and ranges -/

def procDownlinkNasTransport : UInt32 := 11
def procInitialUeMessage : UInt32 := 12
def procUplinkNasTransport : UInt32 := 13
def procInitialContextSetup : UInt32 := 9
def procUeContextRelease : UInt32 := 23

def idMmeUeS1apId : UInt32 := 0
def idEnbUeS1apId : UInt32 := 8
def idNasPdu : UInt32 := 26
def idTai : UInt32 := 67
def idEutranCgi : UInt32 := 100
def idRrcEstablishmentCause : UInt32 := 134
def idERabToBeSetupListCtxtSuReq : UInt32 := 24
def idUeAggregateMaximumBitrate : UInt32 := 66
def idSecurityKey : UInt32 := 73
def idERabSetupListCtxtSuRes : UInt32 := 51
def idERabFailedToSetupListCtxtSuRes : UInt32 := 48
def idCause : UInt32 := 2

def enbUeS1apIdMax : Nat := 16777215
def mmeUeS1apIdMax : Nat := 4294967295
def rrcEstablishmentCauseMax : Nat := 15
def erabIdMax : Nat := 15
def qciMax : Nat := 255
def bitRateMax : Nat := 10000000000
def causeMax : Nat := 6

def s1apCauseToU64 : S1apCause → Nat
  | .radioNetworkUnspecified => 0
  | .transportUnspecified => 1
  | .nasNormalRelease => 2
  | .nasDetach => 3
  | .nasAuthFailure => 4
  | .protocolUnspecified => 5
  | .miscUnspecified => 6

def s1apCauseFromU64 : Nat → Option S1apCause
  | 0 => some .radioNetworkUnspecified
  | 1 => some .transportUnspecified
  | 2 => some .nasNormalRelease
  | 3 => some .nasDetach
  | 4 => some .nasAuthFailure
  | 5 => some .protocolUnspecified
  | 6 => some .miscUnspecified
  | _ => none

/-! ## Values -/

def writeErabToSetup (w : PerWriter) (e : ErabToSetup) : Option PerWriter := do
  let w ← w.writeConstrainedInt e.erabId.toNat 0 erabIdMax
  let w ← w.writeConstrainedInt e.qci.toNat 0 qciMax
  -- the two fields are 12 bits, and writing octets does not align
  pure ((w.align.writeOctets e.gtpTeid.toList).writeOctets e.transportLayerAddr.toList)

def readErabToSetup : PerRead ErabToSetup := do
  let erabId ← readConstrainedInt 0 erabIdMax
  let qci ← readConstrainedInt 0 qciMax
  let gtpTeid ← readArray 4
  let transportLayerAddr ← readArray 4
  pure ⟨.ofNat erabId, .ofNat qci, gtpTeid, transportLayerAddr⟩

def writeErabsToSetup (w : PerWriter) (erabs : List ErabToSetup) : Option PerWriter :=
  writeList writeErabToSetup w erabs

def readErabsToSetup : PerRead (List ErabToSetup) := readList readErabToSetup

def writeErabSetupItem (w : PerWriter) (it : ErabSetupItem) : Option PerWriter := do
  let w ← w.writeConstrainedInt it.eRabId.toNat 0 erabIdMax
  pure ((w.align.writeOctets it.transportLayerAddr.toList).writeOctets it.gtpTeid.toList)

def readErabSetupItem : PerRead ErabSetupItem := do
  let eRabId ← readConstrainedInt 0 erabIdMax
  let transportLayerAddr ← readArray 4
  let gtpTeid ← readArray 4
  pure ⟨.ofNat eRabId, transportLayerAddr, gtpTeid⟩

def writeErabsSetup (w : PerWriter) (items : List ErabSetupItem) : Option PerWriter :=
  writeList writeErabSetupItem w items

def readErabsSetup : PerRead (List ErabSetupItem) := readList readErabSetupItem

def writeErabIds (w : PerWriter) (ids : List UInt8) : Option PerWriter :=
  writeList (fun w id => w.writeConstrainedInt id.toNat 0 erabIdMax) w ids

def readErabIds : PerRead (List UInt8) :=
  readList (UInt8.ofNat <$> readConstrainedInt 0 erabIdMax)

def readMmeUeS1apId : PerRead UInt32 := UInt32.ofNat <$> readConstrainedInt 0 mmeUeS1apIdMax

def readEnbUeS1apId : PerRead UInt32 := UInt32.ofNat <$> readConstrainedInt 0 enbUeS1apIdMax

def readRrcEstablishmentCause : PerRead UInt8 :=
  UInt8.ofNat <$> readConstrainedInt 0 rrcEstablishmentCauseMax

def readCause : PerRead S1apCause := do
  let v ← readConstrainedInt 0 causeMax
  match s1apCauseFromU64 v with
  | some cause => pure cause
  | none => failure

/-! ## Elements -/

def mmeUeS1apIdIe (criticality : UInt8) (mmeUeS1apId : UInt32) : Ie :=
  ⟨idMmeUeS1apId, criticality, fun w => w.writeConstrainedInt mmeUeS1apId.toNat 0 mmeUeS1apIdMax⟩

def enbUeS1apIdIe (criticality : UInt8) (enbUeS1apId : UInt32) : Ie :=
  ⟨idEnbUeS1apId, criticality, fun w => w.writeConstrainedInt enbUeS1apId.toNat 0 enbUeS1apIdMax⟩

def nasPduIe (nasPdu : List UInt8) : Ie :=
  ⟨idNasPdu, criticalityReject, fun w => w.writeOctetString nasPdu⟩

def taiIe (tai : Octets 5) : Ie :=
  ⟨idTai, criticalityIgnore, fun w => some (w.writeOctets tai.toList)⟩

def eutranCgiIe (eutranCgi : Octets 7) : Ie :=
  ⟨idEutranCgi, criticalityIgnore, fun w => some (w.writeOctets eutranCgi.toList)⟩

def rrcEstablishmentCauseIe (rrcCause : UInt8) : Ie :=
  ⟨idRrcEstablishmentCause, criticalityIgnore,
    fun w => w.writeConstrainedInt rrcCause.toNat 0 rrcEstablishmentCauseMax⟩

def ueAmbrIe (ueAmbr : UInt64 × UInt64) : Ie :=
  ⟨idUeAggregateMaximumBitrate, criticalityReject, writeBitRates bitRateMax ueAmbr⟩

def securityKeyIe (securityKey : Octets 32) : Ie :=
  ⟨idSecurityKey, criticalityReject, fun w => some (w.writeOctets securityKey.toList)⟩

def erabsToSetupIe (erabs : List ErabToSetup) : Ie :=
  ⟨idERabToBeSetupListCtxtSuReq, criticalityReject, fun w => writeErabsToSetup w erabs⟩

def erabsSetupIe (items : List ErabSetupItem) : Ie :=
  ⟨idERabSetupListCtxtSuRes, criticalityReject, fun w => writeErabsSetup w items⟩

def erabsFailedIe (ids : List UInt8) : Ie :=
  ⟨idERabFailedToSetupListCtxtSuRes, criticalityIgnore, fun w => writeErabIds w ids⟩

def causeIe (cause : S1apCause) : Ie :=
  ⟨idCause, criticalityIgnore, fun w => w.writeConstrainedInt (s1apCauseToU64 cause) 0 causeMax⟩

/-! ## Encoders -/

def InitialUeMessage.ies (msg : InitialUeMessage) : List Ie :=
  [enbUeS1apIdIe criticalityReject msg.enbUeS1apId, nasPduIe msg.nasPdu, taiIe msg.tai,
    eutranCgiIe msg.eutranCgi, rrcEstablishmentCauseIe msg.rrcCause]

def encodeInitialUeMessage (msg : InitialUeMessage) : Option (List UInt8) :=
  encodePdu pduChoiceInitiatingMessage procInitialUeMessage criticalityIgnore msg.ies

def UplinkNasTransport.ies (msg : UplinkNasTransport) : List Ie :=
  [mmeUeS1apIdIe criticalityReject msg.mmeUeS1apId, enbUeS1apIdIe criticalityReject msg.enbUeS1apId,
    nasPduIe msg.nasPdu, taiIe msg.tai, eutranCgiIe msg.eutranCgi]

def encodeUplinkNasTransport (msg : UplinkNasTransport) : Option (List UInt8) :=
  encodePdu pduChoiceInitiatingMessage procUplinkNasTransport criticalityIgnore msg.ies

def DownlinkNasTransport.ies (msg : DownlinkNasTransport) : List Ie :=
  [mmeUeS1apIdIe criticalityReject msg.mmeUeS1apId, enbUeS1apIdIe criticalityReject msg.enbUeS1apId,
    nasPduIe msg.nasPdu]

def encodeDownlinkNasTransport (msg : DownlinkNasTransport) : Option (List UInt8) :=
  encodePdu pduChoiceInitiatingMessage procDownlinkNasTransport criticalityIgnore msg.ies

def InitialContextSetupRequest.ies (msg : InitialContextSetupRequest) : List Ie :=
  [mmeUeS1apIdIe criticalityReject msg.mmeUeS1apId, enbUeS1apIdIe criticalityReject msg.enbUeS1apId,
    ueAmbrIe msg.ueAmbr, securityKeyIe msg.securityKey] ++
    unlessEmpty msg.eRabs (erabsToSetupIe msg.eRabs) ++
    (msg.nasPdu.map nasPduIe).toList

def encodeInitialContextSetupRequest (msg : InitialContextSetupRequest) : Option (List UInt8) :=
  encodePdu pduChoiceInitiatingMessage procInitialContextSetup criticalityReject msg.ies

def InitialContextSetupResponse.ies (msg : InitialContextSetupResponse) : List Ie :=
  [mmeUeS1apIdIe criticalityReject msg.mmeUeS1apId,
    enbUeS1apIdIe criticalityReject msg.enbUeS1apId] ++
    unlessEmpty msg.eRabsSetup (erabsSetupIe msg.eRabsSetup) ++
    unlessEmpty msg.eRabsFailed (erabsFailedIe msg.eRabsFailed)

def encodeInitialContextSetupResponse (msg : InitialContextSetupResponse) : Option (List UInt8) :=
  encodePdu pduChoiceSuccessfulOutcome procInitialContextSetup criticalityReject msg.ies

def ueContextReleaseCommandIes (mmeUeS1apId enbUeS1apId : UInt32) (cause : S1apCause) : List Ie :=
  [mmeUeS1apIdIe criticalityReject mmeUeS1apId, enbUeS1apIdIe criticalityReject enbUeS1apId,
    causeIe cause]

def encodeUeContextReleaseCommand (mmeUeS1apId enbUeS1apId : UInt32) (cause : S1apCause) :
    Option (List UInt8) :=
  encodePdu pduChoiceInitiatingMessage procUeContextRelease criticalityIgnore
    (ueContextReleaseCommandIes mmeUeS1apId enbUeS1apId cause)

def UeContextReleaseComplete.ies (msg : UeContextReleaseComplete) : List Ie :=
  [mmeUeS1apIdIe criticalityIgnore msg.mmeUeS1apId, enbUeS1apIdIe criticalityIgnore msg.enbUeS1apId]

def encodeUeContextReleaseComplete (msg : UeContextReleaseComplete) : Option (List UInt8) :=
  encodePdu pduChoiceSuccessfulOutcome procUeContextRelease criticalityIgnore msg.ies

/-! ## Decoders -/

def missing {α : Type} (var : Option α) (reason : String) : Except ProtoError α :=
  okOr var (.malformedS1ap reason)

def decodeInitialUeMessage (entries : List IeEntry) : Except ProtoError S1apMessage := do
  let enbUeS1apId ← missing (assigned readEnbUeS1apId entries idEnbUeS1apId)
    "missing eNB-UE-S1AP-ID"
  let nasPdu ← missing (assigned readOctetString entries idNasPdu) "missing NAS-PDU"
  let tai ← missing (assigned (readArray 5) entries idTai) "missing TAI"
  let eutranCgi ← missing (assigned (readArray 7) entries idEutranCgi) "missing E-UTRAN CGI"
  let rrcCause ← missing (assigned readRrcEstablishmentCause entries idRrcEstablishmentCause)
    "missing RRC-Establishment-Cause"
  pure (.initialUeMessage ⟨enbUeS1apId, nasPdu, tai, eutranCgi, rrcCause⟩)

def decodeUplinkNasTransport (entries : List IeEntry) : Except ProtoError S1apMessage := do
  let mmeUeS1apId ← missing (assigned readMmeUeS1apId entries idMmeUeS1apId)
    "missing MME-UE-S1AP-ID"
  let enbUeS1apId ← missing (assigned readEnbUeS1apId entries idEnbUeS1apId)
    "missing eNB-UE-S1AP-ID"
  let nasPdu ← missing (assigned readOctetString entries idNasPdu) "missing NAS-PDU"
  let tai ← missing (assigned (readArray 5) entries idTai) "missing TAI"
  let eutranCgi ← missing (assigned (readArray 7) entries idEutranCgi) "missing E-UTRAN CGI"
  pure (.uplinkNasTransport ⟨mmeUeS1apId, enbUeS1apId, nasPdu, tai, eutranCgi⟩)

def decodeDownlinkNasTransport (entries : List IeEntry) : Except ProtoError S1apMessage := do
  let mmeUeS1apId ← missing (assigned readMmeUeS1apId entries idMmeUeS1apId)
    "missing MME-UE-S1AP-ID"
  let enbUeS1apId ← missing (assigned readEnbUeS1apId entries idEnbUeS1apId)
    "missing eNB-UE-S1AP-ID"
  let nasPdu ← missing (assigned readOctetString entries idNasPdu) "missing NAS-PDU"
  pure (.downlinkNasTransport ⟨mmeUeS1apId, enbUeS1apId, nasPdu⟩)

def decodeInitialContextSetupRequest (entries : List IeEntry) :
    Except ProtoError S1apMessage := do
  let eRabs := assignedIfRead readErabsToSetup [] id entries idERabToBeSetupListCtxtSuReq
  let nasPdu := assigned readOctetString entries idNasPdu
  let mmeUeS1apId ← missing (assigned readMmeUeS1apId entries idMmeUeS1apId)
    "missing MME-UE-S1AP-ID"
  let enbUeS1apId ← missing (assigned readEnbUeS1apId entries idEnbUeS1apId)
    "missing eNB-UE-S1AP-ID"
  let ueAmbr ←
    missing
      (assignedIfRead (readBitRates bitRateMax) none some entries idUeAggregateMaximumBitrate)
      "missing UE-AggregateMaximumBitrate"
  let securityKey ← missing (assigned (readArray 32) entries idSecurityKey) "missing SecurityKey"
  pure (.initialContextSetupRequest
    ⟨mmeUeS1apId, enbUeS1apId, eRabs, nasPdu, ueAmbr, securityKey⟩)

def decodeInitialContextSetupResponse (entries : List IeEntry) :
    Except ProtoError S1apMessage := do
  let eRabsSetup := assignedIfRead readErabsSetup [] id entries idERabSetupListCtxtSuRes
  let eRabsFailed := assignedIfRead readErabIds [] id entries idERabFailedToSetupListCtxtSuRes
  let mmeUeS1apId ← missing (assigned readMmeUeS1apId entries idMmeUeS1apId)
    "missing MME-UE-S1AP-ID"
  let enbUeS1apId ← missing (assigned readEnbUeS1apId entries idEnbUeS1apId)
    "missing eNB-UE-S1AP-ID"
  pure (.initialContextSetupResponse ⟨mmeUeS1apId, enbUeS1apId, eRabsSetup, eRabsFailed⟩)

def decodeUeContextReleaseCommand (entries : List IeEntry) : Except ProtoError S1apMessage := do
  let mmeUeS1apId ← missing (assigned readMmeUeS1apId entries idMmeUeS1apId)
    "missing MME-UE-S1AP-ID"
  let enbUeS1apId ← missing (assigned readEnbUeS1apId entries idEnbUeS1apId)
    "missing eNB-UE-S1AP-ID"
  let cause ← missing (assigned readCause entries idCause) "missing or invalid Cause"
  pure (.ueContextReleaseCommand mmeUeS1apId enbUeS1apId cause)

def decodeUeContextReleaseComplete (entries : List IeEntry) : Except ProtoError S1apMessage := do
  let mmeUeS1apId ← missing (assigned readMmeUeS1apId entries idMmeUeS1apId)
    "missing MME-UE-S1AP-ID"
  let enbUeS1apId ← missing (assigned readEnbUeS1apId entries idEnbUeS1apId)
    "missing eNB-UE-S1AP-ID"
  pure (.ueContextReleaseComplete ⟨mmeUeS1apId, enbUeS1apId⟩)

/-! ## What the decoders accept -/

section Accepted

variable {entries : List IeEntry} {msg : S1apMessage}

theorem decodeInitialUeMessage_eq_ok_iff :
    decodeInitialUeMessage entries = .ok msg ↔ ∃ m : InitialUeMessage,
      (assigned readEnbUeS1apId entries idEnbUeS1apId = some m.enbUeS1apId ∧
        assigned readOctetString entries idNasPdu = some m.nasPdu ∧
        assigned (readArray 5) entries idTai = some m.tai ∧
        assigned (readArray 7) entries idEutranCgi = some m.eutranCgi ∧
        assigned readRrcEstablishmentCause entries idRrcEstablishmentCause = some m.rrcCause) ∧
      msg = .initialUeMessage m := by
  simp only [decodeInitialUeMessage, missing, bind_eq_ok_iff, okOr_eq_ok_iff]
  constructor
  · intro hdecode
    obtain ⟨enb, henb, nas, hnas, tai, htai, cgi, hcgi, cause, hcause, hpure⟩ := hdecode
    exact ⟨⟨enb, nas, tai, cgi, cause⟩, ⟨henb, hnas, htai, hcgi, hcause⟩,
      (Except.ok.inj hpure).symm⟩
  · intro hfields
    obtain ⟨m, ⟨henb, hnas, htai, hcgi, hcause⟩, rfl⟩ := hfields
    exact ⟨_, henb, _, hnas, _, htai, _, hcgi, _, hcause, rfl⟩

theorem decodeUplinkNasTransport_eq_ok_iff :
    decodeUplinkNasTransport entries = .ok msg ↔ ∃ m : UplinkNasTransport,
      (assigned readMmeUeS1apId entries idMmeUeS1apId = some m.mmeUeS1apId ∧
        assigned readEnbUeS1apId entries idEnbUeS1apId = some m.enbUeS1apId ∧
        assigned readOctetString entries idNasPdu = some m.nasPdu ∧
        assigned (readArray 5) entries idTai = some m.tai ∧
        assigned (readArray 7) entries idEutranCgi = some m.eutranCgi) ∧
      msg = .uplinkNasTransport m := by
  simp only [decodeUplinkNasTransport, missing, bind_eq_ok_iff, okOr_eq_ok_iff]
  constructor
  · intro hdecode
    obtain ⟨mme, hmme, enb, henb, nas, hnas, tai, htai, cgi, hcgi, hpure⟩ := hdecode
    exact ⟨⟨mme, enb, nas, tai, cgi⟩, ⟨hmme, henb, hnas, htai, hcgi⟩,
      (Except.ok.inj hpure).symm⟩
  · intro hfields
    obtain ⟨m, ⟨hmme, henb, hnas, htai, hcgi⟩, rfl⟩ := hfields
    exact ⟨_, hmme, _, henb, _, hnas, _, htai, _, hcgi, rfl⟩

theorem decodeDownlinkNasTransport_eq_ok_iff :
    decodeDownlinkNasTransport entries = .ok msg ↔ ∃ m : DownlinkNasTransport,
      (assigned readMmeUeS1apId entries idMmeUeS1apId = some m.mmeUeS1apId ∧
        assigned readEnbUeS1apId entries idEnbUeS1apId = some m.enbUeS1apId ∧
        assigned readOctetString entries idNasPdu = some m.nasPdu) ∧
      msg = .downlinkNasTransport m := by
  simp only [decodeDownlinkNasTransport, missing, bind_eq_ok_iff, okOr_eq_ok_iff]
  constructor
  · intro hdecode
    obtain ⟨mme, hmme, enb, henb, nas, hnas, hpure⟩ := hdecode
    exact ⟨⟨mme, enb, nas⟩, ⟨hmme, henb, hnas⟩, (Except.ok.inj hpure).symm⟩
  · intro hfields
    obtain ⟨m, ⟨hmme, henb, hnas⟩, rfl⟩ := hfields
    exact ⟨_, hmme, _, henb, _, hnas, rfl⟩

theorem decodeInitialContextSetupRequest_eq_ok_iff :
    decodeInitialContextSetupRequest entries = .ok msg ↔ ∃ m : InitialContextSetupRequest,
      (assigned readMmeUeS1apId entries idMmeUeS1apId = some m.mmeUeS1apId ∧
        assigned readEnbUeS1apId entries idEnbUeS1apId = some m.enbUeS1apId ∧
        assignedIfRead (readBitRates bitRateMax) none some entries idUeAggregateMaximumBitrate =
          some m.ueAmbr ∧
        assigned (readArray 32) entries idSecurityKey = some m.securityKey ∧
        assignedIfRead readErabsToSetup [] id entries idERabToBeSetupListCtxtSuReq = m.eRabs ∧
        assigned readOctetString entries idNasPdu = m.nasPdu) ∧
      msg = .initialContextSetupRequest m := by
  simp only [decodeInitialContextSetupRequest, missing, bind_eq_ok_iff, okOr_eq_ok_iff]
  constructor
  · intro hdecode
    obtain ⟨mme, hmme, enb, henb, ambr, hambr, key, hkey, hpure⟩ := hdecode
    exact ⟨⟨mme, enb, _, _, ambr, key⟩, ⟨hmme, henb, hambr, hkey, rfl, rfl⟩,
      (Except.ok.inj hpure).symm⟩
  · intro hfields
    obtain ⟨m, ⟨hmme, henb, hambr, hkey, herabs, hnas⟩, rfl⟩ := hfields
    refine ⟨_, hmme, _, henb, _, hambr, _, hkey, ?_⟩
    rw [herabs, hnas]
    rfl

theorem decodeInitialContextSetupResponse_eq_ok_iff :
    decodeInitialContextSetupResponse entries = .ok msg ↔ ∃ m : InitialContextSetupResponse,
      (assigned readMmeUeS1apId entries idMmeUeS1apId = some m.mmeUeS1apId ∧
        assigned readEnbUeS1apId entries idEnbUeS1apId = some m.enbUeS1apId ∧
        assignedIfRead readErabsSetup [] id entries idERabSetupListCtxtSuRes = m.eRabsSetup ∧
        assignedIfRead readErabIds [] id entries idERabFailedToSetupListCtxtSuRes =
          m.eRabsFailed) ∧
      msg = .initialContextSetupResponse m := by
  simp only [decodeInitialContextSetupResponse, missing, bind_eq_ok_iff, okOr_eq_ok_iff]
  constructor
  · intro hdecode
    obtain ⟨mme, hmme, enb, henb, hpure⟩ := hdecode
    exact ⟨⟨mme, enb, _, _⟩, ⟨hmme, henb, rfl, rfl⟩, (Except.ok.inj hpure).symm⟩
  · intro hfields
    obtain ⟨m, ⟨hmme, henb, hsetup, hfailed⟩, rfl⟩ := hfields
    refine ⟨_, hmme, _, henb, ?_⟩
    rw [hsetup, hfailed]
    rfl

theorem decodeUeContextReleaseCommand_eq_ok_iff :
    decodeUeContextReleaseCommand entries = .ok msg ↔ ∃ mmeUeS1apId enbUeS1apId cause,
      (assigned readMmeUeS1apId entries idMmeUeS1apId = some mmeUeS1apId ∧
        assigned readEnbUeS1apId entries idEnbUeS1apId = some enbUeS1apId ∧
        assigned readCause entries idCause = some cause) ∧
      msg = .ueContextReleaseCommand mmeUeS1apId enbUeS1apId cause := by
  simp only [decodeUeContextReleaseCommand, missing, bind_eq_ok_iff, okOr_eq_ok_iff]
  constructor
  · intro hdecode
    obtain ⟨mme, hmme, enb, henb, cause, hcause, hpure⟩ := hdecode
    exact ⟨mme, enb, cause, ⟨hmme, henb, hcause⟩, (Except.ok.inj hpure).symm⟩
  · intro hfields
    obtain ⟨mme, enb, cause, ⟨hmme, henb, hcause⟩, rfl⟩ := hfields
    exact ⟨_, hmme, _, henb, _, hcause, rfl⟩

theorem decodeUeContextReleaseComplete_eq_ok_iff :
    decodeUeContextReleaseComplete entries = .ok msg ↔ ∃ m : UeContextReleaseComplete,
      (assigned readMmeUeS1apId entries idMmeUeS1apId = some m.mmeUeS1apId ∧
        assigned readEnbUeS1apId entries idEnbUeS1apId = some m.enbUeS1apId) ∧
      msg = .ueContextReleaseComplete m := by
  simp only [decodeUeContextReleaseComplete, missing, bind_eq_ok_iff, okOr_eq_ok_iff]
  constructor
  · intro hdecode
    obtain ⟨mme, hmme, enb, henb, hpure⟩ := hdecode
    exact ⟨⟨mme, enb⟩, ⟨hmme, henb⟩, (Except.ok.inj hpure).symm⟩
  · intro hfields
    obtain ⟨m, ⟨hmme, henb⟩, rfl⟩ := hfields
    exact ⟨_, hmme, _, henb, rfl⟩

end Accepted

/-! ## Dispatch -/

/-- Encode a message, unless an assertion fails. -/
def encodeS1apPdu : S1apMessage → Option (Except ProtoError (List UInt8))
  | .initialUeMessage m => (encodeInitialUeMessage m).map .ok
  | .uplinkNasTransport m => (encodeUplinkNasTransport m).map .ok
  | .downlinkNasTransport m => (encodeDownlinkNasTransport m).map .ok
  | .initialContextSetupRequest m => (encodeInitialContextSetupRequest m).map .ok
  | .initialContextSetupResponse m => (encodeInitialContextSetupResponse m).map .ok
  | .ueContextReleaseCommand mmeUeS1apId enbUeS1apId cause =>
      (encodeUeContextReleaseCommand mmeUeS1apId enbUeS1apId cause).map .ok
  | .ueContextReleaseComplete m => (encodeUeContextReleaseComplete m).map .ok
  | _ => some (.error (.malformedS1ap
      ("PER encoding not yet implemented for this S1AP message — " ++
        "only InitialUEMessage/Uplink/DownlinkNASTransport/InitialContextSetupRequest/" ++
        "Response/UeContextReleaseCommand/Complete")))

/-- Procedures with an outcome are told apart by the choice of the wrapper, and the others by the
procedure code alone. -/
def decodeProcedure (choice : Nat) (procCode : UInt32) (entries : List IeEntry) :
    Except ProtoError S1apMessage :=
  if procCode = procInitialUeMessage then decodeInitialUeMessage entries
  else if procCode = procUplinkNasTransport then decodeUplinkNasTransport entries
  else if procCode = procDownlinkNasTransport then decodeDownlinkNasTransport entries
  else if procCode = procInitialContextSetup ∧ choice = pduChoiceInitiatingMessage then
    decodeInitialContextSetupRequest entries
  else if procCode = procInitialContextSetup ∧ choice = pduChoiceSuccessfulOutcome then
    decodeInitialContextSetupResponse entries
  else if procCode = procUeContextRelease ∧ choice = pduChoiceInitiatingMessage then
    decodeUeContextReleaseCommand entries
  else if procCode = procUeContextRelease ∧ choice = pduChoiceSuccessfulOutcome then
    decodeUeContextReleaseComplete entries
  else .error (.malformedS1ap
    ("unsupported procedure code (or PDU choice) — only InitialUEMessage/Uplink/" ++
      "DownlinkNASTransport/InitialContextSetupRequest/Response/" ++
      "UeContextReleaseCommand/Complete"))

def decodeS1apPdu (buf : List UInt8) : Except ProtoError S1apMessage := do
  let (choice, procCode, _, value) ←
    okOr (decodePduWrapper buf) (.malformedS1ap "failed to decode PDU wrapper")
  let entries ←
    okOr (parse readIeContainer value) (.malformedS1ap "failed to decode IE container")
  decodeProcedure choice procCode entries

end Midn.S1ap
