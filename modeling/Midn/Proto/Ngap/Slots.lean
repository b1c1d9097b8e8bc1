import Midn.Proto.Ngap.Codec
import Midn.Proto.Slots

/-!
# Slots of NGAP messages

The slots of each of the seven decoders. Every decoder fills its slots, and depends on nothing but
the values of their ids.
-/

namespace Midn.Ngap

open Midn.Per Midn.Per.PerReader Midn.Container

/-! ## Fields -/

namespace NgapMessage

def ranUeNgapId? : NgapMessage → Option UInt32
  | initialUeMessage m => some m.ranUeNgapId
  | downlinkNasTransport m => some m.ranUeNgapId
  | uplinkNasTransport m => some m.ranUeNgapId
  | initialContextSetupRequest m => some m.ranUeNgapId
  | initialContextSetupResponse m => some m.ranUeNgapId
  | ueContextReleaseCommand _ ranUeNgapId _ => some ranUeNgapId
  | ueContextReleaseComplete m => some m.ranUeNgapId
  | _ => none

/-- The NAS PDU of a message in either direction. -/
def anyNasPdu? : NgapMessage → Option (List UInt8)
  | initialUeMessage m => some m.nasPdu
  | downlinkNasTransport m => some m.nasPdu
  | uplinkNasTransport m => some m.nasPdu
  | initialContextSetupRequest m => m.nasPdu
  | _ => none

def userLocationInfo? : NgapMessage → Option (Octets 9 × Octets 6)
  | initialUeMessage m => some (m.nrCgi, m.tai)
  | uplinkNasTransport m => some (m.nrCgi, m.tai)
  | _ => none

def rrcEstablishmentCause? : NgapMessage → Option UInt8
  | initialUeMessage m => some m.rrcEstablishmentCause
  | _ => none

def setupRequest? : NgapMessage → Option NgapInitialContextSetupRequest
  | initialContextSetupRequest m => some m
  | _ => none

def setupResponse? : NgapMessage → Option NgapInitialContextSetupResponse
  | initialContextSetupResponse m => some m
  | _ => none

def releaseCause? : NgapMessage → Option NgapCause
  | ueContextReleaseCommand _ _ cause => some cause
  | _ => none

end NgapMessage

/-! ## Slots -/

def amfUeNgapIdSlot : Slot NgapMessage :=
  ⟨idAmfUeNgapId, readAmfUeNgapId, true, NgapMessage.amfUeNgapId?⟩

def ranUeNgapIdSlot : Slot NgapMessage :=
  ⟨idRanUeNgapId, readRanUeNgapId, true, NgapMessage.ranUeNgapId?⟩

/-- Only a setup request goes without a NAS PDU. -/
def nasPduSlot (mandatory : Bool) : Slot NgapMessage :=
  ⟨idNasPdu, readOctetString, mandatory, NgapMessage.anyNasPdu?⟩

def userLocationInfoSlot : Slot NgapMessage :=
  ⟨idUserLocationInfo, readUserLocationInfo, true, NgapMessage.userLocationInfo?⟩

def rrcEstablishmentCauseSlot : Slot NgapMessage :=
  ⟨idRrcEstablishmentCause, readRrcEstablishmentCause, true, NgapMessage.rrcEstablishmentCause?⟩

def ueAmbrSlot : Slot NgapMessage :=
  ⟨idUeAggregateMaxBitRate, readBitRates bitRateMax, true,
    fun msg => msg.setupRequest?.map fun m => m.ueAmbr⟩

def securityKeySlot : Slot NgapMessage :=
  ⟨idSecurityKey, readArray 32, true, fun msg => msg.setupRequest?.map fun m => m.securityKey⟩

def pduSessionsSlot : Slot NgapMessage :=
  ⟨idPduSessionResourceSetupListCtxtReq, readPduSessionsToSetup, false,
    fun msg => msg.setupRequest?.map fun m => m.pduSessions⟩

def pduSessionsSetupSlot : Slot NgapMessage :=
  ⟨idPduSessionResourceSetupListCtxtRes, readPduSessionsSetup, false,
    fun msg => msg.setupResponse?.map fun m => m.pduSessionsSetup⟩

def pduSessionsFailedSlot : Slot NgapMessage :=
  ⟨idPduSessionResourceFailedToSetupListCtxtRes, readPduSessionIds, false,
    fun msg => msg.setupResponse?.map fun m => m.pduSessionsFailed⟩

def causeSlot : Slot NgapMessage := ⟨idCause, readCause, true, NgapMessage.releaseCause?⟩

def initialUeMessageSlots : List (Slot NgapMessage) :=
  [ranUeNgapIdSlot, nasPduSlot true, userLocationInfoSlot, rrcEstablishmentCauseSlot]

def uplinkNasTransportSlots : List (Slot NgapMessage) :=
  [amfUeNgapIdSlot, ranUeNgapIdSlot, nasPduSlot true, userLocationInfoSlot]

def downlinkNasTransportSlots : List (Slot NgapMessage) :=
  [amfUeNgapIdSlot, ranUeNgapIdSlot, nasPduSlot true]

def initialContextSetupRequestSlots : List (Slot NgapMessage) :=
  [amfUeNgapIdSlot, ranUeNgapIdSlot, securityKeySlot, ueAmbrSlot, pduSessionsSlot,
    nasPduSlot false]

def initialContextSetupResponseSlots : List (Slot NgapMessage) :=
  [amfUeNgapIdSlot, ranUeNgapIdSlot, pduSessionsSetupSlot, pduSessionsFailedSlot]

def ueContextReleaseCommandSlots : List (Slot NgapMessage) :=
  [amfUeNgapIdSlot, ranUeNgapIdSlot, causeSlot]

def ueContextReleaseCompleteSlots : List (Slot NgapMessage) := [amfUeNgapIdSlot, ranUeNgapIdSlot]

/-- The slots of the decoder that a choice and a procedure code lead to. -/
def slots (choice : Nat) (procCode : UInt32) : List (Slot NgapMessage) :=
  if procCode = procInitialUeMessage then initialUeMessageSlots
  else if procCode = procUplinkNasTransport then uplinkNasTransportSlots
  else if procCode = procDownlinkNasTransport then downlinkNasTransportSlots
  else if procCode = procInitialContextSetup ∧ choice = pduChoiceInitiatingMessage then
    initialContextSetupRequestSlots
  else if procCode = procInitialContextSetup ∧ choice = pduChoiceSuccessfulOutcome then
    initialContextSetupResponseSlots
  else if procCode = procUeContextRelease ∧ choice = pduChoiceInitiatingMessage then
    ueContextReleaseCommandSlots
  else if procCode = procUeContextRelease ∧ choice = pduChoiceSuccessfulOutcome then
    ueContextReleaseCompleteSlots
  else []

/-! ## PDUs and their containers -/

theorem decodeNgapPdu_of_containerOf {buf : List UInt8} {choice : Nat} {procCode : UInt32}
    {entries : List IeEntry} (hcontainer : containerOf buf = some (choice, procCode, entries)) :
    decodeNgapPdu buf = decodeProcedure choice procCode entries := by
  obtain ⟨criticality, value, hwrapper, hread⟩ := containerOf_eq_some_iff.mp hcontainer
  rw [decodeNgapPdu, hwrapper]
  change (okOr (parse readIeContainer value) _ >>= decodeProcedure choice procCode) = _
  rw [hread]
  rfl

/-- Octets that are accepted hold a container. -/
theorem containerOf_of_decode {buf : List UInt8} {msg : NgapMessage}
    (hdecode : decodeNgapPdu buf = .ok msg) : ∃ choice procCode entries,
      containerOf buf = some (choice, procCode, entries) ∧
        decodeProcedure choice procCode entries = .ok msg := by
  obtain ⟨⟨choice, procCode, criticality, value⟩, hwrapper, hdecode⟩ := bind_eq_ok_iff.mp hdecode
  obtain ⟨entries, hread, hdecode⟩ := bind_eq_ok_iff.mp hdecode
  rw [okOr_eq_ok_iff] at hwrapper hread
  exact ⟨choice, procCode, entries,
    containerOf_eq_some_iff.mpr ⟨criticality, value, hwrapper, hread⟩, hdecode⟩

/-! ## The decoders fill their slots -/

section Filled

variable {entries : List IeEntry} {msg : NgapMessage}

/-- The two ids that most messages begin with. -/
theorem allFilled_ueIds {amfUeNgapId ranUeNgapId : UInt32}
    (hamf : assigned readAmfUeNgapId entries idAmfUeNgapId = some amfUeNgapId)
    (hran : assigned readRanUeNgapId entries idRanUeNgapId = some ranUeNgapId)
    (hamfField : msg.amfUeNgapId? = some amfUeNgapId)
    (hranField : msg.ranUeNgapId? = some ranUeNgapId) {rest : List (Slot NgapMessage)}
    (hrest : AllFilled rest entries msg) :
    AllFilled (amfUeNgapIdSlot :: ranUeNgapIdSlot :: rest) entries msg :=
  .cons (filled_of_assigned hamf hamfField) (.cons (filled_of_assigned hran hranField) hrest)

theorem allFilled_initialUeMessage (hdecode : decodeInitialUeMessage entries = .ok msg) :
    AllFilled initialUeMessageSlots entries msg := by
  obtain ⟨m, ⟨hlocation, hran, hnas, hcause⟩, rfl⟩ := decodeInitialUeMessage_eq_ok_iff.mp hdecode
  apply AllFilled.cons (filled_of_assigned hran rfl)
  apply AllFilled.cons (filled_of_assigned hnas rfl)
  apply AllFilled.cons (filled_of_assigned hlocation rfl)
  exact .cons (filled_of_assigned hcause rfl) allFilled_nil

theorem allFilled_uplinkNasTransport (hdecode : decodeUplinkNasTransport entries = .ok msg) :
    AllFilled uplinkNasTransportSlots entries msg := by
  obtain ⟨m, ⟨hlocation, hamf, hran, hnas⟩, rfl⟩ := decodeUplinkNasTransport_eq_ok_iff.mp hdecode
  apply allFilled_ueIds hamf hran rfl rfl
  apply AllFilled.cons (filled_of_assigned hnas rfl)
  exact .cons (filled_of_assigned hlocation rfl) allFilled_nil

theorem allFilled_downlinkNasTransport (hdecode : decodeDownlinkNasTransport entries = .ok msg) :
    AllFilled downlinkNasTransportSlots entries msg := by
  obtain ⟨m, ⟨hamf, hran, hnas⟩, rfl⟩ := decodeDownlinkNasTransport_eq_ok_iff.mp hdecode
  apply allFilled_ueIds hamf hran rfl rfl
  exact .cons (filled_of_assigned hnas rfl) allFilled_nil

theorem allFilled_initialContextSetupRequest
    (hdecode : decodeInitialContextSetupRequest entries = .ok msg) :
    AllFilled initialContextSetupRequestSlots entries msg := by
  obtain ⟨m, ⟨hamf, hran, hambr, hkey, hsessions, hnas⟩, rfl⟩ :=
    decodeInitialContextSetupRequest_eq_ok_iff.mp hdecode
  apply allFilled_ueIds hamf hran rfl rfl
  apply AllFilled.cons (filled_of_assignedIfRead hkey rfl)
  apply AllFilled.cons (filled_of_assignedIfRead hambr rfl)
  apply AllFilled.cons (filled_of_list rfl (congrArg some hsessions.symm))
  exact .cons (filled_of_option rfl hnas) allFilled_nil

theorem allFilled_initialContextSetupResponse
    (hdecode : decodeInitialContextSetupResponse entries = .ok msg) :
    AllFilled initialContextSetupResponseSlots entries msg := by
  obtain ⟨m, ⟨hamf, hran, hsetup, hfailed⟩, rfl⟩ :=
    decodeInitialContextSetupResponse_eq_ok_iff.mp hdecode
  apply allFilled_ueIds hamf hran rfl rfl
  apply AllFilled.cons (filled_of_list rfl (congrArg some hsetup.symm))
  exact .cons (filled_of_list rfl (congrArg some hfailed.symm)) allFilled_nil

theorem allFilled_ueContextReleaseCommand
    (hdecode : decodeUeContextReleaseCommand entries = .ok msg) :
    AllFilled ueContextReleaseCommandSlots entries msg := by
  obtain ⟨amf, ran, cause, ⟨hamf, hran, hcause⟩, rfl⟩ :=
    decodeUeContextReleaseCommand_eq_ok_iff.mp hdecode
  apply allFilled_ueIds hamf hran rfl rfl
  exact .cons (filled_of_assigned hcause rfl) allFilled_nil

theorem allFilled_ueContextReleaseComplete
    (hdecode : decodeUeContextReleaseComplete entries = .ok msg) :
    AllFilled ueContextReleaseCompleteSlots entries msg := by
  obtain ⟨m, ⟨hamf, hran⟩, rfl⟩ := decodeUeContextReleaseComplete_eq_ok_iff.mp hdecode
  exact allFilled_ueIds hamf hran rfl rfl allFilled_nil

/-- An accepted message has its slots filled. -/
theorem allFilled_of_decode {choice : Nat} {procCode : UInt32}
    (hdecode : decodeProcedure choice procCode entries = .ok msg) :
    AllFilled (slots choice procCode) entries msg := by
  unfold decodeProcedure at hdecode
  unfold slots
  split_ifs at hdecode ⊢
  · exact allFilled_initialUeMessage hdecode
  · exact allFilled_uplinkNasTransport hdecode
  · exact allFilled_downlinkNasTransport hdecode
  · exact allFilled_initialContextSetupRequest hdecode
  · exact allFilled_initialContextSetupResponse hdecode
  · exact allFilled_ueContextReleaseCommand hdecode
  · exact allFilled_ueContextReleaseComplete hdecode

end Filled

/-! ## The decoders depend on their slots alone -/

section Congr

variable {entries entries' : List IeEntry}

theorem decodeInitialUeMessage_congr (hsame : SameFor initialUeMessageSlots entries entries') :
    decodeInitialUeMessage entries = decodeInitialUeMessage entries' := by
  simp only [SameFor, initialUeMessageSlots, List.forall_mem_cons, ranUeNgapIdSlot, nasPduSlot,
    userLocationInfoSlot, rrcEstablishmentCauseSlot] at hsame
  obtain ⟨hran, hnas, hlocation, hcause, -⟩ := hsame
  rw [decodeInitialUeMessage, decodeInitialUeMessage, assigned_congr hran, assigned_congr hnas,
    assigned_congr hlocation, assigned_congr hcause]

theorem decodeUplinkNasTransport_congr (hsame : SameFor uplinkNasTransportSlots entries entries') :
    decodeUplinkNasTransport entries = decodeUplinkNasTransport entries' := by
  simp only [SameFor, uplinkNasTransportSlots, List.forall_mem_cons, amfUeNgapIdSlot,
    ranUeNgapIdSlot, nasPduSlot, userLocationInfoSlot] at hsame
  obtain ⟨hamf, hran, hnas, hlocation, -⟩ := hsame
  rw [decodeUplinkNasTransport, decodeUplinkNasTransport, assigned_congr hamf,
    assigned_congr hran, assigned_congr hnas, assigned_congr hlocation]

theorem decodeDownlinkNasTransport_congr
    (hsame : SameFor downlinkNasTransportSlots entries entries') :
    decodeDownlinkNasTransport entries = decodeDownlinkNasTransport entries' := by
  simp only [SameFor, downlinkNasTransportSlots, List.forall_mem_cons, amfUeNgapIdSlot,
    ranUeNgapIdSlot, nasPduSlot] at hsame
  obtain ⟨hamf, hran, hnas, -⟩ := hsame
  rw [decodeDownlinkNasTransport, decodeDownlinkNasTransport, assigned_congr hamf,
    assigned_congr hran, assigned_congr hnas]

theorem decodeInitialContextSetupRequest_congr
    (hsame : SameFor initialContextSetupRequestSlots entries entries') :
    decodeInitialContextSetupRequest entries = decodeInitialContextSetupRequest entries' := by
  simp only [SameFor, initialContextSetupRequestSlots, List.forall_mem_cons, amfUeNgapIdSlot,
    ranUeNgapIdSlot, securityKeySlot, ueAmbrSlot, pduSessionsSlot, nasPduSlot] at hsame
  obtain ⟨hamf, hran, hkey, hambr, hsessions, hnas, -⟩ := hsame
  rw [decodeInitialContextSetupRequest, decodeInitialContextSetupRequest, assigned_congr hamf,
    assigned_congr hran, assignedIfRead_congr hkey, assignedIfRead_congr hambr,
    assignedIfRead_congr hsessions, assigned_congr hnas]

theorem decodeInitialContextSetupResponse_congr
    (hsame : SameFor initialContextSetupResponseSlots entries entries') :
    decodeInitialContextSetupResponse entries = decodeInitialContextSetupResponse entries' := by
  simp only [SameFor, initialContextSetupResponseSlots, List.forall_mem_cons, amfUeNgapIdSlot,
    ranUeNgapIdSlot, pduSessionsSetupSlot, pduSessionsFailedSlot] at hsame
  obtain ⟨hamf, hran, hsetup, hfailed, -⟩ := hsame
  rw [decodeInitialContextSetupResponse, decodeInitialContextSetupResponse, assigned_congr hamf,
    assigned_congr hran, assignedIfRead_congr hsetup, assignedIfRead_congr hfailed]

theorem decodeUeContextReleaseCommand_congr
    (hsame : SameFor ueContextReleaseCommandSlots entries entries') :
    decodeUeContextReleaseCommand entries = decodeUeContextReleaseCommand entries' := by
  simp only [SameFor, ueContextReleaseCommandSlots, List.forall_mem_cons, amfUeNgapIdSlot,
    ranUeNgapIdSlot, causeSlot] at hsame
  obtain ⟨hamf, hran, hcause, -⟩ := hsame
  rw [decodeUeContextReleaseCommand, decodeUeContextReleaseCommand, assigned_congr hamf,
    assigned_congr hran, assigned_congr hcause]

theorem decodeUeContextReleaseComplete_congr
    (hsame : SameFor ueContextReleaseCompleteSlots entries entries') :
    decodeUeContextReleaseComplete entries = decodeUeContextReleaseComplete entries' := by
  simp only [SameFor, ueContextReleaseCompleteSlots, List.forall_mem_cons, amfUeNgapIdSlot,
    ranUeNgapIdSlot] at hsame
  obtain ⟨hamf, hran, -⟩ := hsame
  rw [decodeUeContextReleaseComplete, decodeUeContextReleaseComplete, assigned_congr hamf,
    assigned_congr hran]

/-- Containers with the same values for the slots of a message are decoded alike. -/
theorem decodeProcedure_congr {choice : Nat} {procCode : UInt32}
    (hsame : SameFor (slots choice procCode) entries entries') :
    decodeProcedure choice procCode entries = decodeProcedure choice procCode entries' := by
  unfold slots at hsame
  unfold decodeProcedure
  split_ifs at hsame ⊢
  · exact decodeInitialUeMessage_congr hsame
  · exact decodeUplinkNasTransport_congr hsame
  · exact decodeDownlinkNasTransport_congr hsame
  · exact decodeInitialContextSetupRequest_congr hsame
  · exact decodeInitialContextSetupResponse_congr hsame
  · exact decodeUeContextReleaseCommand_congr hsame
  · exact decodeUeContextReleaseComplete_congr hsame
  · rfl

end Congr

end Midn.Ngap
