import Midn.Proto.S1ap.Codec
import Midn.Proto.Slots

/-!
# Slots of S1AP messages

The slots of each of the seven decoders. Every decoder fills its slots, and depends on nothing but
the values of their ids.
-/

namespace Midn.S1ap

open Midn.Per Midn.Per.PerReader Midn.Container

/-! ## Fields -/

namespace S1apMessage

/-- The NAS PDU of a message in either direction. -/
def anyNasPdu? : S1apMessage → Option (List UInt8)
  | initialUeMessage m => some m.nasPdu
  | downlinkNasTransport m => some m.nasPdu
  | uplinkNasTransport m => some m.nasPdu
  | initialContextSetupRequest m => m.nasPdu
  | _ => none

def tai? : S1apMessage → Option (Octets 5)
  | initialUeMessage m => some m.tai
  | uplinkNasTransport m => some m.tai
  | _ => none

def eutranCgi? : S1apMessage → Option (Octets 7)
  | initialUeMessage m => some m.eutranCgi
  | uplinkNasTransport m => some m.eutranCgi
  | _ => none

def rrcCause? : S1apMessage → Option UInt8
  | initialUeMessage m => some m.rrcCause
  | _ => none

def setupRequest? : S1apMessage → Option InitialContextSetupRequest
  | initialContextSetupRequest m => some m
  | _ => none

def setupResponse? : S1apMessage → Option InitialContextSetupResponse
  | initialContextSetupResponse m => some m
  | _ => none

def releaseCause? : S1apMessage → Option S1apCause
  | ueContextReleaseCommand _ _ cause => some cause
  | _ => none

end S1apMessage

/-! ## Slots -/

def mmeUeS1apIdSlot : Slot S1apMessage :=
  ⟨idMmeUeS1apId, readMmeUeS1apId, true, S1apMessage.mmeUeS1apId?⟩

def enbUeS1apIdSlot : Slot S1apMessage :=
  ⟨idEnbUeS1apId, readEnbUeS1apId, true, S1apMessage.enbUeS1apId?⟩

/-- Only a setup request goes without a NAS PDU. -/
def nasPduSlot (mandatory : Bool) : Slot S1apMessage :=
  ⟨idNasPdu, readOctetString, mandatory, S1apMessage.anyNasPdu?⟩

def taiSlot : Slot S1apMessage := ⟨idTai, readArray 5, true, S1apMessage.tai?⟩

def eutranCgiSlot : Slot S1apMessage := ⟨idEutranCgi, readArray 7, true, S1apMessage.eutranCgi?⟩

def rrcEstablishmentCauseSlot : Slot S1apMessage :=
  ⟨idRrcEstablishmentCause, readRrcEstablishmentCause, true, S1apMessage.rrcCause?⟩

def ueAmbrSlot : Slot S1apMessage :=
  ⟨idUeAggregateMaximumBitrate, readBitRates bitRateMax, true,
    fun msg => msg.setupRequest?.map fun m => m.ueAmbr⟩

def securityKeySlot : Slot S1apMessage :=
  ⟨idSecurityKey, readArray 32, true, fun msg => msg.setupRequest?.map fun m => m.securityKey⟩

def eRabsSlot : Slot S1apMessage :=
  ⟨idERabToBeSetupListCtxtSuReq, readErabsToSetup, false,
    fun msg => msg.setupRequest?.map fun m => m.eRabs⟩

def eRabsSetupSlot : Slot S1apMessage :=
  ⟨idERabSetupListCtxtSuRes, readErabsSetup, false,
    fun msg => msg.setupResponse?.map fun m => m.eRabsSetup⟩

def eRabsFailedSlot : Slot S1apMessage :=
  ⟨idERabFailedToSetupListCtxtSuRes, readErabIds, false,
    fun msg => msg.setupResponse?.map fun m => m.eRabsFailed⟩

def causeSlot : Slot S1apMessage := ⟨idCause, readCause, true, S1apMessage.releaseCause?⟩

def initialUeMessageSlots : List (Slot S1apMessage) :=
  [enbUeS1apIdSlot, nasPduSlot true, taiSlot, eutranCgiSlot, rrcEstablishmentCauseSlot]

def uplinkNasTransportSlots : List (Slot S1apMessage) :=
  [mmeUeS1apIdSlot, enbUeS1apIdSlot, nasPduSlot true, taiSlot, eutranCgiSlot]

def downlinkNasTransportSlots : List (Slot S1apMessage) :=
  [mmeUeS1apIdSlot, enbUeS1apIdSlot, nasPduSlot true]

def initialContextSetupRequestSlots : List (Slot S1apMessage) :=
  [mmeUeS1apIdSlot, enbUeS1apIdSlot, ueAmbrSlot, securityKeySlot, eRabsSlot, nasPduSlot false]

def initialContextSetupResponseSlots : List (Slot S1apMessage) :=
  [mmeUeS1apIdSlot, enbUeS1apIdSlot, eRabsSetupSlot, eRabsFailedSlot]

def ueContextReleaseCommandSlots : List (Slot S1apMessage) :=
  [mmeUeS1apIdSlot, enbUeS1apIdSlot, causeSlot]

def ueContextReleaseCompleteSlots : List (Slot S1apMessage) := [mmeUeS1apIdSlot, enbUeS1apIdSlot]

/-- The slots of the decoder that a choice and a procedure code lead to. -/
def slots (choice : Nat) (procCode : UInt32) : List (Slot S1apMessage) :=
  if procCode = procInitialUeMessage then initialUeMessageSlots
  else if procCode = procUplinkNasTransport then uplinkNasTransportSlots
  else if procCode = procDownlinkNasTransport then downlinkNasTransportSlots
  else if procCode = procInitialContextSetup ∧ choice = pduChoiceInitiatingMessage then
    initialContextSetupRequestSlots
  else if procCode = procInitialContextSetup ∧ choice = pduChoiceSuccessfulOutcome then
    initialContextSetupResponseSlots
  else if procCode = procUeContextRelease ∧ choice = pduChoiceInitiatingMessage then
    ueContextReleaseCommandSlots
  else if procCode = procUeContextRelease ∧ choice = pduChoiceSuccessfulOutcome then
    ueContextReleaseCompleteSlots
  else []

/-! ## PDUs and their containers -/

theorem decodeS1apPdu_of_containerOf {buf : List UInt8} {choice : Nat} {procCode : UInt32}
    {entries : List IeEntry} (hcontainer : containerOf buf = some (choice, procCode, entries)) :
    decodeS1apPdu buf = decodeProcedure choice procCode entries := by
  obtain ⟨criticality, value, hwrapper, hread⟩ := containerOf_eq_some_iff.mp hcontainer
  rw [decodeS1apPdu, hwrapper]
  change (okOr (parse readIeContainer value) _ >>= decodeProcedure choice procCode) = _
  rw [hread]
  rfl

/-- Octets that are accepted hold a container. -/
theorem containerOf_of_decode {buf : List UInt8} {msg : S1apMessage}
    (hdecode : decodeS1apPdu buf = .ok msg) : ∃ choice procCode entries,
      containerOf buf = some (choice, procCode, entries) ∧
        decodeProcedure choice procCode entries = .ok msg := by
  obtain ⟨⟨choice, procCode, criticality, value⟩, hwrapper, hdecode⟩ := bind_eq_ok_iff.mp hdecode
  obtain ⟨entries, hread, hdecode⟩ := bind_eq_ok_iff.mp hdecode
  rw [okOr_eq_ok_iff] at hwrapper hread
  exact ⟨choice, procCode, entries,
    containerOf_eq_some_iff.mpr ⟨criticality, value, hwrapper, hread⟩, hdecode⟩

/-! ## The decoders fill their slots -/

section Filled

variable {entries : List IeEntry} {msg : S1apMessage}

/-- The two ids that most messages begin with. -/
theorem allFilled_ueIds {mmeUeS1apId enbUeS1apId : UInt32}
    (hmme : assigned readMmeUeS1apId entries idMmeUeS1apId = some mmeUeS1apId)
    (henb : assigned readEnbUeS1apId entries idEnbUeS1apId = some enbUeS1apId)
    (hmmeField : msg.mmeUeS1apId? = some mmeUeS1apId)
    (henbField : msg.enbUeS1apId? = some enbUeS1apId) {rest : List (Slot S1apMessage)}
    (hrest : AllFilled rest entries msg) :
    AllFilled (mmeUeS1apIdSlot :: enbUeS1apIdSlot :: rest) entries msg :=
  .cons (filled_of_assigned hmme hmmeField) (.cons (filled_of_assigned henb henbField) hrest)

theorem allFilled_initialUeMessage (hdecode : decodeInitialUeMessage entries = .ok msg) :
    AllFilled initialUeMessageSlots entries msg := by
  obtain ⟨m, ⟨henb, hnas, htai, hcgi, hcause⟩, rfl⟩ := decodeInitialUeMessage_eq_ok_iff.mp hdecode
  apply AllFilled.cons (filled_of_assigned henb rfl)
  apply AllFilled.cons (filled_of_assigned hnas rfl)
  apply AllFilled.cons (filled_of_assigned htai rfl)
  apply AllFilled.cons (filled_of_assigned hcgi rfl)
  exact .cons (filled_of_assigned hcause rfl) allFilled_nil

theorem allFilled_uplinkNasTransport (hdecode : decodeUplinkNasTransport entries = .ok msg) :
    AllFilled uplinkNasTransportSlots entries msg := by
  obtain ⟨m, ⟨hmme, henb, hnas, htai, hcgi⟩, rfl⟩ := decodeUplinkNasTransport_eq_ok_iff.mp hdecode
  apply allFilled_ueIds hmme henb rfl rfl
  apply AllFilled.cons (filled_of_assigned hnas rfl)
  apply AllFilled.cons (filled_of_assigned htai rfl)
  exact .cons (filled_of_assigned hcgi rfl) allFilled_nil

theorem allFilled_downlinkNasTransport (hdecode : decodeDownlinkNasTransport entries = .ok msg) :
    AllFilled downlinkNasTransportSlots entries msg := by
  obtain ⟨m, ⟨hmme, henb, hnas⟩, rfl⟩ := decodeDownlinkNasTransport_eq_ok_iff.mp hdecode
  apply allFilled_ueIds hmme henb rfl rfl
  exact .cons (filled_of_assigned hnas rfl) allFilled_nil

theorem allFilled_initialContextSetupRequest
    (hdecode : decodeInitialContextSetupRequest entries = .ok msg) :
    AllFilled initialContextSetupRequestSlots entries msg := by
  obtain ⟨m, ⟨hmme, henb, hambr, hkey, herabs, hnas⟩, rfl⟩ :=
    decodeInitialContextSetupRequest_eq_ok_iff.mp hdecode
  apply allFilled_ueIds hmme henb rfl rfl
  apply AllFilled.cons (filled_of_assignedIfRead hambr rfl)
  apply AllFilled.cons (filled_of_assigned hkey rfl)
  apply AllFilled.cons (filled_of_list rfl (congrArg some herabs.symm))
  exact .cons (filled_of_option rfl hnas) allFilled_nil

theorem allFilled_initialContextSetupResponse
    (hdecode : decodeInitialContextSetupResponse entries = .ok msg) :
    AllFilled initialContextSetupResponseSlots entries msg := by
  obtain ⟨m, ⟨hmme, henb, hsetup, hfailed⟩, rfl⟩ :=
    decodeInitialContextSetupResponse_eq_ok_iff.mp hdecode
  apply allFilled_ueIds hmme henb rfl rfl
  apply AllFilled.cons (filled_of_list rfl (congrArg some hsetup.symm))
  exact .cons (filled_of_list rfl (congrArg some hfailed.symm)) allFilled_nil

theorem allFilled_ueContextReleaseCommand
    (hdecode : decodeUeContextReleaseCommand entries = .ok msg) :
    AllFilled ueContextReleaseCommandSlots entries msg := by
  obtain ⟨mme, enb, cause, ⟨hmme, henb, hcause⟩, rfl⟩ :=
    decodeUeContextReleaseCommand_eq_ok_iff.mp hdecode
  apply allFilled_ueIds hmme henb rfl rfl
  exact .cons (filled_of_assigned hcause rfl) allFilled_nil

theorem allFilled_ueContextReleaseComplete
    (hdecode : decodeUeContextReleaseComplete entries = .ok msg) :
    AllFilled ueContextReleaseCompleteSlots entries msg := by
  obtain ⟨m, ⟨hmme, henb⟩, rfl⟩ := decodeUeContextReleaseComplete_eq_ok_iff.mp hdecode
  exact allFilled_ueIds hmme henb rfl rfl allFilled_nil

/-- An accepted message has its slots filled. -/
theorem allFilled_of_decode {choice : Nat} {procCode : UInt32}
    (hdecode : decodeProcedure choice procCode entries = .ok msg) :
    AllFilled (slots choice procCode) entries msg := by
  unfold decodeProcedure at hdecode
  unfold slots
  split_ifs at hdecode ⊢
  · exact allFilled_initialUeMessage hdecode
  · exact allFilled_uplinkNasTransport hdecode
  · exact allFilled_downlinkNasTransport hdecode
  · exact allFilled_initialContextSetupRequest hdecode
  · exact allFilled_initialContextSetupResponse hdecode
  · exact allFilled_ueContextReleaseCommand hdecode
  · exact allFilled_ueContextReleaseComplete hdecode

end Filled

/-! ## The decoders depend on their slots alone -/

section Congr

variable {entries entries' : List IeEntry}

theorem decodeInitialUeMessage_congr (hsame : SameFor initialUeMessageSlots entries entries') :
    decodeInitialUeMessage entries = decodeInitialUeMessage entries' := by
  simp only [SameFor, initialUeMessageSlots, List.forall_mem_cons, enbUeS1apIdSlot, nasPduSlot,
    taiSlot, eutranCgiSlot, rrcEstablishmentCauseSlot] at hsame
  obtain ⟨henb, hnas, htai, hcgi, hcause, -⟩ := hsame
  rw [decodeInitialUeMessage, decodeInitialUeMessage, assigned_congr henb, assigned_congr hnas,
    assigned_congr htai, assigned_congr hcgi, assigned_congr hcause]

theorem decodeUplinkNasTransport_congr (hsame : SameFor uplinkNasTransportSlots entries entries') :
    decodeUplinkNasTransport entries = decodeUplinkNasTransport entries' := by
  simp only [SameFor, uplinkNasTransportSlots, List.forall_mem_cons, mmeUeS1apIdSlot,
    enbUeS1apIdSlot, nasPduSlot, taiSlot, eutranCgiSlot] at hsame
  obtain ⟨hmme, henb, hnas, htai, hcgi, -⟩ := hsame
  rw [decodeUplinkNasTransport, decodeUplinkNasTransport, assigned_congr hmme,
    assigned_congr henb, assigned_congr hnas, assigned_congr htai, assigned_congr hcgi]

theorem decodeDownlinkNasTransport_congr
    (hsame : SameFor downlinkNasTransportSlots entries entries') :
    decodeDownlinkNasTransport entries = decodeDownlinkNasTransport entries' := by
  simp only [SameFor, downlinkNasTransportSlots, List.forall_mem_cons, mmeUeS1apIdSlot,
    enbUeS1apIdSlot, nasPduSlot] at hsame
  obtain ⟨hmme, henb, hnas, -⟩ := hsame
  rw [decodeDownlinkNasTransport, decodeDownlinkNasTransport, assigned_congr hmme,
    assigned_congr henb, assigned_congr hnas]

theorem decodeInitialContextSetupRequest_congr
    (hsame : SameFor initialContextSetupRequestSlots entries entries') :
    decodeInitialContextSetupRequest entries = decodeInitialContextSetupRequest entries' := by
  simp only [SameFor, initialContextSetupRequestSlots, List.forall_mem_cons, mmeUeS1apIdSlot,
    enbUeS1apIdSlot, ueAmbrSlot, securityKeySlot, eRabsSlot, nasPduSlot] at hsame
  obtain ⟨hmme, henb, hambr, hkey, herabs, hnas, -⟩ := hsame
  rw [decodeInitialContextSetupRequest, decodeInitialContextSetupRequest, assigned_congr hmme,
    assigned_congr henb, assignedIfRead_congr hambr, assigned_congr hkey,
    assignedIfRead_congr herabs, assigned_congr hnas]

theorem decodeInitialContextSetupResponse_congr
    (hsame : SameFor initialContextSetupResponseSlots entries entries') :
    decodeInitialContextSetupResponse entries = decodeInitialContextSetupResponse entries' := by
  simp only [SameFor, initialContextSetupResponseSlots, List.forall_mem_cons, mmeUeS1apIdSlot,
    enbUeS1apIdSlot, eRabsSetupSlot, eRabsFailedSlot] at hsame
  obtain ⟨hmme, henb, hsetup, hfailed, -⟩ := hsame
  rw [decodeInitialContextSetupResponse, decodeInitialContextSetupResponse, assigned_congr hmme,
    assigned_congr henb, assignedIfRead_congr hsetup, assignedIfRead_congr hfailed]

theorem decodeUeContextReleaseCommand_congr
    (hsame : SameFor ueContextReleaseCommandSlots entries entries') :
    decodeUeContextReleaseCommand entries = decodeUeContextReleaseCommand entries' := by
  simp only [SameFor, ueContextReleaseCommandSlots, List.forall_mem_cons, mmeUeS1apIdSlot,
    enbUeS1apIdSlot, causeSlot] at hsame
  obtain ⟨hmme, henb, hcause, -⟩ := hsame
  rw [decodeUeContextReleaseCommand, decodeUeContextReleaseCommand, assigned_congr hmme,
    assigned_congr henb, assigned_congr hcause]

theorem decodeUeContextReleaseComplete_congr
    (hsame : SameFor ueContextReleaseCompleteSlots entries entries') :
    decodeUeContextReleaseComplete entries = decodeUeContextReleaseComplete entries' := by
  simp only [SameFor, ueContextReleaseCompleteSlots, List.forall_mem_cons, mmeUeS1apIdSlot,
    enbUeS1apIdSlot] at hsame
  obtain ⟨hmme, henb, -⟩ := hsame
  rw [decodeUeContextReleaseComplete, decodeUeContextReleaseComplete, assigned_congr hmme,
    assigned_congr henb]

/-- Containers with the same values for the slots of a message are decoded alike. -/
theorem decodeProcedure_congr {choice : Nat} {procCode : UInt32}
    (hsame : SameFor (slots choice procCode) entries entries') :
    decodeProcedure choice procCode entries = decodeProcedure choice procCode entries' := by
  unfold slots at hsame
  unfold decodeProcedure
  split_ifs at hsame ⊢
  · exact decodeInitialUeMessage_congr hsame
  · exact decodeUplinkNasTransport_congr hsame
  · exact decodeDownlinkNasTransport_congr hsame
  · exact decodeInitialContextSetupRequest_congr hsame
  · exact decodeInitialContextSetupResponse_congr hsame
  · exact decodeUeContextReleaseCommand_congr hsame
  · exact decodeUeContextReleaseComplete_congr hsame
  · rfl

end Congr

end Midn.S1ap
