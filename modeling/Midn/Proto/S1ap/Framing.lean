import Midn.Proto.Framing
import Midn.Proto.S1ap.Slots

/-!
# Framing of S1AP PDUs

The frame under which each S1AP message is sent. The three messages without an outcome are
accepted under every choice.
-/

namespace Midn.S1ap

open Midn.Per Midn.Per.PerReader Midn.Container

/-- The choice and the procedure code that the encoder gives the messages of a variant. -/
def S1apMessage.frame : S1apMessage → Option (Nat × UInt32)
  | initialUeMessage _ => some (pduChoiceInitiatingMessage, procInitialUeMessage)
  | uplinkNasTransport _ => some (pduChoiceInitiatingMessage, procUplinkNasTransport)
  | downlinkNasTransport _ => some (pduChoiceInitiatingMessage, procDownlinkNasTransport)
  | initialContextSetupRequest _ => some (pduChoiceInitiatingMessage, procInitialContextSetup)
  | initialContextSetupResponse _ => some (pduChoiceSuccessfulOutcome, procInitialContextSetup)
  | ueContextReleaseCommand _ _ _ => some (pduChoiceInitiatingMessage, procUeContextRelease)
  | ueContextReleaseComplete _ => some (pduChoiceSuccessfulOutcome, procUeContextRelease)
  | _ => none

theorem pduFrame_of_encode {msg : S1apMessage} {bytes : List UInt8}
    (hput : encodeS1apPdu msg = some (.ok bytes)) : pduFrame bytes = msg.frame := by
  cases msg with
  | initialUeMessage | uplinkNasTransport | downlinkNasTransport | initialContextSetupRequest
    | initialContextSetupResponse | ueContextReleaseCommand | ueContextReleaseComplete =>
      exact pduFrame_of_encodePdu hput
  | _ => cases Option.some.inj hput

/-- The procedures whose only message is the initiating one. -/
def requestOnlyProcedures : List UInt32 :=
  [procInitialUeMessage, procUplinkNasTransport, procDownlinkNasTransport]

theorem decodeS1apPdu_eq_ok_iff {buf : List UInt8} {msg : S1apMessage} :
    decodeS1apPdu buf = .ok msg ↔ ∃ choice procCode entries,
      containerOf buf = some (choice, procCode, entries) ∧
        decodeProcedure choice procCode entries = .ok msg := by
  constructor
  · exact containerOf_of_decode
  · intro hcontained
    obtain ⟨choice, procCode, entries, hcontainer, hdecode⟩ := hcontained
    rw [decodeS1apPdu_of_containerOf hcontainer, hdecode]

variable {choice : Nat} {procCode : UInt32} {entries : List IeEntry} {msg : S1apMessage}

/-! ## Procedures that are told apart by their choice -/

theorem frame_of_outcome (hprocedure : procCode ∉ requestOnlyProcedures)
    (hdecode : decodeProcedure choice procCode entries = .ok msg) :
    msg.frame = some (choice, procCode) := by
  simp only [requestOnlyProcedures, List.mem_cons, List.not_mem_nil, or_false, not_or] at hprocedure
  obtain ⟨hinitial, huplink, hdownlink⟩ := hprocedure
  rw [decodeProcedure, if_neg hinitial, if_neg huplink, if_neg hdownlink] at hdecode
  split_ifs at hdecode with hrequest hresponse hcommand hcomplete
  · obtain ⟨m, -, rfl⟩ := decodeInitialContextSetupRequest_eq_ok_iff.mp hdecode
    rw [hrequest.1, hrequest.2]
    rfl
  · obtain ⟨m, -, rfl⟩ := decodeInitialContextSetupResponse_eq_ok_iff.mp hdecode
    rw [hresponse.1, hresponse.2]
    rfl
  · obtain ⟨mme, enb, cause, -, rfl⟩ := decodeUeContextReleaseCommand_eq_ok_iff.mp hdecode
    rw [hcommand.1, hcommand.2]
    rfl
  · obtain ⟨m, -, rfl⟩ := decodeUeContextReleaseComplete_eq_ok_iff.mp hdecode
    rw [hcomplete.1, hcomplete.2]
    rfl

/-! ## Procedures whose choice is not looked at -/

theorem decodeInitialUeMessage_iff_readable :
    (∃ msg, decodeInitialUeMessage entries = .ok msg) ↔ Readable initialUeMessageSlots entries := by
  simp only [Readable, initialUeMessageSlots, List.forall_mem_cons, enbUeS1apIdSlot, nasPduSlot,
    taiSlot, eutranCgiSlot, rrcEstablishmentCauseSlot, Option.isSome_iff_exists]
  constructor
  · intro hexists
    obtain ⟨msg, hdecode⟩ := hexists
    obtain ⟨m, ⟨henb, hnas, htai, hcgi, hcause⟩, -⟩ := decodeInitialUeMessage_eq_ok_iff.mp hdecode
    exact ⟨⟨_, henb⟩, ⟨_, hnas⟩, ⟨_, htai⟩, ⟨_, hcgi⟩, ⟨_, hcause⟩, List.forall_mem_nil _⟩
  · intro hread
    obtain ⟨⟨enb, henb⟩, ⟨nas, hnas⟩, ⟨tai, htai⟩, ⟨cgi, hcgi⟩, ⟨cause, hcause⟩, -⟩ := hread
    exact ⟨_, decodeInitialUeMessage_eq_ok_iff.mpr
      ⟨⟨enb, nas, tai, cgi, cause⟩, ⟨henb, hnas, htai, hcgi, hcause⟩, rfl⟩⟩

theorem decodeUplinkNasTransport_iff_readable :
    (∃ msg, decodeUplinkNasTransport entries = .ok msg) ↔
      Readable uplinkNasTransportSlots entries := by
  simp only [Readable, uplinkNasTransportSlots, List.forall_mem_cons, mmeUeS1apIdSlot,
    enbUeS1apIdSlot, nasPduSlot, taiSlot, eutranCgiSlot, Option.isSome_iff_exists]
  constructor
  · intro hexists
    obtain ⟨msg, hdecode⟩ := hexists
    obtain ⟨m, ⟨hmme, henb, hnas, htai, hcgi⟩, -⟩ := decodeUplinkNasTransport_eq_ok_iff.mp hdecode
    exact ⟨⟨_, hmme⟩, ⟨_, henb⟩, ⟨_, hnas⟩, ⟨_, htai⟩, ⟨_, hcgi⟩, List.forall_mem_nil _⟩
  · intro hread
    obtain ⟨⟨mme, hmme⟩, ⟨enb, henb⟩, ⟨nas, hnas⟩, ⟨tai, htai⟩, ⟨cgi, hcgi⟩, -⟩ := hread
    exact ⟨_, decodeUplinkNasTransport_eq_ok_iff.mpr
      ⟨⟨mme, enb, nas, tai, cgi⟩, ⟨hmme, henb, hnas, htai, hcgi⟩, rfl⟩⟩

theorem decodeDownlinkNasTransport_iff_readable :
    (∃ msg, decodeDownlinkNasTransport entries = .ok msg) ↔
      Readable downlinkNasTransportSlots entries := by
  simp only [Readable, downlinkNasTransportSlots, List.forall_mem_cons, mmeUeS1apIdSlot,
    enbUeS1apIdSlot, nasPduSlot, Option.isSome_iff_exists]
  constructor
  · intro hexists
    obtain ⟨msg, hdecode⟩ := hexists
    obtain ⟨m, ⟨hmme, henb, hnas⟩, -⟩ := decodeDownlinkNasTransport_eq_ok_iff.mp hdecode
    exact ⟨⟨_, hmme⟩, ⟨_, henb⟩, ⟨_, hnas⟩, List.forall_mem_nil _⟩
  · intro hread
    obtain ⟨⟨mme, hmme⟩, ⟨enb, henb⟩, ⟨nas, hnas⟩, -⟩ := hread
    exact ⟨_, decodeDownlinkNasTransport_eq_ok_iff.mpr
      ⟨⟨mme, enb, nas⟩, ⟨hmme, henb, hnas⟩, rfl⟩⟩

theorem frame_of_requestOnly (hprocedure : procCode ∈ requestOnlyProcedures)
    (hdecode : decodeProcedure choice procCode entries = .ok msg) :
    msg.frame = some (pduChoiceInitiatingMessage, procCode) := by
  simp only [requestOnlyProcedures, List.mem_cons, List.not_mem_nil, or_false] at hprocedure
  rcases hprocedure with rfl | rfl | rfl
  · obtain ⟨m, -, rfl⟩ := decodeInitialUeMessage_eq_ok_iff.mp hdecode
    rfl
  · obtain ⟨m, -, rfl⟩ := decodeUplinkNasTransport_eq_ok_iff.mp hdecode
    rfl
  · obtain ⟨m, -, rfl⟩ := decodeDownlinkNasTransport_eq_ok_iff.mp hdecode
    rfl

theorem decodeProcedure_iff_readable (hprocedure : procCode ∈ requestOnlyProcedures) :
    (∃ msg, decodeProcedure choice procCode entries = .ok msg) ↔
      Readable (slots choice procCode) entries := by
  simp only [requestOnlyProcedures, List.mem_cons, List.not_mem_nil, or_false] at hprocedure
  rcases hprocedure with rfl | rfl | rfl
  · exact decodeInitialUeMessage_iff_readable
  · exact decodeUplinkNasTransport_iff_readable
  · exact decodeDownlinkNasTransport_iff_readable

end Midn.S1ap
