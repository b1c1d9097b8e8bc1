import Midn.Proto.Ngap.Framing
import Midn.Proto.Ranges

/-!
# Ranges of decoded NGAP numbers

Every number of a decoded message but the two bit rates has a range that uses up its bits, or is
looked up in a table.
-/

namespace Midn.Ngap

open Midn.Per Midn.Per.PerReader Midn.Container

/-- The numbers of a message that have a range, each with its largest value. -/
def NgapMessage.rangedNumbers : NgapMessage → List (Nat × Nat)
  | initialUeMessage m =>
      [(m.ranUeNgapId.toNat, ranUeNgapIdMax),
        (m.rrcEstablishmentCause.toNat, rrcEstablishmentCauseMax)]
  | downlinkNasTransport m =>
      [(m.amfUeNgapId.toNat, amfUeNgapIdMax), (m.ranUeNgapId.toNat, ranUeNgapIdMax)]
  | uplinkNasTransport m =>
      [(m.amfUeNgapId.toNat, amfUeNgapIdMax), (m.ranUeNgapId.toNat, ranUeNgapIdMax)]
  | initialContextSetupRequest m =>
      [(m.amfUeNgapId.toNat, amfUeNgapIdMax), (m.ranUeNgapId.toNat, ranUeNgapIdMax),
        (m.ueAmbr.1.toNat, bitRateMax), (m.ueAmbr.2.toNat, bitRateMax)] ++
        m.pduSessions.flatMap fun s =>
          [(s.pduSessionId.toNat, pduSessionIdMax), (s.qfi.toNat, qfiMax)]
  | initialContextSetupResponse m =>
      [(m.amfUeNgapId.toNat, amfUeNgapIdMax), (m.ranUeNgapId.toNat, ranUeNgapIdMax)] ++
        (m.pduSessionsSetup.map fun it => (it.pduSessionId.toNat, pduSessionIdMax)) ++
        m.pduSessionsFailed.map fun id => (id.toNat, pduSessionIdMax)
  | ueContextReleaseCommand amfUeNgapId ranUeNgapId cause =>
      [(amfUeNgapId.toNat, amfUeNgapIdMax), (ranUeNgapId.toNat, ranUeNgapIdMax),
        (ngapCauseToU64 cause, causeMax)]
  | ueContextReleaseComplete m =>
      [(m.amfUeNgapId.toNat, amfUeNgapIdMax), (m.ranUeNgapId.toNat, ranUeNgapIdMax)]
  | _ => []

def NgapMessage.NumbersInRange (msg : NgapMessage) : Prop :=
  ∀ number ∈ msg.rangedNumbers, number.1 ≤ number.2

instance : DecidablePred NgapMessage.NumbersInRange := fun msg =>
  inferInstanceAs (Decidable (∀ number ∈ msg.rangedNumbers, number.1 ≤ number.2))

/-- The bit rates of a setup request are spelled in their range. -/
def AmbrSpelled (buf : List UInt8) : Prop :=
  SetupRatesSpelled procInitialContextSetup idUeAggregateMaxBitRate bitRateMax buf

/-! ## Numbers that are always in range -/

theorem amfUeNgapId_le (amfUeNgapId : UInt32) : amfUeNgapId.toNat ≤ amfUeNgapIdMax :=
  Nat.le_of_lt_succ amfUeNgapId.toNat_lt

theorem ranUeNgapId_le (ranUeNgapId : UInt32) : ranUeNgapId.toNat ≤ ranUeNgapIdMax :=
  Nat.le_of_lt_succ ranUeNgapId.toNat_lt

theorem pduSessionId_le (pduSessionId : UInt8) : pduSessionId.toNat ≤ pduSessionIdMax :=
  Nat.le_of_lt_succ pduSessionId.toNat_lt

theorem cause_le (cause : NgapCause) : ngapCauseToU64 cause ≤ causeMax := by
  cases cause <;> decide

theorem rrcEstablishmentCause_le {entries : List IeEntry} {rrcEstablishmentCause : UInt8}
    (hassigned : assigned readRrcEstablishmentCause entries idRrcEstablishmentCause =
      some rrcEstablishmentCause) :
    rrcEstablishmentCause.toNat ≤ rrcEstablishmentCauseMax :=
  number_le_of_assigned (by decide) (Or.inl ⟨4, by decide, rfl⟩) toNat_ofNat_le8 hassigned

theorem qfi_le {s : PduSessionToSetup} {r r' : PerReader}
    (hread : readPduSessionToSetup.run r = some (s, r')) : s.qfi.toNat ≤ qfiMax := by
  obtain ⟨_, r₁, _, hread⟩ := Tape.run_bind_eq_some.mp hread
  obtain ⟨qfi, r₂, hqfi, hread⟩ := Tape.run_bind_eq_some.mp hread
  obtain ⟨_, r₃, _, hread⟩ := Tape.run_bind_eq_some.mp hread
  obtain ⟨_, r₄, _, hread⟩ := Tape.run_bind_eq_some.mp hread
  obtain ⟨rfl, -⟩ := Tape.run_pure_eq_some.mp hread
  exact (toNat_ofNat_le8 qfi).trans
    (readUpTo_le_of_wholeCodeSpace (by decide) hqfi (Or.inl ⟨6, by decide, rfl⟩))

/-- The two ids at the beginning of a message are in range. -/
theorem ids_inRange {amfUeNgapId ranUeNgapId : UInt32} {rest : List (Nat × Nat)} :
    (∀ number ∈ (amfUeNgapId.toNat, amfUeNgapIdMax) :: (ranUeNgapId.toNat, ranUeNgapIdMax) :: rest,
      number.1 ≤ number.2) ↔ ∀ number ∈ rest, number.1 ≤ number.2 := by
  rw [List.forall_mem_cons, List.forall_mem_cons, and_iff_right (amfUeNgapId_le amfUeNgapId),
    and_iff_right (ranUeNgapId_le ranUeNgapId)]

/-! ## Messages -/

section Messages

variable {entries : List IeEntry} {msg : NgapMessage}

theorem numbersInRange_initialUeMessage (hdecode : decodeInitialUeMessage entries = .ok msg) :
    msg.NumbersInRange := by
  obtain ⟨m, ⟨_, _, _, hcause⟩, rfl⟩ := decodeInitialUeMessage_eq_ok_iff.mp hdecode
  rw [NgapMessage.NumbersInRange, NgapMessage.rangedNumbers, List.forall_mem_cons,
    List.forall_mem_singleton]
  exact ⟨ranUeNgapId_le m.ranUeNgapId, rrcEstablishmentCause_le hcause⟩

theorem numbersInRange_uplinkNasTransport
    (hdecode : decodeUplinkNasTransport entries = .ok msg) : msg.NumbersInRange := by
  obtain ⟨m, _, rfl⟩ := decodeUplinkNasTransport_eq_ok_iff.mp hdecode
  exact ids_inRange.mpr (List.forall_mem_nil _)

theorem numbersInRange_downlinkNasTransport
    (hdecode : decodeDownlinkNasTransport entries = .ok msg) : msg.NumbersInRange := by
  obtain ⟨m, _, rfl⟩ := decodeDownlinkNasTransport_eq_ok_iff.mp hdecode
  exact ids_inRange.mpr (List.forall_mem_nil _)

/-- A setup request is in range exactly if the element of its bit rates spells two of them. -/
theorem numbersInRange_initialContextSetupRequest_iff
    (hdecode : decodeInitialContextSetupRequest entries = .ok msg) :
    msg.NumbersInRange ↔
      ∀ value ∈ lastReadable (readBitRates bitRateMax) (valuesOf entries idUeAggregateMaxBitRate),
        RatesSpelled bitRateMax value := by
  obtain ⟨m, ⟨_, _, hambr, _, hsessions, _⟩, rfl⟩ :=
    decodeInitialContextSetupRequest_eq_ok_iff.mp hdecode
  have hlist : ∀ number ∈ m.pduSessions.flatMap fun s =>
      [(s.pduSessionId.toNat, pduSessionIdMax), (s.qfi.toNat, qfiMax)],
      number.1 ≤ number.2 := by
    intro number hmem
    obtain ⟨s, hs, hnumber⟩ := List.mem_flatMap.mp hmem
    obtain ⟨r, r', hread⟩ := exists_run_of_mem_list hsessions s hs
    rcases List.mem_pair.mp hnumber with rfl | rfl
    · exact pduSessionId_le s.pduSessionId
    · exact qfi_le hread
  have hrates : (NgapMessage.initialContextSetupRequest m).NumbersInRange ↔
      m.ueAmbr.1.toNat ≤ bitRateMax ∧ m.ueAmbr.2.toNat ≤ bitRateMax := by
    rw [NgapMessage.NumbersInRange, NgapMessage.rangedNumbers, List.cons_append, List.cons_append,
      ids_inRange, List.cons_append, List.forall_mem_cons, List.cons_append, List.forall_mem_cons,
      List.nil_append, and_iff_left hlist]
  rw [hrates, bitRates_inRange_iff (by decide) hambr]

theorem numbersInRange_initialContextSetupResponse
    (hdecode : decodeInitialContextSetupResponse entries = .ok msg) : msg.NumbersInRange := by
  obtain ⟨m, _, rfl⟩ := decodeInitialContextSetupResponse_eq_ok_iff.mp hdecode
  rw [NgapMessage.NumbersInRange, NgapMessage.rangedNumbers, List.append_assoc, List.cons_append,
    List.cons_append, ids_inRange, List.nil_append]
  intro number hmem
  rcases List.mem_append.mp hmem with hsetup | hfailed
  · obtain ⟨it, _, rfl⟩ := List.mem_map.mp hsetup
    exact pduSessionId_le it.pduSessionId
  · obtain ⟨id, _, rfl⟩ := List.mem_map.mp hfailed
    exact pduSessionId_le id

theorem numbersInRange_ueContextReleaseCommand
    (hdecode : decodeUeContextReleaseCommand entries = .ok msg) : msg.NumbersInRange := by
  obtain ⟨amf, ran, cause, _, rfl⟩ := decodeUeContextReleaseCommand_eq_ok_iff.mp hdecode
  rw [NgapMessage.NumbersInRange, NgapMessage.rangedNumbers, ids_inRange,
    List.forall_mem_singleton]
  exact cause_le cause

theorem numbersInRange_ueContextReleaseComplete
    (hdecode : decodeUeContextReleaseComplete entries = .ok msg) : msg.NumbersInRange := by
  obtain ⟨m, _, rfl⟩ := decodeUeContextReleaseComplete_eq_ok_iff.mp hdecode
  exact ids_inRange.mpr (List.forall_mem_nil _)

end Messages

/-- The numbers of a decoded message are in their ranges exactly if the bit rates of a setup request
are spelled so. -/
theorem numbersInRange_iff {buf : List UInt8} {msg : NgapMessage}
    (hdecode : decodeNgapPdu buf = .ok msg) : msg.NumbersInRange ↔ AmbrSpelled buf := by
  obtain ⟨choice, procCode, entries, hcontainer, hdecode⟩ := decodeNgapPdu_eq_ok_iff.mp hdecode
  have hother : ¬ (procCode = procInitialContextSetup ∧ choice = pduChoiceInitiatingMessage) →
      AmbrSpelled buf := setupRatesSpelled_of_other hcontainer
  have hnotSetup : procCode ≠ procInitialContextSetup → AmbrSpelled buf :=
    fun hproc => hother fun h => hproc h.1
  unfold decodeProcedure at hdecode
  split_ifs at hdecode with hinitial huplink hdownlink hrequest hresponse hcommand hcomplete
  · exact iff_of_true (numbersInRange_initialUeMessage hdecode)
      (hnotSetup (by rw [hinitial]; decide))
  · exact iff_of_true (numbersInRange_uplinkNasTransport hdecode)
      (hnotSetup (by rw [huplink]; decide))
  · exact iff_of_true (numbersInRange_downlinkNasTransport hdecode)
      (hnotSetup (by rw [hdownlink]; decide))
  · obtain ⟨rfl, rfl⟩ := hrequest
    rw [numbersInRange_initialContextSetupRequest_iff hdecode, AmbrSpelled,
      setupRatesSpelled_iff hcontainer]
  · exact iff_of_true (numbersInRange_initialContextSetupResponse hdecode) (hother hrequest)
  · exact iff_of_true (numbersInRange_ueContextReleaseCommand hdecode) (hother hrequest)
  · exact iff_of_true (numbersInRange_ueContextReleaseComplete hdecode) (hother hrequest)

end Midn.Ngap
