import Midn.Proto.Ranges
import Midn.Proto.S1ap.Framing
import Midn.Proto.S1ap.Reencode

/-!
# Ranges of decoded S1AP numbers

Every number of a decoded message but the two bit rates has a range that uses up its bits, or is
looked up in a table.
-/

namespace Midn.S1ap

open Midn.Per Midn.Per.PerReader Midn.Container

/-- The numbers of a message that have a range, each with its largest value. -/
def S1apMessage.rangedNumbers : S1apMessage → List (Nat × Nat)
  | initialUeMessage m =>
      [(m.enbUeS1apId.toNat, enbUeS1apIdMax), (m.rrcCause.toNat, rrcEstablishmentCauseMax)]
  | downlinkNasTransport m =>
      [(m.mmeUeS1apId.toNat, mmeUeS1apIdMax), (m.enbUeS1apId.toNat, enbUeS1apIdMax)]
  | uplinkNasTransport m =>
      [(m.mmeUeS1apId.toNat, mmeUeS1apIdMax), (m.enbUeS1apId.toNat, enbUeS1apIdMax)]
  | initialContextSetupRequest m =>
      [(m.mmeUeS1apId.toNat, mmeUeS1apIdMax), (m.enbUeS1apId.toNat, enbUeS1apIdMax),
        (m.ueAmbr.1.toNat, bitRateMax), (m.ueAmbr.2.toNat, bitRateMax)] ++
        m.eRabs.flatMap fun e => [(e.erabId.toNat, erabIdMax), (e.qci.toNat, qciMax)]
  | initialContextSetupResponse m =>
      [(m.mmeUeS1apId.toNat, mmeUeS1apIdMax), (m.enbUeS1apId.toNat, enbUeS1apIdMax)] ++
        (m.eRabsSetup.map fun it => (it.eRabId.toNat, erabIdMax)) ++
        m.eRabsFailed.map fun id => (id.toNat, erabIdMax)
  | ueContextReleaseCommand mmeUeS1apId enbUeS1apId cause =>
      [(mmeUeS1apId.toNat, mmeUeS1apIdMax), (enbUeS1apId.toNat, enbUeS1apIdMax),
        (s1apCauseToU64 cause, causeMax)]
  | ueContextReleaseComplete m =>
      [(m.mmeUeS1apId.toNat, mmeUeS1apIdMax), (m.enbUeS1apId.toNat, enbUeS1apIdMax)]
  | _ => []

def S1apMessage.NumbersInRange (msg : S1apMessage) : Prop :=
  ∀ number ∈ msg.rangedNumbers, number.1 ≤ number.2

instance : DecidablePred S1apMessage.NumbersInRange := fun msg =>
  inferInstanceAs (Decidable (∀ number ∈ msg.rangedNumbers, number.1 ≤ number.2))

/-- The bit rates of a setup request are spelled in their range. -/
def AmbrSpelled (buf : List UInt8) : Prop :=
  SetupRatesSpelled procInitialContextSetup idUeAggregateMaximumBitrate bitRateMax buf

/-! ## Numbers that are always in range -/

theorem mmeUeS1apId_le (mmeUeS1apId : UInt32) : mmeUeS1apId.toNat ≤ mmeUeS1apIdMax :=
  Nat.le_of_lt_succ mmeUeS1apId.toNat_lt

theorem qci_le (qci : UInt8) : qci.toNat ≤ qciMax := Nat.le_of_lt_succ qci.toNat_lt

theorem cause_le (cause : S1apCause) : s1apCauseToU64 cause ≤ causeMax := by
  cases cause <;> decide

theorem rrcEstablishmentCause_le {entries : List IeEntry} {rrcCause : UInt8}
    (hassigned : assigned readRrcEstablishmentCause entries idRrcEstablishmentCause =
      some rrcCause) : rrcCause.toNat ≤ rrcEstablishmentCauseMax :=
  number_le_of_assigned (by decide) (Or.inl ⟨4, by decide, rfl⟩) toNat_ofNat_le8 hassigned

/-- An E-RAB id is spelled by four bits. -/
theorem erabId_le {v : Nat} {r r' : PerReader}
    (hread : (readConstrainedInt 0 erabIdMax).run r = some (v, r')) :
    (UInt8.ofNat v).toNat ≤ erabIdMax :=
  (toNat_ofNat_le8 v).trans
    (readUpTo_le_of_wholeCodeSpace (by decide) hread (Or.inl ⟨4, by decide, rfl⟩))

theorem erabId_le_of_toSetup {e : ErabToSetup} {r r' : PerReader}
    (hread : readErabToSetup.run r = some (e, r')) : e.erabId.toNat ≤ erabIdMax := by
  obtain ⟨_, r₁, herabId, hread⟩ := Tape.run_bind_eq_some.mp hread
  obtain ⟨_, r₂, _, hread⟩ := Tape.run_bind_eq_some.mp hread
  obtain ⟨_, r₃, _, hread⟩ := Tape.run_bind_eq_some.mp hread
  obtain ⟨_, r₄, _, hread⟩ := Tape.run_bind_eq_some.mp hread
  obtain ⟨rfl, -⟩ := Tape.run_pure_eq_some.mp hread
  exact erabId_le herabId

theorem erabId_le_of_setup {it : ErabSetupItem} {r r' : PerReader}
    (hread : readErabSetupItem.run r = some (it, r')) : it.eRabId.toNat ≤ erabIdMax := by
  obtain ⟨_, r₁, heRabId, hread⟩ := Tape.run_bind_eq_some.mp hread
  obtain ⟨_, r₂, _, hread⟩ := Tape.run_bind_eq_some.mp hread
  obtain ⟨_, r₃, _, hread⟩ := Tape.run_bind_eq_some.mp hread
  obtain ⟨rfl, -⟩ := Tape.run_pure_eq_some.mp hread
  exact erabId_le heRabId

/-- The two ids at the beginning of a message are in range. -/
theorem ids_inRange {mmeUeS1apId enbUeS1apId : UInt32} (henb : enbUeS1apId.toNat ≤ enbUeS1apIdMax)
    {rest : List (Nat × Nat)} :
    (∀ number ∈ (mmeUeS1apId.toNat, mmeUeS1apIdMax) :: (enbUeS1apId.toNat, enbUeS1apIdMax) :: rest,
      number.1 ≤ number.2) ↔ ∀ number ∈ rest, number.1 ≤ number.2 := by
  rw [List.forall_mem_cons, List.forall_mem_cons, and_iff_right (mmeUeS1apId_le mmeUeS1apId),
    and_iff_right henb]

/-! ## Messages -/

section Messages

variable {entries : List IeEntry} {msg : S1apMessage}

theorem numbersInRange_initialUeMessage (hdecode : decodeInitialUeMessage entries = .ok msg) :
    msg.NumbersInRange := by
  obtain ⟨m, ⟨henb, _, _, _, hcause⟩, rfl⟩ := decodeInitialUeMessage_eq_ok_iff.mp hdecode
  rw [S1apMessage.NumbersInRange, S1apMessage.rangedNumbers, List.forall_mem_cons,
    List.forall_mem_singleton]
  exact ⟨enbUeS1apId_le henb, rrcEstablishmentCause_le hcause⟩

theorem numbersInRange_uplinkNasTransport
    (hdecode : decodeUplinkNasTransport entries = .ok msg) : msg.NumbersInRange := by
  obtain ⟨m, ⟨_, henb, _⟩, rfl⟩ := decodeUplinkNasTransport_eq_ok_iff.mp hdecode
  exact (ids_inRange (enbUeS1apId_le henb)).mpr (List.forall_mem_nil _)

theorem numbersInRange_downlinkNasTransport
    (hdecode : decodeDownlinkNasTransport entries = .ok msg) : msg.NumbersInRange := by
  obtain ⟨m, ⟨_, henb, _⟩, rfl⟩ := decodeDownlinkNasTransport_eq_ok_iff.mp hdecode
  exact (ids_inRange (enbUeS1apId_le henb)).mpr (List.forall_mem_nil _)

/-- A setup request is in range exactly if the element of its bit rates spells two of them. -/
theorem numbersInRange_initialContextSetupRequest_iff
    (hdecode : decodeInitialContextSetupRequest entries = .ok msg) :
    msg.NumbersInRange ↔
      ∀ value ∈ lastReadable (readBitRates bitRateMax)
          (valuesOf entries idUeAggregateMaximumBitrate),
        RatesSpelled bitRateMax value := by
  obtain ⟨m, ⟨_, henb, hambr, _, herabs, _⟩, rfl⟩ :=
    decodeInitialContextSetupRequest_eq_ok_iff.mp hdecode
  have hlist : ∀ number ∈ m.eRabs.flatMap fun e =>
      [(e.erabId.toNat, erabIdMax), (e.qci.toNat, qciMax)],
      number.1 ≤ number.2 := by
    intro number hmem
    obtain ⟨e, he, hnumber⟩ := List.mem_flatMap.mp hmem
    obtain ⟨r, r', hread⟩ := exists_run_of_mem_list herabs e he
    rcases List.mem_pair.mp hnumber with rfl | rfl
    · exact erabId_le_of_toSetup hread
    · exact qci_le e.qci
  have hrates : (S1apMessage.initialContextSetupRequest m).NumbersInRange ↔
      m.ueAmbr.1.toNat ≤ bitRateMax ∧ m.ueAmbr.2.toNat ≤ bitRateMax := by
    rw [S1apMessage.NumbersInRange, S1apMessage.rangedNumbers, List.cons_append, List.cons_append,
      ids_inRange (enbUeS1apId_le henb), List.cons_append, List.forall_mem_cons, List.cons_append,
      List.forall_mem_cons, List.nil_append, and_iff_left hlist]
  rw [hrates, bitRates_inRange_iff (by decide) hambr]

theorem numbersInRange_initialContextSetupResponse
    (hdecode : decodeInitialContextSetupResponse entries = .ok msg) : msg.NumbersInRange := by
  obtain ⟨m, ⟨_, henb, hsetups, hfailures⟩, rfl⟩ :=
    decodeInitialContextSetupResponse_eq_ok_iff.mp hdecode
  rw [S1apMessage.NumbersInRange, S1apMessage.rangedNumbers, List.append_assoc, List.cons_append,
    List.cons_append, ids_inRange (enbUeS1apId_le henb), List.nil_append]
  intro number hmem
  rcases List.mem_append.mp hmem with hsetup | hfailed
  · obtain ⟨it, hit, rfl⟩ := List.mem_map.mp hsetup
    obtain ⟨r, r', hread⟩ := exists_run_of_mem_list hsetups it hit
    exact erabId_le_of_setup hread
  · obtain ⟨id, hid, rfl⟩ := List.mem_map.mp hfailed
    obtain ⟨r, r', hread⟩ := exists_run_of_mem_list hfailures id hid
    obtain ⟨v, hnumber, rfl⟩ := Tape.run_map_eq_some.mp hread
    exact erabId_le hnumber

theorem numbersInRange_ueContextReleaseCommand
    (hdecode : decodeUeContextReleaseCommand entries = .ok msg) : msg.NumbersInRange := by
  obtain ⟨mme, enb, cause, ⟨_, henb, _⟩, rfl⟩ := decodeUeContextReleaseCommand_eq_ok_iff.mp hdecode
  rw [S1apMessage.NumbersInRange, S1apMessage.rangedNumbers, ids_inRange (enbUeS1apId_le henb),
    List.forall_mem_singleton]
  exact cause_le cause

theorem numbersInRange_ueContextReleaseComplete
    (hdecode : decodeUeContextReleaseComplete entries = .ok msg) : msg.NumbersInRange := by
  obtain ⟨m, ⟨_, henb⟩, rfl⟩ := decodeUeContextReleaseComplete_eq_ok_iff.mp hdecode
  exact (ids_inRange (enbUeS1apId_le henb)).mpr (List.forall_mem_nil _)

end Messages

/-- The numbers of a decoded message are in their ranges exactly if the bit rates of a setup request
are spelled so. -/
theorem numbersInRange_iff {buf : List UInt8} {msg : S1apMessage}
    (hdecode : decodeS1apPdu buf = .ok msg) : msg.NumbersInRange ↔ AmbrSpelled buf := by
  obtain ⟨choice, procCode, entries, hcontainer, hdecode⟩ := decodeS1apPdu_eq_ok_iff.mp hdecode
  have hother : ¬ (procCode = procInitialContextSetup ∧ choice = pduChoiceInitiatingMessage) →
      AmbrSpelled buf := setupRatesSpelled_of_other hcontainer
  have hnotSetup : procCode ≠ procInitialContextSetup → AmbrSpelled buf :=
    fun hproc => hother fun h => hproc h.1
  unfold decodeProcedure at hdecode
  split_ifs at hdecode with hinitial huplink hdownlink hrequest hresponse hcommand hcomplete
  · exact iff_of_true (numbersInRange_initialUeMessage hdecode)
      (hnotSetup (by rw [hinitial]; decide))
  · exact iff_of_true (numbersInRange_uplinkNasTransport hdecode)
      (hnotSetup (by rw [huplink]; decide))
  · exact iff_of_true (numbersInRange_downlinkNasTransport hdecode)
      (hnotSetup (by rw [hdownlink]; decide))
  · obtain ⟨rfl, rfl⟩ := hrequest
    rw [numbersInRange_initialContextSetupRequest_iff hdecode, AmbrSpelled,
      setupRatesSpelled_iff hcontainer]
  · exact iff_of_true (numbersInRange_initialContextSetupResponse hdecode) (hother hrequest)
  · exact iff_of_true (numbersInRange_ueContextReleaseCommand hdecode) (hother hrequest)
  · exact iff_of_true (numbersInRange_ueContextReleaseComplete hdecode) (hother hrequest)

end Midn.S1ap
