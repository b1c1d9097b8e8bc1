import Midn.Proto.Ngap.Slots
import Midn.Proto.S1ap.Slots

/-!
# Elements that are lost

Decoding fails without a mandatory element, and so also when the only one cannot be read. An
optional element or a list that cannot be read leaves its variable as it is, and the message
is accepted without it. No decoder asks whether an element goes on after what it has read.
-/

namespace Midn

open Container

/-- Of the elements that octets were accepted with, none is lost exactly when none has octets left
over and the optional ones, the lists and those that come more than once can be read; and all are
kept, also those that another one of their id comes after, exactly when none has octets left over,
the optional ones and the lists can be read and elements of one id read the same. -/
theorem accepted_noneLost_iff (buf : List UInt8) :
    (∀ msg, Ngap.decodeNgapPdu buf = .ok msg → ∃ choice procCode entries,
      containerOf buf = some (choice, procCode, entries) ∧
      (NoneLost (Ngap.slots choice procCode) entries msg ↔
        NoneLeftOver (Ngap.slots choice procCode) entries ∧
          SpareReadable (Ngap.slots choice procCode) entries) ∧
      (AllKept (Ngap.slots choice procCode) entries msg ↔
        NoneLeftOver (Ngap.slots choice procCode) entries ∧
          OptionalReadable (Ngap.slots choice procCode) entries)) ∧
    (∀ msg, S1ap.decodeS1apPdu buf = .ok msg → ∃ choice procCode entries,
      containerOf buf = some (choice, procCode, entries) ∧
      (NoneLost (S1ap.slots choice procCode) entries msg ↔
        NoneLeftOver (S1ap.slots choice procCode) entries ∧
          SpareReadable (S1ap.slots choice procCode) entries) ∧
      (AllKept (S1ap.slots choice procCode) entries msg ↔
        NoneLeftOver (S1ap.slots choice procCode) entries ∧
          OptionalReadable (S1ap.slots choice procCode) entries)) := by
  constructor
  · intro msg hdecode
    obtain ⟨choice, procCode, entries, hcontainer, hdecode⟩ := Ngap.containerOf_of_decode hdecode
    have hfilled := Ngap.allFilled_of_decode hdecode
    exact ⟨choice, procCode, entries, hcontainer, noneLost_iff hfilled, allKept_iff hfilled⟩
  · intro msg hdecode
    obtain ⟨choice, procCode, entries, hcontainer, hdecode⟩ := S1ap.containerOf_of_decode hdecode
    have hfilled := S1ap.allFilled_of_decode hdecode
    exact ⟨choice, procCode, entries, hcontainer, noneLost_iff hfilled, allKept_iff hfilled⟩

/-- A list of one PDU session is read to its end. -/
example : leftOver Ngap.readPduSessionsSetup [1, 5, 127, 0, 0, 2, 0xAA, 0xBB, 0xCC, 0xDD] =
    some 0 := by
  decide +kernel

/-- An NGAP setup response whose list has one PDU session, of which nothing follows. -/
def ngapTruncatedList : List UInt8 :=
  [67, 128, 22, 3, 0, 10, 0, 4, 0, 0, 0, 1, 0, 85, 0, 4, 0, 0, 0, 2, 0, 72, 64, 1, 1]

/-- An NGAP setup response whose list has no PDU session, but goes on. -/
def ngapOverlongList : List UInt8 :=
  [67, 128, 26, 3, 0, 10, 0, 4, 0, 0, 0, 1, 0, 85, 0, 4, 0, 0, 0, 2, 0, 72, 64, 5, 0, 1, 2, 3, 4]

/-- An S1AP setup response whose list has one E-RAB, of which nothing follows. -/
def s1apTruncatedList : List UInt8 :=
  [66, 64, 21, 3, 0, 0, 0, 4, 0, 0, 0, 1, 0, 8, 0, 3, 0, 0, 2, 0, 51, 0, 1, 1]

/-- An S1AP setup response whose list has no E-RAB, but goes on. -/
def s1apOverlongList : List UInt8 :=
  [66, 64, 25, 3, 0, 0, 0, 4, 0, 0, 0, 1, 0, 8, 0, 3, 0, 0, 2, 0, 51, 0, 5, 0, 1, 2, 3, 4]

theorem containerOf_ngapTruncatedList : containerOf ngapTruncatedList =
    some (1, 14, [⟨10, 0, [0, 0, 0, 1]⟩, ⟨85, 0, [0, 0, 0, 2]⟩, ⟨72, 1, [1]⟩]) := by
  decide +kernel

theorem containerOf_ngapOverlongList : containerOf ngapOverlongList =
    some (1, 14, [⟨10, 0, [0, 0, 0, 1]⟩, ⟨85, 0, [0, 0, 0, 2]⟩, ⟨72, 1, [0, 1, 2, 3, 4]⟩]) := by
  decide +kernel

theorem containerOf_s1apTruncatedList : containerOf s1apTruncatedList =
    some (1, 9, [⟨0, 0, [0, 0, 0, 1]⟩, ⟨8, 0, [0, 0, 2]⟩, ⟨51, 0, [1]⟩]) := by
  decide +kernel

theorem containerOf_s1apOverlongList : containerOf s1apOverlongList =
    some (1, 9, [⟨0, 0, [0, 0, 0, 1]⟩, ⟨8, 0, [0, 0, 2]⟩, ⟨51, 0, [0, 1, 2, 3, 4]⟩]) := by
  decide +kernel

theorem decode_ngapTruncatedList : Ngap.decodeNgapPdu ngapTruncatedList =
    .ok (.initialContextSetupResponse ⟨1, 2, [], []⟩) := by
  rw [Ngap.decodeNgapPdu_of_containerOf containerOf_ngapTruncatedList]
  rfl

theorem decode_ngapOverlongList : Ngap.decodeNgapPdu ngapOverlongList =
    .ok (.initialContextSetupResponse ⟨1, 2, [], []⟩) := by
  rw [Ngap.decodeNgapPdu_of_containerOf containerOf_ngapOverlongList]
  rfl

theorem decode_s1apTruncatedList : S1ap.decodeS1apPdu s1apTruncatedList =
    .ok (.initialContextSetupResponse ⟨1, 2, [], []⟩) := by
  rw [S1ap.decodeS1apPdu_of_containerOf containerOf_s1apTruncatedList]
  rfl

theorem decode_s1apOverlongList : S1ap.decodeS1apPdu s1apOverlongList =
    .ok (.initialContextSetupResponse ⟨1, 2, [], []⟩) := by
  rw [S1ap.decodeS1apPdu_of_containerOf containerOf_s1apOverlongList]
  rfl

theorem truncatedList_noneLost_iff :
    (∃ choice procCode entries,
      containerOf ngapTruncatedList = some (choice, procCode, entries) ∧
      (NoneLost (Ngap.slots choice procCode) entries
          (.initialContextSetupResponse ⟨1, 2, [], []⟩) ↔
        NoneLeftOver (Ngap.slots choice procCode) entries ∧
          SpareReadable (Ngap.slots choice procCode) entries) ∧
      (AllKept (Ngap.slots choice procCode) entries
          (.initialContextSetupResponse ⟨1, 2, [], []⟩) ↔
        NoneLeftOver (Ngap.slots choice procCode) entries ∧
          OptionalReadable (Ngap.slots choice procCode) entries)) ∧
    (∃ choice procCode entries,
      containerOf s1apOverlongList = some (choice, procCode, entries) ∧
      (NoneLost (S1ap.slots choice procCode) entries
          (.initialContextSetupResponse ⟨1, 2, [], []⟩) ↔
        NoneLeftOver (S1ap.slots choice procCode) entries ∧
          SpareReadable (S1ap.slots choice procCode) entries) ∧
      (AllKept (S1ap.slots choice procCode) entries
          (.initialContextSetupResponse ⟨1, 2, [], []⟩) ↔
        NoneLeftOver (S1ap.slots choice procCode) entries ∧
          OptionalReadable (S1ap.slots choice procCode) entries)) :=
  ⟨(accepted_noneLost_iff ngapTruncatedList).1 _ decode_ngapTruncatedList,
    (accepted_noneLost_iff s1apOverlongList).2 _ decode_s1apOverlongList⟩

/-- A list that is not read from beginning to end is lost, also when the message is accepted. -/
theorem not_noneLost_of_leftOver {μ : Type} {slots : List (Slot μ)} {entries : List IeEntry}
    {msg : μ} {slot : Slot μ} (hslot : slot ∈ slots) {value : List UInt8}
    (hvalue : value ∈ valuesOf entries slot.id) (hleft : leftOver slot.read value ≠ some 0) :
    ¬ NoneLost slots entries msg :=
  fun hnone => hleft ((hnone slot hslot).1 value hvalue)

/-- All four setup responses are accepted with the empty list, in which the element is lost. -/
theorem truncatedList_lost :
    (∀ buf ∈ [ngapTruncatedList, ngapOverlongList], ∃ msg choice procCode entries,
      Ngap.decodeNgapPdu buf = .ok msg ∧ containerOf buf = some (choice, procCode, entries) ∧
      ¬ NoneLost (Ngap.slots choice procCode) entries msg) ∧
    (∀ buf ∈ [s1apTruncatedList, s1apOverlongList], ∃ msg choice procCode entries,
      S1ap.decodeS1apPdu buf = .ok msg ∧ containerOf buf = some (choice, procCode, entries) ∧
      ¬ NoneLost (S1ap.slots choice procCode) entries msg) := by
  have hngap : Ngap.pduSessionsSetupSlot ∈ Ngap.slots 1 14 := .tail _ (.tail _ (.head _))
  have hs1ap : S1ap.eRabsSetupSlot ∈ S1ap.slots 1 9 := .tail _ (.tail _ (.head _))
  constructor
  · rw [List.forall_mem_cons, List.forall_mem_singleton]
    constructor
    · refine ⟨_, _, _, _, decode_ngapTruncatedList, containerOf_ngapTruncatedList, ?_⟩
      exact not_noneLost_of_leftOver hngap (.head _) (by decide)
    · refine ⟨_, _, _, _, decode_ngapOverlongList, containerOf_ngapOverlongList, ?_⟩
      exact not_noneLost_of_leftOver hngap (.head _) (by decide)
  · rw [List.forall_mem_cons, List.forall_mem_singleton]
    constructor
    · refine ⟨_, _, _, _, decode_s1apTruncatedList, containerOf_s1apTruncatedList, ?_⟩
      exact not_noneLost_of_leftOver hs1ap (.head _) (by decide)
    · refine ⟨_, _, _, _, decode_s1apOverlongList, containerOf_s1apOverlongList, ?_⟩
      exact not_noneLost_of_leftOver hs1ap (.head _) (by decide)

end Midn
