import Midn.Proto.Ngap.Slots
import Midn.Proto.S1ap.Slots

/-!
# The order of elements

Elements with distinct ids are decoded in any order, with any criticalities, and among any elements
whose ids the message does not use.
-/

namespace Midn

open Container

/-- PDUs of one choice and procedure code are decoded alike, into the same message or with the same
error, if the container of one is that of the other rearranged. -/
theorem decode_rearranged {buf buf' : List UInt8} {choice : Nat} {procCode : UInt32}
    {entries entries' : List IeEntry}
    (hcontainer : containerOf buf = some (choice, procCode, entries))
    (hcontainer' : containerOf buf' = some (choice, procCode, entries'))
    (hnodup : (entries.map fun e => e.id).Nodup) :
    (Rearranged ((Ngap.slots choice procCode).map Slot.id) entries entries' →
      Ngap.decodeNgapPdu buf' = Ngap.decodeNgapPdu buf) ∧
    (Rearranged ((S1ap.slots choice procCode).map Slot.id) entries entries' →
      S1ap.decodeS1apPdu buf' = S1ap.decodeS1apPdu buf) := by
  constructor
  · intro hrearranged
    rw [Ngap.decodeNgapPdu_of_containerOf hcontainer, Ngap.decodeNgapPdu_of_containerOf hcontainer']
    exact Ngap.decodeProcedure_congr (hrearranged.sameFor hnodup)
  · intro hrearranged
    rw [S1ap.decodeS1apPdu_of_containerOf hcontainer, S1ap.decodeS1apPdu_of_containerOf hcontainer']
    exact S1ap.decodeProcedure_congr (hrearranged.sameFor hnodup)

/-- A release confirmation of each protocol, and the same in another order, with other criticalities
and an element of an id it does not use. -/
def ngapReleased : List UInt8 :=
  [74, 80, 17, 2, 0, 10, 64, 4, 0, 0, 0, 1, 0, 85, 64, 4, 0, 0, 0, 2]

def ngapReleasedRearranged : List UInt8 :=
  [74, 80, 22, 3, 0, 85, 0, 4, 0, 0, 0, 2, 0, 99, 64, 1, 7, 0, 10, 128, 4, 0, 0, 0, 1]

def s1apReleased : List UInt8 :=
  [69, 208, 16, 2, 0, 0, 64, 4, 0, 0, 0, 1, 0, 8, 64, 3, 0, 0, 2]

def s1apReleasedRearranged : List UInt8 :=
  [69, 208, 21, 3, 0, 8, 0, 3, 0, 0, 2, 0, 99, 64, 1, 7, 0, 0, 128, 4, 0, 0, 0, 1]

theorem released_rearranged :
    Ngap.decodeNgapPdu ngapReleasedRearranged = Ngap.decodeNgapPdu ngapReleased ∧
      S1ap.decodeS1apPdu s1apReleasedRearranged = S1ap.decodeS1apPdu s1apReleased := by
  have hngap : containerOf ngapReleased =
      some (1, 41, [⟨10, 1, [0, 0, 0, 1]⟩, ⟨85, 1, [0, 0, 0, 2]⟩]) := by decide +kernel
  have hngap' : containerOf ngapReleasedRearranged =
      some (1, 41, [⟨85, 0, [0, 0, 0, 2]⟩, ⟨99, 1, [7]⟩, ⟨10, 2, [0, 0, 0, 1]⟩]) := by
    decide +kernel
  have hs1ap : containerOf s1apReleased =
      some (1, 23, [⟨0, 1, [0, 0, 0, 1]⟩, ⟨8, 1, [0, 0, 2]⟩]) := by decide +kernel
  have hs1ap' : containerOf s1apReleasedRearranged =
      some (1, 23, [⟨8, 0, [0, 0, 2]⟩, ⟨99, 1, [7]⟩, ⟨0, 2, [0, 0, 0, 1]⟩]) := by
    decide +kernel
  constructor
  · apply (decode_rearranged hngap hngap' (by decide)).1
    exact ⟨[⟨99, 1, [7]⟩], by decide, by decide⟩
  · apply (decode_rearranged hs1ap hs1ap' (by decide)).2
    exact ⟨[⟨99, 1, [7]⟩], by decide, by decide⟩

end Midn
