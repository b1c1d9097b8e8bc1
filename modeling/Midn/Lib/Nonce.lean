import Mathlib.Data.List.Nodup
import Midn.Lib.Mealy

/-!
# Counters under a key

A slot of a machine holds a key and the next value of a 32-bit counter under it. Each step keeps
the slot, installs a key into an empty slot and uses value zero at once, uses the next value, or
ends the slot. As long as the counter does not wrap, the values used under the key of a slot are
then exactly the ones below its counter, so that no pair of key and value is used twice.
-/

namespace Nonce

variable {κ : Type}

/-- The first counter values under a key. -/
def firstUses (key : κ) (n : Nat) : List (κ × UInt32) :=
  (List.range n).map fun i => (key, UInt32.ofNat i)

@[simp] theorem length_firstUses (key : κ) (n : Nat) : (firstUses key n).length = n := by
  rw [firstUses, List.length_map, List.length_range]

theorem firstUses_succ (key : κ) (n : Nat) :
    firstUses key (n + 1) = firstUses key n ++ [(key, UInt32.ofNat n)] := by
  simp only [firstUses, List.range_succ, List.map_append, List.map_singleton]

theorem firstUses_nodup (key : κ) {n : Nat} (hbound : n ≤ 2 ^ 32) : (firstUses key n).Nodup := by
  apply List.Nodup.map_on
  · intro i hi j hj hpair
    have hvalue := congrArg UInt32.toNat (Prod.ext_iff.mp hpair).2
    simp only [UInt32.toNat_ofNat'] at hvalue
    rw [List.mem_range] at hi hj
    omega
  · exact List.nodup_range

/-- What a step that does not end a slot may do to it, with the pairs it uses. -/
inductive Move (pre post : Option (κ × UInt32)) (used : List (κ × UInt32)) : Prop
  | keep (hpost : post = pre) (hused : used = [])
  | install (key : κ) (hpre : pre = none) (hpost : post = some (key, 1)) (hused : used = [(key, 0)])
  | use (key : κ) (next : UInt32) (hpre : pre = some (key, next))
      (hpost : post = some (key, next + 1)) (hused : used = [(key, next)])

section Machine

variable {σ ι ο : Type} {step : σ → ι → σ × ο}
  (slot : σ → Option (κ × UInt32)) (used : Mealy.Transition σ ι ο → List (κ × UInt32))
  (ended : Mealy.Transition σ ι ο → Prop) [DecidablePred ended]

/-- The pairs used since the slot last ended. -/
def log (past : List (Mealy.Transition σ ι ο)) : List (κ × UInt32) :=
  past.foldl (fun log t => if ended t then [] else log ++ used t) []

theorem log_append_singleton (past : List (Mealy.Transition σ ι ο)) (t : Mealy.Transition σ ι ο) :
    log used ended (past ++ [t]) =
      if ended t then [] else log used ended past ++ used t := by
  rw [log, List.foldl_append]
  rfl

/-- The log is exactly the counter values the slot has left behind. -/
structure Agrees (past : List (Mealy.Transition σ ι ο)) (held : Option (κ × UInt32)) : Prop where
  empty : held = none → log used ended past = []
  held : ∀ key next, held = some (key, next) →
    log used ended past = firstUses key next.toNat

variable {slot used ended} {past : List (Mealy.Transition σ ι ο)}

/-- One move keeps the log and the slot in agreement, short of a wrap of the counter. -/
theorem Agrees.append {pre post : Option (κ × UInt32)} {t : Mealy.Transition σ ι ο}
    (hpre : Agrees used ended past pre) (hended : ended t → post = none)
    (hmove : ¬ ended t → Move pre post (used t))
    (hroom : (log used ended past).length + (used t).length < 2 ^ 32) :
    Agrees used ended (past ++ [t]) post := by
  have hlog := log_append_singleton used ended past t
  by_cases hend : ended t
  · rw [if_pos hend] at hlog
    refine ⟨fun _ => hlog, fun key next hsome => ?_⟩
    rw [hended hend] at hsome
    cases hsome
  · rw [if_neg hend] at hlog
    cases hmove hend with
    | keep hpost hused =>
        rw [hused, List.append_nil] at hlog
        refine ⟨fun hnone => ?_, fun key next hsome => ?_⟩
        · rw [hlog, hpre.empty (hpost.symm.trans hnone)]
        · rw [hlog, hpre.held key next (hpost.symm.trans hsome)]
    | install key hnone hpost hused =>
        rw [hused, hpre.empty hnone, List.nil_append] at hlog
        refine ⟨fun hpost' => ?_, fun key' next hsome => ?_⟩
        · rw [hpost] at hpost'
          cases hpost'
        · rw [hpost] at hsome
          cases hsome
          exact hlog
    | use key next hheld hpost hused =>
        have hbefore := hpre.held key next hheld
        rw [hbefore, hused, length_firstUses, List.length_singleton] at hroom
        have hnext : (next + 1).toNat = next.toNat + 1 := by
          rw [UInt32.toNat_add]
          exact Nat.mod_eq_of_lt hroom
        rw [hused, hbefore] at hlog
        refine ⟨fun hpost' => ?_, fun key' next' hsome => ?_⟩
        · rw [hpost] at hpost'
          cases hpost'
        · rw [hpost] at hsome
          cases hsome
          rw [hlog, hnext, firstUses_succ, UInt32.ofNat_toNat]

/-- A log in agreement with its slot has no pair twice. -/
theorem Agrees.nodup {held : Option (κ × UInt32)} (hagrees : Agrees used ended past held) :
    (log used ended past).Nodup := by
  cases hslot : held with
  | none => rw [hagrees.empty hslot]; exact List.nodup_nil
  | some pair =>
      rw [hagrees.held pair.1 pair.2 hslot]
      exact firstUses_nodup pair.1 (Nat.le_of_lt pair.2.toNat_lt)

/-- A log that a transition extends pays for it. -/
theorem length_log_append_le {t : Mealy.Transition σ ι ο} (cost : Mealy.Transition σ ι ο → Nat)
    (hpast : (log used ended past).length ≤ (past.map cost).sum)
    (hcost : (used t).length ≤ cost t) :
    (log used ended (past ++ [t])).length ≤ ((past ++ [t]).map cost).sum := by
  rw [log_append_singleton, List.map_append, List.sum_append, List.map_singleton,
    List.sum_singleton]
  split
  · exact Nat.zero_le _
  · rw [List.length_append]
    exact Nat.add_le_add hpast hcost

/-- When every step that meets a condition makes a move and the run is short, the pairs used in
the life of the slot are all different, up to and including each step. -/
theorem always_log_nodup {s : σ} {inputs : List ι} (cost : Mealy.Transition σ ι ο → Nat)
    {condition : Mealy.Transition σ ι ο → Prop} (slot : σ → Option (κ × UInt32))
    (hinit : slot s = none)
    (hended : ∀ s i, ended (Mealy.transition step s i) → slot (step s i).1 = none)
    (hmove : ∀ s i, condition (Mealy.transition step s i) →
      ¬ ended (Mealy.transition step s i) →
      Move (slot s) (slot (step s i).1) (used (Mealy.transition step s i)))
    (hcost : ∀ s i, (used (Mealy.transition step s i)).length ≤ cost (Mealy.transition step s i))
    (hshort : ((Mealy.run step s inputs).map cost).sum < 2 ^ 32)
    (hcondition : Mealy.Always step s inputs fun _ t => condition t) :
    Mealy.Always step s inputs fun past t => (log used ended (past ++ [t])).Nodup := by
  have hadvance : ∀ past s i, Agrees used ended past (slot s) →
      (log used ended past).length ≤ (past.map cost).sum →
      condition (Mealy.transition step s i) →
      ((past ++ [Mealy.transition step s i]).map cost).sum < 2 ^ 32 →
      Agrees used ended (past ++ [Mealy.transition step s i]) (slot (step s i).1) := by
    intro past s i hagrees hlength hmet hpaid
    refine hagrees.append (hended s i) (hmove s i hmet) ?_
    rw [List.map_append, List.sum_append, List.map_singleton, List.sum_singleton] at hpaid
    exact lt_of_le_of_lt (Nat.add_le_add hlength (hcost s i)) hpaid
  have hpaid : Mealy.Always step s inputs fun past t =>
      ((past ++ [t]).map cost).sum < 2 ^ 32 :=
    (Mealy.always_cost_le cost).mono fun past t hle => lt_of_le_of_lt hle hshort
  refine Mealy.always_of_invariant
    (fun past s => Agrees used ended past (slot s) ∧
      (log used ended past).length ≤ (past.map cost).sum) ?_ ?_ ?_ (hcondition.and hpaid)
  · refine ⟨⟨fun _ => rfl, fun key next hsome => ?_⟩, Nat.zero_le _⟩
    rw [hinit] at hsome
    cases hsome
  · rintro past s i ⟨hagrees, hlength⟩ ⟨hmet, hpaid⟩
    exact ⟨hadvance past s i hagrees hlength hmet hpaid,
      length_log_append_le cost hlength (hcost s i)⟩
  · rintro past s i ⟨hagrees, hlength⟩ ⟨hmet, hpaid⟩
    exact (hadvance past s i hagrees hlength hmet hpaid).nodup
end Machine

end Nonce
