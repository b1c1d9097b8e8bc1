import Mathlib.Algebra.BigOperators.Group.Finset.Basic
import Mathlib.Data.Fintype.BigOperators
import Midn.Lib.Mealy

/-!
# Ledgers

The entries of a finite map weighed and added up. Writing an entry moves the total by what comes in
less what goes out, and a machine whose steps balance balances over every run.
-/

namespace Ledger

section Total

variable {κ ν M : Type} [Fintype κ] [AddCommMonoid M]

/-- The weight of an entry, nothing if there is none. -/
def weigh (w : ν → M) (entry : Option ν) : M := (entry.map w).getD 0

/-- The weight of all entries of a map. -/
def total (w : ν → M) (entries : κ → Option ν) : M := ∑ k, weigh w (entries k)

theorem total_empty (w : ν → M) : total w (fun _ : κ => none) = 0 := Finset.sum_const_zero

/-- Weights that agree on the entries have the same total. -/
theorem total_congr {w w' : ν → M} {entries : κ → Option ν}
    (hsame : ∀ k v, entries k = some v → w v = w' v) : total w entries = total w' entries := by
  apply Finset.sum_congr rfl
  intro k _
  cases hentry : entries k with
  | none => rfl
  | some v => exact hsame k v hentry

/-- Nothing weighs anything if the total is nothing. -/
theorem eq_zero_of_total {w : ν → Nat} {entries : κ → Option ν} (htotal : total w entries = 0)
    {k : κ} {v : ν} (hentry : entries k = some v) : w v = 0 := by
  have hweigh := Finset.sum_eq_zero_iff.mp htotal k (Finset.mem_univ k)
  rwa [hentry] at hweigh

/-- The entry that is written comes in, and the one that was there goes out. -/
theorem total_update [DecidableEq κ] (w : ν → M) (entries : κ → Option ν) (k : κ)
    (entry : Option ν) :
    total w (Function.update entries k entry) + weigh w (entries k) =
      total w entries + weigh w entry := by
  have hothers : ∑ k' ∈ Finset.univ.erase k, weigh w (Function.update entries k entry k') =
      ∑ k' ∈ Finset.univ.erase k, weigh w (entries k') := by
    apply Finset.sum_congr rfl
    intro k' hk'
    rw [Function.update_of_ne (Finset.ne_of_mem_erase hk')]
  rw [total, total, ← Finset.add_sum_erase _ _ (Finset.mem_univ k),
    ← Finset.add_sum_erase _ (fun k' => weigh w (entries k')) (Finset.mem_univ k), hothers,
    Function.update_self]
  exact add_right_comm _ _ _ |>.trans (by rw [add_comm (weigh w entry), add_right_comm])

end Total

/-- What has come in over a run is still there or has gone out. -/
theorem sum_run {σ ι ο M : Type} [AddCommMonoid M] {step : σ → ι → σ × ο} (total : σ → M)
    (inflow outflow : Mealy.Transition σ ι ο → M)
    (hstep : ∀ s i, total (step s i).1 + outflow (Mealy.transition step s i) =
      total s + inflow (Mealy.transition step s i)) (s : σ) (inputs : List ι) :
    total (Mealy.after step s inputs) + ((Mealy.run step s inputs).map outflow).sum =
      total s + ((Mealy.run step s inputs).map inflow).sum := by
  induction inputs generalizing s with
  | nil => rfl
  | cons i inputs ih =>
      have hrest := ih (step s i).1
      rw [Mealy.after_cons, Mealy.run, List.map_cons, List.map_cons, List.sum_cons, List.sum_cons,
        add_left_comm, hrest, ← add_assoc, add_comm (outflow _), hstep, add_assoc]

end Ledger
