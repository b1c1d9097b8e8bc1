import Mathlib.Algebra.Order.BigOperators.Group.Finset

/-!
# Systems of many life cycles

A party of a system goes through the stages of a life cycle of its own. A system of many parties
refines the family of their life cycles if each of its events takes at most one party to a next
stage and leaves the others where they are, in whatever order the events come. Stages that come
closer to the end then bound how much can happen, and a system in which something can always
happen comes to its end.
-/

namespace Family

/-! ## Families -/

section Moves

variable {ι α : Type} [Fintype ι] {rank : α → Nat} {f : ι → α}

/-- What is left of all life cycles together. -/
def left (rank : α → Nat) (f : ι → α) : Nat := ∑ i, rank (f i)

theorem left_const (stage : α) :
    left rank (fun _ : ι => stage) = Fintype.card ι * rank stage := by
  rw [left, Finset.sum_const_nat fun _ _ => rfl, Finset.card_univ]

theorem left_le {n : Nat} (hrank : ∀ i, rank (f i) ≤ n) : left rank f ≤ Fintype.card ι * n := by
  rw [← Finset.card_univ, ← Finset.sum_const_nat (f := fun _ => n) fun _ _ => rfl]
  exact Finset.sum_le_sum fun i _ => hrank i

theorem left_mono {g : ι → α} (hrank : ∀ i, rank (g i) ≤ rank (f i)) : left rank g ≤ left rank f :=
  Finset.sum_le_sum fun i _ => hrank i

variable [DecidableEq ι]

theorem left_update_add (rank : α → Nat) (f : ι → α) (i : ι) (stage : α) :
    left rank (Function.update f i stage) + rank (f i) = left rank f + rank stage := by
  have hothers : ∑ j ∈ Finset.univ.erase i, rank (Function.update f i stage j) =
      ∑ j ∈ Finset.univ.erase i, rank (f j) := by
    refine Finset.sum_congr rfl fun j hj => ?_
    rw [Function.update_of_ne (Finset.ne_of_mem_erase hj)]
  have hafter := Finset.add_sum_erase Finset.univ
    (fun j => rank (Function.update f i stage j)) (Finset.mem_univ i)
  have hbefore := Finset.add_sum_erase Finset.univ (fun j => rank (f j)) (Finset.mem_univ i)
  simp only [Function.update_self] at hafter
  simp only [left]
  omega

theorem left_update_of_eq {i : ι} {stage : α} (hrank : rank stage = rank (f i)) :
    left rank (Function.update f i stage) = left rank f := by
  have hsum := left_update_add rank f i stage
  omega

/-- One party goes on to a next stage, or none does. -/
inductive Moves (next : α → α → Prop) (f : ι → α) : (ι → α) → Prop
  | stay : Moves next f f
  | party (i : ι) (stage : α) (hnext : next (f i) stage) : Moves next f (Function.update f i stage)

end Moves

/-! ## Tables -/

section Tables

variable {ι κ α : Type} [DecidableEq κ] (key : ι → κ) (value : ι → α)

/-- A table to which the parties are added in order, each under its key. -/
def fill (parties : List ι) (table : κ → α) : κ → α :=
  parties.foldl (fun table i => Function.update table (key i) (value i)) table

variable {key value} {parties : List ι}

theorem fill_cons (i : ι) (table : κ → α) :
    fill key value (i :: parties) table =
      fill key value parties (Function.update table (key i) (value i)) := rfl

/-- What is found under a key was there before, or was added for a party with that key. -/
theorem fill_cases (table : κ → α) (k : κ) :
    fill key value parties table k = table k ∨
      ∃ i, key i = k ∧ fill key value parties table k = value i := by
  induction parties generalizing table with
  | nil => exact Or.inl rfl
  | cons i parties ih =>
      rw [fill_cons]
      rcases ih (Function.update table (key i) (value i)) with hbefore | hadded
      · rcases eq_or_ne k (key i) with rfl | hne
        · rw [Function.update_self] at hbefore
          exact Or.inr ⟨i, rfl, hbefore⟩
        · rw [Function.update_of_ne hne] at hbefore
          exact Or.inl hbefore
      · exact Or.inr hadded

/-- A party is found under its key, unless another one with that key has a different value. -/
theorem fill_of_mem {i : ι} (hmem : i ∈ parties) (hsame : ∀ j, key j = key i → value j = value i)
    (table : κ → α) : fill key value parties table (key i) = value i := by
  induction parties generalizing table with
  | nil => cases hmem
  | cons j parties ih =>
      rw [fill_cons]
      rcases List.mem_cons.mp hmem with rfl | hrest
      · rcases fill_cases (Function.update table (key i) (value i)) (key i) with
          hbefore | ⟨j, hkey, hadded⟩
        · rw [hbefore, Function.update_self]
        · rw [hadded, hsame j hkey]
      · exact ih hrest _

end Tables

/-! ## Entries of the parties -/

section Entries

variable {ι κ ρ : Type} {entry : ι → Option (κ × ρ)} {table : κ → Option ρ}

/-- The table holds the entries of the parties, and nothing else. -/
def Tabulates (entry : ι → Option (κ × ρ)) (table : κ → Option ρ) : Prop :=
  ∀ k r, table k = some r ↔ ∃ i, entry i = some (k, r)

theorem Tabulates.found (htable : Tabulates entry table) {i : ι} {k : κ} {r : ρ}
    (hentry : entry i = some (k, r)) : table k = some r :=
  (htable k r).mpr ⟨i, hentry⟩

variable [DecidableEq ι] [DecidableEq κ] {i : ι} {k : κ}

/-- A party replaces the entry it has under a key of its own. -/
theorem Tabulates.replace (htable : Tabulates entry table)
    (hmine : ∀ k' r', entry i = some (k', r') → k' = k)
    (hothers : ∀ j, j ≠ i → ∀ r', entry j ≠ some (k, r')) (new : Option ρ) :
    Tabulates (Function.update entry i (new.map (Prod.mk k))) (Function.update table k new) := by
  intro k' r'
  constructor
  · intro hfound
    rcases eq_or_ne k' k with rfl | hne
    · rw [Function.update_self] at hfound
      exact ⟨i, by rw [Function.update_self, hfound, Option.map_some]⟩
    · rw [Function.update_of_ne hne] at hfound
      obtain ⟨j, hentry⟩ := (htable k' r').mp hfound
      refine ⟨j, ?_⟩
      have hother : j ≠ i := by
        rintro rfl
        exact hne (hmine k' r' hentry)
      rw [Function.update_of_ne hother, hentry]
  · rintro ⟨j, hentry⟩
    rcases eq_or_ne j i with rfl | hne
    · rw [Function.update_self] at hentry
      obtain ⟨r, hnew, heq⟩ := Option.map_eq_some_iff.mp hentry
      cases heq
      rw [Function.update_self, hnew]
    · rw [Function.update_of_ne hne] at hentry
      have hother : k' ≠ k := by
        rintro rfl
        exact hothers j hne r' hentry
      rw [Function.update_of_ne hother]
      exact htable.found hentry

end Entries

/-! ## Systems -/

section Systems

variable {σ ε : Type} (step : σ → ε → σ)

/-- The state after a schedule of events. -/
def run (s : σ) (events : List ε) : σ := events.foldl step s

variable {step} {s : σ}

theorem run_append (events more : List ε) :
    run step s (events ++ more) = run step (run step s events) more :=
  List.foldl_append

/-- What holds at first and is kept by each event holds after every schedule. -/
theorem run_invariant (inv : σ → Prop) (hinit : inv s) (hstep : ∀ s e, inv s → inv (step s e))
    (events : List ε) : inv (run step s events) := by
  induction events generalizing s with
  | nil => exact hinit
  | cons e events ih => exact ih (hstep s e hinit)

variable (step) in
/-- How many events of a schedule count. -/
def counted (counts : σ → ε → Bool) : σ → List ε → Nat
  | _, [] => 0
  | s, e :: events => (if counts s e then 1 else 0) + counted counts (step s e) events

/-- A bound that no event raises and that every event which counts lowers is a bound on the events
that count in any schedule. -/
theorem counted_le {counts : σ → ε → Bool} (bounded : σ → Nat → Prop)
    (hstep : ∀ s e n, bounded s n →
      ∃ n', bounded (step s e) n' ∧ n' + (if counts s e then 1 else 0) ≤ n)
    {n : Nat} (hinit : bounded s n) (events : List ε) : counted step counts s events ≤ n := by
  induction events generalizing s n with
  | nil => exact Nat.zero_le n
  | cons e events ih =>
      obtain ⟨n', hbounded, hle⟩ := hstep s e n hinit
      have hrest := ih hbounded
      rw [counted]
      omega

variable (step) in
/-- If a state that is not at its end can always come closer to it, there is a schedule to the
end. -/
theorem exists_run_of_decreasing (bounded : σ → Nat → Prop) (done : σ → Prop)
    (hstep : ∀ s n, bounded s n → ¬ done s →
      ∃ events n', bounded (run step s events) n' ∧ n' < n)
    {n : Nat} (hinit : bounded s n) : ∃ events n', bounded (run step s events) n' ∧
      done (run step s events) := by
  induction n using Nat.strong_induction_on generalizing s with
  | _ n ih =>
      by_cases hdone : done s
      · exact ⟨[], n, hinit, hdone⟩
      · obtain ⟨events, n', hbounded, hlt⟩ := hstep s n hinit hdone
        obtain ⟨more, m, hbounded', hdone'⟩ := ih n' hlt hbounded
        refine ⟨events ++ more, m, ?_, ?_⟩
        · rw [run_append]
          exact hbounded'
        · rw [run_append]
          exact hdone'

end Systems

end Family
