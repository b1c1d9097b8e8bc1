import Mathlib.Algebra.GroupWithZero.Nat
import Mathlib.Data.List.Induction
import Mathlib.Logic.Function.Basic
import Mathlib.Algebra.Order.BigOperators.Group.List

/-!
# Runs of deterministic reactive machines

A machine is a step function from a state and an input to a state and an output. A run is the
list of its transitions, and a temporal law is a predicate on a transition together with the
transitions before it. The rules below reduce a law of every run to obligations on one step,
either outright or relative to a condition that every step of the run meets.
-/

namespace Mealy

/-- One step of a machine, with the states around it. -/
structure Transition (σ ι ο : Type) where
  pre : σ
  input : ι
  post : σ
  output : ο

variable {σ ι ο : Type} (step : σ → ι → σ × ο)

/-- The transition taken from a state on an input. -/
def transition (s : σ) (i : ι) : Transition σ ι ο :=
  ⟨s, i, (step s i).1, (step s i).2⟩

/-- The transitions of the run that consumes the inputs in order. -/
def run (s : σ) : List ι → List (Transition σ ι ο)
  | [] => []
  | i :: inputs => transition step s i :: run (step s i).1 inputs

/-- The law holds at every transition of the run, given the transitions before it. -/
def Always (s : σ) (inputs : List ι)
    (law : List (Transition σ ι ο) → Transition σ ι ο → Prop) : Prop :=
  ∀ past t future, run step s inputs = past ++ t :: future → law past t

variable {step} {s : σ} {inputs : List ι}

/-- Every element of a run is a transition of the machine. -/
theorem run_mem_eq_transition {t : Transition σ ι ο} (hmem : t ∈ run step s inputs) :
    t = transition step t.pre t.input := by
  induction inputs generalizing s with
  | nil => cases hmem
  | cons i inputs ih =>
      rcases List.mem_cons.mp hmem with rfl | hmem
      · rfl
      · exact ih hmem

/-- What every step on a fed input puts out, every step of a run on fed inputs puts out. -/
theorem forall_mem_run (fed : ι → Prop) (property : ο → Prop)
    (hstep : ∀ s i, fed i → property (step s i).2) (hfed : ∀ i ∈ inputs, fed i) :
    ∀ t ∈ run step s inputs, property t.output := by
  induction inputs generalizing s with
  | nil => exact List.forall_mem_nil _
  | cons i inputs ih =>
      obtain ⟨hfirst, hrest⟩ := List.forall_mem_cons.mp hfed
      exact List.forall_mem_cons.mpr ⟨hstep s i hfirst, ih hrest⟩

theorem run_split_eq_transition {past future : List (Transition σ ι ο)} {t : Transition σ ι ο}
    (hrun : run step s inputs = past ++ t :: future) : t = transition step t.pre t.input := by
  have hmem : t ∈ run step s inputs := by
    rw [hrun]
    exact List.mem_append_right past List.mem_cons_self
  exact run_mem_eq_transition hmem

/-- The first transition of a run leaves its initial state. -/
theorem run_head_pre {t : Transition σ ι ο} {future : List (Transition σ ι ο)}
    (hrun : run step s inputs = t :: future) : t.pre = s := by
  cases inputs with
  | nil => cases hrun
  | cons i inputs =>
      cases hrun
      rfl

/-- Each transition of a run leaves the state the one before it reached. -/
theorem run_consecutive {past future : List (Transition σ ι ο)} {t next : Transition σ ι ο}
    (hrun : run step s inputs = past ++ t :: next :: future) : next.pre = t.post := by
  induction past generalizing s inputs with
  | nil =>
      cases inputs with
      | nil => cases hrun
      | cons i inputs =>
          obtain ⟨rfl, htail⟩ := List.cons.inj hrun
          exact run_head_pre htail
  | cons first past ih =>
      cases inputs with
      | nil => cases hrun
      | cons i inputs => exact ih (List.cons.inj hrun).2

theorem Always.mono {law law' : List (Transition σ ι ο) → Transition σ ι ο → Prop}
    (halways : Always step s inputs law) (himp : ∀ past t, law past t → law' past t) :
    Always step s inputs law' :=
  fun past t future hrun => himp past t (halways past t future hrun)

theorem Always.and {law law' : List (Transition σ ι ο) → Transition σ ι ο → Prop}
    (halways : Always step s inputs law) (halways' : Always step s inputs law') :
    Always step s inputs fun past t => law past t ∧ law' past t :=
  fun past t future hrun => ⟨halways past t future hrun, halways' past t future hrun⟩

@[simp] theorem always_nil {law : List (Transition σ ι ο) → Transition σ ι ο → Prop} :
    Always step s [] law := by
  intro past t future hrun
  cases past <;> cases hrun

/-- A law of a run is a law of its first transition and of the rest of the run. -/
theorem always_cons {law : List (Transition σ ι ο) → Transition σ ι ο → Prop} {i : ι} :
    Always step s (i :: inputs) law ↔
      law [] (transition step s i) ∧
        Always step (step s i).1 inputs fun past t => law (transition step s i :: past) t := by
  constructor
  · intro halways
    refine ⟨halways [] _ _ rfl, ?_⟩
    intro past t future hrun
    exact halways (_ :: past) t future (congrArg (List.cons _) hrun)
  · rintro ⟨hfirst, hrest⟩ past t future hrun
    cases past with
    | nil =>
        cases hrun
        exact hfirst
    | cons first past =>
        obtain ⟨rfl, htail⟩ := List.cons.inj hrun
        exact hrest past t future htail

/-! ## Past operators -/

section Past

variable {begins : List (Transition σ ι ο) → Transition σ ι ο → Prop}
  {start later stop : Transition σ ι ο → Prop} {past : List (Transition σ ι ο)}

/-- A property of a split of the past at a transition with nothing stopping after it is a
property of the last transition or of a split of the rest. -/
theorem exists_split_append_singleton {t : Transition σ ι ο} :
    (∃ before u after, past ++ [t] = before ++ u :: after ∧ begins before u ∧
        ∀ v ∈ after, ¬ stop v) ↔
      begins past t ∨
        (∃ before u after, past = before ++ u :: after ∧ begins before u ∧
          ∀ v ∈ after, ¬ stop v) ∧ ¬ stop t := by
  constructor
  · rintro ⟨before, u, after, hpast, hbegins, hstop⟩
    rcases List.eq_nil_or_concat after with rfl | ⟨after, last, rfl⟩
    · obtain ⟨hinit, hlast⟩ := List.append_inj' hpast rfl
      cases hlast
      subst hinit
      exact Or.inl hbegins
    · rw [List.concat_eq_append, ← List.cons_append, ← List.append_assoc] at hpast
      obtain ⟨hinit, hlast⟩ := List.append_inj' hpast rfl
      cases hlast
      rw [List.concat_eq_append] at hstop
      refine Or.inr ⟨⟨before, u, after, hinit, hbegins, ?_⟩, hstop t (by simp)⟩
      exact fun v hmem => hstop v (List.mem_append_left _ hmem)
  · rintro (hbegins | ⟨⟨before, u, after, rfl, hbegins, hstop⟩, hnot⟩)
    · exact ⟨past, t, [], rfl, hbegins, fun u hmem => absurd hmem List.not_mem_nil⟩
    · refine ⟨before, u, after ++ [t], by simp, hbegins, ?_⟩
      intro v hmem
      rcases List.mem_append.mp hmem with hmem | hmem
      · exact hstop v hmem
      · rw [List.mem_singleton.mp hmem]
        exact hnot

/-- Something started in the past and nothing after it stopped it. -/
def Since (start stop : Transition σ ι ο → Prop) (past : List (Transition σ ι ο)) : Prop :=
  ∃ before t after, past = before ++ t :: after ∧ start t ∧ ∀ u ∈ after, ¬ stop u

/-- Something started in the past, something else came later, and nothing stopped it in between
or after. -/
def SinceThen (start later stop : Transition σ ι ο → Prop) (past : List (Transition σ ι ο)) :
    Prop :=
  ∃ before t after, past = before ++ t :: after ∧
    (Since start stop before ∧ later t ∧ ¬ stop t) ∧ ∀ u ∈ after, ¬ stop u

/-- One more transition starts it anew, or leaves it standing if it does not stop it. -/
theorem since_append_singleton {t : Transition σ ι ο} :
    Since start stop (past ++ [t]) ↔ start t ∨ Since start stop past ∧ ¬ stop t :=
  exists_split_append_singleton

theorem sinceThen_append_singleton {t : Transition σ ι ο} :
    SinceThen start later stop (past ++ [t]) ↔
      (Since start stop past ∧ later t ∧ ¬ stop t) ∨
        SinceThen start later stop past ∧ ¬ stop t :=
  exists_split_append_singleton

/-- A transition that neither starts nor stops it changes nothing. -/
theorem since_append_of_neither {t : Transition σ ι ο} (hstart : ¬ start t) (hstop : ¬ stop t) :
    Since start stop (past ++ [t]) ↔ Since start stop past := by
  rw [since_append_singleton]
  constructor
  · rintro (h | ⟨hsince, _⟩)
    · exact absurd h hstart
    · exact hsince
  · exact fun hsince => Or.inr ⟨hsince, hstop⟩

/-- A transition that stops it without starting it ends it. -/
theorem not_since_append_of_stop {t : Transition σ ι ο} (hstart : ¬ start t) (hstop : stop t) :
    ¬ Since start stop (past ++ [t]) := by
  rw [since_append_singleton]
  rintro (h | ⟨_, hnot⟩)
  · exact hstart h
  · exact hnot hstop

end Past

/-! ## Last writes -/

section Writes

variable {κ ν : Type}

/-- The last write under a key was one of the value. -/
def LastWrote (written : Transition σ ι ο → Option (κ × ν)) (k : κ) (v : ν) :
    List (Transition σ ι ο) → Prop :=
  Since (fun t => written t = some (k, v)) fun t => ∃ v', written t = some (k, v')

theorem not_lastWrote_nil {written : Transition σ ι ο → Option (κ × ν)} {k : κ} {v : ν} :
    ¬ LastWrote written k v [] := by
  rintro ⟨before, t, after, hpast, -⟩
  exact List.append_ne_nil_of_right_ne_nil before (List.cons_ne_nil t after) hpast.symm

variable [DecidableEq κ]

/-- A table after at most one write. -/
def write (table : κ → ν) : Option (κ × ν) → κ → ν
  | none => table
  | some (k, v) => Function.update table k v

/-- A table that changes by the writes alone has under a key the value that was last written. -/
theorem lastWrote_append_singleton_iff {written : Transition σ ι ο → Option (κ × ν)}
    (table : σ → κ → ν) {past : List (Transition σ ι ο)} {t : Transition σ ι ο} {k : κ} {v : ν}
    (hpast : LastWrote written k v past ↔ table t.pre k = v)
    (hwrite : table t.post = write (table t.pre) (written t)) :
    LastWrote written k v (past ++ [t]) ↔ table t.post k = v := by
  rw [hwrite]
  have hneither : (∀ v', written t ≠ some (k, v')) →
      (LastWrote written k v (past ++ [t]) ↔ LastWrote written k v past) := by
    intro hother
    apply since_append_of_neither (hother v)
    rintro ⟨v', hv'⟩
    exact hother v' hv'
  cases hwritten : written t with
  | none =>
      have hother : ∀ v', written t ≠ some (k, v') := by
        intro v' hv'
        rw [hwritten] at hv'
        cases hv'
      exact (hneither hother).trans hpast
  | some entry =>
      obtain ⟨k', v'⟩ := entry
      by_cases hkey : k' = k
      · subst hkey
        rw [write, Function.update_self, LastWrote, since_append_singleton]
        constructor
        · rintro (hlast | ⟨_, hnot⟩)
          · rw [hwritten] at hlast
            cases hlast
            rfl
          · exact absurd ⟨v', hwritten⟩ hnot
        · rintro rfl
          exact Or.inl hwritten
      · have hother : ∀ v'', written t ≠ some (k, v'') := by
          intro v'' hv''
          rw [hwritten] at hv''
          cases hv''
          exact hkey rfl
        rw [write, Function.update_of_ne (Ne.symm hkey)]
        exact (hneither hother).trans hpast

end Writes

section Invariant

variable (invariant : List (Transition σ ι ο) → σ → Prop)
  {condition law : List (Transition σ ι ο) → Transition σ ι ο → Prop}

/-- An invariant of the history and the state that every step meeting the condition preserves
holds before every transition of a run whose steps all meet the condition. -/
theorem invariant_before
    (hinit : invariant [] s)
    (hstep : ∀ past s i, invariant past s → condition past (transition step s i) →
      invariant (past ++ [transition step s i]) (step s i).1)
    (hcondition : Always step s inputs condition) :
    ∀ past t future, run step s inputs = past ++ t :: future → invariant past t.pre := by
  intro past
  induction past using List.reverseRecOn with
  | nil =>
      intro t future hrun
      rw [run_head_pre hrun]
      exact hinit
  | append_singleton past last ih =>
      intro t future hrun
      rw [List.append_assoc, List.singleton_append] at hrun
      have hlast := run_split_eq_transition hrun
      have hmet := hcondition past last _ hrun
      have hpre := ih last _ hrun
      rw [run_consecutive hrun]
      rw [hlast] at hmet ⊢
      exact hstep past _ _ hpre hmet

/-- A law that every step meeting the condition satisfies under the invariant is a law of every
run whose steps all meet the condition. -/
theorem always_of_invariant
    (hinit : invariant [] s)
    (hstep : ∀ past s i, invariant past s → condition past (transition step s i) →
      invariant (past ++ [transition step s i]) (step s i).1)
    (hlocal : ∀ past s i, invariant past s → condition past (transition step s i) →
      law past (transition step s i))
    (hcondition : Always step s inputs condition) :
    Always step s inputs law := by
  intro past t future hrun
  have hpre := invariant_before invariant hinit hstep hcondition past t future hrun
  have ht := run_split_eq_transition hrun
  have hmet := hcondition past t future hrun
  rw [ht] at hmet ⊢
  exact hlocal past _ _ hpre hmet

/-- When the law and the condition agree on each step that the invariant allows, a run obeys the
law exactly when all its steps meet the condition. -/
theorem always_iff_of_invariant
    (hinit : invariant [] s)
    (hstep : ∀ past s i, invariant past s → condition past (transition step s i) →
      invariant (past ++ [transition step s i]) (step s i).1)
    (hlocal : ∀ past s i, invariant past s →
      (law past (transition step s i) ↔ condition past (transition step s i))) :
    Always step s inputs law ↔ Always step s inputs condition := by
  constructor
  · refine always_of_invariant invariant hinit ?_ ?_
    · exact fun past s i hpre hlaw => hstep past s i hpre ((hlocal past s i hpre).mp hlaw)
    · exact fun past s i hpre hlaw => (hlocal past s i hpre).mp hlaw
  · refine always_of_invariant invariant hinit hstep ?_
    exact fun past s i hpre hmet => (hlocal past s i hpre).mpr hmet

end Invariant

/-- The cost of the transitions up to a point never exceeds the cost of the whole run. -/
theorem always_cost_le (cost : Transition σ ι ο → Nat) :
    Always step s inputs fun past t =>
      ((past ++ [t]).map cost).sum ≤ ((run step s inputs).map cost).sum := by
  intro past t future hrun
  rw [hrun]
  simp only [List.map_append, List.map_cons, List.map_nil, List.sum_append, List.sum_cons,
    List.sum_nil]
  omega

/-- A run whose steps cost at most one each costs at most its length. -/
theorem cost_run_le_length {cost : Transition σ ι ο → Nat}
    (hcost : ∀ s i, cost (transition step s i) ≤ 1) (s : σ) (inputs : List ι) :
    ((run step s inputs).map cost).sum ≤ inputs.length := by
  induction inputs generalizing s with
  | nil => exact le_refl _
  | cons i inputs ih =>
      have hfirst := hcost s i
      have hrest := ih (step s i).1
      simp only [run, List.map_cons, List.sum_cons, List.length_cons]
      omega

/-! ## States of a run -/

/-- The states a run passes through, the initial one first. -/
def states (step : σ → ι → σ × ο) (s : σ) (inputs : List ι) : List σ :=
  s :: (run step s inputs).map Transition.post

/-- A property of all states of a run is one of the initial state and of every state a step
leads to. -/
theorem forall_mem_states {property : σ → Prop} :
    (∀ m ∈ states step s inputs, property m) ↔
      property s ∧ Always step s inputs fun _ t => property t.post := by
  rw [states, List.forall_mem_cons, List.forall_mem_map]
  apply and_congr_right
  intro _
  constructor
  · intro hall past t future hrun
    apply hall
    rw [hrun]
    exact List.mem_append_right past List.mem_cons_self
  · intro halways t hmem
    obtain ⟨past, future, hrun⟩ := List.append_of_mem hmem
    exact halways past t future hrun

/-- The state at the end of a run. -/
def after (step : σ → ι → σ × ο) (s : σ) (inputs : List ι) : σ :=
  inputs.foldl (fun s i => (step s i).1) s

/-- A run goes on from where the run of its first inputs ends. -/
theorem run_append (s : σ) (first second : List ι) :
    run step s (first ++ second) = run step s first ++ run step (after step s first) second := by
  induction first generalizing s with
  | nil => rfl
  | cons i first ih =>
      rw [List.cons_append, run, run, ih (step s i).1, List.cons_append]
      rfl

/-- The law holds of the last step of a run, after the run of all inputs but the last. -/
theorem Always.last {law : List (Transition σ ι ο) → Transition σ ι ο → Prop} {i : ι}
    (halways : Always step s (inputs ++ [i]) law) :
    law (run step s inputs) (transition step (after step s inputs) i) :=
  halways _ _ [] (run_append ..)

theorem after_nil (s : σ) : after step s [] = s := rfl

theorem after_cons (s : σ) (i : ι) (inputs : List ι) :
    after step s (i :: inputs) = after step (step s i).1 inputs := rfl

theorem after_concat (s : σ) (inputs : List ι) (i : ι) :
    after step s (inputs ++ [i]) = (step (after step s inputs) i).1 :=
  List.foldl_append ..

theorem after_mem_states (s : σ) (inputs : List ι) :
    after step s inputs ∈ states step s inputs := by
  induction inputs generalizing s with
  | nil => exact List.mem_cons_self
  | cons i inputs ih => exact List.mem_cons_of_mem s (ih (step s i).1)

/-- What holds at first and is preserved by every step holds at the end of a run. -/
theorem after_of_step {property : σ → Prop} (hinit : property s)
    (hstep : ∀ s i, property s → property (step s i).1) : property (after step s inputs) := by
  induction inputs generalizing s with
  | nil => exact hinit
  | cons i inputs ih => exact ih (hstep s i hinit)

/-- What one input preserves, counting how often it came, its repetition preserves. -/
theorem after_replicate {property : Nat → σ → Prop} {i : ι} (hinit : property 0 s)
    (hstep : ∀ k s, property k s → property (k + 1) (step s i).1) (k : Nat) :
    property k (after step s (List.replicate k i)) := by
  induction k with
  | zero => exact hinit
  | succ k ih =>
      rw [List.replicate_succ', after_concat]
      exact hstep k _ ih

/-- When a step from a state with the property leads to one with the property exactly if it meets
a condition, all states of a run have it exactly if all its steps meet the condition. -/
theorem forall_mem_states_iff (invariant : σ → Prop) {property : σ → Prop}
    {condition : Transition σ ι ο → Prop} (hinvariant : invariant s) (hproperty : property s)
    (hstep : ∀ s i, invariant s → property s → condition (transition step s i) →
      invariant (step s i).1)
    (hlocal : ∀ s i, invariant s → property s →
      (property (step s i).1 ↔ condition (transition step s i))) :
    (∀ m ∈ states step s inputs, property m) ↔ Always step s inputs fun _ t => condition t := by
  rw [forall_mem_states, and_iff_right hproperty]
  refine always_iff_of_invariant (fun _ s => invariant s ∧ property s) ⟨hinvariant, hproperty⟩ ?_ ?_
  · intro _ s i hpre hmet
    exact ⟨hstep s i hpre.1 hpre.2 hmet, (hlocal s i hpre.1 hpre.2).mpr hmet⟩
  · intro _ s i hpre
    exact hlocal s i hpre.1 hpre.2

/-! ## Simulation -/

section Simulation

variable {σ' ι' ο' : Type} {step' : σ' → ι' → σ' × ο'} {view : σ → σ'} {act : σ → ι → ι'}
  {obs : ο → ο'}

/-- What another machine sees of a transition. -/
def Transition.map (view : σ → σ') (act : σ → ι → ι') (obs : ο → ο') (t : Transition σ ι ο) :
    Transition σ' ι' ο' :=
  ⟨view t.pre, act t.pre t.input, view t.post, obs t.output⟩

/-- When each step of one machine is seen as a step of another, so is each run. -/
theorem run_map (hsim : ∀ s i, step' (view s) (act s i) = (view (step s i).1, obs (step s i).2))
    (s : σ) (inputs : List ι) :
    run step' (view s) ((run step s inputs).map fun t => act t.pre t.input) =
      (run step s inputs).map (Transition.map view act obs) := by
  induction inputs generalizing s with
  | nil => rfl
  | cons i inputs ih =>
      rw [run, List.map_cons, List.map_cons, run]
      congr 1
      · simp only [transition, Transition.map, hsim]
      · rw [← ih (step s i).1]
        simp only [transition, hsim]

/-- A law of the runs of the machine that is seen is a law of the runs of the one that is run. -/
theorem Always.of_map {law : List (Transition σ' ι' ο') → Transition σ' ι' ο' → Prop}
    (hsim : ∀ s i, step' (view s) (act s i) = (view (step s i).1, obs (step s i).2))
    (halways : Always step' (view s) ((run step s inputs).map fun t => act t.pre t.input) law) :
    Always step s inputs fun past t =>
      law (past.map (Transition.map view act obs)) (t.map view act obs) := by
  intro past t future hrun
  apply halways _ _ (future.map (Transition.map view act obs))
  rw [run_map hsim, hrun, List.map_append, List.map_cons]

theorem Always.map {law : List (Transition σ' ι' ο') → Transition σ' ι' ο' → Prop}
    (hsim : ∀ s i, step' (view s) (act s i) = (view (step s i).1, obs (step s i).2))
    (halways : Always step s inputs fun past t =>
      law (past.map (Transition.map view act obs)) (t.map view act obs)) :
    Always step' (view s) ((run step s inputs).map fun t => act t.pre t.input) law := by
  intro past t future hrun
  rw [run_map hsim] at hrun
  obtain ⟨past, rest, hsplit, rfl, hrest⟩ := List.map_eq_append_iff.mp hrun
  obtain ⟨t, future, rfl, rfl, rfl⟩ := List.map_eq_cons_iff.mp hrest
  exact halways past t future hsplit

end Simulation

/-- Machines in related states that answer every input alike and stay related answer a whole run
alike and stay related along it. -/
theorem forall₂_run {τ : Type} {step' : τ → ι → τ × ο} {related : σ → τ → Prop}
    (hstep : ∀ s s' i, related s s' →
      (step s i).2 = (step' s' i).2 ∧ related (step s i).1 (step' s' i).1)
    {s : σ} {s' : τ} (hrelated : related s s') (inputs : List ι) :
    List.Forall₂ (fun t t' => t.output = t'.output ∧ related t.post t'.post)
      (run step s inputs) (run step' s' inputs) := by
  induction inputs generalizing s s' with
  | nil => exact .nil
  | cons i inputs ih =>
      have hfirst := hstep s s' i hrelated
      exact .cons hfirst (ih hfirst.2)

/-- The same for inputs that are fed to them: whoever sees the outputs alone cannot tell them
apart. -/
theorem outputs_run_eq {τ : Type} {step' : τ → ι → τ × ο} (related : σ → τ → Prop)
    (fed : ι → Prop)
    (hstep : ∀ s s' i, related s s' → fed i →
      (step s i).2 = (step' s' i).2 ∧ related (step s i).1 (step' s' i).1)
    {s : σ} {s' : τ} (hrelated : related s s') {inputs : List ι} (hfed : ∀ i ∈ inputs, fed i) :
    (run step s inputs).map Transition.output = (run step' s' inputs).map Transition.output := by
  induction inputs generalizing s s' with
  | nil => rfl
  | cons i inputs ih =>
      obtain ⟨hfirst, hrest⟩ := List.forall_mem_cons.mp hfed
      obtain ⟨houtput, hnext⟩ := hstep s s' i hrelated hfirst
      rw [run, run, List.map_cons, List.map_cons, ih hnext hrest]
      exact congrArg (· :: _) houtput

/-! ## Composition -/

/-- A machine whose outputs are fed into a store. -/
def feeding {τ : Type} (step : σ → ι → σ × ο) (feed : τ → ο → τ) (s : σ × τ) (i : ι) :
    (σ × τ) × ο :=
  (((step s.1 i).1, feed s.2 (step s.1 i).2), (step s.1 i).2)

/-- The store has no influence on the machine. -/
theorem after_feeding_fst {τ : Type} (feed : τ → ο → τ) (s : σ × τ) (inputs : List ι) :
    (after (feeding step feed) s inputs).1 = after step s.1 inputs := by
  induction inputs generalizing s with
  | nil => rfl
  | cons i inputs ih =>
      rw [after_cons, after_cons, ih]
      rfl

end Mealy
