import Mathlib.Computability.Language
import Mathlib.Logic.Function.Basic
import Midn.Lib.Mealy

/-!
# Pools of identifiers

A pool lends identifiers to owners, the ones given back first and the last of them first, else
the next of a counter. An owner that takes a second identifier forgets the one it had. As long as
the counter does not wrap, no identifier is lent twice; and none is lost exactly when no owner
takes a second one.
-/

namespace Pool

open Computability

/-! ## The life of an identifier -/

/-- What is done with an identifier. -/
inductive Use where
  | opened | updated | closed
deriving DecidableEq, Repr

/-- One loan from its beginning to its end. -/
def session : Language Use := {[.opened]} * {[.updated]}∗ * {[.closed]}

/-- Any number of loans, one after the other. -/
def sessions : Language Use := session∗

/-- Any number of loans and one that has not ended. -/
def running : Language Use := sessions * ({[.opened]} * {[.updated]}∗)

theorem mem_running_of_opened {w : List Use} (hw : w ∈ sessions) : w ++ [.opened] ∈ running := by
  refine Language.append_mem_mul hw ?_
  rw [← List.append_nil [Use.opened]]
  exact Language.append_mem_mul rfl (Language.nil_mem_kstar _)

theorem mem_running_of_updated {w : List Use} (hw : w ∈ running) : w ++ [.updated] ∈ running := by
  have hmore : running * {[.updated]} ≤ running := by
    rw [running, mul_assoc, mul_assoc]
    exact mul_le_mul_right (mul_le_mul_right kstar_mul_le_kstar _) _
  exact hmore (Language.append_mem_mul hw rfl)

theorem mem_sessions_of_closed {w : List Use} (hw : w ∈ running) : w ++ [.closed] ∈ sessions := by
  have hend : running * {[.closed]} ≤ sessions := by
    rw [running, mul_assoc]
    exact kstar_mul_le_kstar
  exact hend (Language.append_mem_mul hw rfl)

/-! ## The pool -/

/-- The counter, the identifiers given back, and what each owner holds. -/
structure State (κ ι : Type) where
  next : ι
  free : List ι
  held : κ → Option ι

/-- What an owner can do. -/
inductive Action (κ : Type) where
  | stay
  | take (k : κ)
  | touch (k : κ)
  | give (k : κ)

variable {κ ι : Type}

def new (base : ι) : State κ ι := ⟨base, [], fun _ => none⟩

section Step

variable [DecidableEq κ] (bump : ι → ι)

/-- The identifier lent next, and the counter and the free list after it. -/
def State.alloc (s : State κ ι) : ι × ι × List ι :=
  match s.free with
  | id :: free => (id, s.next, free)
  | [] => (s.next, bump s.next, [])

def step (s : State κ ι) : Action κ → State κ ι × List (ι × Use)
  | .stay => (s, [])
  | .take k =>
      let (id, next, free) := s.alloc bump
      (⟨next, free, Function.update s.held k (some id)⟩, [(id, .opened)])
  | .touch k =>
      match s.held k with
      | some id => (s, [(id, .updated)])
      | none => (s, [])
  | .give k =>
      match s.held k with
      | some id => (⟨s.next, id :: s.free, Function.update s.held k none⟩, [(id, .closed)])
      | none => (s, [])

/-- A step uses at most one identifier. -/
theorem length_step_le (s : State κ ι) (a : Action κ) : (step bump s a).2.length ≤ 1 := by
  cases a with
  | stay => exact Nat.zero_le 1
  | take k => exact le_refl 1
  | touch k => cases hheld : s.held k <;> simp [step, hheld]
  | give k => cases hheld : s.held k <;> simp [step, hheld]

end Step

section Invariant

variable [LinearOrder ι] {base : ι} {s : State κ ι}

/-- The identifiers ever lent: those between the base and the counter. -/
def State.Minted (base : ι) (s : State κ ι) (id : ι) : Prop := base ≤ id ∧ id < s.next

/-- The identifiers at large: lent and not given back. -/
def State.Lent (base : ι) (s : State κ ι) (id : ι) : Prop := s.Minted base id ∧ id ∉ s.free

/-- No two owners hold the same identifier, and none holds a free one. -/
structure State.Distinct (s : State κ ι) : Prop where
  held_inj : ∀ {k k' id}, s.held k = some id → s.held k' = some id → k = k'
  held_not_free : ∀ {k id}, s.held k = some id → id ∉ s.free

/-- Nothing is held or free that was not lent before, and nothing is in two places. -/
structure State.Owned (base : ι) (s : State κ ι) : Prop extends s.Distinct where
  base_le : base ≤ s.next
  free_minted : ∀ {id}, id ∈ s.free → s.Minted base id
  free_nodup : s.free.Nodup
  held_minted : ∀ {k id}, s.held k = some id → s.Minted base id

/-- Every identifier ever lent is in exactly one place: once in the free list, or with exactly
one owner. -/
def State.Conserved (base : ι) (s : State κ ι) : Prop :=
  ∀ id, s.Minted base id →
    (s.free.count id = 1 ∧ ∀ k, s.held k ≠ some id) ∨
      (s.free.count id = 0 ∧ ∃! k, s.held k = some id)

theorem owned_new : (new base : State κ ι).Owned base where
  held_inj := by
    intro k k' id hheld
    cases hheld
  held_not_free := by
    intro k id hheld
    cases hheld
  base_le := le_refl base
  free_minted := by
    intro id hmem
    cases hmem
  free_nodup := List.nodup_nil
  held_minted := by
    intro k id hheld
    cases hheld

theorem conserved_new : (new base : State κ ι).Conserved base := by
  intro id hminted
  exact absurd (lt_of_le_of_lt hminted.1 hminted.2) (lt_irrefl _)

theorem State.Owned.lent (hs : s.Owned base) {k : κ} {id : ι} (hheld : s.held k = some id) :
    s.Lent base id :=
  ⟨hs.held_minted hheld, hs.held_not_free hheld⟩

/-- Conservation says that whatever is at large has an owner. -/
theorem State.Owned.conserved_iff (hs : s.Owned base) :
    s.Conserved base ↔ ∀ id, s.Lent base id → ∃ k, s.held k = some id := by
  constructor
  · intro hconserved id hlent
    rcases hconserved id hlent.1 with ⟨hcount, _⟩ | ⟨_, k, hheld, _⟩
    · exact absurd (List.count_pos_iff.mp (by omega)) hlent.2
    · exact ⟨k, hheld⟩
  · intro hholder id hminted
    by_cases hfree : id ∈ s.free
    · refine Or.inl ⟨List.count_eq_one_of_mem hs.free_nodup hfree, ?_⟩
      intro k hheld
      exact hs.held_not_free hheld hfree
    · obtain ⟨k, hheld⟩ := hholder id ⟨hminted, hfree⟩
      refine Or.inr ⟨List.count_eq_zero_of_not_mem hfree, k, hheld, ?_⟩
      intro k' hheld'
      exact hs.held_inj hheld' hheld

/-! ## One step -/

/-- The counter moves to the successor as long as it does not wrap. -/
def Successor (bump : ι → ι) : Prop := ∀ x, x ≤ bump x → ∀ y, y < bump x ↔ y ≤ x

variable {bump : ι → ι}

/-- The identifier lent next was not at large, and no other one changes place. -/
structure State.AllocSpec (bump : ι → ι) (base : ι) (s : State κ ι) : Prop where
  not_lent : ¬ s.Lent base (s.alloc bump).1
  le_next : s.next ≤ (s.alloc bump).2.1
  minted_iff : ∀ id, base ≤ id ∧ id < (s.alloc bump).2.1 ↔
    s.Minted base id ∨ id = (s.alloc bump).1
  mem_free_iff : ∀ id, id ∈ s.free ↔ id ∈ (s.alloc bump).2.2 ∨
    id = (s.alloc bump).1 ∧ s.Minted base id
  not_mem_free : (s.alloc bump).1 ∉ (s.alloc bump).2.2
  free_nodup : (s.alloc bump).2.2.Nodup

theorem State.Owned.allocSpec (hbump : Successor bump) (hs : s.Owned base)
    (hroom : s.next ≤ (s.alloc bump).2.1) : s.AllocSpec bump base := by
  cases hfree : s.free with
  | nil =>
      -- the counter hands out a new identifier, which was never lent
      have halloc : s.alloc bump = (s.next, bump s.next, []) := by simp only [alloc, hfree]
      have hunminted : ¬ s.Minted base s.next := fun hminted => lt_irrefl _ hminted.2
      rw [halloc] at hroom
      constructor
      · rw [halloc]
        exact fun hlent => hunminted hlent.1
      · rwa [halloc]
      · intro id
        rw [halloc, hbump _ hroom]
        constructor
        · rintro ⟨hbase, hle⟩
          rcases lt_or_eq_of_le hle with hlt | heq
          · exact Or.inl ⟨hbase, hlt⟩
          · exact Or.inr heq
        · rintro (⟨hbase, hlt⟩ | rfl)
          · exact ⟨hbase, le_of_lt hlt⟩
          · exact ⟨hs.base_le, le_refl _⟩
      · intro id
        rw [halloc, hfree]
        constructor
        · intro hmem
          cases hmem
        · rintro (hmem | ⟨rfl, hminted⟩)
          · exact hmem
          · exact absurd hminted hunminted
      · rw [halloc]
        exact List.not_mem_nil
      · rw [halloc]
        exact List.nodup_nil
  | cons first rest =>
      -- an identifier that came back is lent again, and the counter stays
      have halloc : s.alloc bump = (first, s.next, rest) := by simp only [alloc, hfree]
      have hnodup := List.nodup_cons.mp (hfree ▸ hs.free_nodup)
      have hfirst : first ∈ s.free := by
        rw [hfree]
        exact List.mem_cons_self
      have hminted := hs.free_minted hfirst
      constructor
      · rw [halloc]
        exact fun hlent => hlent.2 hfirst
      · rw [halloc]
      · intro id
        rw [halloc]
        constructor
        · exact Or.inl
        · rintro (hmem | rfl)
          · exact hmem
          · exact hminted
      · intro id
        rw [halloc, hfree, List.mem_cons]
        constructor
        · rintro (rfl | hmem)
          · exact Or.inr ⟨rfl, hminted⟩
          · exact Or.inl hmem
        · rintro (hmem | ⟨rfl, _⟩)
          · exact Or.inr hmem
          · exact Or.inl rfl
      · rw [halloc]
        exact hnodup.1
      · rw [halloc]
        exact hnodup.2

variable [DecidableEq κ]

/-- A loan adds one identifier to those at large. -/
theorem State.AllocSpec.lent_iff (hspec : s.AllocSpec bump base) (k : κ) (id : ι) :
    (step bump s (.take k)).1.Lent base id ↔ s.Lent base id ∨ id = (s.alloc bump).1 := by
  simp only [Lent, Minted, step, hspec.minted_iff]
  rcases eq_or_ne id (s.alloc bump).1 with rfl | hne
  · constructor
    · exact fun _ => Or.inr rfl
    · exact fun _ => ⟨Or.inr rfl, hspec.not_mem_free⟩
  · have hfree := hspec.mem_free_iff id
    simp only [hne, false_and, or_false] at hfree
    simp only [hne, or_false, hfree]

/-- Giving back removes one. -/
theorem lent_give_iff {k : κ} {id : ι} (hheld : s.held k = some id) (id' : ι) :
    (step bump s (.give k)).1.Lent base id' ↔ s.Lent base id' ∧ id' ≠ id := by
  simp only [State.Lent, State.Minted, step, hheld, List.mem_cons, not_or]
  constructor
  · rintro ⟨hminted, hne, hfree⟩
    exact ⟨⟨hminted, hfree⟩, hne⟩
  · rintro ⟨⟨hminted, hfree⟩, hne⟩
    exact ⟨hminted, hne, hfree⟩

theorem State.Owned.take (hs : s.Owned base) (hspec : s.AllocSpec bump base) (k : κ) :
    (step bump s (.take k)).1.Owned base := by
  have hheld : ∀ {k' id}, (step bump s (.take k)).1.held k' = some id →
      (k' = k ∧ id = (s.alloc bump).1) ∨ s.held k' = some id := by
    intro k' id hheld
    rcases eq_or_ne k' k with rfl | hne
    · simp only [step, Function.update_self] at hheld
      exact Or.inl ⟨rfl, (Option.some.inj hheld).symm⟩
    · simp only [step, Function.update_of_ne hne] at hheld
      exact Or.inr hheld
  have hlent : ∀ {k' id}, (step bump s (.take k)).1.held k' = some id →
      (step bump s (.take k)).1.Lent base id := by
    intro k' id hnew
    rw [hspec.lent_iff]
    rcases hheld hnew with ⟨_, hid⟩ | hold
    · exact Or.inr hid
    · exact Or.inl (hs.lent hold)
  constructor
  · constructor
    · intro k' k'' id hnew hnew'
      rcases hheld hnew with ⟨rfl, rfl⟩ | hold
      · rcases hheld hnew' with ⟨rfl, _⟩ | hold'
        · rfl
        · exact absurd (hs.lent hold') hspec.not_lent
      · rcases hheld hnew' with ⟨rfl, rfl⟩ | hold'
        · exact absurd (hs.lent hold) hspec.not_lent
        · exact hs.held_inj hold hold'
    · exact fun hnew => (hlent hnew).2
  · exact le_trans hs.base_le hspec.le_next
  · intro id hmem
    rw [State.Minted]
    refine (hspec.minted_iff id).mpr (Or.inl (hs.free_minted ?_))
    exact (hspec.mem_free_iff id).mpr (Or.inl hmem)
  · exact hspec.free_nodup
  · exact fun hnew => (hlent hnew).1

theorem State.Owned.give (hs : s.Owned base) {k : κ} {id : ι} (hid : s.held k = some id) :
    (step bump s (.give k)).1.Owned base := by
  have hheld : ∀ {k' id'}, (step bump s (.give k)).1.held k' = some id' →
      k' ≠ k ∧ s.held k' = some id' := by
    intro k' id' hheld
    rcases eq_or_ne k' k with rfl | hne
    · simp only [step, hid, Function.update_self] at hheld
      cases hheld
    · simp only [step, hid, Function.update_of_ne hne] at hheld
      exact ⟨hne, hheld⟩
  have hlent : ∀ {k' id'}, (step bump s (.give k)).1.held k' = some id' →
      (step bump s (.give k)).1.Lent base id' := by
    intro k' id' hnew
    obtain ⟨hne, hold⟩ := hheld hnew
    refine (lent_give_iff hid id').mpr ⟨hs.lent hold, ?_⟩
    rintro rfl
    exact hne (hs.held_inj hold hid)
  constructor
  · constructor
    · exact fun hnew hnew' => hs.held_inj (hheld hnew).2 (hheld hnew').2
    · exact fun hnew => (hlent hnew).2
  · simp only [step, hid]
    exact hs.base_le
  · intro id' hmem
    simp only [step, hid, State.Minted] at hmem ⊢
    rcases List.mem_cons.mp hmem with rfl | hmem
    · exact hs.held_minted hid
    · exact hs.free_minted hmem
  · simp only [step, hid]
    exact List.nodup_cons.mpr ⟨hs.held_not_free hid, hs.free_nodup⟩
  · exact fun hnew => (hlent hnew).1

/-- As long as the counter does not wrap, nothing is ever in two places. -/
theorem State.Owned.step (hbump : Successor bump) (hs : s.Owned base) {a : Action κ}
    (hroom : s.next ≤ (step bump s a).1.next) : (step bump s a).1.Owned base := by
  cases a with
  | stay => exact hs
  | take k => exact hs.take (hs.allocSpec hbump hroom) k
  | touch k => cases hheld : s.held k <;> simpa only [Pool.step, hheld] using hs
  | give k =>
      cases hheld : s.held k with
      | none => simpa only [Pool.step, hheld] using hs
      | some id => exact hs.give hheld

/-! ## What happened to each identifier -/

/-- The uses of one identifier in a history. -/
def uses [DecidableEq ι] (id : ι) (history : List (ι × Use)) : List Use :=
  (history.filter fun event => event.1 = id).map Prod.snd

theorem uses_append (id : ι) (history later : List (ι × Use)) :
    uses id (history ++ later) = uses id history ++ uses id later := by
  rw [uses, List.filter_append, List.map_append, uses, uses]

theorem uses_singleton_self (id : ι) (use : Use) : uses id [(id, use)] = [use] := by
  simp [uses]

theorem uses_singleton_of_ne {id id' : ι} (hne : id' ≠ id) (use : Use) :
    uses id' [(id, use)] = [] := by
  simp [uses, hne.symm]

/-- The identifiers at large are the ones whose last loan has not ended. -/
structure Accounted (base : ι) (history : List (ι × Use)) (s : State κ ι) : Prop where
  owned : s.Owned base
  lent : ∀ id, s.Lent base id → uses id history ∈ running
  ended : ∀ id, ¬ s.Lent base id → uses id history ∈ sessions

omit [DecidableEq κ] in
theorem accounted_new : Accounted base [] (new base : State κ ι) where
  owned := owned_new
  lent := fun _ hlent => absurd (lt_of_le_of_lt hlent.1.1 hlent.1.2) (lt_irrefl _)
  ended := fun _ _ => Language.nil_mem_kstar _

theorem Accounted.step (hbump : Successor bump) {history : List (ι × Use)}
    (hs : Accounted base history s) {a : Action κ}
    (hroom : s.next ≤ (step bump s a).1.next) :
    Accounted base (history ++ (step bump s a).2) (step bump s a).1 := by
  have howned := hs.owned.step hbump hroom
  cases a with
  | stay => simpa only [Pool.step, List.append_nil] using hs
  | take k =>
      have hspec := hs.owned.allocSpec hbump hroom
      refine ⟨howned, ?_, ?_⟩
      · intro id hlent
        simp only [Pool.step, uses_append]
        rcases eq_or_ne id (s.alloc bump).1 with rfl | hne
        · rw [uses_singleton_self]
          exact mem_running_of_opened (hs.ended _ hspec.not_lent)
        · rw [uses_singleton_of_ne hne, List.append_nil]
          exact hs.lent id (((hspec.lent_iff k id).mp hlent).resolve_right hne)
      · intro id hended
        rw [hspec.lent_iff, not_or] at hended
        simp only [Pool.step, uses_append, uses_singleton_of_ne hended.2, List.append_nil]
        exact hs.ended id hended.1
  | touch k =>
      cases hheld : s.held k with
      | none => simpa only [Pool.step, hheld, List.append_nil] using hs
      | some id =>
          have hstay : (Pool.step bump s (.touch k)) = (s, [(id, .updated)]) := by
            simp only [Pool.step, hheld]
          rw [hstay]
          refine ⟨hs.owned, ?_, ?_⟩
          · intro id' hlent
            rw [uses_append]
            rcases eq_or_ne id' id with rfl | hne
            · rw [uses_singleton_self]
              exact mem_running_of_updated (hs.lent _ hlent)
            · rw [uses_singleton_of_ne hne, List.append_nil]
              exact hs.lent id' hlent
          · intro id' hended
            have hne : id' ≠ id := by
              rintro rfl
              exact hended (hs.owned.lent hheld)
            rw [uses_append, uses_singleton_of_ne hne, List.append_nil]
            exact hs.ended id' hended
  | give k =>
      cases hheld : s.held k with
      | none => simpa only [Pool.step, hheld, List.append_nil] using hs
      | some id =>
          refine ⟨howned, ?_, ?_⟩
          · intro id' hlent
            obtain ⟨hlent, hne⟩ := (lent_give_iff hheld id').mp hlent
            simp only [Pool.step, hheld, uses_append, uses_singleton_of_ne hne, List.append_nil]
            exact hs.lent id' hlent
          · intro id' hended
            rw [lent_give_iff hheld, not_and, not_not] at hended
            simp only [Pool.step, hheld, uses_append]
            rcases eq_or_ne id' id with rfl | hne
            · rw [uses_singleton_self]
              exact mem_sessions_of_closed (hs.lent _ (hs.owned.lent hheld))
            · rw [uses_singleton_of_ne hne, List.append_nil]
              exact hs.ended id' fun hlent => hne (hended hlent)

omit [DecidableEq κ] in
/-- Whatever happened to an identifier can be completed to a sequence of loans. -/
theorem Accounted.uses_extends {history : List (ι × Use)} (hs : Accounted base history s) (id : ι) :
    ∃ w ∈ sessions, uses id history <+: w := by
  by_cases hlent : s.Lent base id
  · exact ⟨_, mem_sessions_of_closed (hs.lent id hlent), List.prefix_append _ _⟩
  · exact ⟨_, hs.ended id hlent, List.prefix_refl _⟩

/-! ## Conservation -/

/-- An owner does not take a second identifier. -/
def Action.Sparing (s : State κ ι) (a : Action κ) : Prop := ∀ k, a = .take k → s.held k = none

/-- A step keeps conservation exactly when no owner takes a second identifier in it. -/
theorem State.Owned.conserved_step_iff (hbump : Successor bump) (hs : s.Owned base)
    (hconserved : s.Conserved base) {a : Action κ}
    (hroom : s.next ≤ (Pool.step bump s a).1.next) :
    (Pool.step bump s a).1.Conserved base ↔ a.Sparing s := by
  have howned := hs.step hbump hroom
  rw [hs.conserved_iff] at hconserved
  rw [howned.conserved_iff]
  cases a with
  | stay =>
      constructor
      · intro _ k htake
        cases htake
      · exact fun _ => hconserved
  | take k =>
      have hspec := hs.allocSpec hbump hroom
      have hself : (Pool.step bump s (.take k)).1.held k = some (s.alloc bump).1 := by
        simp only [Pool.step, Function.update_self]
      constructor
      · rintro hholder k' ⟨⟩
        cases hheld : s.held k with
        | none => rfl
        | some id =>
            obtain ⟨k', hheld'⟩ := hholder id
              ((hspec.lent_iff k id).mpr (Or.inl (hs.lent hheld)))
            have hne : k' ≠ k := by
              rintro rfl
              rw [hself, Option.some.injEq] at hheld'
              exact hspec.not_lent (hheld' ▸ hs.lent hheld)
            simp only [Pool.step, Function.update_of_ne hne] at hheld'
            exact absurd (hs.held_inj hheld' hheld) hne
      · intro hsparing id hlent
        rcases (hspec.lent_iff k id).mp hlent with hold | rfl
        · obtain ⟨k', hheld⟩ := hconserved id hold
          have hne : k' ≠ k := by
            rintro rfl
            rw [hsparing k' rfl] at hheld
            cases hheld
          refine ⟨k', ?_⟩
          simp only [Pool.step, Function.update_of_ne hne, hheld]
        · exact ⟨k, hself⟩
  | touch k =>
      have hstay : (Pool.step bump s (.touch k)).1 = s := by
        cases hheld : s.held k <;> simp only [Pool.step, hheld]
      rw [hstay]
      constructor
      · intro _ k' htake
        cases htake
      · exact fun _ => hconserved
  | give k =>
      constructor
      · intro _ k' htake
        cases htake
      · intro _ id' hlent
        cases hheld : s.held k with
        | none =>
            simp only [Pool.step, hheld] at hlent ⊢
            exact hconserved id' hlent
        | some id =>
            obtain ⟨hold, hne⟩ := (lent_give_iff hheld id').mp hlent
            obtain ⟨k', hheld'⟩ := hconserved id' hold
            have hother : k' ≠ k := by
              rintro rfl
              exact hne (Option.some.inj (hheld'.symm.trans hheld))
            refine ⟨k', ?_⟩
            simp only [Pool.step, hheld, Function.update_of_ne hother, hheld']

/-! ## Runs -/

/-- The counter does not wrap in a step. -/
def Roomy (t : Mealy.Transition (State κ ι) (Action κ) (List (ι × Use))) : Prop :=
  t.pre.next ≤ t.post.next

/-- A run in which the counter does not wrap accounts for every identifier. -/
theorem always_accounted (hbump : Successor bump) {actions : List (Action κ)}
    (hroom : Mealy.Always (step bump) (new base) actions fun _ t => Roomy t) :
    Mealy.Always (step bump) (new base) actions fun past t =>
      Accounted base ((past ++ [t]).flatMap Mealy.Transition.output) t.post := by
  have hstep : ∀ past s (a : Action κ),
      Accounted base (past.flatMap Mealy.Transition.output) s →
      Roomy (Mealy.transition (step bump) s a) →
      Accounted base ((past ++ [Mealy.transition (step bump) s a]).flatMap
        Mealy.Transition.output) (step bump s a).1 := by
    intro past s a hs hroom
    rw [List.flatMap_append, List.flatMap_singleton]
    exact hs.step hbump hroom
  exact Mealy.always_of_invariant
    (fun past s => Accounted base (past.flatMap Mealy.Transition.output) s)
    accounted_new hstep hstep hroom

/-- Such a run loses no identifier exactly when no owner ever takes a second one. -/
theorem always_conserved_iff (hbump : Successor bump) {actions : List (Action κ)}
    (hroom : Mealy.Always (step bump) (new base) actions fun _ t => Roomy t) :
    (Mealy.Always (step bump) (new base) actions fun _ t => t.post.Conserved base) ↔
      Mealy.Always (step bump) (new base) actions fun _ t => t.input.Sparing t.pre := by
  have hstep : ∀ (s : State κ ι) (a : Action κ), s.Owned base ∧ s.Conserved base →
      Roomy (Mealy.transition (step bump) s a) ∧ a.Sparing s →
      (step bump s a).1.Owned base ∧ (step bump s a).1.Conserved base := by
    rintro s a ⟨howned, hconserved⟩ ⟨hroom, hsparing⟩
    exact ⟨howned.step hbump hroom,
      (howned.conserved_step_iff hbump hconserved hroom).mpr hsparing⟩
  have hlocal : ∀ (s : State κ ι) (a : Action κ), s.Owned base ∧ s.Conserved base →
      (Roomy (Mealy.transition (step bump) s a) ∧ (step bump s a).1.Conserved base ↔
        Roomy (Mealy.transition (step bump) s a) ∧ a.Sparing s) := by
    rintro s a ⟨howned, hconserved⟩
    exact and_congr_right (howned.conserved_step_iff hbump hconserved)
  have hiff : (Mealy.Always (step bump) (new base) actions fun _ t =>
        Roomy t ∧ t.post.Conserved base) ↔
      Mealy.Always (step bump) (new base) actions fun _ t => Roomy t ∧ t.input.Sparing t.pre :=
    Mealy.always_iff_of_invariant (fun _ s => s.Owned base ∧ s.Conserved base)
      ⟨owned_new, conserved_new⟩ (fun _ => hstep) (fun _ => hlocal)
  constructor
  · intro hconserved
    exact (hiff.mp (hroom.and hconserved)).mono fun _ _ => And.right
  · intro hsparing
    exact (hiff.mpr (hroom.and hsparing)).mono fun _ _ => And.right

/-! ## Machines that use a pool -/

section Machine

variable {σ α ο : Type} {machine : σ → α → σ × ο} {view : σ → State κ ι} {act : σ → α → Action κ}
  {m : σ} {inputs : List α} (obs : ο → List (ι × Use))

/-- A machine each of whose steps is seen as a step of a pool accounts for every identifier. -/
theorem always_accounted_of_view (hbump : Successor bump)
    (hview : ∀ m i, step bump (view m) (act m i) = (view (machine m i).1, obs (machine m i).2))
    (hnew : view m = new base)
    (hroom : Mealy.Always machine m inputs fun _ t => (view t.pre).next ≤ (view t.post).next) :
    Mealy.Always machine m inputs fun past t =>
      Accounted base ((past ++ [t]).flatMap fun u => obs u.output) (view t.post) := by
  have hpool : Mealy.Always (step bump) (view m) _ fun _ t => Roomy t :=
    Mealy.Always.map hview hroom
  rw [hnew] at hpool
  have haccounted := always_accounted hbump hpool
  rw [← hnew] at haccounted
  refine (Mealy.Always.of_map hview haccounted).mono ?_
  intro past t haccounted
  rw [← List.map_singleton, ← List.map_append, List.flatMap_map] at haccounted
  exact haccounted

/-- It loses no identifier exactly when it never lets an owner take a second one. -/
theorem conserved_states_iff_of_view (hbump : Successor bump)
    (hview : ∀ m i, step bump (view m) (act m i) = (view (machine m i).1, obs (machine m i).2))
    (hnew : view m = new base)
    (hroom : Mealy.Always machine m inputs fun _ t => (view t.pre).next ≤ (view t.post).next) :
    (∀ m' ∈ Mealy.states machine m inputs, (view m').Conserved base) ↔
      Mealy.Always machine m inputs fun _ t => (act t.pre t.input).Sparing (view t.pre) := by
  have hpool : Mealy.Always (step bump) (view m) _ fun _ t => Roomy t :=
    Mealy.Always.map hview hroom
  rw [hnew] at hpool
  have hiff := always_conserved_iff hbump hpool
  rw [← hnew] at hiff
  rw [Mealy.forall_mem_states]
  constructor
  · rintro ⟨_, hconserved⟩
    exact Mealy.Always.of_map hview (hiff.mp (Mealy.Always.map hview hconserved))
  · intro hsparing
    refine ⟨?_, Mealy.Always.of_map hview (hiff.mpr (Mealy.Always.map hview hsparing))⟩
    rw [hnew]
    exact conserved_new

end Machine

end Invariant

end Pool
