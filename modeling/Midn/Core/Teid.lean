import Midn.Core.Mme.State
import Midn.Lib.Pool

/-!
# TEID pools

The TEID allocator, together with the tunnels that hold its TEIDs, is a pool of 32-bit words. Its
counter wraps only after it has handed out every word above its base.
-/

namespace Midn.Core

open Ecs

instance linearOrderUInt32 : LinearOrder UInt32 where
  le_refl := UInt32.le_refl
  le_trans := fun _ _ _ => UInt32.le_trans
  le_antisymm := fun _ _ => UInt32.le_antisymm
  le_total := UInt32.le_total
  toDecidableLE := inferInstance
  toDecidableEq := inferInstance
  toDecidableLT := inferInstance
  lt_iff_le_not_ge := fun a b => by
    rw [UInt32.not_le]
    exact ⟨fun hlt => ⟨UInt32.le_of_lt hlt, hlt⟩, And.right⟩

namespace TeidAllocator

/-- The counter of the allocator. -/
def bump (x : UInt32) : UInt32 := x + 1

theorem toNat_bump_of_le {x : UInt32} (hroom : x ≤ bump x) : (bump x).toNat = x.toNat + 1 := by
  rw [bump, UInt32.le_iff_toNat_le, UInt32.toNat_add] at hroom
  rw [bump, UInt32.toNat_add]
  have hlt := x.toNat_lt
  have hone : UInt32.toNat 1 = 1 := rfl
  omega

theorem successor_bump : Pool.Successor bump := by
  intro x hroom y
  rw [UInt32.lt_iff_toNat_lt, toNat_bump_of_le hroom, UInt32.le_iff_toNat_le, Nat.lt_succ_iff]

/-! ## The pool of an allocator and some tunnels -/

section Tunnels

variable (a : TeidAllocator) (tunnels : EntityId → Option TunnelComponent)

/-- The allocator with the holders of its TEIDs. -/
def pool : Pool.State EntityId UInt32 :=
  ⟨a.next, a.free, fun e => (tunnels e).map TunnelComponent.ulTeid⟩

theorem alloc_pool : (a.pool tunnels).alloc bump = (a.alloc.1, a.alloc.2.next, a.alloc.2.free) := by
  cases hfree : a.free <;> simp only [Pool.State.alloc, pool, alloc, hfree, bump]

/-- Rewriting a tunnel rewrites what its entity holds. -/
theorem held_pool_update (e : EntityId) (tunnel : Option TunnelComponent) :
    (a.pool (Function.update tunnels e tunnel)).held =
      Function.update (a.pool tunnels).held e (tunnel.map TunnelComponent.ulTeid) :=
  Function.comp_update (Option.map TunnelComponent.ulTeid) tunnels e tunnel

variable {a tunnels} {e : EntityId}

theorem step_take (dlTeid : UInt32) (enbAddr : Octets 4) :
    Pool.step bump (a.pool tunnels) (.take e) =
      (a.alloc.2.pool (Function.update tunnels e (some ⟨a.alloc.1, dlTeid, enbAddr⟩)),
        [(a.alloc.1, .opened)]) := by
  have hheld := held_pool_update a.alloc.2 tunnels e (some ⟨a.alloc.1, dlTeid, enbAddr⟩)
  simp only [Pool.step, alloc_pool, Prod.mk.injEq, and_true]
  exact congrArg (Pool.State.mk _ _) hheld.symm

theorem step_touch_none (hnone : tunnels e = none) :
    Pool.step bump (a.pool tunnels) (.touch e) = (a.pool (Function.update tunnels e none), []) := by
  rw [← hnone, Function.update_eq_self]
  simp only [Pool.step, pool, hnone, Option.map_none]

theorem step_touch {t : TunnelComponent} (hsome : tunnels e = some t) (dlTeid : UInt32)
    (enbAddr : Octets 4) :
    Pool.step bump (a.pool tunnels) (.touch e) =
      (a.pool (Function.update tunnels e (some ⟨t.ulTeid, dlTeid, enbAddr⟩)),
        [(t.ulTeid, .updated)]) := by
  have hheld := held_pool_update a tunnels e (some ⟨t.ulTeid, dlTeid, enbAddr⟩)
  have hself : (a.pool tunnels).held e = some t.ulTeid := by
    simp only [pool, hsome, Option.map_some]
  rw [Option.map_some, ← hself, Function.update_eq_self] at hheld
  simp only [Pool.step, hself, Prod.mk.injEq, and_true]
  exact congrArg (Pool.State.mk _ _) hheld.symm

theorem step_give_none (hnone : tunnels e = none) :
    Pool.step bump (a.pool tunnels) (.give e) = (a.pool (Function.update tunnels e none), []) := by
  rw [← hnone, Function.update_eq_self]
  simp only [Pool.step, pool, hnone, Option.map_none]

theorem step_give {t : TunnelComponent} (hsome : tunnels e = some t) :
    Pool.step bump (a.pool tunnels) (.give e) =
      ((a.release t.ulTeid).pool (Function.update tunnels e none), [(t.ulTeid, .closed)]) := by
  have hheld := held_pool_update (a.release t.ulTeid) tunnels e none
  have hself : (a.pool tunnels).held e = some t.ulTeid := by
    simp only [pool, hsome, Option.map_some]
  simp only [Pool.step, hself, Prod.mk.injEq, and_true]
  exact congrArg (Pool.State.mk _ _) hheld.symm

end Tunnels

/-! ## Runs of a core -/

section Machine

variable {σ ι μ ε : Type} {machine : σ → ι → σ × List μ × List ε}
  {view : σ → Pool.State EntityId UInt32} {act : σ → ι → Pool.Action EntityId}
  {use : ε → UInt32 × Pool.Use} {m : σ} {inputs : List ι} {base : UInt32}

/-- The events a run emits, in order. -/
def events (machine : σ → ι → σ × List μ × List ε) (m : σ) (inputs : List ι) : List ε :=
  (Mealy.run machine m inputs).flatMap fun t => t.output.2

/-- How many events open a session. -/
def openings (use : ε → UInt32 × Pool.Use) (history : List ε) : Nat :=
  history.countP fun event => (use event).2 = .opened

/-- The counter moves by one for an opening, or not at all. -/
theorem next_step (s : Pool.State EntityId UInt32) (a : Pool.Action EntityId) :
    (Pool.step bump s a).1.next = s.next ∨
      (Pool.step bump s a).1.next = bump s.next ∧
        (Pool.step bump s a).2.countP (fun event => event.2 = .opened) = 1 := by
  cases a with
  | stay => exact Or.inl rfl
  | take k =>
      cases hfree : s.free with
      | nil => exact Or.inr (by simp [Pool.step, Pool.State.alloc, hfree])
      | cons id free => exact Or.inl (by simp [Pool.step, Pool.State.alloc, hfree])
  | touch k => cases hheld : s.held k <;> exact Or.inl (by simp only [Pool.step, hheld])
  | give k => cases hheld : s.held k <;> exact Or.inl (by simp only [Pool.step, hheld])

/-- A run opens at most one session an input. -/
theorem openings_le_length
    (hview : ∀ m i, Pool.step bump (view m) (act m i) =
      (view (machine m i).1, (machine m i).2.2.map use)) (m : σ) (inputs : List ι) :
    openings use (events machine m inputs) ≤ inputs.length := by
  have hone : ∀ m i, openings use (machine m i).2.2 ≤ 1 := by
    intro m i
    have hmove := Pool.length_step_le bump (view m) (act m i)
    rw [hview, List.length_map] at hmove
    exact le_trans List.countP_le_length hmove
  rw [events, openings, List.countP_flatMap]
  exact Mealy.cost_run_le_length hone m inputs

/-- The counter of a run that opens few enough sessions does not wrap. -/
theorem always_roomy
    (hview : ∀ m i, Pool.step bump (view m) (act m i) =
      (view (machine m i).1, (machine m i).2.2.map use))
    (hnew : view m = Pool.new base)
    (hfew : base.toNat + openings use (events machine m inputs) < 2 ^ 32) :
    Mealy.Always machine m inputs fun _ t => (view t.pre).next ≤ (view t.post).next := by
  -- the counter is at most the base plus the number of openings so far
  have hstep : ∀ past m i,
      (view m).next.toNat ≤ base.toNat + openings use (past.flatMap fun t => t.output.2) →
      base.toNat + openings use ((past ++ [Mealy.transition machine m i]).flatMap
        fun t => t.output.2) < 2 ^ 32 →
      (view m).next ≤ (view (machine m i).1).next ∧
        (view (machine m i).1).next.toNat ≤ base.toNat +
          openings use ((past ++ [Mealy.transition machine m i]).flatMap fun t => t.output.2) := by
    intro past m i hbound hfew
    have hmove := next_step (view m) (act m i)
    rw [hview, List.countP_map] at hmove
    rw [List.flatMap_append, List.flatMap_singleton, openings, List.countP_append] at hfew ⊢
    rcases hmove with hsame | ⟨hbump, hone⟩
    · rw [hsame]
      exact ⟨le_refl _, le_trans hbound (by rw [openings]; omega)⟩
    · have hopened : (machine m i).2.2.countP (fun event => (use event).2 = .opened) = 1 := hone
      have hnat : (bump (view m).next).toNat = (view m).next.toNat + 1 := by
        simp only [Mealy.transition, hopened, openings] at hfew hbound
        rw [bump, UInt32.toNat_add]
        have hunit : UInt32.toNat 1 = 1 := rfl
        omega
      rw [hbump, UInt32.le_iff_toNat_le, hnat]
      simp only [Mealy.transition, hopened, openings] at hbound ⊢
      omega
  have hbefore : Mealy.Always machine m inputs fun past t =>
      base.toNat + openings use ((past ++ [t]).flatMap fun t => t.output.2) < 2 ^ 32 := by
    intro past t future hrun
    rw [events, hrun, List.append_cons, List.flatMap_append, openings, List.countP_append] at hfew
    rw [openings]
    omega
  have hinit : (view m).next.toNat ≤ base.toNat + openings use [] := by
    rw [hnew]
    exact Nat.le_add_right _ _
  exact Mealy.always_of_invariant
    (fun past m => (view m).next.toNat ≤
      base.toNat + openings use (past.flatMap fun t => t.output.2))
    hinit (fun past m i hbound hfew => (hstep past m i hbound hfew).2)
    (fun past m i hbound hfew => (hstep past m i hbound hfew).1) hbefore

/-- In such a run every TEID is opened, updated and closed in turn, and no two holders share one. -/
theorem follows_sessions
    (hview : ∀ m i, Pool.step bump (view m) (act m i) =
      (view (machine m i).1, (machine m i).2.2.map use))
    (hnew : view m = Pool.new base)
    (hfew : base.toNat + openings use (events machine m inputs) < 2 ^ 32) :
    (∀ teid, ∃ w ∈ Pool.sessions,
        Pool.uses teid ((events machine m inputs).map use) <+: w) ∧
      ∀ m' ∈ Mealy.states machine m inputs, (view m').Distinct := by
  have haccounted := Pool.always_accounted_of_view (fun o => o.2.map use) successor_bump hview hnew
    (always_roomy hview hnew hfew)
  constructor
  · intro teid
    rcases List.eq_nil_or_concat (Mealy.run machine m inputs) with hrun | ⟨past, t, hrun⟩
    · rw [events, hrun]
      exact ⟨[], Language.nil_mem_kstar _, List.nil_prefix⟩
    · rw [List.concat_eq_append] at hrun
      have hlast := (haccounted past t [] hrun).uses_extends teid
      rw [events, hrun, List.map_flatMap]
      exact hlast
  · rw [Mealy.forall_mem_states]
    refine ⟨?_, haccounted.mono fun _ _ h => h.owned.toDistinct⟩
    rw [hnew]
    exact Pool.owned_new.toDistinct

end Machine

end TeidAllocator

end Midn.Core
