import Midn.Core.Mme.Procedure
import Midn.Core.Mme.Resources
import Midn.Core.Teid

/-!
# Tunnels of the MME

The allocator of the MME and the tunnels of its live entities are a pool of TEIDs: a
SecurityModeComplete takes one, a context setup response touches it, a release gives it back.
-/

namespace Midn.Core

open Ecs Nas S1ap

/-- The TEID an event names and what becomes of it. -/
def UpfEvent.use : UpfEvent → UInt32 × Pool.Use
  | .createSession ulTeid .. => (ulTeid, .opened)
  | .updateBearer ulTeid _ _ => (ulTeid, .updated)
  | .removeSession ulTeid => (ulTeid, .closed)

namespace Mme

variable (P : Primitives)

/-- The TEIDs of the MME and the entities that hold them. -/
def pool (mme : Mme) : Pool.State EntityId UInt32 :=
  mme.teidAllocator.pool mme.world.tunnel?

/-- What a request does to the pool. -/
def Request.poolAction (mme : Mme) : Request → Pool.Action EntityId
  | .securityModeComplete entity _ =>
      match mme.world.identity? entity, mme.phase3Upf with
      | some _, some _ => .take entity
      | _, _ => .stay
  | .contextSetup resp =>
      match resp.eRabsSetup with
      | [] => .stay
      | _ :: _ => .touch resp.mmeUeS1apId
  | .release msg => .give msg.mmeUeS1apId
  | _ => .stay

/-- What an input does to the pool. -/
def poolAction (mme : Mme) (input : Input) : Pool.Action EntityId :=
  (request P mme input).poolAction mme

/-- Every step of the MME is a step of its pool. -/
theorem pool_step (mme : Mme) (input : Input) :
    Pool.step TeidAllocator.bump (pool mme) (poolAction P mme input) =
      (pool (step P mme input).1, (step P mme input).2.2.map UpfEvent.use) := by
  obtain ⟨-, hallocator, -, hevents⟩ := resources_step P mme input
  rw [pool, pool, hallocator, tunnel?_step, hevents, poolAction]
  generalize request P mme input = r
  cases r with
  | securityModeComplete entity enb =>
      simp only [Request.poolAction, Request.allocator, Request.tunnels, Request.events]
      cases mme.world.identity? entity with
      | none => rfl
      | some identity =>
          cases mme.phase3Upf with
          | none => rfl
          | some upfAddr => exact TeidAllocator.step_take 0 (Octets.zeros 4)
  | contextSetup resp =>
      simp only [Request.poolAction, Request.allocator, Request.tunnels, Request.events]
      cases resp.eRabsSetup with
      | nil => rfl
      | cons erab rest =>
          cases htunnel : mme.world.tunnel? resp.mmeUeS1apId with
          | none => exact TeidAllocator.step_touch_none htunnel
          | some t => exact TeidAllocator.step_touch htunnel _ _
  | release msg =>
      simp only [Request.poolAction, Request.allocator, Request.tunnels, Request.events]
      cases htunnel : mme.world.tunnel? msg.mmeUeS1apId with
      | none => exact TeidAllocator.step_give_none htunnel
      | some t => exact TeidAllocator.step_give htunnel
  | _ => rfl

theorem pool_new (phase3Upf : Option (Octets 4)) :
    pool (Mme.new phase3Upf) = Pool.new 0x00010000 := rfl

/-- The counter of the allocator does not wrap in the step. -/
def NoWrap (t : Transition) : Prop := t.pre.teidAllocator.next ≤ t.post.teidAllocator.next

/-- No SecurityModeComplete of an entity that has a tunnel is processed. -/
def SecuresUntunnelled (t : Transition) : Prop :=
  ∀ e enb, request P t.pre t.input = .securityModeComplete e enb → t.pre.world.tunnel? e = none

theorem sparing_iff {t : Transition} {upfAddr : Octets 4} (hupf : t.pre.phase3Upf = some upfAddr) :
    (poolAction P t.pre t.input).Sparing (pool t.pre) ↔ SecuresUntunnelled P t := by
  constructor
  · intro hsparing e enb hrequest
    cases hidentity : t.pre.world.identity? e with
    | none =>
        rw [World.identity?, Option.map_eq_none_iff] at hidentity
        exact World.tunnel?_of_none hidentity
    | some identity =>
        have hheld := hsparing e (by
          simp only [poolAction, hrequest, Request.poolAction, hidentity, hupf])
        exact Option.map_eq_none_iff.mp hheld
  · intro hsecures e htake
    rw [poolAction] at htake
    cases hrequest : request P t.pre t.input with
    | securityModeComplete entity enb =>
        rw [hrequest, Request.poolAction] at htake
        split at htake
        · cases htake
          exact Option.map_eq_none_iff.mpr (hsecures e enb hrequest)
        · cases htake
    | contextSetup resp =>
        rw [hrequest, Request.poolAction] at htake
        split at htake <;> cases htake
    | _ =>
        rw [hrequest] at htake
        cases htake

/-- A run in phase 3 that does not exhaust the counter loses no TEID exactly when every
SecurityModeComplete in it finds its entity without a tunnel. -/
theorem conserved_iff (upfAddr : Octets 4) {inputs : List Input}
    (hroom : Mealy.Always (step P) (Mme.new (some upfAddr)) inputs fun _ t => NoWrap t) :
    (∀ mme ∈ Mealy.states (step P) (Mme.new (some upfAddr)) inputs,
        (pool mme).Conserved 0x00010000) ↔
      Mealy.Always (step P) (Mme.new (some upfAddr)) inputs
        fun _ t => SecuresUntunnelled P t := by
  rw [Pool.conserved_states_iff_of_view (fun o => o.2.map UpfEvent.use)
    TeidAllocator.successor_bump (pool_step P) (pool_new _) hroom]
  have hphase := always_phase3Upf P (Mme.new (some upfAddr)) inputs
  constructor
  · intro hsparing
    exact (hphase.and hsparing).mono fun past t h => (sparing_iff P h.1).mp h.2
  · intro hsecures
    exact (hphase.and hsecures).mono fun past t h => (sparing_iff P h.1).mpr h.2

end Mme

end Midn.Core
