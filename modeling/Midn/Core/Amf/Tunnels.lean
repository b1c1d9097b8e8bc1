import Midn.Core.Amf.Procedure
import Midn.Core.Amf.Resources
import Midn.Core.Teid

/-!
# Tunnels of the AMF

The allocator of the AMF and the tunnels of its live entities are a pool of TEIDs: a
SecurityModeComplete takes one, a context setup response touches it, a release gives it back.
-/

namespace Midn.Core

open Ecs Nas5gs Ngap

/-- The TEID an event names and what becomes of it. -/
def N3Event.use : N3Event → UInt32 × Pool.Use
  | .createSession ulTeid .. => (ulTeid, .opened)
  | .updateBearer ulTeid _ _ => (ulTeid, .updated)
  | .removeSession ulTeid => (ulTeid, .closed)

namespace Amf

variable (P : Primitives)

/-- The TEIDs of the AMF and the entities that hold them. -/
def pool (amf : Amf) : Pool.State EntityId UInt32 :=
  amf.teidAllocator.pool amf.world.tunnel?

/-- What a request does to the pool. -/
def Request.poolAction (amf : Amf) : Request → Pool.Action EntityId
  | .securityModeComplete entity _ =>
      match amf.world.identity? entity, amf.phaseBUpf with
      | some _, some _ => .take entity
      | _, _ => .stay
  | .contextSetup resp =>
      match resp.pduSessionsSetup with
      | [] => .stay
      | _ :: _ => .touch resp.amfUeNgapId
  | .release msg => .give msg.amfUeNgapId
  | _ => .stay

/-- What an input does to the pool. -/
def poolAction (amf : Amf) (input : Input) : Pool.Action EntityId :=
  (request P amf input).poolAction amf

/-- Every step of the AMF is a step of its pool. -/
theorem pool_step (amf : Amf) (input : Input) :
    Pool.step TeidAllocator.bump (pool amf) (poolAction P amf input) =
      (pool (step P amf input).1, (step P amf input).2.2.map N3Event.use) := by
  obtain ⟨-, hallocator, -, hevents⟩ := resources_step P amf input
  rw [pool, pool, hallocator, tunnel?_step, hevents, poolAction]
  generalize request P amf input = r
  cases r with
  | securityModeComplete entity ran =>
      simp only [Request.poolAction, Request.allocator, Request.tunnels, Request.events]
      cases amf.world.identity? entity with
      | none => rfl
      | some identity =>
          cases amf.phaseBUpf with
          | none => rfl
          | some upfAddr => exact TeidAllocator.step_take 0 (Octets.zeros 4)
  | contextSetup resp =>
      simp only [Request.poolAction, Request.allocator, Request.tunnels, Request.events]
      cases resp.pduSessionsSetup with
      | nil => rfl
      | cons session rest =>
          cases htunnel : amf.world.tunnel? resp.amfUeNgapId with
          | none => exact TeidAllocator.step_touch_none htunnel
          | some t => exact TeidAllocator.step_touch htunnel _ _
  | release msg =>
      simp only [Request.poolAction, Request.allocator, Request.tunnels, Request.events]
      cases htunnel : amf.world.tunnel? msg.amfUeNgapId with
      | none => exact TeidAllocator.step_give_none htunnel
      | some t => exact TeidAllocator.step_give htunnel
  | _ => rfl

theorem pool_new (phaseBUpf : Option (Octets 4)) :
    pool (Amf.new phaseBUpf) = Pool.new 0x00020000 := rfl

/-- The counter of the allocator does not wrap in the step. -/
def NoWrap (t : Transition) : Prop := t.pre.teidAllocator.next ≤ t.post.teidAllocator.next

/-- No SecurityModeComplete of an entity that has a tunnel is processed. -/
def SecuresUntunnelled (t : Transition) : Prop :=
  ∀ e ran, request P t.pre t.input = .securityModeComplete e ran → t.pre.world.tunnel? e = none

theorem sparing_iff {t : Transition} {upfAddr : Octets 4} (hupf : t.pre.phaseBUpf = some upfAddr) :
    (poolAction P t.pre t.input).Sparing (pool t.pre) ↔ SecuresUntunnelled P t := by
  constructor
  · intro hsparing e ran hrequest
    cases hidentity : t.pre.world.identity? e with
    | none =>
        rw [World.identity?, Option.map_eq_none_iff] at hidentity
        exact World.tunnel?_of_none hidentity
    | some identity =>
        have hheld := hsparing e (by
          simp only [poolAction, hrequest, Request.poolAction, hidentity, hupf])
        exact Option.map_eq_none_iff.mp hheld
  · intro hsecures e htake
    rw [poolAction] at htake
    cases hrequest : request P t.pre t.input with
    | securityModeComplete entity ran =>
        rw [hrequest, Request.poolAction] at htake
        split at htake
        · cases htake
          exact Option.map_eq_none_iff.mpr (hsecures e ran hrequest)
        · cases htake
    | contextSetup resp =>
        rw [hrequest, Request.poolAction] at htake
        split at htake <;> cases htake
    | _ =>
        rw [hrequest] at htake
        cases htake

/-- A run in phase B that does not exhaust the counter loses no TEID exactly when every
SecurityModeComplete in it finds its entity without a tunnel. -/
theorem conserved_iff (upfAddr : Octets 4) {inputs : List Input}
    (hroom : Mealy.Always (step P) (Amf.new (some upfAddr)) inputs fun _ t => NoWrap t) :
    (∀ amf ∈ Mealy.states (step P) (Amf.new (some upfAddr)) inputs,
        (pool amf).Conserved 0x00020000) ↔
      Mealy.Always (step P) (Amf.new (some upfAddr)) inputs
        fun _ t => SecuresUntunnelled P t := by
  rw [Pool.conserved_states_iff_of_view (fun o => o.2.map N3Event.use)
    TeidAllocator.successor_bump (pool_step P) (pool_new _) hroom]
  have hphase := always_phaseBUpf P (Amf.new (some upfAddr)) inputs
  constructor
  · intro hsparing
    exact (hphase.and hsparing).mono fun past t h => (sparing_iff P h.1).mp h.2
  · intro hsecures
    exact (hphase.and hsecures).mono fun past t h => (sparing_iff P h.1).mpr h.2

end Amf

end Midn.Core
