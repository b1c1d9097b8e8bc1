import Midn.Ecs.World
import Midn.Lib.Index
import Midn.Userplane.SessionManager

/-!
# Bearers in the two planes

The control plane keeps a bearer with the entity it belongs to, the user plane under its uplink
TEID. The two planes are in step when they agree on all of them.
-/

namespace Midn.Sim

open Ecs Userplane

/-- A bearer as both planes know it: whose it is, and its two ends. -/
structure Bearer where
  entityId : EntityId
  imsi : UInt64
  ulTeid : UInt32
  dlTeid : UInt32
  enbAddr : Octets 4

/-! ## Control plane -/

/-- The bearer of an entity with an identity and a tunnel. -/
def bearerOf (e : EntityId) : Option IdentityComponent → Option TunnelComponent → Option Bearer
  | some identity, some t => some ⟨e, identity.imsi, t.ulTeid, t.dlTeid, t.enbAddr⟩
  | _, _ => none

@[simp] theorem bearerOf_no_tunnel (e : EntityId) (identity : Option IdentityComponent) :
    bearerOf e identity none = none := by
  cases identity <;> rfl

/-- The bearer of a live entity with a tunnel. -/
def coreBearer (w : World) (e : EntityId) : Option Bearer :=
  bearerOf e (w.identity? e) (w.tunnel? e)

/-- An entity with a tunnel is live. -/
theorem identity?_of_tunnel? {w : World} {e : EntityId} {t : TunnelComponent}
    (htunnel : w.tunnel? e = some t) : ∃ identity, w.identity? e = some identity := by
  obtain ⟨n, hn, _⟩ := Option.bind_eq_some_iff.mp htunnel
  exact ⟨n.identity, World.identity?_of_some hn⟩

theorem coreBearer_of_tunnel? {w : World} {e : EntityId} {identity : IdentityComponent}
    {t : TunnelComponent} (hidentity : w.identity? e = some identity)
    (htunnel : w.tunnel? e = some t) :
    coreBearer w e = some ⟨e, identity.imsi, t.ulTeid, t.dlTeid, t.enbAddr⟩ := by
  rw [coreBearer, hidentity, htunnel, bearerOf]

theorem coreBearer_of_no_tunnel {w : World} {e : EntityId} (htunnel : w.tunnel? e = none) :
    coreBearer w e = none := by
  rw [coreBearer, htunnel, bearerOf_no_tunnel]

/-- A bearer is kept with its own entity. -/
theorem entityId_of_coreBearer {w : World} {e : EntityId} {b : Bearer}
    (hbearer : coreBearer w e = some b) : b.entityId = e ∧
      ∃ t, w.tunnel? e = some t ∧ t.ulTeid = b.ulTeid := by
  cases htunnel : w.tunnel? e with
  | none =>
      rw [coreBearer_of_no_tunnel htunnel] at hbearer
      cases hbearer
  | some t =>
      obtain ⟨identity, hidentity⟩ := identity?_of_tunnel? htunnel
      rw [coreBearer_of_tunnel? hidentity htunnel] at hbearer
      cases hbearer
      exact ⟨rfl, t, rfl, rfl⟩

/-- The bearers after the identity and the tunnel of one entity have been rewritten. -/
theorem coreBearer_of_update {w w' : World} {e : EntityId} {identity : Option IdentityComponent}
    {tunnel : Option TunnelComponent}
    (hidentity : w'.identity? = Function.update w.identity? e identity)
    (htunnel : w'.tunnel? = Function.update w.tunnel? e tunnel) :
    coreBearer w' = Function.update (coreBearer w) e (bearerOf e identity tunnel) := by
  funext e'
  rw [coreBearer, hidentity, htunnel]
  rcases eq_or_ne e' e with rfl | hne
  · simp only [Function.update_self]
  · simp only [Function.update_of_ne hne, coreBearer]

/-! ## User plane -/

section UserPlane

variable {τ υ : Type} {K : RouteMaps τ υ} (upf : SessionManager τ υ)

def sessionBearer (s : UserPlaneSession) : Bearer :=
  ⟨s.entityId, s.imsi, s.ulTeid, s.dlTeid, s.enbAddr⟩

/-- The bearer of the session with a TEID. -/
def upfBearer (ulTeid : UInt32) : Option Bearer := (upf.sessions ulTeid).map sessionBearer

/-- Every session is found under its own TEID. -/
def Keyed : Prop := ∀ ulTeid s, upf.sessions ulTeid = some s → s.ulTeid = ulTeid

variable {upf} {ulTeid : UInt32}

/-- The bearers after one session has been rewritten. -/
theorem upfBearer_of_update {upf' : SessionManager τ υ} {s : Option UserPlaneSession}
    (hsessions : upf'.sessions = Function.update upf.sessions ulTeid s) :
    upfBearer upf' = Function.update (upfBearer upf) ulTeid (s.map sessionBearer) := by
  have hcomp := Function.comp_update (Option.map sessionBearer) upf.sessions ulTeid s
  rw [← hsessions] at hcomp
  exact hcomp

theorem Keyed.of_update (hkeyed : Keyed upf) {upf' : SessionManager τ υ}
    {s : Option UserPlaneSession}
    (hsessions : upf'.sessions = Function.update upf.sessions ulTeid s)
    (hs : ∀ s', s = some s' → s'.ulTeid = ulTeid) : Keyed upf' := by
  intro ulTeid' s' hs'
  rw [hsessions] at hs'
  rcases eq_or_ne ulTeid' ulTeid with rfl | hne
  · rw [Function.update_self] at hs'
    exact hs s' hs'
  · rw [Function.update_of_ne hne] at hs'
    exact hkeyed ulTeid' s' hs'

/-- Updating a bearer rewrites its session, if there is one. -/
theorem sessions_updateBearerInfo (hcoherent : upf.Coherent) (dlTeid : UInt32)
    (enbAddr : Octets 4) :
    (upf.updateBearerInfo K ulTeid dlTeid enbAddr).2.sessions =
      Function.update upf.sessions ulTeid
        ((upf.sessions ulTeid).map fun s => { s with dlTeid := dlTeid, enbAddr := enbAddr }) := by
  cases hcurrent : upf.routing.ulMap ulTeid with
  | none =>
      have hnone := hcoherent ulTeid
      rw [hcurrent, Option.map_none, Option.map_eq_none_iff] at hnone
      rw [SessionManager.updateBearerInfo_of_none hcurrent, hnone, Option.map_none, ← hnone,
        Function.update_eq_self]
  | some current => rw [SessionManager.updateBearerInfo_of_some hcurrent]

theorem sessions_removeSession :
    (upf.removeSession K ulTeid).2.sessions = Function.update upf.sessions ulTeid none := rfl

end UserPlane

/-- The sessions of the user plane are the bearers of the control plane. -/
def InStep {τ υ : Type} (w : World) (upf : SessionManager τ υ) : Prop :=
  Keyed upf ∧ Index.Paired Bearer.entityId Bearer.ulTeid (coreBearer w) (upfBearer upf)

end Midn.Sim
