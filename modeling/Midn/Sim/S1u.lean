import Midn.Core.Mme.Isolation
import Midn.Core.Mme.Procedure
import Midn.Core.Mme.Registry
import Midn.Core.Mme.Resources
import Midn.Sim.Bearer

/-!
# The LTE core with its user plane

The node that plays MME and UPF applies every event of the MME to its session manager. The MME
gives all its subscribers one placeholder address, so their downlink routes share one entry of the
routing table: it serves the latest bearer that was set up or updated, and none once one of them
is released.
-/

namespace Midn.Sim.S1u

open Midn.Core Midn.Core.Mme Ecs Userplane

/-! ## Tunnels behind one address -/

/-- The downlink route of a tunnel behind the placeholder address. -/
def placeholderRoute (t : TunnelComponent) : RouteEntry :=
  .new (Octets.zeros 4) t.dlTeid t.enbAddr 9

/-- What can happen to the tunnels and the routes of a node. -/
inductive Change where
  | keep
  | install (e : EntityId) (t : TunnelComponent)
  | remove (e : EntityId)

/-- The tunnels of the entities. -/
abbrev Tunnels := EntityId → Option TunnelComponent

namespace Change

def tunnels (tunnels : Tunnels) : Change → Tunnels
  | keep => tunnels
  | install e t => Function.update tunnels e (some t)
  | remove e => Function.update tunnels e none

def routing (tunnels : Tunnels) (table : RoutingTable) : Change → RoutingTable
  | keep => table
  | install _ t => table.install t.ulTeid (placeholderRoute t)
  | remove e =>
      match tunnels e with
      | some t => (table.remove t.ulTeid).2
      | none => table

/-- A tunnel is installed only if all others already have its far end, and removed only if there
is no other. -/
def Keeps (tunnels : Tunnels) : Change → Prop
  | keep => True
  | install e t => ∀ e' t', e' ≠ e → tunnels e' = some t' →
      t'.dlTeid = t.dlTeid ∧ t'.enbAddr = t.enbAddr
  | remove e => (tunnels e).isSome = true → ∀ e', e' ≠ e → tunnels e' = none

end Change

/-- All routes of a map are for the placeholder address. -/
def Placeholders {κ : Type} (routes : κ → Option RouteEntry) : Prop :=
  ∀ k route, routes k = some route → ∃ t, route = placeholderRoute t

theorem Placeholders.update {κ : Type} [DecidableEq κ] {routes : κ → Option RouteEntry}
    (hroutes : Placeholders routes) (k : κ) (t : Option TunnelComponent) :
    Placeholders (Function.update routes k (t.map placeholderRoute)) := by
  intro k' route hroute
  rcases eq_or_ne k' k with rfl | hne
  · rw [Function.update_self] at hroute
    obtain ⟨t', -, rfl⟩ := Option.map_eq_some_iff.mp hroute
    exact ⟨t', rfl⟩
  · rw [Function.update_of_ne hne] at hroute
    exact hroutes k' route hroute

/-- Every tunnel has an uplink route, and all routes are for the placeholder address. -/
structure Routed (tunnels : Tunnels) (table : RoutingTable) : Prop where
  uplink : ∀ e t, tunnels e = some t → (table.ulMap t.ulTeid).isSome = true
  ulPlaceholders : Placeholders table.ulMap
  dlPlaceholders : Placeholders table.dlMap

/-- The downlink lookup finds the route of every tunnel. -/
def Served (tunnels : Tunnels) (table : RoutingTable) : Prop :=
  Index.Resolves RouteEntry.ueIp (Option.map placeholderRoute ∘ tunnels) table.dlMap

section Change

variable {tunnels : Tunnels} {table : RoutingTable}

/-- A removal takes the placeholder address out of the table. -/
theorem dlMap_remove (hrouted : Routed tunnels table) {e : EntityId} {t : TunnelComponent}
    (ht : tunnels e = some t) :
    (table.remove t.ulTeid).2.dlMap = Function.update table.dlMap (Octets.zeros 4) none := by
  obtain ⟨route, hroute⟩ := Option.isSome_iff_exists.mp (hrouted.uplink e t ht)
  obtain ⟨t', rfl⟩ := hrouted.ulPlaceholders _ route hroute
  simp only [RoutingTable.remove, hroute]
  rfl

theorem Routed.install (hrouted : Routed tunnels table) (e : EntityId) (t : TunnelComponent) :
    Routed (Function.update tunnels e (some t)) (table.install t.ulTeid (placeholderRoute t)) where
  uplink := by
    intro e' t' ht'
    simp only [RoutingTable.install]
    by_cases hsame : t'.ulTeid = t.ulTeid
    · rw [hsame, Function.update_self, Option.isSome_some]
    · have hne : e' ≠ e := by
        rintro rfl
        rw [Function.update_self] at ht'
        exact hsame (congrArg TunnelComponent.ulTeid (Option.some.inj ht').symm)
      rw [Function.update_of_ne hne] at ht'
      rw [Function.update_of_ne hsame]
      exact hrouted.uplink e' t' ht'
  ulPlaceholders := hrouted.ulPlaceholders.update t.ulTeid (some t)
  dlPlaceholders := hrouted.dlPlaceholders.update (placeholderRoute t).ueIp (some t)

theorem Routed.remove (hrouted : Routed tunnels table) {e : EntityId} {t : TunnelComponent}
    (ht : tunnels e = some t) (hothers : ∀ e', e' ≠ e → tunnels e' = none) :
    Routed (Function.update tunnels e none) (table.remove t.ulTeid).2 where
  uplink := by
    intro e' t' ht'
    by_cases hsame : e' = e
    · rw [hsame, Function.update_self] at ht'
      cases ht'
    · rw [Function.update_of_ne hsame, hothers e' hsame] at ht'
      cases ht'
  ulPlaceholders := by
    rw [RoutingTable.ulMap_remove]
    exact hrouted.ulPlaceholders.update t.ulTeid none
  dlPlaceholders := by
    rw [dlMap_remove hrouted ht]
    exact hrouted.dlPlaceholders.update (Octets.zeros 4) none

variable (table) in
/-- Removing the tunnel of an entity that has none changes nothing. -/
theorem remove_of_none {e : EntityId} (hnone : tunnels e = none) :
    Change.tunnels tunnels (.remove e) = tunnels ∧
      Change.routing tunnels table (.remove e) = table := by
  simp only [Change.tunnels, Change.routing, hnone, and_true]
  rw [← hnone, Function.update_eq_self]

theorem Routed.change (hrouted : Routed tunnels table) {change : Change}
    (hkeeps : change.Keeps tunnels) :
    Routed (change.tunnels tunnels) (change.routing tunnels table) := by
  cases change with
  | keep => exact hrouted
  | install e t => exact hrouted.install e t
  | remove e =>
      cases ht : tunnels e with
      | none =>
          obtain ⟨htunnels, hrouting⟩ := remove_of_none table ht
          rw [htunnels, hrouting]
          exact hrouted
      | some t =>
          simp only [Change.tunnels, Change.routing, ht]
          exact hrouted.remove ht (hkeeps (by rw [ht, Option.isSome_some]))

/-- Whatever happens, the downlink routes are for the placeholder address. -/
theorem Routed.dlPlaceholders_change (hrouted : Routed tunnels table) (change : Change) :
    Placeholders (change.routing tunnels table).dlMap := by
  cases change with
  | keep => exact hrouted.dlPlaceholders
  | install e t => exact hrouted.dlPlaceholders.update (placeholderRoute t).ueIp (some t)
  | remove e =>
      cases ht : tunnels e with
      | none =>
          rw [(remove_of_none table ht).2]
          exact hrouted.dlPlaceholders
      | some t =>
          simp only [Change.routing, ht]
          rw [dlMap_remove hrouted ht]
          exact hrouted.dlPlaceholders.update (Octets.zeros 4) none

/-- A change keeps every tunnel served exactly if it keeps what the others need. -/
theorem served_change_iff (hrouted : Routed tunnels table) (hserved : Served tunnels table)
    (change : Change) :
    Served (change.tunnels tunnels) (change.routing tunnels table) ↔ change.Keeps tunnels := by
  cases change with
  | keep => exact iff_of_true hserved trivial
  | install e t =>
      rw [Served, Change.tunnels, Function.comp_update]
      refine (Index.resolves_store_iff hserved e (placeholderRoute t)).trans ?_
      constructor
      · intro hothers e' t' hne ht'
        have hroute : (Option.map placeholderRoute ∘ tunnels) e' = some (placeholderRoute t') := by
          rw [Function.comp_apply, ht', Option.map_some]
        have hsame := hothers e' (placeholderRoute t') hne hroute rfl
        exact ⟨congrArg RouteEntry.dlTeid hsame, congrArg RouteEntry.enbAddr hsame⟩
      · intro hothers e' route hne hroute _
        obtain ⟨t', ht', rfl⟩ := Option.map_eq_some_iff.mp hroute
        obtain ⟨hdlTeid, henbAddr⟩ := hothers e' t' hne ht'
        rw [placeholderRoute, placeholderRoute, hdlTeid, henbAddr]
  | remove e =>
      cases ht : tunnels e with
      | none =>
          obtain ⟨htunnels, hrouting⟩ := remove_of_none table ht
          rw [htunnels, hrouting]
          refine iff_of_true hserved ?_
          intro hsome
          rw [ht] at hsome
          cases hsome
      | some t =>
          simp only [Served, Change.tunnels, Change.routing, ht]
          rw [Function.comp_update, dlMap_remove hrouted ht]
          refine (Index.resolves_clear_iff hserved e (Octets.zeros 4)).trans ?_
          constructor
          · intro hothers _ e' hne
            cases ht' : tunnels e' with
            | none => rfl
            | some t' =>
                have hroute : (Option.map placeholderRoute ∘ tunnels) e' =
                    some (placeholderRoute t') := by
                  rw [Function.comp_apply, ht', Option.map_some]
                exact absurd rfl (hothers e' (placeholderRoute t') hne hroute)
          · intro hothers e' route hne hroute
            rw [Function.comp_apply, hothers (by rw [ht, Option.isSome_some]) e' hne] at hroute
            cases hroute

end Change

/-! ## The node -/

variable {τ υ : Type} (K : RouteMaps τ υ) (P : Primitives)

/-- Apply one event of the MME to the session manager. -/
def applyUpfEvent (upf : SessionManager τ υ) : UpfEvent → SessionManager τ υ
  | .createSession ulTeid entityId imsi ueIp enbAddr qci =>
      upf.createSessionWithTeid K ulTeid entityId imsi ueIp enbAddr qci
  | .updateBearer ulTeid dlTeid enbAddr => (upf.updateBearerInfo K ulTeid dlTeid enbAddr).2
  | .removeSession ulTeid => (upf.removeSession K ulTeid).2

/-- The MME and the session manager of one node. -/
abbrev Node (τ υ : Type) := Mme × SessionManager τ υ

/-- A fresh node in phase 3, with or without a program loaded in the kernel. -/
def Node.new (upfAddr : Octets 4) (bpf : Option (BpfHandle τ υ)) : Node τ υ :=
  (Mme.new (some upfAddr), { (SessionManager.new : SessionManager τ υ) with bpf := bpf })

/-- Process one input and apply the events in order. -/
def step : Node τ υ → Input → Node τ υ × Output :=
  Mealy.feeding (Mme.step P) fun upf output => output.2.foldl (applyUpfEvent K) upf

/-- The downlink lookup for each live entity with a tunnel yields the far end of that tunnel. -/
def OwnRoutes (w : World) (table : RoutingTable) : Prop :=
  ∀ e identity t, w.identity? e = some identity → w.tunnel? e = some t →
    ∃ route, table.lookupDl identity.ueIp = some route ∧
      route.dlTeid = t.dlTeid ∧ route.enbAddr = t.enbAddr

/-- A step leaves alone the downlink route of every live entity with a tunnel that the input does
not name. -/
def Undisturbed (t : Mealy.Transition (Node τ υ) Input Output) : Prop :=
  ∀ e identity, t.input.mmeUeS1apId? ≠ some e → t.pre.1.world.identity? e = some identity →
    (t.pre.1.world.tunnel? e).isSome = true →
      t.post.2.routing.lookupDl identity.ueIp = t.pre.2.routing.lookupDl identity.ueIp

/-- A bearer is set up or updated only to the far end that all other tunnels have, and released
only as the last one. -/
def KeepsRoutes (mme : Mme) : Request → Prop
  | .securityModeComplete e _ => (mme.world.identity? e).isSome = true →
      ∀ e' t, e' ≠ e → mme.world.tunnel? e' = some t →
        t.dlTeid = 0 ∧ t.enbAddr = Octets.zeros 4
  | .contextSetup resp => (mme.world.tunnel? resp.mmeUeS1apId).isSome = true →
      ∀ erab rest, resp.eRabsSetup = erab :: rest →
        ∀ e' t, e' ≠ resp.mmeUeS1apId → mme.world.tunnel? e' = some t →
          t.dlTeid = UInt32.fromBeBytes erab.gtpTeid ∧ t.enbAddr = erab.transportLayerAddr
  | .release msg => (mme.world.tunnel? msg.mmeUeS1apId).isSome = true →
      ∀ e', e' ≠ msg.mmeUeS1apId → mme.world.tunnel? e' = none
  | _ => True

/-- What a request does to the tunnels. -/
def bearerChange (mme : Mme) : Request → Change
  | .securityModeComplete e _ =>
      match mme.world.identity? e with
      | some _ => .install e ⟨mme.teidAllocator.alloc.1, 0, Octets.zeros 4⟩
      | none => .keep
  | .contextSetup resp =>
      match resp.eRabsSetup, mme.world.tunnel? resp.mmeUeS1apId with
      | erab :: _, some t =>
          .install resp.mmeUeS1apId
            ⟨t.ulTeid, UInt32.fromBeBytes erab.gtpTeid, erab.transportLayerAddr⟩
      | _, _ => .keep
  | .release msg => .remove msg.mmeUeS1apId
  | _ => .keep

/-- What holds of a node of this kind as long as its routes are kept. -/
structure Sane (node : Node τ υ) : Prop where
  phase : node.1.phase3Upf.isSome = true
  address : ∀ e identity, node.1.world.identity? e = some identity →
    identity.ueIp = Octets.zeros 4
  routed : Routed node.1.world.tunnel? node.2.routing

section Step

variable {K P} {mme : Mme} {upf : SessionManager τ υ} {input : Input}

theorem keeps_change_iff (r : Request) :
    (bearerChange mme r).Keeps mme.world.tunnel? ↔ KeepsRoutes mme r := by
  cases r with
  | securityModeComplete e enb =>
      simp only [bearerChange, KeepsRoutes]
      cases mme.world.identity? e with
      | none =>
          refine iff_of_true trivial ?_
          intro hsome
          cases hsome
      | some identity =>
          constructor
          · exact fun hkeeps _ => hkeeps
          · exact fun hkeeps => hkeeps rfl
  | contextSetup resp =>
      simp only [bearerChange, KeepsRoutes]
      cases hsetup : resp.eRabsSetup with
      | nil =>
          refine iff_of_true trivial ?_
          intro _ erab rest hcons
          cases hcons
      | cons erab rest =>
          cases mme.world.tunnel? resp.mmeUeS1apId with
          | none =>
              refine iff_of_true trivial ?_
              intro hsome
              cases hsome
          | some t =>
              constructor
              · intro hkeeps _ erab' rest' hcons
                cases hcons
                exact hkeeps
              · exact fun hkeeps => hkeeps rfl erab rest rfl
  | release msg => exact Iff.rfl
  | _ => exact Iff.rfl

variable (P mme input) in
theorem tunnel?_step_change (hphase : mme.phase3Upf.isSome = true) :
    (Mme.step P mme input).1.world.tunnel? =
      (bearerChange mme (request P mme input)).tunnels mme.world.tunnel? := by
  obtain ⟨upfAddr, hphase⟩ := Option.isSome_iff_exists.mp hphase
  rw [tunnel?_step]
  cases request P mme input with
  | securityModeComplete e enb =>
      simp only [Request.tunnels, bearerChange, hphase]
      cases mme.world.identity? e <;> rfl
  | contextSetup resp =>
      simp only [Request.tunnels, bearerChange]
      cases hsetup : resp.eRabsSetup with
      | nil => rfl
      | cons erab rest =>
          cases ht : mme.world.tunnel? resp.mmeUeS1apId with
          | none =>
              simp only [Option.map_none]
              rw [← ht, Function.update_eq_self]
              rfl
          | some t => rfl
  | _ => rfl

/-- The events of a step do to the routes what its request does to the tunnels. -/
theorem routing_step_change (hsane : Sane (mme, upf)) :
    (step K P (mme, upf) input).1.2.routing =
      (bearerChange mme (request P mme input)).routing mme.world.tunnel? upf.routing := by
  obtain ⟨upfAddr, hphase⟩ : ∃ upfAddr, mme.phase3Upf = some upfAddr :=
    Option.isSome_iff_exists.mp hsane.phase
  rw [step, Mealy.feeding, (resources_step P mme input).events_eq]
  cases request P mme input with
  | securityModeComplete e enb =>
      simp only [Request.events, bearerChange, hphase]
      cases hlive : mme.world.identity? e with
      | none => rfl
      | some identity =>
          simp only [List.foldl_cons, List.foldl_nil, hsane.address e identity hlive]
          rfl
  | contextSetup resp =>
      simp only [Request.events, bearerChange]
      cases hsetup : resp.eRabsSetup with
      | nil => rfl
      | cons erab rest =>
          cases ht : mme.world.tunnel? resp.mmeUeS1apId with
          | none => rfl
          | some t =>
              have hroute := Option.isSome_iff_exists.mp (hsane.routed.uplink _ t ht)
              obtain ⟨route, hroute⟩ := hroute
              obtain ⟨t', rfl⟩ := hsane.routed.ulPlaceholders _ route hroute
              simp only [List.foldl_cons, List.foldl_nil, applyUpfEvent,
                SessionManager.updateBearerInfo_of_some hroute]
              rfl
  | release msg =>
      simp only [Request.events, bearerChange, Change.routing]
      cases mme.world.tunnel? msg.mmeUeS1apId with
      | none => rfl
      | some t => rfl
  | _ => rfl

theorem address_step (hsane : Sane (mme, upf)) (e : EntityId) (identity : IdentityComponent)
    (hidentity : (Mme.step P mme input).1.world.identity? e = some identity) :
    identity.ueIp = Octets.zeros 4 := by
  rw [identity?_step] at hidentity
  cases hrequest : request P mme input with
  | challenge enb plmn imsi authInfo hss =>
      rw [hrequest, Request.identities] at hidentity
      by_cases hspawn : e = mme.world.spawn.1
      · rw [hspawn, Function.update_self] at hidentity
        cases hidentity
        rfl
      · rw [Function.update_of_ne hspawn] at hidentity
        exact hsane.address e identity hidentity
  | release msg =>
      rw [hrequest, Request.identities] at hidentity
      by_cases hreleased : e = msg.mmeUeS1apId
      · rw [hreleased, Function.update_self] at hidentity
        cases hidentity
      · rw [Function.update_of_ne hreleased] at hidentity
        exact hsane.address e identity hidentity
  | _ =>
      rw [hrequest] at hidentity
      exact hsane.address e identity hidentity

theorem sane_step (hsane : Sane (mme, upf)) (hkeeps : KeepsRoutes mme (request P mme input)) :
    Sane (step K P (mme, upf) input).1 where
  phase := by
    rw [step, Mealy.feeding, phase3Upf_step]
    exact hsane.phase
  address := address_step hsane
  routed := by
    rw [routing_step_change hsane]
    exact (tunnel?_step_change P mme input hsane.phase).symm ▸
      hsane.routed.change ((keeps_change_iff _).mpr hkeeps)

/-- A route of its own is the placeholder route of the tunnel. -/
theorem lookupDl_of_ownRoutes {w : World} {table : RoutingTable} (hown : OwnRoutes w table)
    (hroutes : Placeholders table.dlMap) {e : EntityId} {identity : IdentityComponent}
    {t : TunnelComponent} (hidentity : w.identity? e = some identity)
    (ht : w.tunnel? e = some t) : table.lookupDl identity.ueIp = some (placeholderRoute t) := by
  obtain ⟨route, hlookup, hdlTeid, henbAddr⟩ := hown e identity t hidentity ht
  obtain ⟨t', rfl⟩ := hroutes _ route hlookup
  simp only [placeholderRoute, RouteEntry.new] at hdlTeid henbAddr
  rw [hlookup, placeholderRoute, placeholderRoute, hdlTeid, henbAddr]

/-- Behind the placeholder address, having the own route is being served. -/
theorem ownRoutes_iff_served {w : World} {table : RoutingTable}
    (haddress : ∀ e identity, w.identity? e = some identity → identity.ueIp = Octets.zeros 4)
    (hroutes : Placeholders table.dlMap) : OwnRoutes w table ↔ Served w.tunnel? table := by
  constructor
  · intro hown e route hroute
    obtain ⟨t, ht, rfl⟩ := Option.map_eq_some_iff.mp hroute
    obtain ⟨identity, hidentity⟩ := identity?_of_tunnel? ht
    have hlookup := lookupDl_of_ownRoutes hown hroutes hidentity ht
    rw [haddress e identity hidentity] at hlookup
    exact hlookup
  · intro hserved e identity t hidentity ht
    have hroute : (Option.map placeholderRoute ∘ w.tunnel?) e = some (placeholderRoute t) := by
      rw [Function.comp_apply, ht, Option.map_some]
    rw [haddress e identity hidentity]
    exact ⟨placeholderRoute t, hserved e _ hroute, rfl, rfl⟩

/-- A step keeps the own routes exactly when its request does. -/
theorem ownRoutes_step_iff (hsane : Sane (mme, upf)) (hown : OwnRoutes mme.world upf.routing) :
    OwnRoutes (step K P (mme, upf) input).1.1.world (step K P (mme, upf) input).1.2.routing ↔
      KeepsRoutes mme (request P mme input) := by
  have hserved := (ownRoutes_iff_served hsane.address hsane.routed.dlPlaceholders).mp hown
  have htunnels := tunnel?_step_change P mme input hsane.phase
  have hroutes := hsane.routed.dlPlaceholders_change (bearerChange mme (request P mme input))
  have hchange := served_change_iff hsane.routed hserved (bearerChange mme (request P mme input))
  rw [keeps_change_iff, ← htunnels] at hchange
  rw [routing_step_change hsane]
  exact (ownRoutes_iff_served (address_step hsane) hroutes).trans hchange

/-- Routes that are right before and after a step are not disturbed by it. -/
theorem undisturbed_step (hsane : Sane (mme, upf)) (hown : OwnRoutes mme.world upf.routing)
    (hafter : Sane (step K P (mme, upf) input).1)
    (hownAfter : OwnRoutes (step K P (mme, upf) input).1.1.world
      (step K P (mme, upf) input).1.2.routing) :
    Undisturbed (Mealy.transition (step K P) (mme, upf) input) := by
  intro e identity hne hidentity hsome
  by_cases hevents : (request P mme input).events mme = []
  · have hupf : (step K P (mme, upf) input).1.2 = upf := by
      rw [step, Mealy.feeding, (resources_step P mme input).events_eq, hevents, List.foldl_nil]
    rw [Mealy.transition, hupf]
  · have hfresh : SpawnsFresh P (Mealy.transition (Mme.step P) mme input) := by
      intro enb plmn imsi authInfo hss hrequest
      have hnone : (request P mme input).events mme = [] :=
        congrArg (Request.events mme) hrequest
      exact absurd hnone hevents
    obtain ⟨t, ht⟩ := Option.isSome_iff_exists.mp hsome
    obtain ⟨n, hn, htunnel⟩ := Option.bind_eq_some_iff.mp ht
    have hstays : (Mme.step P mme input).1.world.get? e = some n :=
      (isolates_step hfresh).get?_eq hne hn
    have hidentity' : (Mme.step P mme input).1.world.identity? e = some identity := by
      rw [← hidentity]
      exact congrArg (Option.map Entity.identity) (hstays.trans hn.symm)
    have ht' : (Mme.step P mme input).1.world.tunnel? e = some t := by
      rw [← ht]
      exact congrArg (Option.bind · Entity.tunnel) (hstays.trans hn.symm)
    have hbefore := lookupDl_of_ownRoutes hown hsane.routed.dlPlaceholders hidentity ht
    exact (lookupDl_of_ownRoutes hownAfter hafter.routed.dlPlaceholders hidentity' ht').trans
      hbefore.symm

end Step

theorem sane_new (upfAddr : Octets 4) (bpf : Option (BpfHandle τ υ)) :
    Sane (Node.new upfAddr bpf) where
  phase := rfl
  address := by
    intro e identity hidentity
    cases (congrArg (Option.map Entity.identity) (World.get?_new e)).symm.trans hidentity
  routed := by
    constructor
    · intro e t ht
      cases (congrArg (Option.bind · Entity.tunnel) (World.get?_new e)).symm.trans ht
    · intro ulTeid route hroute
      cases hroute
    · intro ueIp route hroute
      cases hroute

theorem ownRoutes_new (upfAddr : Octets 4) (bpf : Option (BpfHandle τ υ)) :
    OwnRoutes (Node.new upfAddr bpf).1.world (Node.new upfAddr bpf).2.routing := by
  intro e identity t _ ht
  cases (congrArg (Option.bind · Entity.tunnel) (World.get?_new e)).symm.trans ht

/-- In a run of a node in phase 3 the downlink lookup finds the own routes in all states exactly
when bearers are set up and updated only to the far end of all others, and released last. -/
theorem ownRoutes_states_iff (upfAddr : Octets 4) (bpf : Option (BpfHandle τ υ))
    (inputs : List Input) :
    (∀ node ∈ Mealy.states (step K P) (Node.new upfAddr bpf) inputs,
        OwnRoutes node.1.world node.2.routing) ↔
      Mealy.Always (step K P) (Node.new upfAddr bpf) inputs
        fun _ t => KeepsRoutes t.pre.1 (request P t.pre.1 t.input) := by
  refine Mealy.forall_mem_states_iff Sane (sane_new upfAddr bpf) (ownRoutes_new upfAddr bpf) ?_ ?_
  · intro node input hsane _ hkeeps
    exact sane_step hsane hkeeps
  · intro node input hsane hown
    exact ownRoutes_step_iff hsane hown

/-- Under the same condition, and only then, no step disturbs the route of another subscriber
either. -/
theorem downlink_isolated_iff (upfAddr : Octets 4) (bpf : Option (BpfHandle τ υ))
    (inputs : List Input) :
    ((∀ node ∈ Mealy.states (step K P) (Node.new upfAddr bpf) inputs,
          OwnRoutes node.1.world node.2.routing) ∧
        Mealy.Always (step K P) (Node.new upfAddr bpf) inputs fun _ t => Undisturbed t) ↔
      Mealy.Always (step K P) (Node.new upfAddr bpf) inputs
        fun _ t => KeepsRoutes t.pre.1 (request P t.pre.1 t.input) := by
  rw [ownRoutes_states_iff]
  refine and_iff_left_of_imp ?_
  intro hkeeps
  refine Mealy.always_of_invariant
    (fun _ node => Sane node ∧ OwnRoutes node.1.world node.2.routing)
    ⟨sane_new upfAddr bpf, ownRoutes_new upfAddr bpf⟩ ?_ ?_ hkeeps
  · intro _ node input hnode hkeeps
    exact ⟨sane_step hnode.1 hkeeps, (ownRoutes_step_iff hnode.1 hnode.2).mpr hkeeps⟩
  · intro _ node input hnode hkeeps
    exact undisturbed_step hnode.1 hnode.2 (sane_step hnode.1 hkeeps)
      ((ownRoutes_step_iff hnode.1 hnode.2).mpr hkeeps)

/-- A plain SecurityModeComplete for any entity. -/
def secureAs (e : EntityId) : Input :=
  .s1ap (Octets.zeros 16) (.uplinkNasTransport
    ⟨e, 1, Nas.encodeSecModeComplete, Octets.zeros 5, Octets.zeros 7⟩)

theorem request_secureAs (mme : Mme) (e : EntityId) :
    request P mme (secureAs e) = .securityModeComplete e 1 :=
  request_secModeComplete P mme (Octets.zeros 16) rfl

theorem tunnel?_secureAs {mme : Mme} {upfAddr : Octets 4} (hphase : mme.phase3Upf = some upfAddr)
    {e : EntityId} {identity : IdentityComponent}
    (hlive : mme.world.identity? e = some identity) :
    (Mme.step P mme (secureAs e)).1.world.tunnel? =
      Function.update mme.world.tunnel? e
        (some ⟨mme.teidAllocator.alloc.1, 0, Octets.zeros 4⟩) := by
  simp only [tunnel?_step, request_secureAs, Request.tunnels, hlive, hphase]

theorem identity?_secureAs (mme : Mme) (e : EntityId) :
    (Mme.step P mme (secureAs e)).1.world.identity? = mme.world.identity? := by
  rw [identity?_step, request_secureAs]
  rfl

/-- Of two secured subscribers, the release of the first takes the route of the second. -/
theorem not_keepsRoutes_of_attached {mme : Mme} (hattached : Attached 2 mme) {upfAddr : Octets 4}
    (hphase : mme.phase3Upf = some upfAddr) :
    ¬ KeepsRoutes (Mme.step P (Mme.step P mme (secureAs 0)).1 (secureAs 1)).1
      (.release ⟨0, 1⟩) := by
  intro hkeeps
  have hphase' := (phase3Upf_step P mme (secureAs 0)).trans hphase
  have hlive := hattached.identity?_eq 1 (by decide)
  rw [← identity?_secureAs P mme 0] at hlive
  have hfirst := tunnel?_secureAs P hphase (hattached.identity?_eq 0 (by decide))
  have hsecond := tunnel?_secureAs P hphase' hlive
  have hsome : ((Mme.step P (Mme.step P mme (secureAs 0)).1 (secureAs 1)).1.world.tunnel?
      0).isSome = true := by
    rw [hsecond, Function.update_of_ne (by decide), hfirst, Function.update_self]
    rfl
  have hnone := hkeeps hsome 1 (by decide)
  rw [hsecond, Function.update_self] at hnone
  cases hnone

/-- Two subscribers attach and complete security. -/
def secureBoth : List Input :=
  provisionTest :: List.replicate 2 attachTest ++ [secureAs 0] ++ [secureAs 1]

/-- Then the first of them is released, and the second is left without a downlink route. -/
theorem releaseFirst_cuts_off :
    ¬ ∃ P : Primitives,
      (∀ node ∈ Mealy.states (step .unbounded P) (Node.new (Octets.zeros 4) none)
          (secureBoth ++ [releaseFirst]), OwnRoutes node.1.world node.2.routing) ∧
        Mealy.Always (step .unbounded P) (Node.new (Octets.zeros 4) none)
          (secureBoth ++ [releaseFirst]) fun _ t => Undisturbed t := by
  rintro ⟨P, hown, -⟩
  have hkeeps := (ownRoutes_states_iff .unbounded P (Octets.zeros 4) none _).mp hown
  have hlast : KeepsRoutes (Mealy.after (step .unbounded P) (Node.new (Octets.zeros 4) none)
      secureBoth).1 (.release ⟨0, 1⟩) := hkeeps.last
  have hmme : (Mealy.after (step .unbounded P) (Node.new (Octets.zeros 4) none) secureBoth).1 =
      Mealy.after (Mme.step P) (Mme.new (some (Octets.zeros 4))) secureBoth :=
    Mealy.after_feeding_fst _ _ _
  have hattached := attached_replicate (P := P) (some (Octets.zeros 4)) 2
  have hphase := (phase3Upf_after P (provisioned P (some (Octets.zeros 4)))
    (List.replicate 2 attachTest)).trans (phase3Upf_step P (Mme.new _) provisionTest)
  rw [hmme, secureBoth, Mealy.after_concat, Mealy.after_concat, Mealy.after_cons,
    ← provisioned] at hlast
  exact not_keepsRoutes_of_attached P hattached hphase hlast

end Midn.Sim.S1u
