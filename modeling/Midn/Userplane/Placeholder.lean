import Midn.Userplane.BearerUpdate
import Midn.Userplane.Forwarder

/-!
# Placeholder routes

A session that the core creates has a downlink route with TEID 0 until its bearer is known. The
kernel program leaves packets for such a route to userspace; the forwarder tunnels them. So a packet
is kept from the placeholder exactly when none comes for an address whose downlink route was last
written with TEID 0.
-/

namespace Midn.Userplane

open GtpXdp

namespace SessionManager

variable {τ υ : Type}

/-- A call of the session manager, or a downlink packet for the forwarder on its routes. -/
inductive Event (τ υ : Type) where
  | act (a : Act τ υ)
  | downlink (pkt : DlPacket)

def serve (K : RouteMaps τ υ) (manager : SessionManager τ υ) :
    Event τ υ → SessionManager τ υ × Option (List UInt8 × SocketAddr)
  | .act a => ((manager.act K a).1, none)
  | .downlink pkt => (manager, encapsulateDownlink pkt manager.routing)

/-- The TEID of the downlink route of an address. -/
def downlinkTeid (manager : SessionManager τ υ) (ueIp : Octets 4) : Option UInt32 :=
  (manager.routing.dlMap ueIp).map RouteEntry.dlTeid

/-- The address whose downlink route a call writes, with the TEID it leaves there: none if the
route is removed, 0 if it is a placeholder. -/
def downlinkWrite (manager : SessionManager τ υ) : Event τ υ → Option (Octets 4 × Option UInt32)
  | .act (.call (.createSession _ _ ueIp dlTeid _ _)) => some (ueIp, some dlTeid)
  | .act (.call (.ofCore op)) =>
      match op with
      | .createSessionWithTeid _ _ _ ueIp _ _ => some (ueIp, some 0)
      | .updateBearerInfo ulTeid dlTeid _ =>
          (manager.sessions ulTeid).map fun s => (s.ueIp, some dlTeid)
      | .updateDlTeid ulTeid dlTeid =>
          (manager.sessions ulTeid).map fun s => (s.ueIp, some dlTeid)
      | .removeSession ulTeid => (manager.sessions ulTeid).map fun s => (s.ueIp, none)
  | _ => none

abbrev ServeTransition (τ υ : Type) :=
  Mealy.Transition (SessionManager τ υ) (Event τ υ) (Option (List UInt8 × SocketAddr))

/-- A downlink packet is tunnelled only if its route has a TEID other than 0. -/
def Gated (t : ServeTransition τ υ) : Prop :=
  ∀ pkt, t.input = .downlink pkt → ∀ route, t.pre.routing.lookupDl pkt.ueIp = some route →
    t.output.isSome = true → route.dlTeid ≠ 0

/-- A downlink packet comes only for an address whose downlink route was not last written with
TEID 0. -/
def AwaitsBearer (past : List (ServeTransition τ υ)) (t : ServeTransition τ υ) : Prop :=
  ∀ pkt, t.input = .downlink pkt →
    ¬ Mealy.LastWrote (fun u => downlinkWrite u.pre u.input) pkt.ueIp (some 0) past

variable {K : RouteMaps τ υ} {manager : SessionManager τ υ}

/-! ## One step -/

theorem downlinkTeid_install (ulTeid entityId : UInt32) (imsi : UInt64) (ueIp : Octets 4)
    (dlTeid : UInt32) (enbAddr : Octets 4) (qci : UInt8) :
    (manager.install ulTeid entityId imsi ueIp dlTeid enbAddr qci).downlinkTeid =
      Function.update manager.downlinkTeid ueIp (some dlTeid) :=
  Function.comp_update (Option.map RouteEntry.dlTeid) manager.routing.dlMap ueIp _

/-- An update of a bearer writes the downlink route of the subscriber's address. -/
theorem downlinkTeid_updateBearerInfo (hpre : manager.Consistent) (ulTeid dlTeid : UInt32)
    (enbAddr : Octets 4) :
    (manager.updateBearerInfo K ulTeid dlTeid enbAddr).2.downlinkTeid =
      Mealy.write manager.downlinkTeid
        ((manager.sessions ulTeid).map fun s => (s.ueIp, some dlTeid)) := by
  have hreplaces : manager.ReplacesBearer K ulTeid dlTeid enbAddr := replacesBearer hpre ..
  unfold ReplacesBearer at hreplaces
  split at hreplaces
  next hnone =>
    rw [hreplaces, hnone]
    rfl
  next s hs =>
    obtain ⟨entry, -, hupdate⟩ := hreplaces
    rw [hupdate, hs]
    exact Function.comp_update (Option.map RouteEntry.dlTeid) manager.routing.dlMap s.ueIp _

/-- The removal of a session removes the downlink route of the subscriber's address. -/
theorem downlinkTeid_removeSession (hpre : manager.Consistent) (ulTeid : UInt32) :
    (manager.removeSession K ulTeid).2.downlinkTeid =
      Mealy.write manager.downlinkTeid
        ((manager.sessions ulTeid).map fun s => (s.ueIp, none)) := by
  cases hs : manager.sessions ulTeid with
  | none =>
      have hentry := hpre.no_route_of_no_session hs
      funext ueIp
      simp only [downlinkTeid, removeSession, RoutingTable.remove, hentry, Option.map_none,
        Mealy.write]
  | some s =>
      obtain ⟨entry, hentry, hbearer⟩ := hpre.route_of_session hs
      have haddress : entry.ueIp = s.ueIp := congrArg Bearer.ueIp hbearer
      have hrouting : (manager.removeSession K ulTeid).2.routing.dlMap =
          Function.update manager.routing.dlMap s.ueIp none := by
        simp only [removeSession, RoutingTable.remove, hentry, haddress]
      funext ueIp
      rw [downlinkTeid, hrouting]
      exact congrFun
        (Function.comp_update (Option.map RouteEntry.dlTeid) manager.routing.dlMap s.ueIp none) ueIp

theorem downlinkTeid_updateDlTeid (hpre : manager.Consistent) (ulTeid dlTeid : UInt32) :
    (manager.updateDlTeid K ulTeid dlTeid).2.downlinkTeid =
      Mealy.write manager.downlinkTeid
        ((manager.sessions ulTeid).map fun s => (s.ueIp, some dlTeid)) := by
  unfold updateDlTeid
  split
  next enbAddr _ => exact downlinkTeid_updateBearerInfo hpre ulTeid dlTeid enbAddr
  next hnone =>
    cases hs : manager.sessions ulTeid with
    | none => rfl
    | some s =>
        obtain ⟨entry, hentry, -⟩ := hpre.route_of_session hs
        rw [RoutingTable.lookupUl, hentry] at hnone
        cases hnone

/-- A step changes the TEIDs of the downlink routes by what it writes. -/
theorem downlinkTeid_serve (hpre : manager.Consistent) (e : Event τ υ) :
    (manager.serve K e).1.downlinkTeid =
      Mealy.write manager.downlinkTeid (manager.downlinkWrite e) := by
  cases e with
  | downlink pkt => rfl
  | act a =>
      cases a with
      | accountUplink ulTeid bytes => rfl
      | accountDownlink ulTeid bytes => rfl
      | call c =>
          cases c with
          | createSession entityId imsi ueIp dlTeid enbAddr qci =>
              have halloc : manager.allocUlTeid.2.downlinkTeid = manager.downlinkTeid := by
                funext ueIp'
                rw [downlinkTeid, (allocUlTeid_routes manager).1, downlinkTeid]
              rw [downlinkWrite, Mealy.write, ← halloc]
              exact downlinkTeid_install ..
          | setBpfHandle bpf => rfl
          | ofCore op =>
              cases op with
              | createSessionWithTeid ulTeid entityId imsi ueIp enbAddr qci =>
                  exact downlinkTeid_install ulTeid entityId imsi ueIp 0 enbAddr qci
              | updateBearerInfo ulTeid dlTeid enbAddr =>
                  exact downlinkTeid_updateBearerInfo hpre ulTeid dlTeid enbAddr
              | updateDlTeid ulTeid dlTeid => exact downlinkTeid_updateDlTeid hpre ulTeid dlTeid
              | removeSession ulTeid => exact downlinkTeid_removeSession hpre ulTeid

theorem consistent_serve (hpre : manager.Consistent) (e : Event τ υ) :
    (manager.serve K e).1.Consistent := by
  cases e with
  | downlink pkt => exact hpre
  | act a => exact consistent_act hpre a

/-- A packet is kept from a placeholder exactly when the route of its address is none. -/
theorem gated_downlink_iff (pkt : DlPacket) :
    Gated (Mealy.transition (serve K) manager (.downlink pkt)) ↔
      manager.downlinkTeid pkt.ueIp ≠ some 0 := by
  constructor
  · intro hgated hplaceholder
    obtain ⟨route, hroute, hteid⟩ := Option.map_eq_some_iff.mp hplaceholder
    have hdatagram : (encapsulateDownlink pkt manager.routing).isSome = true := by
      rw [encapsulateDownlink_of_some hroute, Option.isSome_some]
    exact hgated pkt rfl route hroute hdatagram hteid
  · intro hconfirmed pkt' hinput route hroute _ hteid
    cases hinput
    have hdl : manager.routing.dlMap pkt.ueIp = some route := hroute
    apply hconfirmed
    rw [downlinkTeid, hdl, Option.map_some, hteid]

/-! ## Runs -/

/-- Every downlink packet of a run is kept from the placeholders exactly when none of them comes
for an address whose downlink route was last written with TEID 0. -/
theorem always_gated_iff_always_awaitsBearer (K : RouteMaps τ υ) (events : List (Event τ υ)) :
    Mealy.Always (serve K) new events (fun _ t => Gated t) ↔
      Mealy.Always (serve K) new events AwaitsBearer := by
  apply Mealy.always_iff_of_invariant fun past manager => manager.Consistent ∧
    ∀ ueIp, Mealy.LastWrote (fun u => downlinkWrite u.pre u.input) ueIp (some 0) past ↔
      manager.downlinkTeid ueIp = some 0
  · refine ⟨consistent_new, fun ueIp => iff_of_false ?_ ?_⟩
    · exact Mealy.not_lastWrote_nil
    · exact fun hteid => nomatch hteid
  · intro past manager e hpre _
    refine ⟨consistent_serve hpre.1 e, fun ueIp => ?_⟩
    apply Mealy.lastWrote_append_singleton_iff SessionManager.downlinkTeid (hpre.2 ueIp)
    exact downlinkTeid_serve hpre.1 e
  · intro past manager e hpre
    cases e with
    | act a => exact iff_of_true (fun _ hinput => nomatch hinput) (fun _ hinput => nomatch hinput)
    | downlink pkt =>
        rw [gated_downlink_iff]
        constructor
        · intro hconfirmed pkt' hinput hlast
          cases hinput
          exact hconfirmed ((hpre.2 _).mp hlast)
        · intro hawaits hplaceholder
          exact hawaits pkt rfl ((hpre.2 _).mpr hplaceholder)

/-- A packet that comes between the creation of a session by the core and the update of its bearer
is tunnelled with TEID 0. -/
theorem downlink_before_bearer_not_gated :
    ¬ Mealy.Always
      (serve ⟨.unbounded UInt32 XdpRouteEntry, .unbounded (Octets 4) XdpRouteEntry⟩) new
      [.act (.call (.ofCore (.createSessionWithTeid 1 0 1 (Octets.zeros 4) (Octets.zeros 4) 9))),
        .downlink ⟨[0x45], Octets.zeros 4⟩]
      fun _ t => Gated t := by
  intro halways
  have hlast := (Mealy.always_cons.mp (Mealy.always_cons.mp halways).2).1
  exact (gated_downlink_iff _).mp hlast rfl

end SessionManager

end Midn.Userplane
