import Midn.Userplane.Allocation

/-!
# Bearer updates

The sessions of a session manager and its uplink routes are kept by separate code. Whatever calls
are made, they agree on the address of the subscriber and on the downlink end of the bearer, so an
update of a bearer finds a route exactly when there is a session, and replaces it in place.
-/

namespace Midn.Userplane

namespace SessionManager

variable {τ υ : Type}

/-! ## Byte accounting -/

def accountUplink (manager : SessionManager τ υ) (ulTeid : UInt32) (bytes : UInt64) :
    SessionManager τ υ :=
  { manager with
    sessions := Function.update manager.sessions ulTeid
      ((manager.sessions ulTeid).map fun s => { s with bytesUl := s.bytesUl + bytes }) }

def accountDownlink (manager : SessionManager τ υ) (ulTeid : UInt32) (bytes : UInt64) :
    SessionManager τ υ :=
  { manager with
    sessions := Function.update manager.sessions ulTeid
      ((manager.sessions ulTeid).map fun s => { s with bytesDl := s.bytesDl + bytes }) }

/-- The calls of a session manager, with those of the packet path that count bytes. -/
inductive Act (τ υ : Type) where
  | call (call : Call τ υ)
  | accountUplink (ulTeid : UInt32) (bytes : UInt64)
  | accountDownlink (ulTeid : UInt32) (bytes : UInt64)

def act (K : RouteMaps τ υ) (manager : SessionManager τ υ) :
    Act τ υ → SessionManager τ υ × Option UInt32
  | .call c => manager.call K c
  | .accountUplink ulTeid bytes => (manager.accountUplink ulTeid bytes, none)
  | .accountDownlink ulTeid bytes => (manager.accountDownlink ulTeid bytes, none)

/-! ## Agreement of sessions and routes -/

/-- What a session and its uplink route have in common. -/
structure Bearer where
  ueIp : Octets 4
  dlTeid : UInt32
  enbAddr : Octets 4

def sessionBearer (s : UserPlaneSession) : Bearer := ⟨s.ueIp, s.dlTeid, s.enbAddr⟩

def routeBearer (entry : RouteEntry) : Bearer := ⟨entry.ueIp, entry.dlTeid, entry.enbAddr⟩

/-- The same TEIDs have sessions and uplink routes, with the same bearers. -/
def Agrees (manager : SessionManager τ υ) : Prop :=
  ∀ ulTeid, (manager.sessions ulTeid).map sessionBearer =
    (manager.routing.ulMap ulTeid).map routeBearer

/-- An update without a session is refused and changes nothing. Otherwise the downlink end is
replaced in the session and in its uplink route, which becomes the downlink route of the
subscriber's address; the kernel maps get a copy, and the rest stays as it is. -/
def ReplacesBearer (K : RouteMaps τ υ) (manager : SessionManager τ υ) (ulTeid dlTeid : UInt32)
    (enbAddr : Octets 4) : Prop :=
  match manager.sessions ulTeid with
  | none => manager.updateBearerInfo K ulTeid dlTeid enbAddr = (false, manager)
  | some s => ∃ entry, manager.routing.ulMap ulTeid = some entry ∧
      manager.updateBearerInfo K ulTeid dlTeid enbAddr =
        (true,
          { manager with
            sessions := Function.update manager.sessions ulTeid
              (some { s with dlTeid := dlTeid, enbAddr := enbAddr })
            routing :=
              ⟨Function.update manager.routing.ulMap ulTeid
                  (some { entry with dlTeid := dlTeid, enbAddr := enbAddr }),
                Function.update manager.routing.dlMap s.ueIp
                  (some { entry with dlTeid := dlTeid, enbAddr := enbAddr })⟩
            bpf := mirror K manager.bpf ulTeid s.ueIp (.new dlTeid enbAddr 2152) })

/-- Sessions and routes agree, and every route leads to the GTP-U port. -/
structure Consistent (manager : SessionManager τ υ) : Prop where
  agrees : manager.Agrees
  enbPort : ∀ ulTeid entry, manager.routing.ulMap ulTeid = some entry → entry.enbPort = 2152

variable {K : RouteMaps τ υ} {manager manager' : SessionManager τ υ}

theorem consistent_new : (new : SessionManager τ υ).Consistent :=
  ⟨fun _ => rfl, fun _ _ hentry => nomatch hentry⟩

/-- A change of one TEID keeps them consistent if the new session and the new route are. -/
theorem Consistent.update (hpre : manager.Consistent) {ulTeid : UInt32}
    {s : Option UserPlaneSession} {entry : Option RouteEntry}
    (hsessions : manager'.sessions = Function.update manager.sessions ulTeid s)
    (hul : manager'.routing.ulMap = Function.update manager.routing.ulMap ulTeid entry)
    (hbearer : s.map sessionBearer = entry.map routeBearer)
    (hport : ∀ new, entry = some new → new.enbPort = 2152) : manager'.Consistent := by
  constructor
  · intro ulTeid'
    rw [hsessions, hul]
    by_cases hsame : ulTeid' = ulTeid
    · rw [hsame, Function.update_self, Function.update_self, hbearer]
    · rw [Function.update_of_ne hsame, Function.update_of_ne hsame, hpre.agrees]
  · intro ulTeid' new hnew
    rw [hul] at hnew
    by_cases hsame : ulTeid' = ulTeid
    · rw [hsame, Function.update_self] at hnew
      exact hport new hnew
    · rw [Function.update_of_ne hsame] at hnew
      exact hpre.enbPort ulTeid' new hnew

/-- A change of a session alone keeps them consistent if its bearer stays. -/
theorem Consistent.update_session (hpre : manager.Consistent) {ulTeid : UInt32}
    {s : Option UserPlaneSession}
    (hsessions : manager'.sessions = Function.update manager.sessions ulTeid s)
    (hrouting : manager'.routing = manager.routing)
    (hbearer : s.map sessionBearer = (manager.sessions ulTeid).map sessionBearer) :
    manager'.Consistent := by
  have hul : manager'.routing.ulMap =
      Function.update manager.routing.ulMap ulTeid (manager.routing.ulMap ulTeid) := by
    rw [hrouting, Function.update_eq_self]
  apply hpre.update hsessions hul
  · rw [hbearer, hpre.agrees]
  · exact hpre.enbPort ulTeid

theorem consistent_accountUplink (hpre : manager.Consistent) (ulTeid : UInt32) (bytes : UInt64) :
    (manager.accountUplink ulTeid bytes).Consistent := by
  refine hpre.update_session rfl rfl ?_
  rw [Option.map_map]
  rfl

theorem consistent_accountDownlink (hpre : manager.Consistent) (ulTeid : UInt32)
    (bytes : UInt64) : (manager.accountDownlink ulTeid bytes).Consistent := by
  refine hpre.update_session rfl rfl ?_
  rw [Option.map_map]
  rfl

theorem consistent_install (hpre : manager.Consistent) (ulTeid entityId : UInt32) (imsi : UInt64)
    (ueIp : Octets 4) (dlTeid : UInt32) (enbAddr : Octets 4) (qci : UInt8) :
    (manager.install ulTeid entityId imsi ueIp dlTeid enbAddr qci).Consistent := by
  apply hpre.update rfl rfl
  · rfl
  · intro new hnew
    cases hnew
    rfl

theorem consistent_allocUlTeid (hpre : manager.Consistent) : manager.allocUlTeid.2.Consistent := by
  rw [allocUlTeid]
  split
  · exact ⟨hpre.agrees, hpre.enbPort⟩
  · exact ⟨hpre.agrees, hpre.enbPort⟩

/-- A session and the uplink route of its TEID come together. -/
theorem Consistent.route_of_session (hpre : manager.Consistent) {ulTeid : UInt32}
    {s : UserPlaneSession} (hs : manager.sessions ulTeid = some s) :
    ∃ entry, manager.routing.ulMap ulTeid = some entry ∧ routeBearer entry = sessionBearer s := by
  have hagree := hpre.agrees ulTeid
  rw [hs, Option.map_some] at hagree
  exact Option.map_eq_some_iff.mp hagree.symm

theorem Consistent.no_route_of_no_session (hpre : manager.Consistent) {ulTeid : UInt32}
    (hnone : manager.sessions ulTeid = none) : manager.routing.ulMap ulTeid = none := by
  have hagree := hpre.agrees ulTeid
  rw [hnone, Option.map_none] at hagree
  exact Option.map_eq_none_iff.mp hagree.symm

/-- An update replaces the downlink end of one bearer, in both places where it is kept. -/
theorem replacesBearer (hpre : manager.Consistent) (ulTeid dlTeid : UInt32)
    (enbAddr : Octets 4) : manager.ReplacesBearer K ulTeid dlTeid enbAddr := by
  unfold ReplacesBearer
  split
  next hnone => exact updateBearerInfo_of_none (hpre.no_route_of_no_session hnone) dlTeid enbAddr
  next s hs =>
    obtain ⟨entry, hentry, hbearer⟩ := hpre.route_of_session hs
    have haddress : s.ueIp = entry.ueIp := (congrArg Bearer.ueIp hbearer).symm
    have hupdated : RouteEntry.new entry.ueIp dlTeid enbAddr entry.qci =
        { entry with dlTeid := dlTeid, enbAddr := enbAddr } := by
      rw [RouteEntry.new, hpre.enbPort ulTeid entry hentry]
    refine ⟨entry, hentry, ?_⟩
    rw [updateBearerInfo_of_some hentry, hupdated]
    simp only [RoutingTable.install, hs, Option.map_some, haddress]

theorem consistent_updateBearerInfo (hpre : manager.Consistent) (ulTeid dlTeid : UInt32)
    (enbAddr : Octets 4) : (manager.updateBearerInfo K ulTeid dlTeid enbAddr).2.Consistent := by
  have hreplaces : manager.ReplacesBearer K ulTeid dlTeid enbAddr := replacesBearer hpre ..
  unfold ReplacesBearer at hreplaces
  split at hreplaces
  next =>
    rw [hreplaces]
    exact hpre
  next s hs =>
    obtain ⟨entry, hentry, hupdate⟩ := hreplaces
    obtain ⟨entry', hentry', hbearer⟩ := hpre.route_of_session hs
    rw [hentry] at hentry'
    cases hentry'
    have haddress : s.ueIp = entry.ueIp := (congrArg Bearer.ueIp hbearer).symm
    rw [hupdate]
    apply hpre.update rfl rfl
    · simp only [Option.map_some, sessionBearer, routeBearer, haddress]
    · intro new hnew
      cases hnew
      exact hpre.enbPort ulTeid entry hentry

theorem consistent_removeSession (hpre : manager.Consistent) (ulTeid : UInt32) :
    (manager.removeSession K ulTeid).2.Consistent := by
  apply hpre.update rfl (RoutingTable.ulMap_remove ..)
  · rfl
  · intro new hnew
    cases hnew

/-! ## Runs -/

theorem consistent_act (hpre : manager.Consistent) (a : Act τ υ) :
    (manager.act K a).1.Consistent := by
  cases a with
  | accountUplink ulTeid bytes => exact consistent_accountUplink hpre ulTeid bytes
  | accountDownlink ulTeid bytes => exact consistent_accountDownlink hpre ulTeid bytes
  | call c =>
      cases c with
      | createSession entityId imsi ueIp dlTeid enbAddr qci =>
          exact consistent_install (consistent_allocUlTeid hpre) ..
      | setBpfHandle bpf => exact ⟨hpre.agrees, hpre.enbPort⟩
      | ofCore op =>
          cases op with
          | createSessionWithTeid ulTeid entityId imsi ueIp enbAddr qci =>
              have hinstall := consistent_install hpre ulTeid entityId imsi ueIp 0 enbAddr qci
              exact ⟨hinstall.agrees, hinstall.enbPort⟩
          | updateBearerInfo ulTeid dlTeid enbAddr =>
              exact consistent_updateBearerInfo hpre ulTeid dlTeid enbAddr
          | updateDlTeid ulTeid dlTeid =>
              apply updateDlTeid_of_updateBearerInfo hpre
              exact fun enbAddr => consistent_updateBearerInfo hpre ulTeid dlTeid enbAddr
          | removeSession ulTeid => exact consistent_removeSession hpre ulTeid

/-- After every run the sessions and the uplink routes agree, and an update of a bearer changes that
bearer alone. -/
theorem agrees_and_replacesBearer (K : RouteMaps τ υ) (acts : List (Act τ υ)) :
    (Mealy.after (act K) new acts).Agrees ∧
      ∀ ulTeid dlTeid enbAddr,
        (Mealy.after (act K) new acts).ReplacesBearer K ulTeid dlTeid enbAddr := by
  have hconsistent : (Mealy.after (act K) new acts).Consistent :=
    Mealy.after_of_step consistent_new fun _ a hpre => consistent_act hpre a
  exact ⟨hconsistent.agrees, fun ulTeid dlTeid enbAddr => replacesBearer hconsistent ..⟩

end SessionManager

end Midn.Userplane
