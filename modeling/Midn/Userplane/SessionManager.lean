import Midn.Userplane.Loader

/-!
# Session manager

The sessions of the user plane, their routes, and the copy of the routes in the kernel maps once a
program has been loaded.
-/

namespace Midn.Userplane

open GtpXdp

structure UserPlaneSession where
  entityId : UInt32
  imsi : UInt64
  ulTeid : UInt32
  dlTeid : UInt32
  ueIp : Octets 4
  enbAddr : Octets 4
  active : Bool
  bytesUl : UInt64
  bytesDl : UInt64
deriving DecidableEq

/-- The sessions by uplink TEID, with the allocator of TEIDs for sessions that come without one. -/
structure SessionManager (τ υ : Type) where
  nextUlTeid : UInt32
  freeUlTeids : List UInt32
  routing : RoutingTable
  sessions : UInt32 → Option UserPlaneSession
  bpf : Option (BpfHandle τ υ)

namespace SessionManager

variable {τ υ : Type}

def initialUlTeid : UInt32 := 0x00010000

def new : SessionManager τ υ where
  nextUlTeid := initialUlTeid
  freeUlTeids := []
  routing := .new
  sessions := fun _ => none
  bpf := none

def setBpfHandle (manager : SessionManager τ υ) (bpf : BpfHandle τ υ) : SessionManager τ υ :=
  { manager with bpf := some bpf }

/-- Freed TEIDs first, the most recently freed before the others; the counter skips the TEIDs
below the initial one when it wraps. -/
def allocUlTeid (manager : SessionManager τ υ) : UInt32 × SessionManager τ υ :=
  match manager.freeUlTeids with
  | id :: free => (id, { manager with freeUlTeids := free })
  | [] =>
      let next := manager.nextUlTeid + 1
      (manager.nextUlTeid,
        { manager with nextUlTeid := if next < initialUlTeid then initialUlTeid else next })

def install (manager : SessionManager τ υ) (ulTeid entityId : UInt32) (imsi : UInt64)
    (ueIp : Octets 4) (dlTeid : UInt32) (enbAddr : Octets 4) (qci : UInt8) :
    SessionManager τ υ :=
  let entry := RouteEntry.new ueIp dlTeid enbAddr qci
  let session : UserPlaneSession :=
    { entityId := entityId
      imsi := imsi
      ulTeid := ulTeid
      dlTeid := dlTeid
      ueIp := ueIp
      enbAddr := enbAddr
      active := true
      bytesUl := 0
      bytesDl := 0 }
  { manager with
    routing := manager.routing.install ulTeid entry
    sessions := Function.update manager.sessions ulTeid (some session) }

variable (K : RouteMaps τ υ)

/-- Copy a route into both kernel maps, if a program is loaded. -/
def mirror (bpf : Option (BpfHandle τ υ)) (ulTeid : UInt32) (ueIp : Octets 4)
    (entry : XdpRouteEntry) : Option (BpfHandle τ υ) :=
  bpf.map fun handle =>
    let handle := (handle.insertTeid K ulTeid entry).getD handle
    (handle.insertUeRoute K ueIp entry).getD handle

/-- A session with a TEID of its own, for a user plane without a core. -/
def createSession (manager : SessionManager τ υ) (entityId : UInt32) (imsi : UInt64)
    (ueIp : Octets 4) (dlTeid : UInt32) (enbAddr : Octets 4) (qci : UInt8) :
    UInt32 × SessionManager τ υ :=
  (manager.allocUlTeid.1,
    manager.allocUlTeid.2.install manager.allocUlTeid.1 entityId imsi ueIp dlTeid enbAddr qci)

/-- A session with the TEID of the core; its route is a placeholder until the bearer is known. -/
def createSessionWithTeid (manager : SessionManager τ υ) (ulTeid entityId : UInt32)
    (imsi : UInt64) (ueIp enbAddr : Octets 4) (qci : UInt8) : SessionManager τ υ :=
  let manager := manager.install ulTeid entityId imsi ueIp 0 enbAddr qci
  { manager with bpf := mirror K manager.bpf ulTeid ueIp (.new 0 enbAddr 2152) }

/-- Replace the downlink end of a session; false if there is no such session. -/
def updateBearerInfo (manager : SessionManager τ υ) (ulTeid dlTeid : UInt32)
    (enbAddr : Octets 4) : Bool × SessionManager τ υ :=
  match manager.routing.lookupUl ulTeid with
  | none => (false, manager)
  | some current =>
      let updated := RouteEntry.new current.ueIp dlTeid enbAddr current.qci
      (true,
        { manager with
          routing := (manager.routing.remove ulTeid).2.install ulTeid updated
          sessions := Function.update manager.sessions ulTeid
            ((manager.sessions ulTeid).map fun s => { s with dlTeid := dlTeid, enbAddr := enbAddr })
          bpf := mirror K manager.bpf ulTeid current.ueIp (.new dlTeid enbAddr 2152) })

/-- Replace the downlink TEID alone. -/
def updateDlTeid (manager : SessionManager τ υ) (ulTeid dlTeid : UInt32) :
    Bool × SessionManager τ υ :=
  match (manager.routing.lookupUl ulTeid).map RouteEntry.enbAddr with
  | some enbAddr => manager.updateBearerInfo K ulTeid dlTeid enbAddr
  | none => (false, manager)

/-- Remove a session with its routes, and free its TEID. -/
def removeSession (manager : SessionManager τ υ) (ulTeid : UInt32) :
    Option UserPlaneSession × SessionManager τ υ :=
  let removed := manager.sessions ulTeid
  let bpf := manager.bpf.map fun handle =>
    let handle := (handle.removeTeid K ulTeid).getD handle
    match removed with
    | some s => (handle.removeUeRoute K s.ueIp).getD handle
    | none => handle
  (removed,
    { manager with
      freeUlTeids :=
        if removed.isSome then ulTeid :: manager.freeUlTeids else manager.freeUlTeids
      routing := (manager.routing.remove ulTeid).2
      sessions := Function.update manager.sessions ulTeid none
      bpf := bpf })

/-- The calls a core makes, with TEIDs of its own. -/
inductive Operation where
  | createSessionWithTeid (ulTeid entityId : UInt32) (imsi : UInt64) (ueIp enbAddr : Octets 4)
      (qci : UInt8)
  | updateBearerInfo (ulTeid dlTeid : UInt32) (enbAddr : Octets 4)
  | updateDlTeid (ulTeid dlTeid : UInt32)
  | removeSession (ulTeid : UInt32)

def apply (manager : SessionManager τ υ) : Operation → SessionManager τ υ
  | .createSessionWithTeid ulTeid entityId imsi ueIp enbAddr qci =>
      manager.createSessionWithTeid K ulTeid entityId imsi ueIp enbAddr qci
  | .updateBearerInfo ulTeid dlTeid enbAddr => (manager.updateBearerInfo K ulTeid dlTeid enbAddr).2
  | .updateDlTeid ulTeid dlTeid => (manager.updateDlTeid K ulTeid dlTeid).2
  | .removeSession ulTeid => (manager.removeSession K ulTeid).2

/-! ## Sessions and routes -/

/-- Every session has an uplink route with its address, and every uplink route a session. -/
def Coherent (manager : SessionManager τ υ) : Prop :=
  ∀ ulTeid, (manager.sessions ulTeid).map UserPlaneSession.ueIp =
    (manager.routing.ulMap ulTeid).map RouteEntry.ueIp

variable {K} {manager : SessionManager τ υ}

theorem updateBearerInfo_of_none {ulTeid : UInt32}
    (hcurrent : manager.routing.ulMap ulTeid = none) (dlTeid : UInt32) (enbAddr : Octets 4) :
    manager.updateBearerInfo K ulTeid dlTeid enbAddr = (false, manager) := by
  simp only [updateBearerInfo, RoutingTable.lookupUl, hcurrent]

/-- The routes of a session are replaced under the address they have. -/
theorem updateBearerInfo_of_some {ulTeid : UInt32} {current : RouteEntry}
    (hcurrent : manager.routing.ulMap ulTeid = some current) (dlTeid : UInt32)
    (enbAddr : Octets 4) :
    manager.updateBearerInfo K ulTeid dlTeid enbAddr =
      (true,
        { manager with
          routing := manager.routing.install ulTeid
            (.new current.ueIp dlTeid enbAddr current.qci)
          sessions := Function.update manager.sessions ulTeid
            ((manager.sessions ulTeid).map fun s => { s with dlTeid := dlTeid, enbAddr := enbAddr })
          bpf := mirror K manager.bpf ulTeid current.ueIp (.new dlTeid enbAddr 2152) }) := by
  have hroute : (RouteEntry.new current.ueIp dlTeid enbAddr current.qci).ueIp = current.ueIp := rfl
  simp only [updateBearerInfo, RoutingTable.lookupUl, hcurrent]
  rw [RoutingTable.install_remove hcurrent hroute]

/-- Replacing the TEID alone is replacing the downlink end by one with the same address. -/
theorem updateDlTeid_eq (ulTeid dlTeid : UInt32) :
    (∃ enbAddr, manager.updateDlTeid K ulTeid dlTeid =
      manager.updateBearerInfo K ulTeid dlTeid enbAddr) ∨
      manager.updateDlTeid K ulTeid dlTeid = (false, manager) := by
  rw [updateDlTeid]
  split
  next enbAddr _ => exact Or.inl ⟨enbAddr, rfl⟩
  next => exact Or.inr rfl

/-- What holds before, and after every update of the bearer, holds after the TEID is replaced. -/
theorem updateDlTeid_of_updateBearerInfo {property : SessionManager τ υ → Prop}
    {ulTeid dlTeid : UInt32} (hpre : property manager)
    (hupdate : ∀ enbAddr, property (manager.updateBearerInfo K ulTeid dlTeid enbAddr).2) :
    property (manager.updateDlTeid K ulTeid dlTeid).2 := by
  have hcases : (∃ enbAddr, manager.updateDlTeid K ulTeid dlTeid =
      manager.updateBearerInfo K ulTeid dlTeid enbAddr) ∨
      manager.updateDlTeid K ulTeid dlTeid = (false, manager) := updateDlTeid_eq ulTeid dlTeid
  rcases hcases with ⟨enbAddr, hsame⟩ | hnothing
  · rw [hsame]
    exact hupdate enbAddr
  · rw [hnothing]
    exact hpre

theorem coherent_install (hcoherent : manager.Coherent) (ulTeid entityId : UInt32)
    (imsi : UInt64) (ueIp : Octets 4) (dlTeid : UInt32) (enbAddr : Octets 4) (qci : UInt8) :
    (manager.install ulTeid entityId imsi ueIp dlTeid enbAddr qci).Coherent := by
  intro ulTeid'
  simp only [install, RoutingTable.install]
  rcases eq_or_ne ulTeid' ulTeid with rfl | hne
  · rw [Function.update_self, Function.update_self, Option.map_some, Option.map_some,
      RouteEntry.new]
  · rw [Function.update_of_ne hne, Function.update_of_ne hne, hcoherent]

theorem coherent_updateBearerInfo (hcoherent : manager.Coherent) (ulTeid dlTeid : UInt32)
    (enbAddr : Octets 4) : (manager.updateBearerInfo K ulTeid dlTeid enbAddr).2.Coherent := by
  cases hcurrent : manager.routing.ulMap ulTeid with
  | none =>
      rw [updateBearerInfo_of_none hcurrent]
      exact hcoherent
  | some current =>
      rw [updateBearerInfo_of_some hcurrent]
      intro ulTeid'
      simp only [RoutingTable.install]
      rcases eq_or_ne ulTeid' ulTeid with rfl | hne
      · have hsession := hcoherent ulTeid'
        rw [hcurrent, Option.map_some] at hsession
        rw [Function.update_self, Function.update_self, Option.map_map, Option.map_some,
          RouteEntry.new]
        exact hsession
      · rw [Function.update_of_ne hne, Function.update_of_ne hne, hcoherent]

theorem coherent_removeSession (hcoherent : manager.Coherent) (ulTeid : UInt32) :
    (manager.removeSession K ulTeid).2.Coherent := by
  intro ulTeid'
  simp only [removeSession, RoutingTable.ulMap_remove]
  rcases eq_or_ne ulTeid' ulTeid with rfl | hne
  · rw [Function.update_self, Function.update_self, Option.map_none, Option.map_none]
  · rw [Function.update_of_ne hne, Function.update_of_ne hne, hcoherent]

theorem coherent_apply (hcoherent : manager.Coherent) (op : Operation) :
    (manager.apply K op).Coherent := by
  cases op with
  | createSessionWithTeid ulTeid entityId imsi ueIp enbAddr qci =>
      exact coherent_install hcoherent ulTeid entityId imsi ueIp 0 enbAddr qci
  | updateBearerInfo ulTeid dlTeid enbAddr =>
      exact coherent_updateBearerInfo hcoherent ulTeid dlTeid enbAddr
  | updateDlTeid ulTeid dlTeid =>
      apply updateDlTeid_of_updateBearerInfo hcoherent
      exact fun enbAddr => coherent_updateBearerInfo hcoherent ulTeid dlTeid enbAddr
  | removeSession ulTeid => exact coherent_removeSession hcoherent ulTeid

/-! ## Kernel maps -/

/-- What the kernel keeps of a route. -/
def xdpEntry (entry : RouteEntry) : XdpRouteEntry := .new entry.dlTeid entry.enbAddr 2152

variable (K manager) in
/-- The kernel maps hold the routes of the table, and nothing else. -/
def KernelMirrors : Prop :=
  ∃ handle, manager.bpf = some handle ∧
    (handle.teidRoute K = fun ulTeid => (manager.routing.ulMap ulTeid).map xdpEntry) ∧
    handle.ueRoute K = fun ueIp => (manager.routing.dlMap ueIp).map xdpEntry

/-- The routes of a table as the kernel keeps them, after a change of one of them. -/
theorem map_xdpEntry_update {κ : Type} [DecidableEq κ] (routes : κ → Option RouteEntry) (k : κ)
    (entry : Option RouteEntry) :
    (fun k' => (Function.update routes k entry k').map xdpEntry) =
      Function.update (fun k' => (routes k').map xdpEntry) k (entry.map xdpEntry) :=
  Function.comp_update (Option.map xdpEntry) routes k entry

theorem allocUlTeid_routes (manager : SessionManager τ υ) :
    manager.allocUlTeid.2.routing = manager.routing ∧ manager.allocUlTeid.2.bpf = manager.bpf := by
  rw [allocUlTeid]
  split
  · exact ⟨rfl, rfl⟩
  · exact ⟨rfl, rfl⟩

/-- A session with a TEID of its own is never copied to the kernel: its packets stay on the
userspace path, and the maps differ from the table as soon as its TEID is a new one. -/
theorem createSession_not_kernelMirrors (hmirrors : manager.KernelMirrors K) (entityId : UInt32)
    (imsi : UInt64) (ueIp : Octets 4) (dlTeid : UInt32) (enbAddr : Octets 4) (qci : UInt8)
    (hfresh : manager.routing.ulMap manager.allocUlTeid.1 = none) :
    ¬ (manager.createSession entityId imsi ueIp dlTeid enbAddr qci).2.KernelMirrors K := by
  obtain ⟨hrouting, hbpf⟩ := allocUlTeid_routes manager
  obtain ⟨handle, hhandle, hul, _⟩ := hmirrors
  rintro ⟨handle', hhandle', hul', _⟩
  simp only [createSession, install, RoutingTable.install, hrouting, hbpf, hhandle] at hhandle' hul'
  cases hhandle'
  have hsame := congrFun (hul.symm.trans hul') manager.allocUlTeid.1
  rw [hfresh, Function.update_self] at hsame
  cases hsame

section Reliable

variable (hteid : K.teidToRoute.Reliable) (hueIp : K.ueIpToRoute.Reliable)
include hteid hueIp

/-- Installing a route and copying it keeps the maps alike. -/
theorem kernelMirrors_install {manager' : SessionManager τ υ} {ulTeid : UInt32}
    {entry : RouteEntry} (hmirrors : manager.KernelMirrors K)
    (hrouting : manager'.routing = manager.routing.install ulTeid entry)
    (hbpf : manager'.bpf = mirror K manager.bpf ulTeid entry.ueIp (xdpEntry entry)) :
    manager'.KernelMirrors K := by
  obtain ⟨handle, hhandle, hul, hdl⟩ := hmirrors
  rw [hhandle, mirror, Option.map_some] at hbpf
  refine ⟨_, hbpf, ?_, ?_⟩
  · rw [hrouting, RoutingTable.install, map_xdpEntry_update, ← hul]
    simp only [BpfHandle.insertTeid_getD, BpfHandle.insertUeRoute_getD, BpfHandle.teidRoute,
      hteid.get_insert, Option.map_some]
  · rw [hrouting, RoutingTable.install, map_xdpEntry_update, ← hdl]
    simp only [BpfHandle.insertTeid_getD, BpfHandle.insertUeRoute_getD, BpfHandle.ueRoute,
      hueIp.get_insert, Option.map_some]

theorem kernelMirrors_updateBearerInfo (hmirrors : manager.KernelMirrors K)
    (ulTeid dlTeid : UInt32) (enbAddr : Octets 4) :
    (manager.updateBearerInfo K ulTeid dlTeid enbAddr).2.KernelMirrors K := by
  cases hcurrent : manager.routing.ulMap ulTeid with
  | none =>
      rw [updateBearerInfo_of_none hcurrent]
      exact hmirrors
  | some current =>
      rw [updateBearerInfo_of_some hcurrent]
      exact kernelMirrors_install hteid hueIp hmirrors rfl rfl

theorem kernelMirrors_removeSession (hcoherent : manager.Coherent)
    (hmirrors : manager.KernelMirrors K) (ulTeid : UInt32) :
    (manager.removeSession K ulTeid).2.KernelMirrors K := by
  obtain ⟨handle, hhandle, hul, hdl⟩ := hmirrors
  have hsession := hcoherent ulTeid
  have hteid' : ((handle.removeTeid K ulTeid).getD handle).teidRoute K =
      fun ulTeid' => ((manager.routing.remove ulTeid).2.ulMap ulTeid').map xdpEntry := by
    rw [RoutingTable.ulMap_remove, map_xdpEntry_update, ← hul]
    simp only [BpfHandle.removeTeid_getD, BpfHandle.teidRoute, hteid.get_remove, Option.map_none]
  simp only [removeSession, hhandle, Option.map_some]
  refine ⟨_, rfl, ?_, ?_⟩
  · rw [← hteid']
    cases manager.sessions ulTeid with
    | none => rfl
    | some s => simp only [BpfHandle.removeUeRoute_getD, BpfHandle.teidRoute]
  · -- a session that is there has the address of its route, so both sides drop the same key
    cases hcurrent : manager.routing.ulMap ulTeid with
    | none =>
        rw [hcurrent, Option.map_none, Option.map_eq_none_iff] at hsession
        simp only [hsession, RoutingTable.remove, hcurrent, BpfHandle.removeTeid_getD]
        exact hdl
    | some entry =>
        rw [hcurrent, Option.map_some, Option.map_eq_some_iff] at hsession
        obtain ⟨s, hs, haddress⟩ := hsession
        simp only [hs, RoutingTable.remove, hcurrent, map_xdpEntry_update, ← hdl, ← haddress,
          BpfHandle.removeTeid_getD, BpfHandle.removeUeRoute_getD, BpfHandle.ueRoute,
          hueIp.get_remove, Option.map_none]

theorem kernelMirrors_apply (hcoherent : manager.Coherent) (hmirrors : manager.KernelMirrors K)
    (op : Operation) : (manager.apply K op).KernelMirrors K := by
  cases op with
  | createSessionWithTeid ulTeid entityId imsi ueIp enbAddr qci =>
      exact kernelMirrors_install hteid hueIp hmirrors rfl rfl
  | updateBearerInfo ulTeid dlTeid enbAddr =>
      exact kernelMirrors_updateBearerInfo hteid hueIp hmirrors ulTeid dlTeid enbAddr
  | updateDlTeid ulTeid dlTeid =>
      apply updateDlTeid_of_updateBearerInfo hmirrors
      exact fun enbAddr =>
        kernelMirrors_updateBearerInfo hteid hueIp hmirrors ulTeid dlTeid enbAddr
  | removeSession ulTeid => exact kernelMirrors_removeSession hteid hueIp hcoherent hmirrors ulTeid

end Reliable

/-- Whatever the core asks of a session manager with a program loaded and empty maps, the kernel
maps hold exactly its routes. -/
theorem kernel_mirrors_routes (K : RouteMaps τ υ) (hteid : K.teidToRoute.Reliable)
    (hueIp : K.ueIpToRoute.Reliable) (handle : BpfHandle τ υ)
    (hemptyTeid : ∀ ulTeid, handle.teidRoute K ulTeid = none)
    (hemptyUeIp : ∀ ueIp, handle.ueRoute K ueIp = none) (ops : List Operation) :
    (ops.foldl (apply K) (new.setBpfHandle handle)).KernelMirrors K := by
  have hrun : ∀ manager : SessionManager τ υ, manager.Coherent → manager.KernelMirrors K →
      (ops.foldl (apply K) manager).KernelMirrors K := by
    induction ops with
    | nil => exact fun _ _ hmirrors => hmirrors
    | cons op ops ih =>
        intro manager hcoherent hmirrors
        exact ih _ (coherent_apply hcoherent op)
          (kernelMirrors_apply hteid hueIp hcoherent hmirrors op)
  apply hrun
  · exact fun _ => rfl
  · exact ⟨handle, rfl, funext hemptyTeid, funext hemptyUeIp⟩

/-- Two sessions that share an address, one of them updated and then removed. -/
theorem sharedAddress_kernelMirrors :
    ([.createSessionWithTeid 1 0 1 (Octets.zeros 4) (Octets.zeros 4) 9,
        .createSessionWithTeid 2 1 2 (Octets.zeros 4) (Octets.zeros 4) 9,
        .updateBearerInfo 1 7 (Octets.zeros 4), .removeSession 1].foldl
      (apply ⟨.unbounded UInt32 XdpRouteEntry, .unbounded (Octets 4) XdpRouteEntry⟩)
      (new.setBpfHandle ⟨fun _ => none, fun _ => none⟩)).KernelMirrors
        ⟨.unbounded UInt32 XdpRouteEntry, .unbounded (Octets 4) XdpRouteEntry⟩ :=
  kernel_mirrors_routes ⟨.unbounded UInt32 XdpRouteEntry, .unbounded (Octets 4) XdpRouteEntry⟩
    (BpfMap.unbounded_reliable _ _) (BpfMap.unbounded_reliable _ _)
    ⟨fun _ => none, fun _ => none⟩ (fun _ => rfl) (fun _ => rfl) _

end SessionManager

end Midn.Userplane
