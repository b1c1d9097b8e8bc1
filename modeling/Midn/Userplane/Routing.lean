import Mathlib.Logic.Function.Basic
import Midn.Lib.Octets

/-!
# GTP-U routing table

Uplink TEIDs and UE addresses to forwarding information.
-/

namespace Midn.Userplane

structure RouteEntry where
  ueIp : Octets 4
  dlTeid : UInt32
  enbAddr : Octets 4
  enbPort : UInt16
  qci : UInt8
deriving DecidableEq

def RouteEntry.new (ueIp : Octets 4) (dlTeid : UInt32) (enbAddr : Octets 4) (qci : UInt8) :
    RouteEntry :=
  ⟨ueIp, dlTeid, enbAddr, 2152, qci⟩

/-- The routes by uplink TEID and by UE address. -/
structure RoutingTable where
  ulMap : UInt32 → Option RouteEntry
  dlMap : Octets 4 → Option RouteEntry

namespace RoutingTable

def new : RoutingTable := ⟨fun _ => none, fun _ => none⟩

/-- Install both directions of a session. -/
def install (table : RoutingTable) (ulTeid : UInt32) (entry : RouteEntry) : RoutingTable :=
  ⟨Function.update table.ulMap ulTeid (some entry),
    Function.update table.dlMap entry.ueIp (some entry)⟩

/-- Remove the uplink route of a session and whatever downlink route its address has. -/
def remove (table : RoutingTable) (ulTeid : UInt32) : Option RouteEntry × RoutingTable :=
  match table.ulMap ulTeid with
  | some entry =>
      (some entry,
        ⟨Function.update table.ulMap ulTeid none, Function.update table.dlMap entry.ueIp none⟩)
  | none => (none, table)

def lookupUl (table : RoutingTable) (ulTeid : UInt32) : Option RouteEntry := table.ulMap ulTeid

def lookupDl (table : RoutingTable) (ueIp : Octets 4) : Option RouteEntry := table.dlMap ueIp

/-- Whether or not there was a route, there is none afterwards. -/
theorem ulMap_remove (table : RoutingTable) (ulTeid : UInt32) :
    (table.remove ulTeid).2.ulMap = Function.update table.ulMap ulTeid none := by
  rw [remove]
  cases hentry : table.ulMap ulTeid with
  | none => exact (Function.update_eq_self_iff.mpr hentry.symm).symm
  | some entry => rfl

/-- Replacing a route that keeps its address replaces it in both directions. -/
theorem install_remove {table : RoutingTable} {ulTeid : UInt32} {old new : RouteEntry}
    (hold : table.ulMap ulTeid = some old) (haddress : new.ueIp = old.ueIp) :
    (table.remove ulTeid).2.install ulTeid new = table.install ulTeid new := by
  simp only [remove, hold, install, haddress, Function.update_idem]

end RoutingTable

end Midn.Userplane
