import Midn.Userplane.GtpXdp

/-!
# BPF map loader

The kernel maps as userspace reaches them. The map library and the kernel behind it are
parameters; a call that fails leaves its map as it was.
-/

namespace Midn.Userplane

open GtpXdp

def GtpXdp.XdpRouteEntry.new (dlTeid : UInt32) (enbIp : Octets 4) (enbPort : UInt16) :
    XdpRouteEntry :=
  ⟨dlTeid, enbIp, enbPort⟩

/-- A kernel hash map: its contents, and the calls that insert and remove, which may fail. -/
structure BpfMap (κ ν τ : Type) where
  get : τ → κ → Option ν
  insert : τ → κ → ν → Option τ
  remove : τ → κ → Option τ

/-- Inserts succeed, removing succeeds exactly for present keys, and both do what they say. -/
structure BpfMap.Reliable {κ ν τ : Type} [DecidableEq κ] (M : BpfMap κ ν τ) : Prop where
  insert_succeeds : ∀ m k v, ∃ m', M.insert m k v = some m' ∧
    M.get m' = Function.update (M.get m) k (some v)
  remove_present : ∀ m k, (M.get m k).isSome = true → ∃ m', M.remove m k = some m' ∧
    M.get m' = Function.update (M.get m) k none
  remove_absent : ∀ m k, M.get m k = none → M.remove m k = none

/-- A map without a capacity, held as a function. -/
def BpfMap.unbounded (κ ν : Type) [DecidableEq κ] : BpfMap κ ν (κ → Option ν) where
  get := id
  insert := fun m k v => some (Function.update m k (some v))
  remove := fun m k => (m k).map fun _ => Function.update m k none

theorem BpfMap.unbounded_reliable (κ ν : Type) [DecidableEq κ] :
    (BpfMap.unbounded κ ν).Reliable where
  insert_succeeds := fun m k v => ⟨_, rfl, rfl⟩
  remove_present := by
    intro m k hpresent
    obtain ⟨v, hv⟩ := Option.isSome_iff_exists.mp hpresent
    exact ⟨_, congrArg (Option.map fun _ => Function.update m k none) hv, rfl⟩
  remove_absent := fun m k habsent => Option.map_eq_none_iff.mpr habsent

section Reliable

variable {κ ν τ : Type} [DecidableEq κ] {M : BpfMap κ ν τ}

/-- The contents after an insert, whether or not its result is looked at. -/
theorem BpfMap.Reliable.get_insert (hM : M.Reliable) (m : τ) (k : κ) (v : ν) :
    M.get ((M.insert m k v).getD m) = Function.update (M.get m) k (some v) := by
  obtain ⟨m', hinsert, hget⟩ := hM.insert_succeeds m k v
  rw [hinsert, Option.getD_some, hget]

/-- The contents after a removal; that of an absent key fails and has nothing to remove. -/
theorem BpfMap.Reliable.get_remove (hM : M.Reliable) (m : τ) (k : κ) :
    M.get ((M.remove m k).getD m) = Function.update (M.get m) k none := by
  cases hpresent : M.get m k with
  | none =>
      rw [hM.remove_absent m k hpresent, Option.getD_none]
      exact (Function.update_eq_self_iff.mpr hpresent.symm).symm
  | some v =>
      obtain ⟨m', hremove, hget⟩ := hM.remove_present m k (by rw [hpresent, Option.isSome_some])
      rw [hremove, Option.getD_some, hget]

end Reliable

/-- The two route maps the loader writes. -/
structure RouteMaps (τ υ : Type) where
  teidToRoute : BpfMap UInt32 XdpRouteEntry τ
  ueIpToRoute : BpfMap (Octets 4) XdpRouteEntry υ

/-- Maps without a capacity. -/
def RouteMaps.unbounded :
    RouteMaps (UInt32 → Option XdpRouteEntry) (Octets 4 → Option XdpRouteEntry) :=
  ⟨.unbounded UInt32 XdpRouteEntry, .unbounded (Octets 4) XdpRouteEntry⟩

/-- A loaded program with its maps. -/
structure BpfHandle (τ υ : Type) where
  teidToRoute : τ
  ueIpToRoute : υ

namespace BpfHandle

variable {τ υ : Type} (K : RouteMaps τ υ)

def insertTeid (handle : BpfHandle τ υ) (ulTeid : UInt32) (entry : XdpRouteEntry) :
    Option (BpfHandle τ υ) :=
  (K.teidToRoute.insert handle.teidToRoute ulTeid entry).map fun m =>
    { handle with teidToRoute := m }

def removeTeid (handle : BpfHandle τ υ) (ulTeid : UInt32) : Option (BpfHandle τ υ) :=
  (K.teidToRoute.remove handle.teidToRoute ulTeid).map fun m => { handle with teidToRoute := m }

def insertUeRoute (handle : BpfHandle τ υ) (ueIp : Octets 4) (entry : XdpRouteEntry) :
    Option (BpfHandle τ υ) :=
  (K.ueIpToRoute.insert handle.ueIpToRoute ueIp entry).map fun m =>
    { handle with ueIpToRoute := m }

def removeUeRoute (handle : BpfHandle τ υ) (ueIp : Octets 4) : Option (BpfHandle τ υ) :=
  (K.ueIpToRoute.remove handle.ueIpToRoute ueIp).map fun m => { handle with ueIpToRoute := m }

/-- What the kernel holds behind a handle. -/
def teidRoute (handle : BpfHandle τ υ) : UInt32 → Option XdpRouteEntry :=
  K.teidToRoute.get handle.teidToRoute

def ueRoute (handle : BpfHandle τ υ) : Octets 4 → Option XdpRouteEntry :=
  K.ueIpToRoute.get handle.ueIpToRoute

/-! ## Calls whose failure is ignored -/

variable (handle : BpfHandle τ υ)

theorem insertTeid_getD (ulTeid : UInt32) (entry : XdpRouteEntry) :
    (handle.insertTeid K ulTeid entry).getD handle =
      ⟨(K.teidToRoute.insert handle.teidToRoute ulTeid entry).getD handle.teidToRoute,
        handle.ueIpToRoute⟩ := by
  rw [insertTeid]
  cases K.teidToRoute.insert handle.teidToRoute ulTeid entry <;> rfl

theorem removeTeid_getD (ulTeid : UInt32) :
    (handle.removeTeid K ulTeid).getD handle =
      ⟨(K.teidToRoute.remove handle.teidToRoute ulTeid).getD handle.teidToRoute,
        handle.ueIpToRoute⟩ := by
  rw [removeTeid]
  cases K.teidToRoute.remove handle.teidToRoute ulTeid <;> rfl

theorem insertUeRoute_getD (ueIp : Octets 4) (entry : XdpRouteEntry) :
    (handle.insertUeRoute K ueIp entry).getD handle =
      ⟨handle.teidToRoute,
        (K.ueIpToRoute.insert handle.ueIpToRoute ueIp entry).getD handle.ueIpToRoute⟩ := by
  rw [insertUeRoute]
  cases K.ueIpToRoute.insert handle.ueIpToRoute ueIp entry <;> rfl

theorem removeUeRoute_getD (ueIp : Octets 4) :
    (handle.removeUeRoute K ueIp).getD handle =
      ⟨handle.teidToRoute,
        (K.ueIpToRoute.remove handle.ueIpToRoute ueIp).getD handle.ueIpToRoute⟩ := by
  rw [removeUeRoute]
  cases K.ueIpToRoute.remove handle.ueIpToRoute ueIp <;> rfl

end BpfHandle

end Midn.Userplane
