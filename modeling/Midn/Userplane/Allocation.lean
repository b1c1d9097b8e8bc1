import Midn.Lib.Mealy
import Midn.Userplane.SessionManager

/-!
# Allocation of uplink TEIDs

Two regimes share the TEIDs of a session manager: the core brings TEIDs of its own, and a user
plane without a core takes them from a counter and a free list. Neither looks at what the other has
handed out. No allocation overwrites a session exactly when the calls keep the regimes apart.
-/

namespace Midn.Userplane

open GtpXdp

namespace SessionManager

variable {τ υ : Type}

/-- The calls of a session manager that change its sessions or its maps. -/
inductive Call (τ υ : Type) where
  | createSession (entityId : UInt32) (imsi : UInt64) (ueIp : Octets 4) (dlTeid : UInt32)
      (enbAddr : Octets 4) (qci : UInt8)
  | ofCore (op : Operation)
  | setBpfHandle (bpf : BpfHandle τ υ)

/-- Make a call; the creation of a session without a TEID returns the one it was given. -/
def call (K : RouteMaps τ υ) (manager : SessionManager τ υ) :
    Call τ υ → SessionManager τ υ × Option UInt32
  | .createSession entityId imsi ueIp dlTeid enbAddr qci =>
      let created := manager.createSession entityId imsi ueIp dlTeid enbAddr qci
      (created.2, some created.1)
  | .ofCore op => (manager.apply K op, none)
  | .setBpfHandle bpf => (manager.setBpfHandle bpf, none)

abbrev Transition (τ υ : Type) :=
  Mealy.Transition (SessionManager τ υ) (Call τ υ) (Option UInt32)

/-- No session has a TEID of the free list. -/
def Separate (manager : SessionManager τ υ) : Prop :=
  ∀ ulTeid ∈ manager.freeUlTeids, manager.sessions ulTeid = none

/-- A TEID that is handed out belongs to no session, and none of the sessions that are left has a
TEID of the free list. -/
def Unshared (t : Transition τ υ) : Prop :=
  (∀ ulTeid, t.output = some ulTeid → t.pre.sessions ulTeid = none) ∧ t.post.Separate

/-- The core does not bring a TEID that has been freed here, and the counter is not asked for a
TEID that a session has. -/
def Coordinated (t : Transition τ υ) : Prop :=
  match t.input with
  | .createSession .. => t.pre.freeUlTeids = [] → t.pre.sessions t.pre.nextUlTeid = none
  | .ofCore (.createSessionWithTeid ulTeid ..) => ulTeid ∉ t.pre.freeUlTeids
  | _ => True

variable {K : RouteMaps τ υ} {manager manager' : SessionManager τ υ}

/-! ## One call -/

/-- The same TEIDs have sessions, and the same ones are free. -/
structure KeepsTeids (manager manager' : SessionManager τ υ) : Prop where
  freeUlTeids : manager'.freeUlTeids = manager.freeUlTeids
  sessions : ∀ ulTeid, manager'.sessions ulTeid = none ↔ manager.sessions ulTeid = none

theorem KeepsTeids.refl (manager : SessionManager τ υ) : manager.KeepsTeids manager :=
  ⟨rfl, fun _ => Iff.rfl⟩

theorem updateBearerInfo_keepsTeids (ulTeid dlTeid : UInt32) (enbAddr : Octets 4) :
    manager.KeepsTeids (manager.updateBearerInfo K ulTeid dlTeid enbAddr).2 := by
  cases hcurrent : manager.routing.ulMap ulTeid with
  | none =>
      rw [updateBearerInfo_of_none hcurrent]
      exact .refl manager
  | some current =>
      rw [updateBearerInfo_of_some hcurrent]
      refine ⟨rfl, fun ulTeid' => ?_⟩
      by_cases hsame : ulTeid' = ulTeid
      · rw [hsame]
        simp only [Function.update_self, Option.map_eq_none_iff]
      · simp only [Function.update_of_ne hsame]

theorem updateDlTeid_keepsTeids (ulTeid dlTeid : UInt32) :
    manager.KeepsTeids (manager.updateDlTeid K ulTeid dlTeid).2 := by
  apply updateDlTeid_of_updateBearerInfo (.refl manager)
  exact fun enbAddr => updateBearerInfo_keepsTeids ulTeid dlTeid enbAddr

/-- The free list holds no TEID of a session, and none twice. -/
structure Allocatable (manager : SessionManager τ υ) : Prop where
  separate : manager.Separate
  nodup : manager.freeUlTeids.Nodup

theorem allocatable_new : (new : SessionManager τ υ).Allocatable :=
  ⟨fun _ hfree => absurd hfree List.not_mem_nil, List.nodup_nil⟩

theorem KeepsTeids.allocatable (hkeeps : manager.KeepsTeids manager')
    (hpre : manager.Allocatable) : manager'.Allocatable := by
  constructor
  · intro ulTeid hfree
    rw [hkeeps.freeUlTeids] at hfree
    exact (hkeeps.sessions ulTeid).mpr (hpre.separate ulTeid hfree)
  · rw [hkeeps.freeUlTeids]
    exact hpre.nodup

/-- Installing a session under a TEID keeps the free list apart from the sessions exactly if the
TEID is not free. -/
theorem separate_install_iff (hpre : manager.Separate) (ulTeid entityId : UInt32) (imsi : UInt64)
    (ueIp : Octets 4) (dlTeid : UInt32) (enbAddr : Octets 4) (qci : UInt8) :
    (manager.install ulTeid entityId imsi ueIp dlTeid enbAddr qci).Separate ↔
      ulTeid ∉ manager.freeUlTeids := by
  constructor
  · intro hpost hfree
    have hnone := hpost ulTeid hfree
    simp only [install, Function.update_self] at hnone
    cases hnone
  · intro hnot ulTeid' hfree
    have hne : ulTeid' ≠ ulTeid := fun hsame => hnot (hsame ▸ hfree)
    simp only [install, Function.update_of_ne hne]
    exact hpre ulTeid' hfree

/-- A session that is removed leaves its TEID to the free list, which did not have it. -/
theorem removeSession_allocatable (hpre : manager.Allocatable) (ulTeid : UInt32) :
    (manager.removeSession K ulTeid).2.Allocatable := by
  have hgone : ∀ ulTeid', manager.sessions ulTeid' = none →
      Function.update manager.sessions ulTeid none ulTeid' = none := by
    intro ulTeid' hnone
    by_cases hsame : ulTeid' = ulTeid
    · rw [hsame, Function.update_self]
    · rw [Function.update_of_ne hsame, hnone]
  unfold removeSession
  cases hsession : manager.sessions ulTeid with
  | none =>
      exact ⟨fun ulTeid' hfree => hgone ulTeid' (hpre.separate ulTeid' hfree), hpre.nodup⟩
  | some session =>
      constructor
      · intro ulTeid' hfree
        rcases List.mem_cons.mp hfree with rfl | hfree
        · exact Function.update_self ..
        · exact hgone ulTeid' (hpre.separate ulTeid' hfree)
      · refine List.nodup_cons.mpr ⟨fun hfree => ?_, hpre.nodup⟩
        rw [hpre.separate ulTeid hfree] at hsession
        cases hsession

theorem allocUlTeid_of_cons {ulTeid : UInt32} {free : List UInt32}
    (hfree : manager.freeUlTeids = ulTeid :: free) :
    manager.allocUlTeid = (ulTeid, { manager with freeUlTeids := free }) := by
  simp only [allocUlTeid, hfree]

theorem allocUlTeid_of_nil (hfree : manager.freeUlTeids = []) :
    manager.allocUlTeid.1 = manager.nextUlTeid ∧
      manager.allocUlTeid.2.freeUlTeids = [] ∧
      manager.allocUlTeid.2.sessions = manager.sessions := by
  simp only [allocUlTeid, hfree]
  exact ⟨trivial, trivial, trivial⟩

/-- A TEID of the free list has no session, so only the counter can hand out one that has. -/
theorem allocUlTeid_fresh_iff (hpre : manager.Separate) :
    manager.sessions manager.allocUlTeid.1 = none ↔
      (manager.freeUlTeids = [] → manager.sessions manager.nextUlTeid = none) := by
  cases hfree : manager.freeUlTeids with
  | nil =>
      rw [(allocUlTeid_of_nil hfree).1, eq_self, true_imp_iff]
  | cons ulTeid free =>
      rw [allocUlTeid_of_cons hfree]
      have hnone := hpre ulTeid (hfree ▸ List.mem_cons_self)
      exact iff_of_true hnone fun hnil => absurd hnil (List.cons_ne_nil _ _)

/-- The TEID that is handed out is no longer free. -/
theorem allocUlTeid_allocatable (hpre : manager.Allocatable) :
    manager.allocUlTeid.2.Allocatable ∧
      manager.allocUlTeid.1 ∉ manager.allocUlTeid.2.freeUlTeids := by
  cases hfree : manager.freeUlTeids with
  | nil =>
      obtain ⟨_, hempty, _⟩ := allocUlTeid_of_nil hfree
      refine ⟨⟨?_, hempty ▸ List.nodup_nil⟩, hempty ▸ List.not_mem_nil⟩
      exact fun _ hmem => absurd hmem (hempty ▸ List.not_mem_nil)
  | cons ulTeid free =>
      obtain ⟨hnot, hnodup⟩ := List.nodup_cons.mp (hfree ▸ hpre.nodup)
      rw [allocUlTeid_of_cons hfree]
      refine ⟨⟨fun ulTeid' hmem => ?_, hnodup⟩, hnot⟩
      exact hpre.separate ulTeid' (hfree ▸ List.mem_cons_of_mem _ hmem)

/-! ## Runs of calls -/

/-- A coordinated call leaves a manager that can go on allocating. -/
theorem call_allocatable (hpre : manager.Allocatable) (i : Call τ υ)
    (hmet : Coordinated (Mealy.transition (call K) manager i)) :
    (manager.call K i).1.Allocatable := by
  cases i with
  | createSession entityId imsi ueIp dlTeid enbAddr qci =>
      obtain ⟨halloc, hnot⟩ := allocUlTeid_allocatable hpre
      exact ⟨(separate_install_iff halloc.separate ..).mpr hnot, halloc.nodup⟩
  | setBpfHandle bpf => exact ⟨hpre.separate, hpre.nodup⟩
  | ofCore op =>
      cases op with
      | createSessionWithTeid ulTeid entityId imsi ueIp enbAddr qci =>
          have hseparate :=
            separate_install_iff hpre.separate ulTeid entityId imsi ueIp 0 enbAddr qci
          exact ⟨hseparate.mpr hmet, hpre.nodup⟩
      | updateBearerInfo ulTeid dlTeid enbAddr =>
          exact (updateBearerInfo_keepsTeids ulTeid dlTeid enbAddr).allocatable hpre
      | updateDlTeid ulTeid dlTeid =>
          exact (updateDlTeid_keepsTeids ulTeid dlTeid).allocatable hpre
      | removeSession ulTeid => exact removeSession_allocatable hpre ulTeid

/-- A call shares no TEID exactly if it is coordinated. -/
theorem unshared_iff_coordinated (hpre : manager.Allocatable) (i : Call τ υ) :
    Unshared (Mealy.transition (call K) manager i) ↔
      Coordinated (Mealy.transition (call K) manager i) := by
  have hpost := call_allocatable (K := K) hpre i
  cases i with
  | createSession entityId imsi ueIp dlTeid enbAddr qci =>
      have hfresh := allocUlTeid_fresh_iff hpre.separate
      constructor
      · intro hunshared
        exact hfresh.mp (hunshared.1 _ rfl)
      · intro hmet
        refine ⟨fun ulTeid hout => ?_, (hpost hmet).separate⟩
        cases hout
        exact hfresh.mpr hmet
  | setBpfHandle bpf =>
      refine iff_of_true ⟨?_, (hpost trivial).separate⟩ trivial
      intro ulTeid hout
      cases hout
  | ofCore op =>
      cases op with
      | createSessionWithTeid ulTeid entityId imsi ueIp enbAddr qci =>
          have hseparate :=
            separate_install_iff hpre.separate ulTeid entityId imsi ueIp 0 enbAddr qci
          constructor
          · intro hunshared
            exact hseparate.mp hunshared.2
          · intro hmet
            refine ⟨?_, hseparate.mpr hmet⟩
            intro ulTeid' hout
            cases hout
      | updateBearerInfo | updateDlTeid | removeSession =>
          refine iff_of_true ⟨?_, (hpost trivial).separate⟩ trivial
          intro ulTeid' hout
          cases hout

/-- No session is overwritten by an allocation, and no TEID of a session is free, all along a run
exactly if every call of it is coordinated. -/
theorem always_unshared_iff_always_coordinated (K : RouteMaps τ υ) (calls : List (Call τ υ)) :
    Mealy.Always (call K) new calls (fun _ t => Unshared t) ↔
      Mealy.Always (call K) new calls fun _ t => Coordinated t := by
  apply Mealy.always_iff_of_invariant fun _ manager => manager.Allocatable
  · exact allocatable_new
  · exact fun _ _ i hpre hmet => call_allocatable hpre i hmet
  · exact fun _ _ i hpre => unshared_iff_coordinated hpre i

/-- The core brings the first TEID of the counter, and the next session without a TEID is given the
same one. -/
theorem sharedTeid_not_unshared :
    ¬ Mealy.Always
      (call ⟨.unbounded UInt32 XdpRouteEntry, .unbounded (Octets 4) XdpRouteEntry⟩) new
      [.ofCore (.createSessionWithTeid 0x00010000 0 1 (Octets.zeros 4) (Octets.zeros 4) 9),
        .createSession 1 2 (Octets.zeros 4) 0 (Octets.zeros 4) 9]
      fun _ t => Unshared t := by
  intro halways
  have hlast := (Mealy.always_cons.mp (Mealy.always_cons.mp halways).2).1.1 0x00010000 rfl
  cases hlast

end SessionManager

end Midn.Userplane
