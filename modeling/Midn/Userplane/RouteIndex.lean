import Midn.Lib.Index
import Midn.Lib.Mealy
import Midn.Userplane.Routing

/-!
# Downlink routes as an index of uplink routes

The downlink map of a routing table is an index of its uplink map by UE address. Neither call asks
whether an address is shared, or whether a TEID comes back with another address, so the index stays
exact as long as no call leaves a route behind or takes one away that another TEID still has.
-/

namespace Midn.Userplane

namespace RoutingTable

/-- The calls that change a table. -/
inductive Change where
  | install (ulTeid : UInt32) (entry : RouteEntry)
  | remove (ulTeid : UInt32)

/-- Make a change; the removal of a route returns it. -/
def perform (table : RoutingTable) : Change → RoutingTable × Option RouteEntry
  | .install ulTeid entry => (table.install ulTeid entry, none)
  | .remove ulTeid => ((table.remove ulTeid).2, (table.remove ulTeid).1)

/-- The addresses with a downlink route are those of the uplink routes, and each downlink route is
the route of an installed TEID with that address. -/
def Coherent (table : RoutingTable) : Prop :=
  Index.Exact RouteEntry.ueIp table.ulMap table.dlMap

abbrev Transition := Mealy.Transition RoutingTable Change (Option RouteEntry)

/-- A TEID that is installed again under another address had a downlink route that another TEID
has as well, and a TEID that is removed shared its address with no other. -/
def Unshared (t : Transition) : Prop :=
  match t.input with
  | .install ulTeid entry =>
      ∀ old, t.pre.ulMap ulTeid = some old → old.ueIp ≠ entry.ueIp →
        ∃ ulTeid', ulTeid' ≠ ulTeid ∧ t.pre.ulMap ulTeid' = t.pre.dlMap old.ueIp
  | .remove ulTeid =>
      ∀ old, t.pre.ulMap ulTeid = some old →
        ∀ ulTeid' other, ulTeid' ≠ ulTeid → t.pre.ulMap ulTeid' = some other →
          other.ueIp ≠ old.ueIp

variable {table : RoutingTable}

theorem coherent_new : new.Coherent :=
  .of_sound_complete (fun _ _ hfound => nomatch hfound) (fun _ _ hheld => nomatch hheld)

theorem remove_of_none {ulTeid : UInt32} (hentry : table.ulMap ulTeid = none) :
    table.remove ulTeid = (none, table) := by
  simp only [remove, hentry]

theorem remove_of_some {ulTeid : UInt32} {entry : RouteEntry}
    (hentry : table.ulMap ulTeid = some entry) :
    table.remove ulTeid =
      (some entry,
        ⟨Function.update table.ulMap ulTeid none,
          Function.update table.dlMap entry.ueIp none⟩) := by
  simp only [remove, hentry]

/-- A change keeps the two maps together exactly when it concerns no route that is shared. -/
theorem coherent_perform_iff (hcoherent : table.Coherent) (change : Change) :
    (table.perform change).1.Coherent ↔
      Unshared (Mealy.transition perform table change) := by
  cases change with
  | install ulTeid entry => exact Index.exact_store_iff hcoherent ulTeid entry
  | remove ulTeid =>
      cases hentry : table.ulMap ulTeid with
      | none =>
          have hunchanged : (table.perform (.remove ulTeid)).1 = table := by
            rw [perform, remove_of_none hentry]
          rw [hunchanged]
          refine iff_of_true hcoherent ?_
          intro old hold
          rw [Mealy.transition, hentry] at hold
          cases hold
      | some entry =>
          have hcleared : (table.perform (.remove ulTeid)).1 =
              ⟨Function.update table.ulMap ulTeid none,
                Function.update table.dlMap entry.ueIp none⟩ := by
            rw [perform, remove_of_some hentry]
          rw [hcleared]
          apply (Index.exact_clear_iff hcoherent hentry).trans
          constructor
          · intro hothers old hold
            rw [Mealy.transition, hentry] at hold
            cases hold
            exact hothers
          · exact fun hunshared => hunshared entry hentry

/-- The downlink map is an exact index of the uplink map after every change of a run exactly when
each change of the run concerns no route that is shared. -/
theorem coherent_iff_always_unshared (changes : List Change) :
    (∀ table ∈ Mealy.states perform new changes, table.Coherent) ↔
      Mealy.Always perform new changes fun _ t => Unshared t := by
  apply Mealy.forall_mem_states_iff (fun _ => True) trivial coherent_new
  · exact fun _ _ _ _ _ => trivial
  · exact fun _ change _ hcoherent => coherent_perform_iff hcoherent change

/-- Two TEIDs with one address: removing the first leaves the second without a downlink route. -/
theorem remove_shared_not_coherent :
    ¬ ∀ table ∈ Mealy.states perform new
        [.install 1 (.new (Octets.zeros 4) 5 (Octets.zeros 4) 9),
          .install 2 (.new (Octets.zeros 4) 6 (Octets.zeros 4) 9), .remove 1],
      table.Coherent := by
  intro hall
  have hlast := hall _ (Mealy.after_mem_states ..)
  obtain ⟨found, hfound⟩ := hlast.exists_found (k := 2) rfl
  cases hfound

end RoutingTable

end Midn.Userplane
