import Midn.Sim.Gnb.Refinement

/-!
# User data of the simulator

Whatever the network does with datagrams, the user data in them is that of the UEs, and none of
what happens to it concerns the control plane.
-/

namespace Midn.Sim.Gnb

open Midn.Core Midn.Core.Amf Gtp Ngap Userplane

/-! ## The control plane -/

/-- The system without its user data. -/
def System.control {n : Nat} {τ υ : Type} (s : System n τ υ) : System n τ υ :=
  { s with
    ues := fun i => { s.ues i with gtpRx := [] }
    traffic := .quiet }

section Control

variable {τ υ : Type} {P : Primitives} {setup : Setup} {s s' : System setup.nUes τ υ}
  {f : Fin setup.nUes → Stage}

/-- The stages of the UEs are a matter of the control plane alone. -/
theorem follows_control : Follows P setup s.control f ↔ Follows P setup s f := by
  constructor
  · rintro ⟨hrunning, hlink, hphase, hup, hdown, houtbox, htask, hup', hdown', hcore, howned,
      hslots⟩
    exact ⟨hrunning, hlink, hphase, hup, hdown, houtbox,
      fun i => ⟨(htask i).progress, (htask i).amfUeNgapId, (htask i).kamf⟩, hup', hdown', hcore,
      howned, hslots⟩
  · rintro ⟨hrunning, hlink, hphase, hup, hdown, houtbox, htask, hup', hdown', hcore, howned,
      hslots⟩
    exact ⟨hrunning, hlink, hphase, hup, hdown, houtbox,
      fun i => ⟨(htask i).progress, (htask i).amfUeNgapId, (htask i).kamf⟩, hup', hdown', hcore,
      howned, hslots⟩

theorem Follows.of_control (hfollows : Follows P setup s f) (hsame : s'.control = s.control) :
    Follows P setup s' f := by
  rw [← follows_control] at hfollows ⊢
  rw [hsame]
  exact hfollows

/-- Data for a UE is no matter of the control plane. -/
theorem control_setUe {n : Nat} (s : System n τ υ) (i : Fin n) (gtpRx : List (List UInt8)) :
    (s.setUe i { s.ues i with gtpRx := gtpRx }).control = s.control := by
  have hues : ∀ j, { (s.setUe i { s.ues i with gtpRx := gtpRx }).ues j with gtpRx := [] } =
      { s.ues j with gtpRx := [] } := by
    intro j
    rcases eq_or_ne j i with rfl | hne
    · rw [System.setUe_ues_self]
    · rw [System.setUe_ues_of_ne _ _ _ hne]
  exact congrArg (fun ues => ({ s.control with ues := ues } : System n τ υ)) (funext hues)

theorem control_gtpDemux {n : Nat} (routes : UInt32 → Option (Fin n)) (s : System n τ υ)
    (d : Datagram) : (s.gtpDemux routes d).control = s.control := by
  rw [System.gtpDemux]
  split
  · rfl
  · split
    · rfl
    · simp only
      split
      · rfl
      · exact control_setUe ..

theorem control_deliver {k : Nat} {routes : UInt32 → Option (Fin setup.nUes)}
    (hdeliver : s.deliver setup routes k = some s') : s'.control = s.control := by
  rw [System.deliver] at hdeliver
  split at hdeliver
  · cases hdeliver
  · split at hdeliver
    · cases hdeliver
      rfl
    · split at hdeliver
      · cases hdeliver
        exact control_gtpDemux ..
      · cases hdeliver

theorem control_echo {n : Nat} {s s' : System n τ υ} (hecho : s.echo = some s') :
    s'.control = s.control := by
  obtain ⟨traffic, -, rfl⟩ := Option.map_eq_some_iff.mp hecho
  rfl

theorem control_encapsulate (hencapsulate : s.encapsulate setup = some s') :
    s'.control = s.control := by
  obtain ⟨traffic, -, rfl⟩ := Option.map_eq_some_iff.mp hencapsulate
  rfl

end Control

/-! ## The payload -/

/-- All user data is the payload of the UEs. -/
structure Echoing {n : Nat} {τ υ : Type} (s : System n τ υ) : Prop where
  traffic : s.traffic.Echoing
  gtpRx : ∀ i, ∀ dlPayload ∈ (s.ues i).gtpRx, dlPayload = payload

section Payload

variable {τ υ : Type} {setup : Setup} {s s' : System setup.nUes τ υ} {i : Fin setup.nUes}
  {u : UeTask} {d : Datagram} {teid : UInt32}

theorem Echoing.setUe (hechoing : Echoing s)
    (hrx : ∀ dlPayload ∈ u.gtpRx, dlPayload = payload) : Echoing (s.setUe i u) := by
  refine ⟨hechoing.traffic, ?_⟩
  intro j
  rcases eq_or_ne j i with rfl | hne
  · rw [System.setUe_ues_self]
    exact hrx
  · rw [System.setUe_ues_of_ne _ _ _ hne]
    exact hechoing.gtpRx j

theorem Echoing.gtpDemux (hechoing : Echoing s) (hoctets : d.octets = uplinkGpdu teid)
    (routes : UInt32 → Option (Fin setup.nUes)) :
    Echoing (s.gtpDemux routes d) ∧ (s.gtpDemux routes d).traffic = s.traffic := by
  rw [System.gtpDemux, hoctets, parse_uplinkGpdu]
  simp only
  split
  · exact ⟨hechoing, rfl⟩
  next i _ =>
    split
    · exact ⟨hechoing, rfl⟩
    · exact ⟨hechoing.setUe (List.forall_mem_append.mpr
        ⟨hechoing.gtpRx i, List.forall_mem_singleton.mpr rfl⟩), rfl⟩

/-- Nothing that happens to the user data takes a datagram back. -/
theorem Echoing.deliver (hechoing : Echoing s) {k : Nat}
    {routes : UInt32 → Option (Fin setup.nUes)} (hdeliver : s.deliver setup routes k = some s') :
    Echoing s' ∧ s.traffic.air ⊆ s'.traffic.air := by
  rw [System.deliver] at hdeliver
  split at hdeliver
  · cases hdeliver
  next d hd =>
    obtain ⟨teid, hoctets⟩ := hechoing.traffic.air d (List.mem_of_getElem? hd)
    split at hdeliver
    · cases hdeliver
      obtain ⟨htraffic, hair⟩ := hechoing.traffic.receive hoctets
      exact ⟨⟨htraffic, hechoing.gtpRx⟩, hair ▸ List.Subset.refl _⟩
    · split at hdeliver
      · cases hdeliver
        obtain ⟨hechoing', hsame⟩ := hechoing.gtpDemux hoctets routes
        exact ⟨hechoing', hsame ▸ List.Subset.refl _⟩
      · cases hdeliver

theorem Echoing.echo (hechoing : Echoing s) (hecho : s.echo = some s') :
    Echoing s' ∧ s.traffic.air ⊆ s'.traffic.air := by
  obtain ⟨traffic, htraffic, rfl⟩ := Option.map_eq_some_iff.mp hecho
  obtain ⟨htraffic', hair⟩ := hechoing.traffic.echo htraffic
  exact ⟨⟨htraffic', hechoing.gtpRx⟩, hair ▸ List.Subset.refl _⟩

theorem Echoing.encapsulate (hechoing : Echoing s) (hencapsulate : s.encapsulate setup = some s') :
    Echoing s' ∧ s.traffic.air ⊆ s'.traffic.air := by
  obtain ⟨traffic, htraffic, rfl⟩ := Option.map_eq_some_iff.mp hencapsulate
  obtain ⟨htraffic', hair⟩ := hechoing.traffic.encapsulate htraffic
  exact ⟨⟨htraffic', hechoing.gtpRx⟩, hair⟩

end Payload

end Midn.Sim.Gnb
