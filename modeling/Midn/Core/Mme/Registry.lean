import Midn.Core.Mme.Procedure
import Midn.Core.Mme.Resources

/-!
# The IMSI registry of the MME

The registry is written at attach and on release only, by IMSI. It follows the live entities as
long as an entity is not released while another one has its IMSI.
-/

namespace Midn.Core.Mme

open Ecs Nas S1ap

variable (P : Primitives)

/-- The registry names exactly the IMSIs of the live entities, and for each one of its holders. -/
def RegistryExact (mme : Mme) : Prop :=
  mme.registry.Sound mme.world ∧ mme.registry.Complete mme.world

/-- An entity that is released is the only one with its IMSI, and an attach does not take over an
id that the registry still has under another IMSI. -/
def Request.KeepsRegistry (mme : Mme) : Request → Prop
  | .challenge _ _ imsi _ _ =>
      ∀ other, mme.registry.lookup other = some mme.world.spawn.1 → other = imsi
  | .release msg =>
      ∀ imsi e, mme.world.imsi? msg.mmeUeS1apId = some imsi → mme.world.imsi? e = some imsi →
        e = msg.mmeUeS1apId
  | _ => True

section Step

variable (mme : Mme) (input : Input)

/-- A step that writes neither the registry nor an identity keeps the registry exact. -/
theorem registryExact_of_unchanged
    (hregistry : (request P mme input).registry mme = mme.registry)
    (hidentity : (request P mme input).identities mme = mme.world.identity?)
    (hexact : RegistryExact mme) : RegistryExact (step P mme input).1 := by
  have himsi := World.imsi?_of_identity? ((identity?_step P mme input).trans hidentity)
  rw [RegistryExact, ImsiRegistry.Sound, ImsiRegistry.Complete, himsi,
    (resources_step P mme input).registry, hregistry]
  exact hexact

variable {P mme input}

/-- A step keeps the registry exact exactly when its request does. -/
theorem registryExact_step_iff (hexact : RegistryExact mme) :
    RegistryExact (step P mme input).1 ↔ (request P mme input).KeepsRegistry mme := by
  have hregistry := (resources_step P mme input).registry
  have hidentity := identity?_step P mme input
  have hunchanged := registryExact_of_unchanged P mme input
  obtain ⟨hsound, hcomplete⟩ := hexact
  cases hrequest : request P mme input with
  | challenge enb plmn imsi authInfo hss =>
      rw [hrequest] at hregistry hidentity
      rw [RegistryExact, ImsiRegistry.Sound, ImsiRegistry.Complete, hregistry,
        World.imsi?_of_update hidentity]
      exact (and_iff_left (Index.complete_assign hcomplete)).trans (Index.sound_assign_iff hsound)
  | release msg =>
      rw [hrequest] at hregistry hidentity hunchanged
      cases hlive : mme.world.identity? msg.mmeUeS1apId with
      | none =>
          have hnone : mme.world.imsi? msg.mmeUeS1apId = none := by
            rw [World.imsi?, hlive, Option.map_none]
          refine iff_of_true (hunchanged ?_ ?_ ⟨hsound, hcomplete⟩) ?_
          · simp only [Request.registry, hlive]
          · rw [Request.identities, ← hlive, Function.update_eq_self]
          · intro imsi e himsi
            cases hnone.symm.trans himsi
      | some identity =>
          have himsi : mme.world.imsi? msg.mmeUeS1apId = some identity.imsi := by
            rw [World.imsi?, hlive, Option.map_some]
          simp only [Request.registry, hlive] at hregistry
          rw [RegistryExact, ImsiRegistry.Sound, ImsiRegistry.Complete, hregistry,
            World.imsi?_of_update hidentity, Option.map_none]
          refine (and_iff_right (Index.sound_withdraw hsound himsi)).trans
            ((Index.complete_withdraw_iff hcomplete).trans ?_)
          constructor
          · intro honly imsi e himsi' he
            cases himsi.symm.trans himsi'
            exact honly e he
          · intro honly e he
            exact honly _ e himsi he
  | _ =>
      rw [hrequest] at hunchanged
      exact iff_of_true (hunchanged rfl rfl ⟨hsound, hcomplete⟩) trivial

end Step

/-- The registry is exact in all states of a run exactly when no entity is released while another
one has its IMSI, and no attach takes over a registered id. -/
theorem registryExact_iff (phase3Upf : Option (Octets 4)) (inputs : List Input) :
    (∀ mme ∈ Mealy.states (step P) (Mme.new phase3Upf) inputs, RegistryExact mme) ↔
      Mealy.Always (step P) (Mme.new phase3Upf) inputs
        fun _ t => (request P t.pre t.input).KeepsRegistry t.pre :=
  Mealy.forall_mem_states_iff (fun _ => True) trivial
    ⟨ImsiRegistry.sound_new, ImsiRegistry.complete_new⟩ (fun _ _ _ _ _ => trivial)
    fun _ _ _ hexact => registryExact_step_iff hexact

/-- The release of entity 0. -/
def releaseFirst : Input := .s1ap (Octets.zeros 16) (.ueContextReleaseComplete ⟨0, 1⟩)

/-- Releasing one of the two contexts of a subscriber leaves the other one without an entry. -/
theorem not_complete_releaseFirst {mme : Mme} (hattached : Attached 2 mme) :
    ¬ (step P mme releaseFirst).1.registry.Complete (step P mme releaseFirst).1.world := by
  intro hcomplete
  have hregistry := (resources_step P mme releaseFirst).registry
  have hidentity := identity?_step P mme releaseFirst
  have hfirst := hattached.identity?_eq 0 (by decide)
  have hsecond := hattached.identity?_eq 1 (by decide)
  have hstays : (step P mme releaseFirst).1.world.imsi? 1 = some testImsi := by
    rw [World.imsi?, hidentity, releaseFirst, request, Request.identities,
      Function.update_of_ne (by decide), hsecond, Option.map_some]
  have hfound := hcomplete 1 testImsi hstays
  rw [hregistry] at hfound
  simp only [releaseFirst, request, Request.registry, hfirst, ImsiRegistry.deregister,
    ImsiRegistry.lookup, Function.update_self] at hfound
  cases hfound

/-- The test subscriber attaches twice, and the context of the first attach is released. -/
def attachTwice : List Input := provisionTest :: List.replicate 2 attachTest ++ [releaseFirst]

theorem attachTwice_loses_entry :
    ¬ ∃ P : Primitives, ∀ mme ∈ Mealy.states (step P) (Mme.new none) attachTwice,
      RegistryExact mme := by
  rintro ⟨P, hexact⟩
  have hattached := attached_replicate (P := P) none 2
  have hlast := hexact _ (Mealy.after_mem_states _ attachTwice)
  rw [attachTwice, Mealy.after_concat, Mealy.after_cons, ← provisioned] at hlast
  exact not_complete_releaseFirst P hattached hlast.2

end Midn.Core.Mme
