import Midn.Core.Amf.Procedure
import Midn.Core.Amf.Resources

/-!
# The IMSI registry of the AMF

The registry is written when a UE identifies itself and on release, by the IMSI of the moment. It
never leads astray as long as no entity changes its IMSI once it is registered.
-/

namespace Midn.Core.Amf

open Ecs Nas5gs Ngap

variable (P : Primitives)

/-- A request that gives an entity an IMSI finds no other IMSI registered for that entity. -/
def Request.KeepsRegistry (amf : Amf) : Request → Prop
  | .register _ _ => ∀ other, amf.registry.lookup other = some amf.world.spawn.1 → other = 0
  | .challenge entity _ imsi _ _ =>
      amf.world.isLive entity = true →
        ∀ other, amf.registry.lookup other = some entity → other = imsi
  | _ => True

section Step

variable (amf : Amf) (input : Input)

/-- A step that writes neither the registry nor an identity keeps the registry sound. -/
theorem registry_sound_of_unchanged
    (hregistry : (request P amf input).registry amf = amf.registry)
    (hidentity : (request P amf input).identities amf = amf.world.identity?)
    (hsound : amf.registry.Sound amf.world) :
    (step P amf input).1.registry.Sound (step P amf input).1.world := by
  have himsi := World.imsi?_of_identity? ((identity?_step P amf input).trans hidentity)
  rw [ImsiRegistry.Sound, himsi, (resources_step P amf input).registry, hregistry]
  exact hsound

variable {P amf input}

/-- A step keeps the registry sound exactly when its request does. -/
theorem registry_sound_step_iff (hsound : amf.registry.Sound amf.world) :
    (step P amf input).1.registry.Sound (step P amf input).1.world ↔
      (request P amf input).KeepsRegistry amf := by
  have hregistry := (resources_step P amf input).registry
  have hidentity := identity?_step P amf input
  have hunchanged := registry_sound_of_unchanged P amf input
  cases hrequest : request P amf input with
  | register ran plmn =>
      rw [hrequest] at hregistry hidentity
      rw [ImsiRegistry.Sound, hregistry, World.imsi?_of_update hidentity]
      exact Index.sound_rekey_iff hsound
  | challenge entity ran imsi authInfo hss =>
      rw [hrequest] at hregistry hidentity hunchanged
      rw [Request.KeepsRegistry, World.isLive_eq_isSome]
      cases hlive : amf.world.get? entity with
      | none =>
          have hnone := World.identity?_of_none hlive
          refine iff_of_true (hunchanged ?_ ?_ hsound) ?_
          · simp only [Request.registry, hnone]
          · rw [Request.identities, hnone, Option.map_none, ← hnone, Function.update_eq_self]
          · intro hsome
            cases hsome
      | some n =>
          have hsome := World.identity?_of_some hlive
          simp only [Request.registry, hsome] at hregistry
          simp only [Request.identities, hsome, Option.map_some] at hidentity
          rw [ImsiRegistry.Sound, hregistry, World.imsi?_of_update hidentity]
          refine (Index.sound_assign_iff hsound).trans ?_
          constructor
          · exact fun honly _ => honly
          · exact fun honly => honly rfl
  | release msg =>
      rw [hrequest] at hregistry hidentity hunchanged
      refine iff_of_true ?_ trivial
      cases hlive : amf.world.identity? msg.amfUeNgapId with
      | none =>
          refine hunchanged ?_ ?_ hsound
          · simp only [Request.registry, hlive]
          · rw [Request.identities, ← hlive, Function.update_eq_self]
      | some identity =>
          have himsi : amf.world.imsi? msg.amfUeNgapId = some identity.imsi := by
            rw [World.imsi?, hlive, Option.map_some]
          simp only [Request.registry, hlive] at hregistry
          rw [ImsiRegistry.Sound, hregistry, World.imsi?_of_update hidentity, Option.map_none]
          exact Index.sound_withdraw hsound himsi
  | _ =>
      rw [hrequest] at hunchanged
      exact iff_of_true (hunchanged rfl rfl hsound) trivial

end Step

/-- The registry is sound in all states of a run exactly when no entity that is registered gets
another IMSI. -/
theorem registry_sound_iff (phaseBUpf : Option (Octets 4)) (inputs : List Input) :
    (∀ amf ∈ Mealy.states (step P) (Amf.new phaseBUpf) inputs, amf.registry.Sound amf.world) ↔
      Mealy.Always (step P) (Amf.new phaseBUpf) inputs
        fun _ t => (request P t.pre t.input).KeepsRegistry t.pre :=
  Mealy.forall_mem_states_iff (fun _ => True) trivial ImsiRegistry.sound_new
    (fun _ _ _ _ _ => trivial) fun _ _ _ hsound => registry_sound_step_iff hsound

/-- An identity response for entity 0. -/
def identifyAs (imsi : UInt64) : Input :=
  .ngap (Octets.zeros 16) (.uplinkNasTransport
    ⟨0, 1, encodeIdentityResponseSuci (suciForImsi imsi), Octets.zeros 6, Octets.zeros 9⟩)

/-- The UE of entity 0 is challenged as the subscriber it names. -/
theorem step_identifyAs {amf : Amf} (imsi : UInt64) (himsi : imsi.toNat < 2 ^ 40)
    (hsub : ∃ sub, amf.hss.subscribers imsi = some sub)
    (hlive : ∃ n, amf.world.get? 0 = some n) :
    (step P amf (identifyAs imsi)).1.registry = amf.registry.register imsi 0 ∧
      (∃ n, (step P amf (identifyAs imsi)).1.world.get? 0 = some n ∧ n.identity.imsi = imsi) ∧
      ∀ other, (∃ sub, amf.hss.subscribers other = some sub) →
        ∃ sub, (step P amf (identifyAs imsi)).1.hss.subscribers other = some sub := by
  obtain ⟨sub, hsub⟩ := hsub
  obtain ⟨n, hlive⟩ := hlive
  rw [identifyAs, step_identityResponse P amf hsub himsi (Octets.zeros 16) rfl]
  refine ⟨?_, ?_, ?_⟩
  · simp only [issueChallenge, World.security5g?, hlive, Option.map_some]
  · rw [get?_issueChallenge, Function.update_self, hlive, Option.map_some]
    exact ⟨_, rfl, rfl⟩
  · intro other hother
    simp only [issueChallenge, World.security5g?, hlive, Option.map_some]
    exact Hss.generateAuthVector_keeps P hother imsi (Octets.zeros 16)

/-- A UE that identifies itself as one subscriber after the other leaves the entry of the first. -/
theorem not_sound_of_identifyAs {amf : Amf} {first second : UInt64} (hne : first ≠ second)
    (hfirst : first.toNat < 2 ^ 40) (hsecond : second.toNat < 2 ^ 40)
    (hsubs : (∃ sub, amf.hss.subscribers first = some sub) ∧
      ∃ sub, amf.hss.subscribers second = some sub)
    (hlive : ∃ n, amf.world.get? 0 = some n) :
    ¬ (step P (step P amf (identifyAs first)).1 (identifyAs second)).1.registry.Sound
      (step P (step P amf (identifyAs first)).1 (identifyAs second)).1.world := by
  intro hsound
  obtain ⟨hregistry, ⟨n, hn, -⟩, hkept⟩ := step_identifyAs P first hfirst hsubs.1 hlive
  obtain ⟨hregistry', ⟨n', hn', himsi⟩, -⟩ :=
    step_identifyAs P second hsecond (hkept second hsubs.2) ⟨n, hn⟩
  have hstays : (step P (step P amf (identifyAs first)).1 (identifyAs second)).1.registry.lookup
      first = some 0 := by
    rw [hregistry', ImsiRegistry.lookup_register_of_ne _ hne, hregistry,
      ImsiRegistry.lookup_register]
  have hastray := hsound first 0 hstays
  rw [World.imsi?, World.identity?, hn', Option.map_some, Option.map_some, himsi] at hastray
  exact hne (Option.some.inj hastray).symm

def provisionBoth : Input :=
  .hssMut ((Hss.new.provision 1 (Octets.zeros 16) (Octets.zeros 16)).provision 2
    (Octets.zeros 16) (Octets.zeros 16))

/-- A UE registers and identifies itself as one of two subscribers and then as the other. -/
def identifyTwice : List Input := [provisionBoth, registerTest, identifyAs 1, identifyAs 2]

theorem identifyTwice_leads_astray :
    ¬ ∃ P : Primitives, ∀ amf ∈ Mealy.states (step P) (Amf.new none) identifyTwice,
      amf.registry.Sound amf.world := by
  rintro ⟨P, hsound⟩
  have hlast := hsound _ (Mealy.after_mem_states _ identifyTwice)
  simp only [identifyTwice, Mealy.after_cons, Mealy.after_nil] at hlast
  have hregistered := get?_registerTest P
    (show (step P (Amf.new none) provisionBoth).1.world = .new from rfl)
  have hhss : (step P (step P (Amf.new none) provisionBoth).1 registerTest).1.hss =
      (step P (Amf.new none) provisionBoth).1.hss := by
    rw [registerTest, step_registrationRequest P _ (Octets.zeros 16) 1 0 0x00C0 rfl]
    rfl
  refine not_sound_of_identifyAs P (by decide) (by decide) (by decide) ?_ ⟨_, hregistered⟩ hlast
  rw [hhss]
  exact ⟨⟨_, rfl⟩, ⟨_, rfl⟩⟩

end Midn.Core.Amf
