import Midn.Core.Amf.Procedure
import Midn.Core.Amf.Resources

/-!
# Session addresses

The AMF makes up the address of a session from the entity id, and the user plane finds downlink
routes by it. The address keeps the low half of the id only, so two sessions share one exactly if
their entities agree there.
-/

namespace Midn.Core.Amf

open Ecs Nas5gs Ngap

variable (P : Primitives)

/-- Two sessions share an address exactly if their ids agree in the low half. -/
theorem sessionUeIp_eq_iff (e e' : UInt32) :
    sessionUeIp e = sessionUeIp e' ↔ e.toUInt16 = e'.toUInt16 := by
  have hnat : ∀ e : UInt32, (e >>> 8).toUInt8.toNat = e.toNat / 256 % 256 := by
    intro e
    rw [UInt32.toNat_toUInt8, UInt32.toNat_shiftRight, Nat.shiftRight_eq_div_pow]
    rfl
  rw [← UInt16.toNat_inj, UInt32.toNat_toUInt16, UInt32.toNat_toUInt16]
  constructor
  · intro hsame
    have hbytes := congrArg List.Vector.toList hsame
    simp only [sessionUeIp, List.Vector.toList, List.cons.injEq, and_true, true_and] at hbytes
    obtain ⟨hhigh, hlow⟩ := hbytes
    have hhigh := congrArg UInt8.toNat hhigh
    have hlow := congrArg UInt8.toNat hlow
    rw [hnat, hnat] at hhigh
    rw [UInt32.toNat_toUInt8, UInt32.toNat_toUInt8] at hlow
    omega
  · intro hhalf
    have hhigh : (e >>> 8).toUInt8 = (e' >>> 8).toUInt8 := by
      apply UInt8.toNat_inj.mp
      rw [hnat, hnat]
      omega
    have hlow : e.toUInt8 = e'.toUInt8 := by
      apply UInt8.toNat_inj.mp
      rw [UInt32.toNat_toUInt8, UInt32.toNat_toUInt8]
      omega
    apply List.Vector.eq
    simp only [sessionUeIp, List.Vector.toList, hhigh, hlow]

/-- The address of the latest session created for each entity. -/
abbrev Addresses := EntityId → Option (Octets 4)

def recordAddress (addresses : Addresses) : N3Event → Addresses
  | .createSession _ e _ _ _ ueIp _ => Function.update addresses e (some ueIp)
  | _ => addresses

/-- The AMF with a record of the addresses it has announced. -/
def recording : Amf × Addresses → Input → (Amf × Addresses) × Output :=
  Mealy.feeding (step P) fun addresses output => output.2.foldl recordAddress addresses

/-- Two live entities with a tunnel have different addresses. -/
def DistinctAddresses (state : Amf × Addresses) : Prop :=
  ∀ e e', e ≠ e' → (state.1.world.tunnel? e).isSome = true →
    (state.1.world.tunnel? e').isSome = true → state.2 e ≠ state.2 e'

/-- A session is created for an entity only if no other one with a tunnel agrees with it in the
low half of the id. -/
def KeepsAddresses (amf : Amf) : Request → Prop
  | .securityModeComplete e _ => (amf.world.identity? e).isSome = true →
      ∀ e', e' ≠ e → (amf.world.tunnel? e').isSome = true → e'.toUInt16 ≠ e.toUInt16
  | _ => True

/-- Every tunnel of an AMF in phase B has been announced with the address of its entity. -/
def Announced (state : Amf × Addresses) : Prop :=
  state.1.phaseBUpf.isSome = true ∧
    ∀ e, (state.1.world.tunnel? e).isSome = true → state.2 e = some (sessionUeIp e)

section Step

variable {P} {amf : Amf} {input : Input}

/-- Under the record, distinct addresses are distinct low halves. -/
theorem distinctAddresses_iff {state : Amf × Addresses} (hannounced : Announced state) :
    DistinctAddresses state ↔
      ∀ e e', e ≠ e' → (state.1.world.tunnel? e).isSome = true →
        (state.1.world.tunnel? e').isSome = true → e.toUInt16 ≠ e'.toUInt16 := by
  have haddress : ∀ e e', (state.1.world.tunnel? e).isSome = true →
      (state.1.world.tunnel? e').isSome = true →
      (state.2 e = state.2 e' ↔ e.toUInt16 = e'.toUInt16) := by
    intro e e' he he'
    rw [hannounced.2 e he, hannounced.2 e' he', Option.some_inj, sessionUeIp_eq_iff]
  constructor
  · intro hdistinct e e' hne he he' hhalf
    exact hdistinct e e' hne he he' ((haddress e e' he he').mpr hhalf)
  · intro hdistinct e e' hne he he' hsame
    exact hdistinct e e' hne he he' ((haddress e e' he he').mp hsame)

/-- A session of a live entity is announced under the address of the entity. -/
theorem recording_of_secured (addresses : Addresses) {e : EntityId} {ran : UInt32}
    {identity : IdentityComponent} {upfAddr : Octets 4}
    (hrequest : request P amf input = .securityModeComplete e ran)
    (hlive : amf.world.identity? e = some identity) (hphase : amf.phaseBUpf = some upfAddr) :
    (recording P (amf, addresses) input).1.1.world.tunnel? =
        Function.update amf.world.tunnel? e
          (some ⟨amf.teidAllocator.alloc.1, 0, Octets.zeros 4⟩) ∧
      (recording P (amf, addresses) input).1.2 =
        Function.update addresses e (some (sessionUeIp e)) := by
  have htunnel := tunnel?_step P amf input
  have hevents := (resources_step P amf input).events_eq
  rw [hrequest] at htunnel hevents
  simp only [Request.tunnels, hlive, hphase] at htunnel
  simp only [Request.events, hlive, hphase] at hevents
  refine ⟨htunnel, ?_⟩
  rw [recording, Mealy.feeding, hevents]
  rfl

/-- Any other request gives no entity a tunnel. -/
theorem tunnel?_isSome_of_step
    (hother : ∀ e ran, request P amf input = .securityModeComplete e ran →
      amf.world.identity? e = none) {e : EntityId}
    (hsome : ((step P amf input).1.world.tunnel? e).isSome = true) :
    (amf.world.tunnel? e).isSome = true := by
  rw [tunnel?_step] at hsome
  cases hrequest : request P amf input with
  | securityModeComplete e' ran =>
      simp only [hrequest, Request.tunnels, hother e' ran hrequest] at hsome
      exact hsome
  | contextSetup resp =>
      rw [hrequest] at hsome
      cases hsessions : resp.pduSessionsSetup with
      | nil =>
          simp only [Request.tunnels, hsessions] at hsome
          exact hsome
      | cons session rest =>
          simp only [Request.tunnels, hsessions] at hsome
          rcases eq_or_ne e resp.amfUeNgapId with rfl | hne
          · rw [Function.update_self, Option.isSome_map] at hsome
            exact hsome
          · rw [Function.update_of_ne hne] at hsome
            exact hsome
  | release msg =>
      rw [hrequest, Request.tunnels] at hsome
      rcases eq_or_ne e msg.amfUeNgapId with rfl | hne
      · rw [Function.update_self] at hsome
        cases hsome
      · rw [Function.update_of_ne hne] at hsome
        exact hsome
  | _ =>
      rw [hrequest] at hsome
      exact hsome

/-- Nor does it announce an address. -/
theorem recording_of_other (addresses : Addresses)
    (hother : ∀ e ran, request P amf input = .securityModeComplete e ran →
      amf.world.identity? e = none) :
    (recording P (amf, addresses) input).1.2 = addresses := by
  rw [recording, Mealy.feeding, (resources_step P amf input).events_eq]
  cases hrequest : request P amf input with
  | securityModeComplete e ran => simp only [Request.events, hother e ran hrequest, List.foldl_nil]
  | contextSetup resp =>
      cases hsessions : resp.pduSessionsSetup with
      | nil => simp only [Request.events, hsessions, List.foldl_nil]
      | cons session rest =>
          cases ht : amf.world.tunnel? resp.amfUeNgapId with
          | none => simp only [Request.events, hsessions, ht, List.foldl_nil]
          | some t =>
              simp only [Request.events, hsessions, ht, List.foldl_cons, List.foldl_nil,
                recordAddress]
  | release msg =>
      cases ht : amf.world.tunnel? msg.amfUeNgapId with
      | none => simp only [Request.events, ht, List.foldl_nil]
      | some t => simp only [Request.events, ht, List.foldl_cons, List.foldl_nil, recordAddress]
  | _ => rfl

/-- Every step keeps the record. -/
theorem announced_step {addresses : Addresses} (hannounced : Announced (amf, addresses)) :
    Announced (recording P (amf, addresses) input).1 := by
  obtain ⟨hsome, haddress⟩ := hannounced
  have hphase : ∃ upfAddr, amf.phaseBUpf = some upfAddr := Option.isSome_iff_exists.mp hsome
  refine ⟨?_, ?_⟩
  · rw [recording, Mealy.feeding, phaseBUpf_step]
    exact hsome
  · intro e he
    by_cases hother : ∀ e ran, request P amf input = .securityModeComplete e ran →
        amf.world.identity? e = none
    · rw [recording_of_other addresses hother]
      exact haddress e (tunnel?_isSome_of_step hother he)
    · simp only [not_forall] at hother
      obtain ⟨secured, ran, hrequest, hlive⟩ := hother
      obtain ⟨identity, hlive⟩ := Option.ne_none_iff_exists'.mp hlive
      obtain ⟨upfAddr, hphase⟩ := hphase
      obtain ⟨htunnel, hrecord⟩ := recording_of_secured addresses hrequest hlive hphase
      rw [hrecord]
      rw [htunnel] at he
      rcases eq_or_ne e secured with rfl | hne
      · rw [Function.update_self]
      · rw [Function.update_of_ne hne] at he ⊢
        exact haddress e he

/-- A step keeps the addresses distinct exactly when its request does. -/
theorem distinctAddresses_step_iff {addresses : Addresses}
    (hannounced : Announced (amf, addresses)) (hdistinct : DistinctAddresses (amf, addresses)) :
    DistinctAddresses (recording P (amf, addresses) input).1 ↔
      KeepsAddresses amf (request P amf input) := by
  rw [distinctAddresses_iff hannounced] at hdistinct
  rw [distinctAddresses_iff (announced_step hannounced)]
  by_cases hother : ∀ e ran, request P amf input = .securityModeComplete e ran →
      amf.world.identity? e = none
  · refine iff_of_true ?_ ?_
    · intro e e' hne he he'
      exact hdistinct e e' hne (tunnel?_isSome_of_step hother he)
        (tunnel?_isSome_of_step hother he')
    · cases hrequest : request P amf input with
      | securityModeComplete e ran =>
          intro hsome
          rw [hother e ran hrequest] at hsome
          cases hsome
      | _ => trivial
  · simp only [not_forall] at hother
    obtain ⟨e, ran, hrequest, hlive⟩ := hother
    obtain ⟨identity, hlive⟩ := Option.ne_none_iff_exists'.mp hlive
    obtain ⟨upfAddr, hphase⟩ := Option.isSome_iff_exists.mp hannounced.1
    obtain ⟨htunnel, -⟩ := recording_of_secured addresses hrequest hlive hphase
    rw [htunnel, hrequest]
    constructor
    · intro hafter _ e' hne he'
      apply hafter e' e hne
      · rw [Function.update_of_ne hne]
        exact he'
      · rw [Function.update_self, Option.isSome_some]
    · intro hkeeps e₁ e₂ hne he₁ he₂
      have hothers := hkeeps (by rw [hlive, Option.isSome_some])
      rcases eq_or_ne e₁ e with rfl | hne₁
      · rw [Function.update_of_ne hne.symm] at he₂
        exact (hothers e₂ hne.symm he₂).symm
      · rw [Function.update_of_ne hne₁] at he₁
        rcases eq_or_ne e₂ e with rfl | hne₂
        · exact hothers e₁ hne he₁
        · rw [Function.update_of_ne hne₂] at he₂
          exact hdistinct e₁ e₂ hne he₁ he₂

end Step

/-- In a run in phase B the addresses are distinct in all states exactly when no session is created
for an entity while another one with a tunnel agrees with it in the low half of the id. -/
theorem distinctAddresses_states_iff (upfAddr : Octets 4) (inputs : List Input) :
    (∀ state ∈ Mealy.states (recording P) (Amf.new (some upfAddr), fun _ => none) inputs,
        DistinctAddresses state) ↔
      Mealy.Always (recording P) (Amf.new (some upfAddr), fun _ => none) inputs
        fun _ t => KeepsAddresses t.pre.1 (request P t.pre.1 t.input) := by
  have hnone : ∀ e, (Amf.new (some upfAddr)).world.tunnel? e = none :=
    fun e => congrArg (Option.bind · Entity.tunnel) (World.get?_new e)
  have hannounced : Announced (Amf.new (some upfAddr), fun _ => none) := by
    refine ⟨rfl, ?_⟩
    intro e he
    rw [hnone e] at he
    cases he
  have hdistinct : DistinctAddresses (Amf.new (some upfAddr), fun _ => none) := by
    intro e e' _ he
    rw [hnone e] at he
    cases he
  refine Mealy.forall_mem_states_iff Announced hannounced hdistinct ?_ ?_
  · intro state input hannounced _ _
    exact announced_step hannounced
  · intro state input hannounced hdistinct
    exact distinctAddresses_step_iff hannounced hdistinct

/-- A plain SecurityModeComplete for any entity. -/
def secureAs (e : EntityId) : Input :=
  .ngap (Octets.zeros 16) (.uplinkNasTransport
    ⟨e, 1, encodeSecModeComplete, Octets.zeros 6, Octets.zeros 9⟩)

/-- Two entities that agree in the low half of the id cannot both have a session of their own. -/
theorem not_distinctAddresses_of_secureAs {amf : Amf} (addresses : Addresses) {e e' : EntityId}
    (hne : e ≠ e') (hhalf : e.toUInt16 = e'.toUInt16) {upfAddr : Octets 4}
    (hphase : amf.phaseBUpf = some upfAddr) {identity identity' : IdentityComponent}
    (hlive : amf.world.identity? e = some identity)
    (hlive' : amf.world.identity? e' = some identity') :
    ¬ DistinctAddresses
      (recording P (recording P (amf, addresses) (secureAs e)).1 (secureAs e')).1 := by
  intro hdistinct
  have hrequest : ∀ amf id, request P amf (secureAs id) = .securityModeComplete id 1 :=
    fun amf _ => request_secModeComplete P amf (Octets.zeros 16) rfl
  obtain ⟨htunnel, hrecord⟩ := recording_of_secured addresses (hrequest amf e) hlive hphase
  generalize hstate : (recording P (amf, addresses) (secureAs e)).1 = s at hdistinct htunnel hrecord
  obtain ⟨secured, recorded⟩ := s
  simp only at htunnel hrecord
  have hsecured : (step P amf (secureAs e)).1 = secured := congrArg Prod.fst hstate
  have hidentity := congrFun (identity?_step P amf (secureAs e)) e'
  simp only [hrequest, Request.identities, hlive', hsecured] at hidentity
  have hphase' := phaseBUpf_step P amf (secureAs e)
  rw [hphase, hsecured] at hphase'
  obtain ⟨htunnel', hrecord'⟩ :=
    recording_of_secured recorded (hrequest secured e') hidentity hphase'
  apply hdistinct e e' hne
  · rw [htunnel', Function.update_of_ne hne, htunnel, Function.update_self]
    rfl
  · rw [htunnel', Function.update_self]
    rfl
  · rw [hrecord', Function.update_self, Function.update_of_ne hne, hrecord, Function.update_self,
      (sessionUeIp_eq_iff e e').mpr hhalf]

/-- Of more registered UEs than there are low halves, two share an address. -/
theorem not_distinctAddresses_of_crowd (upfAddr : Octets 4) {registrations : Nat}
    (hcrowd : 65536 < registrations) :
    ¬ DistinctAddresses (Mealy.after (recording P) (Amf.new (some upfAddr), fun _ => none)
      (List.replicate registrations registerTest ++ [secureAs 0] ++ [secureAs 65536])) := by
  rw [Mealy.after_concat, Mealy.after_concat]
  have hregistered := registered_replicate (P := P) (some upfAddr) registrations
  have hphase := phaseBUpf_after P (Amf.new (some upfAddr))
    (List.replicate registrations registerTest)
  rw [← Mealy.after_feeding_fst (fun addresses output => output.2.foldl recordAddress addresses)
    (Amf.new (some upfAddr), fun _ => none)] at hregistered hphase
  exact not_distinctAddresses_of_secureAs P _ (by decide) (by decide) hphase
    (hregistered.identity?_eq 0 (Nat.zero_lt_of_lt hcrowd))
    (hregistered.identity?_eq 65536 hcrowd)

/-- One more UE than there are low halves registers; the first and the last of them complete
security. -/
def crowd : List Input :=
  List.replicate 65537 registerTest ++ [secureAs 0] ++ [secureAs 65536]

theorem crowd_shares_address :
    ¬ ∃ P : Primitives, ∀ state ∈ Mealy.states (recording P)
      (Amf.new (some (Octets.zeros 4)), fun _ => none) crowd, DistinctAddresses state := by
  rintro ⟨P, hlaw⟩
  have hlast := hlaw _ (Mealy.after_mem_states _ crowd)
  exact not_distinctAddresses_of_crowd P _ (Nat.lt_succ_self 65536) hlast

end Midn.Core.Amf
