import Midn.Core.Amf.Lifecycle
import Midn.Core.Amf.Procedure

/-!
# Isolation of the subscribers of the AMF

As for the MME: a message reaches at most the entity it names, and a first message none that was
live, unless all ids are live.
-/

namespace Midn.Core.Amf

open Ecs Nas5gs Ngap

variable (P : Primitives)

/-- An `InitialUeMessage` leaves every live entity as it was, any other message every entity but
the one it names, and a change of the subscriber database all of them. -/
def Isolates (t : Transition) : Prop :=
  match t.input with
  | .ngap _ (.initialUeMessage _) =>
      ∀ e n, t.pre.world.get? e = some n → t.post.world.get? e = some n
  | .ngap _ msg => ∀ e, msg.amfUeNgapId? ≠ some e → t.post.world.get? e = t.pre.world.get? e
  | .hssMut _ => t.post.world = t.pre.world

/-- A registration finds a free entity id. -/
def SpawnsFresh (t : Transition) : Prop :=
  ∀ ran plmn, request P t.pre t.input = .register ran plmn → ¬ t.pre.world.Exhausted

/-! ## Slots -/

/-- The slots a request makes. -/
def slotsOf : Request → Nat
  | .register _ _ => 1
  | _ => 0

theorem slots_perform (amf : Amf) (r : Request) :
    (perform P amf r).1.world.slots ≤ amf.world.slots + slotsOf r := by
  cases r with
  | register ran plmn =>
      simp only [perform, requestIdentity, World.insertSecurity5g, World.insertIdentity,
        World.slots_modify, slotsOf]
      exact World.slots_spawn_le amf.world
  | challenge e ran imsi authInfo hss =>
      simp only [perform, issueChallenge]
      split
      · exact le_refl _
      · simp only [World.setAuthState, World.insertSecurity5g, World.insertIdentity,
          World.slots_modify, slotsOf, Nat.add_zero, le_refl]
  | authResponse e ran resStar =>
      simp only [perform, verifyResponse]
      split
      · exact le_refl _
      · split
        · simp only [World.setAuthState, World.modifySecurity5g, World.slots_modify, slotsOf,
            Nat.add_zero, le_refl]
        · simp only [World.setAuthState, World.modifySecurity5g, World.slots_modify, slotsOf,
            Nat.add_zero, le_refl]
  | securityModeComplete e ran =>
      simp only [perform, handleSecurityModeComplete]
      split
      · split
        · simp only [World.setTunnel, World.setNasSecurity5g, World.modifySecurity5g,
            World.slots_modify, slotsOf, Nat.add_zero, le_refl]
        · simp only [World.setNasSecurity5g, World.modifySecurity5g, World.slots_modify, slotsOf,
            Nat.add_zero, le_refl]
      · exact le_refl _
  | deregister e ran switchOff =>
      simp only [perform, acceptDeregistration]
      split
      · split
        · exact le_refl _
        · split
          · simp only [World.setNasSecurity5g, World.slots_modify, slotsOf, Nat.add_zero, le_refl]
          · exact le_refl _
      · exact le_refl _
  | contextSetup resp =>
      simp only [perform, handleIcsResponse]
      split
      · exact le_refl _
      · split
        · simp only [World.setTunnel, World.slots_modify, slotsOf, Nat.add_zero, le_refl]
        · exact le_refl _
  | release msg =>
      simp only [perform, handleReleaseComplete]
      split
      · simp only [World.slots_despawn, slotsOf, Nat.add_zero, le_refl]
      · simp only [World.slots_despawn, slotsOf, Nat.add_zero, le_refl]
  | hssMut hss => exact le_refl _
  | ignored => exact le_refl _

theorem slotsOf_le_one (r : Request) : slotsOf r ≤ 1 := by
  cases r with
  | register ran plmn => exact le_refl 1
  | _ => exact Nat.zero_le 1

/-- Opening an envelope only advances a COUNT. -/
theorem slots_opened (amf : Amf) (input : Input) :
    (opened P amf input).world.slots = amf.world.slots := by
  unfold opened
  split
  · unfold openUplink
    split
    · rfl
    · split
      · rfl
      · exact World.slots_modify ..
  · rfl

theorem slots_step_le (amf : Amf) (input : Input) :
    (step P amf input).1.world.slots ≤ amf.world.slots + 1 := by
  have hslots := slots_perform P (opened P amf input) (request P amf input)
  have hone := slotsOf_le_one (request P amf input)
  rw [slots_opened] at hslots
  rw [step_eq_perform]
  omega

/-- Fewer inputs than there are ids left do not exhaust the ids: each makes at most one slot. -/
theorem always_spawnsFresh {amf : Amf} {inputs : List Input}
    (hroom : amf.world.slots + inputs.length ≤ 2 ^ 32) :
    Mealy.Always (step P) amf inputs fun _ t => SpawnsFresh P t := by
  induction inputs generalizing amf with
  | nil => exact Mealy.always_nil
  | cons input inputs ih =>
      rw [List.length_cons] at hroom
      refine Mealy.always_cons.mpr ⟨?_, ih ?_⟩
      · intro ran plmn _ hexhausted
        have hfull : 2 ^ 32 ≤ amf.world.slots := hexhausted.2
        omega
      · have hslots := slots_step_le P amf input
        omega

section Step

variable {P} {amf : Amf} {e : EntityId}

/-- A request for an uplink PDU is about the entity the message names. -/
theorem target_nasRequest {rand : Octets 16} {ran id : UInt32} {plainPdu : List UInt8}
    (htarget : (nasRequest P amf.hss rand ran id plainPdu).target amf = some e) : e = id := by
  unfold nasRequest at htarget
  split at htarget
  · split at htarget
    · cases htarget
    · exact (Option.some.inj htarget).symm
  · exact (Option.some.inj htarget).symm
  · exact (Option.some.inj htarget).symm
  · exact (Option.some.inj htarget).symm
  · cases htarget

/-- A message that is not the first of a UE leaves alone the entities it does not name. -/
theorem get?_step_of_uplink (rand : Octets 16) {m : NgapUplinkNasTransport}
    (hne : m.amfUeNgapId ≠ e) :
    (step P amf (.ngap rand (.uplinkNasTransport m))).1.world.get? e = amf.world.get? e := by
  have hreopen : reopen P (.ngap rand (.uplinkNasTransport m)) e = id := by
    apply reopen_eq_id
    intro ctx
    simp only [reopenContext, hne, false_and, if_false]
  have hother : (request P amf (.ngap rand (.uplinkNasTransport m))).target
      (opened P amf (.ngap rand (.uplinkNasTransport m))) ≠ some e := by
    have hhss := openUplink_hss P amf m.amfUeNgapId m.nasPdu
    simp only [request, opened]
    split
    · intro htarget
      cases htarget
    · intro htarget
      rw [← hhss] at htarget
      exact hne (target_nasRequest htarget).symm
  rw [get?_step, if_neg hother, hreopen, Option.map_id, id]

/-- A first message leaves alone the entities that are live, unless it is handed the id of one. -/
theorem get?_step_of_initial {rand : Octets 16} {m : NgapInitialUeMessage} {n : Entity}
    (hfresh : SpawnsFresh P (Mealy.transition (step P) amf (.ngap rand (.initialUeMessage m))))
    (hlive : amf.world.get? e = some n) :
    (step P amf (.ngap rand (.initialUeMessage m))).1.world.get? e = some n := by
  have hreopen : reopen P (.ngap rand (.initialUeMessage m)) e = id :=
    reopen_eq_id P fun _ => rfl
  have hother : (request P amf (.ngap rand (.initialUeMessage m))).target amf ≠ some e := by
    cases hrequest : request P amf (.ngap rand (.initialUeMessage m)) with
    | register ran plmn =>
        have hroom : ¬ amf.world.Exhausted := hfresh _ _ hrequest
        intro htarget
        apply hroom
        rw [← amf.world.isLive_spawn_iff, Option.some.inj htarget, World.isLive_eq_isSome, hlive,
          Option.isSome_some]
    | ignored =>
        intro htarget
        cases htarget
    | _ =>
        simp only [request, initialRequest] at hrequest
        split at hrequest
        · split at hrequest <;> cases hrequest
        · cases hrequest
  have hopened : opened P amf (.ngap rand (.initialUeMessage m)) = amf := rfl
  rw [get?_step, hopened, if_neg hother, hreopen, hlive, Option.map_some, id]

theorem isolates_step {input : Input}
    (hfresh : SpawnsFresh P (Mealy.transition (step P) amf input)) :
    Isolates (Mealy.transition (step P) amf input) := by
  cases input with
  | hssMut hss => rfl
  | ngap rand msg =>
      cases msg with
      | initialUeMessage m => exact fun e n hlive => get?_step_of_initial hfresh hlive
      | uplinkNasTransport m =>
          intro e hne
          exact get?_step_of_uplink rand fun h => hne (congrArg some h)
      | initialContextSetupResponse m =>
          intro e hne
          have hother : e ≠ m.amfUeNgapId := fun h => hne (congrArg some h.symm)
          exact (congrFun (get?_handleIcsResponse amf m) e).trans (Function.update_of_ne hother ..)
      | ueContextReleaseComplete m =>
          intro e hne
          have hother : e ≠ m.amfUeNgapId := fun h => hne (congrArg some h.symm)
          exact (congrFun (get?_handleReleaseComplete amf m) e).trans
            (Function.update_of_ne hother ..)
      | _ => exact fun _ _ => rfl

end Step

/-- Every step of a run isolates the subscribers as long as a free id is left for each
registration. -/
theorem always_isolates (amf : Amf) (inputs : List Input)
    (hfresh : Mealy.Always (step P) amf inputs fun _ t => SpawnsFresh P t) :
    Mealy.Always (step P) amf inputs fun _ t => Isolates t :=
  Mealy.always_of_invariant (fun _ _ => True) trivial (fun _ _ _ _ _ => trivial)
    (fun _ _ _ _ hmet => isolates_step hmet) hfresh

/-- Once every id is live, the next registration takes over entity 0. -/
theorem not_isolates_of_registered {amf : Amf} (hregistered : Registered (2 ^ 32) amf) :
    ¬ Isolates (Mealy.transition (step P) amf registerOther) := by
  intro hisolates
  have hspawn : amf.world.spawn.1 = 0 := by
    apply UInt32.toNat_inj.mp
    rw [hregistered.unretired.toNat_spawn, Nat.mod_self]
    rfl
  have hzero := hregistered.identity?_eq 0 (Nat.two_pow_pos 32)
  obtain ⟨n, hlive, hidentity⟩ := Option.map_eq_some_iff.mp hzero
  have hkept := hisolates 0 n hlive
  rw [Mealy.transition, get?_registerOther, hspawn, Function.update_self, hlive,
    Option.getD_some] at hkept
  have hran : (2 : UInt32) = n.identity.enbUeS1apId :=
    congrArg (fun n : Entity => n.identity.enbUeS1apId) (Option.some.inj hkept)
  rw [hidentity] at hran
  exact absurd hran (by decide)

/-- All ids are taken, and then one more UE registers. -/
def exhaust : List Input := List.replicate (2 ^ 32) registerTest ++ [registerOther]

theorem exhaust_overwrites :
    ¬ ∃ P : Primitives, Mealy.Always (step P) (Amf.new none) exhaust fun _ t => Isolates t := by
  rintro ⟨P, halways⟩
  have hregistered := registered_replicate (P := P) none (2 ^ 32)
  exact not_isolates_of_registered P hregistered halways.last

end Midn.Core.Amf
