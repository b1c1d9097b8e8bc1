import Midn.Core.Mme.Lifecycle

/-!
# Isolation of the subscribers of the MME

All components of all subscribers live in shared columns, indexed by ids taken from the wire. A
message still reaches at most the entity it names, and a first message none that was live.
-/

namespace Midn.Core.Mme

open Ecs Nas S1ap

variable (P : Primitives)

/-- An `InitialUeMessage` leaves every live entity as it was, any other message every entity but
the one it names, and a change of the subscriber database all of them. -/
def Isolates (t : Transition) : Prop :=
  match t.input with
  | .s1ap _ (.initialUeMessage _) =>
      ∀ e n, t.pre.world.get? e = some n → t.post.world.get? e = some n
  | .s1ap _ msg => ∀ e, msg.mmeUeS1apId? ≠ some e → t.post.world.get? e = t.pre.world.get? e
  | .hssMut _ => t.post.world = t.pre.world

/-- The entity an input names: neither a first message nor a change of the database names one. -/
def Input.mmeUeS1apId? : Input → Option EntityId
  | .s1ap _ msg => msg.mmeUeS1apId?
  | .hssMut _ => none

/-- Isolation keeps every live entity that is not named. -/
theorem Isolates.get?_eq {t : Transition} (hisolates : Isolates t) {e : EntityId} {n : Entity}
    (hne : t.input.mmeUeS1apId? ≠ some e) (hlive : t.pre.world.get? e = some n) :
    t.post.world.get? e = some n := by
  obtain ⟨pre, input, post, output⟩ := t
  cases input with
  | hssMut hss => exact (congrArg (World.get? · e) hisolates).trans hlive
  | s1ap rand msg =>
      cases msg with
      | initialUeMessage m => exact hisolates e n hlive
      | _ => exact (hisolates e hne).trans hlive

/-- An attach that is challenged finds a free entity id. -/
def SpawnsFresh (t : Transition) : Prop :=
  ∀ enb plmn imsi authInfo hss, request P t.pre t.input = .challenge enb plmn imsi authInfo hss →
    ¬ t.pre.world.Exhausted

/-! ## Slots -/

/-- The slots a request makes. -/
def slotsOf : Request → Nat
  | .challenge .. => 1
  | _ => 0

theorem slots_perform (mme : Mme) (r : Request) :
    (perform P mme r).1.world.slots ≤ mme.world.slots + slotsOf r := by
  cases r with
  | challenge enb plmn imsi authInfo hss =>
      simp only [perform, issueChallenge, World.insertSecurity, World.insertIdentity,
        World.setAuthState, World.slots_modify, slotsOf]
      exact World.slots_spawn_le mme.world
  | authResponse e enb res =>
      simp only [perform, verifyResponse]
      split
      · exact le_refl _
      · split
        · simp only [World.setAuthState, World.modifySecurity, World.slots_modify, slotsOf,
            Nat.add_zero, le_refl]
        · simp only [World.setAuthState, World.modifySecurity, World.slots_modify, slotsOf,
            Nat.add_zero, le_refl]
  | securityModeComplete e enb =>
      simp only [perform, handleSecurityModeComplete]
      split
      · split
        · simp only [World.setTunnel, World.setNasSecurity, World.modifySecurity,
            World.slots_modify, slotsOf, Nat.add_zero, le_refl]
        · simp only [World.setNasSecurity, World.modifySecurity, World.slots_modify, slotsOf,
            Nat.add_zero, le_refl]
      · exact le_refl _
  | detach e enb switchOff =>
      simp only [perform, acceptDetach]
      split
      · split
        · exact le_refl _
        · split
          · simp only [World.setNasSecurity, World.slots_modify, slotsOf, Nat.add_zero, le_refl]
          · exact le_refl _
      · exact le_refl _
  | contextSetup resp =>
      simp only [perform, handleIcsrsp]
      split
      · exact le_refl _
      · split
        · simp only [World.setTunnel, World.slots_modify, slotsOf, Nat.add_zero, le_refl]
        · exact le_refl _
  | release msg =>
      simp only [perform, handleReleaseComplete]
      split
      · simp only [World.slots_despawn, slotsOf, Nat.add_zero, le_refl]
      · simp only [World.slots_despawn, slotsOf, Nat.add_zero, le_refl]
  | hssMut hss => exact le_refl _
  | ignored => exact le_refl _

theorem slotsOf_le_one (r : Request) : slotsOf r ≤ 1 := by
  cases r with
  | challenge enb plmn imsi authInfo hss => exact le_refl 1
  | _ => exact Nat.zero_le 1

/-- Opening an envelope only advances a COUNT. -/
theorem slots_opened (mme : Mme) (input : Input) :
    (opened P mme input).world.slots = mme.world.slots := by
  unfold opened
  split
  · unfold openUplink
    split
    · rfl
    · split
      · rfl
      · exact World.slots_modify ..
  · rfl

theorem slots_step_le (mme : Mme) (input : Input) :
    (step P mme input).1.world.slots ≤ mme.world.slots + 1 := by
  have hslots := slots_perform P (opened P mme input) (request P mme input)
  have hone := slotsOf_le_one (request P mme input)
  rw [slots_opened] at hslots
  rw [step_eq_perform]
  omega

/-- Fewer inputs than there are ids left do not exhaust the ids: each makes at most one slot. -/
theorem always_spawnsFresh {mme : Mme} {inputs : List Input}
    (hroom : mme.world.slots + inputs.length ≤ 2 ^ 32) :
    Mealy.Always (step P) mme inputs fun _ t => SpawnsFresh P t := by
  induction inputs generalizing mme with
  | nil => exact Mealy.always_nil
  | cons input inputs ih =>
      rw [List.length_cons] at hroom
      refine Mealy.always_cons.mpr ⟨?_, ih ?_⟩
      · intro enb plmn imsi authInfo hss _ hexhausted
        have hfull : 2 ^ 32 ≤ mme.world.slots := hexhausted.2
        omega
      · have hslots := slots_step_le P mme input
        omega

section Step

variable {P} {mme : Mme} {e : EntityId}

/-- A request for an uplink PDU is about the entity the message names. -/
theorem target_nasRequest {enb id : UInt32} {plainPdu : List UInt8}
    (htarget : (nasRequest enb id plainPdu).target mme = some e) : e = id := by
  unfold nasRequest at htarget
  split at htarget
  · exact (Option.some.inj htarget).symm
  · exact (Option.some.inj htarget).symm
  · exact (Option.some.inj htarget).symm
  · cases htarget

/-- A message that is not the first of a UE leaves alone the entities it does not name. -/
theorem get?_step_of_uplink (rand : Octets 16) {m : UplinkNasTransport} (hne : m.mmeUeS1apId ≠ e) :
    (step P mme (.s1ap rand (.uplinkNasTransport m))).1.world.get? e = mme.world.get? e := by
  have hreopen : reopen P (.s1ap rand (.uplinkNasTransport m)) e = id := by
    apply reopen_eq_id
    intro ctx
    simp only [reopenContext, hne, false_and, if_false]
  have hother : (request P mme (.s1ap rand (.uplinkNasTransport m))).target
      (opened P mme (.s1ap rand (.uplinkNasTransport m))) ≠ some e := by
    simp only [request]
    split
    · intro htarget
      cases htarget
    · intro htarget
      exact hne (target_nasRequest htarget).symm
  rw [get?_step, if_neg hother, hreopen, Option.map_id, id]

/-- A first message leaves alone the entities that are live, unless it is handed the id of one. -/
theorem get?_step_of_initial {rand : Octets 16} {m : InitialUeMessage} {n : Entity}
    (hfresh : SpawnsFresh P (Mealy.transition (step P) mme (.s1ap rand (.initialUeMessage m))))
    (hlive : mme.world.get? e = some n) :
    (step P mme (.s1ap rand (.initialUeMessage m))).1.world.get? e = some n := by
  have hreopen : reopen P (.s1ap rand (.initialUeMessage m)) e = id :=
    reopen_eq_id P fun _ => rfl
  have hother : (request P mme (.s1ap rand (.initialUeMessage m))).target mme ≠ some e := by
    cases hvector : attachVector P mme.hss m.nasPdu rand with
    | none =>
        simp only [request, hvector]
        intro htarget
        cases htarget
    | some vector =>
        obtain ⟨imsi, authInfo, hss⟩ := vector
        have hrequest : request P mme (.s1ap rand (.initialUeMessage m)) =
            .challenge m.enbUeS1apId (m.tai.slice 0 3 plmn_in_tai) imsi authInfo hss := by
          simp only [request, hvector]
        have hroom : ¬ mme.world.Exhausted := hfresh _ _ _ _ _ hrequest
        rw [hrequest]
        intro htarget
        apply hroom
        rw [← mme.world.isLive_spawn_iff, Option.some.inj htarget, World.isLive_eq_isSome, hlive,
          Option.isSome_some]
  have hopened : opened P mme (.s1ap rand (.initialUeMessage m)) = mme := rfl
  rw [get?_step, hopened, if_neg hother, hreopen, hlive, Option.map_some, id]

theorem isolates_step {input : Input}
    (hfresh : SpawnsFresh P (Mealy.transition (step P) mme input)) :
    Isolates (Mealy.transition (step P) mme input) := by
  cases input with
  | hssMut hss => rfl
  | s1ap rand msg =>
      cases msg with
      | initialUeMessage m => exact fun e n hlive => get?_step_of_initial hfresh hlive
      | uplinkNasTransport m =>
          intro e hne
          exact get?_step_of_uplink rand fun h => hne (congrArg some h)
      | initialContextSetupResponse m =>
          intro e hne
          have hother : e ≠ m.mmeUeS1apId := fun h => hne (congrArg some h.symm)
          exact (congrFun (get?_handleIcsrsp mme m) e).trans (Function.update_of_ne hother ..)
      | ueContextReleaseComplete m =>
          intro e hne
          have hother : e ≠ m.mmeUeS1apId := fun h => hne (congrArg some h.symm)
          exact (congrFun (get?_handleReleaseComplete mme m) e).trans
            (Function.update_of_ne hother ..)
      | _ => exact fun _ _ => rfl

end Step

/-- Every step of a run isolates the subscribers as long as a free id is left for each attach. -/
theorem always_isolates (mme : Mme) (inputs : List Input)
    (hfresh : Mealy.Always (step P) mme inputs fun _ t => SpawnsFresh P t) :
    Mealy.Always (step P) mme inputs fun _ t => Isolates t :=
  Mealy.always_of_invariant (fun _ _ => True) trivial (fun _ _ _ _ _ => trivial)
    (fun _ _ _ _ hmet => isolates_step hmet) hfresh

end Midn.Core.Mme
