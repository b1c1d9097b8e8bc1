import Midn.Core.Amf.Procedure

/-!
# Context pairing in the AMF

As in the MME, the RAN-side id of a message about a UE is echoed in the answers and otherwise has
no effect, except that an identity response leaves it in the identity of the entity.
-/

namespace Midn.Core.Amf

open Ecs Nas5gs Ngap

variable (P : Primitives)

/-- The answers, addressed to the UE under another RAN-side id. -/
def readdressed (ranUeNgapId : UInt32) (output : Output) : Output :=
  (output.1.map (NgapMessage.withRanUeNgapId ranUeNgapId), output.2)

/-- The state with another RAN-side id where a request has left one. -/
def Request.reassociated (ranUeNgapId : UInt32) (amf : Amf) : Request → Amf
  | .challenge entity _ _ _ _ =>
      { amf with
        world := amf.world.modify entity fun n =>
          { n with identity := { n.identity with enbUeS1apId := ranUeNgapId } } }
  | _ => amf

section Handlers

variable {P} {amf : Amf} {ran e : UInt32} (ran' : UInt32)

theorem issueChallenge_readdressed (imsi : UInt64) (authInfo : HssAuthInfo) (hss : Hss) :
    issueChallenge P amf ran' e imsi authInfo hss =
      (Request.reassociated ran' (issueChallenge P amf ran e imsi authInfo hss).1
          (.challenge e ran imsi authInfo hss),
        readdressed ran' (issueChallenge P amf ran e imsi authInfo hss).2) := by
  unfold issueChallenge World.security5g?
  cases hentity : amf.world.get? e with
  | none =>
      simp only [Option.map_none, Request.reassociated, World.modify_of_dead hentity]
      rfl
  | some n =>
      simp only [Option.map_some, Request.reassociated, World.insertIdentity,
        World.insertSecurity5g, World.setAuthState, World.modify_modify]
      rfl

theorem verifyResponse_readdressed (resStar : Octets 16) :
    verifyResponse amf ran' e resStar =
      ((verifyResponse amf ran e resStar).1,
        readdressed ran' (verifyResponse amf ran e resStar).2) := by
  unfold verifyResponse
  split
  · rfl
  · simp only
    split <;> rfl

theorem handleSecurityModeComplete_readdressed :
    handleSecurityModeComplete P amf ran' e =
      ((handleSecurityModeComplete P amf ran e).1,
        readdressed ran' (handleSecurityModeComplete P amf ran e).2) := by
  unfold handleSecurityModeComplete
  split
  · simp only
    split <;> rfl
  · rfl

theorem acceptDeregistration_readdressed (ran ran' : UInt32) (switchOff : Bool) :
    acceptDeregistration P amf ran' e switchOff =
      ((acceptDeregistration P amf ran e switchOff).1,
        (acceptDeregistration P amf ran e switchOff).2.map
          (NgapMessage.withRanUeNgapId ran')) := by
  unfold acceptDeregistration
  simp only
  split
  · split
    · rfl
    · split <;> rfl
  · rfl

/-- The RAN-side id of an uplink PDU is only echoed, or stored with an identity response. -/
theorem dispatchNas_readdressed (rand : Octets 16) (plainPdu : List UInt8) :
    dispatchNas P amf rand ran' e plainPdu =
      ((nasRequest P amf.hss rand ran e plainPdu).reassociated ran'
          (dispatchNas P amf rand ran e plainPdu).1,
        readdressed ran' (dispatchNas P amf rand ran e plainPdu).2) := by
  unfold dispatchNas nasRequest
  cases hdecode : decodeNas5gs plainPdu with
  | error err => rfl
  | ok pdu =>
      cases pdu with
      | identityResponse inner =>
          simp only [handleIdentityResponse]
          cases identityVector P amf.hss plainPdu rand with
          | none => rfl
          | some vector => exact issueChallenge_readdressed ran' ..
      | authenticationResponse inner =>
          simp only [handleAuthResponse, hdecode]
          exact verifyResponse_readdressed ran' inner.resStar
      | securityModeComplete => exact handleSecurityModeComplete_readdressed ran'
      | deregistrationRequest switchOff =>
          simp only [handleDeregistrationRequest, hdecode]
          rw [acceptDeregistration_readdressed ran ran']
          rfl
      | _ => rfl

/-- A plain PDU for an entity that is not there can only advance a sequence number. -/
theorem dispatchNas_of_dead (hdead : amf.world.get? e = none) (rand : Octets 16)
    (plainPdu : List UInt8) :
    ∃ hss, dispatchNas P amf rand ran e plainPdu = ({ amf with hss := hss }, silent) := by
  have hidentity := World.identity?_of_none hdead
  have hsecurity := World.security5g?_of_none hdead
  have hnotLive : amf.world.isLive e = false := World.get?_eq_none.mp hdead
  unfold dispatchNas
  cases hdecode : decodeNas5gs plainPdu with
  | error err => exact ⟨amf.hss, rfl⟩
  | ok pdu =>
      cases pdu with
      | identityResponse inner =>
          simp only [handleIdentityResponse]
          cases identityVector P amf.hss plainPdu rand with
          | none => exact ⟨amf.hss, rfl⟩
          | some vector => exact ⟨vector.2.2, by simp only [issueChallenge, hsecurity]⟩
      | authenticationResponse inner =>
          exact ⟨amf.hss, by simp only [handleAuthResponse, hdecode, verifyResponse, hsecurity]⟩
      | securityModeComplete =>
          exact ⟨amf.hss, by simp only [handleSecurityModeComplete, hidentity]⟩
      | deregistrationRequest switchOff =>
          simp only [handleDeregistrationRequest, hdecode, acceptDeregistration, hnotLive,
            Bool.false_eq_true, if_false]
          exact ⟨amf.hss, rfl⟩
      | _ => exact ⟨amf.hss, rfl⟩

end Handlers

section Step

variable {P} (amf : Amf) (rand : Octets 16) {msg : NgapMessage} {e ran : UInt32}

/-- A message about a UE has the same effect under every RAN-side id, but for an identity response
leaving it in the identity. -/
theorem step_withRanUeNgapId (hids : msg.contextIds? = some (e, ran)) (ran' : UInt32) :
    step P amf (.ngap rand (msg.withRanUeNgapId ran')) =
      ((request P amf (.ngap rand msg)).reassociated ran' (step P amf (.ngap rand msg)).1,
        readdressed ran' (step P amf (.ngap rand msg)).2) := by
  cases msg with
  | uplinkNasTransport m =>
      cases hids
      have hhss := openUplink_hss P amf m.amfUeNgapId m.nasPdu
      simp only [NgapMessage.withRanUeNgapId, step, processNgap, handleUplinkNas, request]
      split
      next amf' hopen =>
        rw [hopen]
        rfl
      next plainPdu amf' hopen =>
        rw [hopen] at hhss ⊢
        rw [← hhss]
        exact dispatchNas_readdressed ran' rand plainPdu
  | initialContextSetupResponse m =>
      simp only [NgapMessage.withRanUeNgapId, step, processNgap, handleIcsResponse]
      split
      · rfl
      · split <;> rfl
  | ueContextReleaseComplete m =>
      simp only [NgapMessage.withRanUeNgapId, step, processNgap, handleReleaseComplete]
      split <;> rfl
  | _ => cases hids

/-- A message about a UE that is not there can only advance a sequence number. -/
theorem step_of_dead (hids : msg.contextIds? = some (e, ran)) (hdead : amf.world.get? e = none) :
    ∃ hss, step P amf (.ngap rand msg) = ({ amf with hss := hss }, silent) := by
  cases msg with
  | uplinkNasTransport m =>
      cases hids
      simp only [step, processNgap, handleUplinkNas, openUplink, World.nasSecurity5g?, hdead,
        Option.bind_none]
      split
      next hopen =>
        split at hopen <;> cases hopen
        exact ⟨amf.hss, rfl⟩
      next plainPdu amf' hopen =>
        split at hopen <;> cases hopen
        exact dispatchNas_of_dead hdead rand _
  | initialContextSetupResponse m =>
      cases hids
      refine ⟨amf.hss, ?_⟩
      simp only [step, processNgap, handleIcsResponse, World.tunnel?, hdead, Option.bind_none]
      split <;> rfl
  | ueContextReleaseComplete m =>
      cases hids
      refine ⟨amf.hss, ?_⟩
      simp only [step, processNgap, handleReleaseComplete, World.identity?, World.tunnel?, hdead,
        Option.map_none, Option.bind_none, World.despawn_of_dead hdead]
  | _ => cases hids

end Step

/-- A message about a UE under a RAN-side id other than the recorded one changes nothing and goes
unanswered. -/
def PairsContext (t : Transition) : Prop :=
  ∀ rand msg e ran identity, t.input = .ngap rand msg → msg.contextIds? = some (e, ran) →
    t.pre.world.identity? e = some identity → ran ≠ identity.enbUeS1apId →
    t.post = t.pre ∧ t.output = silent

/-- The first UE's gNodeB reports its context released. -/
def releaseFirst : Input := .ngap (Octets.zeros 16) (.ueContextReleaseComplete ⟨0, 1⟩)

/-- A UE that registers after entity 0 is released is torn down by a repeated release of the
first. -/
theorem not_pairsContext_of_recycled {amf : Amf} (hlive : amf.world.isLive 0 = true) :
    ¬ PairsContext (Mealy.transition (step P)
      (step P (step P amf releaseFirst).1 registerOther).1 releaseFirst) := by
  intro hpairs
  have hreleased : (step P amf releaseFirst).1.world = amf.world.despawn 0 := by
    simp only [step, releaseFirst, processNgap, handleReleaseComplete]
    split <;> rfl
  have hrecycled := get?_registerOther P (step P amf releaseFirst).1
  rw [hreleased, World.spawn_despawn hlive, World.get?_despawn, Function.update_self,
    Option.getD_none, Function.update_idem] at hrecycled
  have hlive' := congrFun hrecycled 0
  rw [Function.update_self] at hlive'
  generalize (step P (step P amf releaseFirst).1 registerOther).1 = recycled at hpairs hlive'
  have hkept := (hpairs _ _ 0 1 (registering 2 (Octets.zeros 3) .empty).identity rfl rfl
    (by rw [Mealy.transition, World.identity?, hlive', Option.map_some]) (by decide)).1
  have hgone : (step P recycled releaseFirst).1.world.get? 0 = none := by
    have hget := get?_handleReleaseComplete recycled ⟨0, 1⟩
    exact (congrFun hget 0).trans (Function.update_self ..)
  have hsame := congrArg (fun amf : Amf => amf.world.get? 0) hkept
  simp only [Mealy.transition, hgone, hlive'] at hsame
  cases hsame

/-- A UE registers and is released, another one registers, and the release is repeated. -/
def releaseTwice : List Input := [registerTest, releaseFirst, registerOther, releaseFirst]

theorem releaseTwice_tears_down :
    ¬ ∃ P : Primitives,
      Mealy.Always (step P) (Amf.new none) releaseTwice fun _ t => PairsContext t := by
  rintro ⟨P, halways⟩
  have hlive : (step P (Amf.new none) registerTest).1.world.isLive 0 = true := by
    rw [World.isLive_eq_isSome, get?_registerTest P rfl, Option.isSome_some]
  exact not_pairsContext_of_recycled P hlive (halways [_, _, _] _ [] rfl)

end Midn.Core.Amf
