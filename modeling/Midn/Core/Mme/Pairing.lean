import Midn.Core.Mme.Subscriber

/-!
# Context pairing in the MME

An eNodeB names a UE by the core-side and the RAN-side id of its context. The MME acts on the
core-side id alone: the RAN-side id is echoed in what it answers and has no other effect.
-/

namespace Midn.Core.Mme

open Ecs Nas S1ap

variable (P : Primitives)

/-- The answers, addressed to the UE under another RAN-side id. -/
def readdressed (enbUeS1apId : UInt32) (output : Output) : Output :=
  (output.1.map (S1apMessage.withEnbUeS1apId enbUeS1apId), output.2)

section Handlers

variable {P} {mme : Mme} {enb e : UInt32} (enb' : UInt32)

theorem verifyResponse_readdressed (res : Octets 8) :
    verifyResponse mme enb' e res =
      ((verifyResponse mme enb e res).1, readdressed enb' (verifyResponse mme enb e res).2) := by
  unfold verifyResponse
  split
  · rfl
  · simp only
    split <;> rfl

theorem handleSecurityModeComplete_readdressed :
    handleSecurityModeComplete P mme enb' e =
      ((handleSecurityModeComplete P mme enb e).1,
        readdressed enb' (handleSecurityModeComplete P mme enb e).2) := by
  unfold handleSecurityModeComplete
  split
  · simp only
    split <;> rfl
  · rfl

theorem acceptDetach_readdressed (enb enb' : UInt32) (switchOff : Bool) :
    acceptDetach P mme enb' e switchOff =
      ((acceptDetach P mme enb e switchOff).1,
        (acceptDetach P mme enb e switchOff).2.map (S1apMessage.withEnbUeS1apId enb')) := by
  unfold acceptDetach
  simp only
  split
  · split
    · rfl
    · split <;> rfl
  · rfl

/-- The RAN-side id of an uplink PDU is only echoed. -/
theorem dispatchNas_readdressed (plainPdu : List UInt8) :
    dispatchNas P mme enb' e plainPdu =
      ((dispatchNas P mme enb e plainPdu).1,
        readdressed enb' (dispatchNas P mme enb e plainPdu).2) := by
  unfold dispatchNas
  cases hdecode : decodeNas plainPdu with
  | error err => rfl
  | ok pdu =>
      cases pdu with
      | authenticationResponse inner =>
          simp only [handleAuthResponse, hdecode]
          exact verifyResponse_readdressed enb' inner.res
      | securityModeComplete => exact handleSecurityModeComplete_readdressed enb'
      | detachRequest d =>
          simp only [handleDetachRequest, hdecode]
          rw [acceptDetach_readdressed enb enb']
          rfl
      | _ => rfl

/-- A plain PDU for an entity that is not there is ignored. -/
theorem dispatchNas_of_dead (hdead : mme.world.get? e = none) (plainPdu : List UInt8) :
    dispatchNas P mme enb e plainPdu = (mme, silent) := by
  have hidentity := World.identity?_of_none hdead
  have hsecurity := World.security?_of_none hdead
  have hnotLive : mme.world.isLive e = false := World.get?_eq_none.mp hdead
  unfold dispatchNas
  cases hdecode : decodeNas plainPdu with
  | error err => rfl
  | ok pdu =>
      cases pdu with
      | authenticationResponse inner =>
          simp only [handleAuthResponse, hdecode, verifyResponse, hsecurity]
      | securityModeComplete => simp only [handleSecurityModeComplete, hidentity]
      | detachRequest d =>
          simp only [handleDetachRequest, hdecode, acceptDetach, hnotLive, Bool.false_eq_true,
            if_false]
          rfl
      | _ => rfl

end Handlers

section Step

variable {P} (mme : Mme) (rand : Octets 16) {msg : S1apMessage} {e enb : UInt32}

/-- A message about a UE has the same effect under every RAN-side id. -/
theorem step_withEnbUeS1apId (hids : msg.contextIds? = some (e, enb)) (enb' : UInt32) :
    step P mme (.s1ap rand (msg.withEnbUeS1apId enb')) =
      ((step P mme (.s1ap rand msg)).1, readdressed enb' (step P mme (.s1ap rand msg)).2) := by
  cases msg with
  | uplinkNasTransport m =>
      simp only [S1apMessage.withEnbUeS1apId, step, processS1ap, handleUplinkNas]
      split
      · rfl
      · exact dispatchNas_readdressed enb' _
  | initialContextSetupResponse m =>
      simp only [S1apMessage.withEnbUeS1apId, step, processS1ap, handleIcsrsp]
      split
      · rfl
      · split <;> rfl
  | ueContextReleaseComplete m =>
      simp only [S1apMessage.withEnbUeS1apId, step, processS1ap, handleReleaseComplete]
      split <;> rfl
  | _ => cases hids

/-- A message about a UE that is not there is ignored. -/
theorem step_of_dead (hids : msg.contextIds? = some (e, enb)) (hdead : mme.world.get? e = none) :
    step P mme (.s1ap rand msg) = (mme, silent) := by
  cases msg with
  | uplinkNasTransport m =>
      cases hids
      simp only [step, processS1ap, handleUplinkNas, openUplink, World.nasSecurity?, hdead,
        Option.bind_none]
      split
      next hopen =>
        split at hopen <;> cases hopen
        rfl
      next plainPdu mme' hopen =>
        split at hopen <;> cases hopen
        exact dispatchNas_of_dead hdead _
  | initialContextSetupResponse m =>
      cases hids
      simp only [step, processS1ap, handleIcsrsp, World.tunnel?, hdead, Option.bind_none]
      split <;> rfl
  | ueContextReleaseComplete m =>
      cases hids
      simp only [step, processS1ap, handleReleaseComplete, World.identity?, World.tunnel?, hdead,
        Option.map_none, Option.bind_none, World.despawn_of_dead hdead]
  | _ => cases hids

end Step

end Midn.Core.Mme
