import Midn.Core.Mme.Subscriber

/-!
# Protected uplink messages

What becomes of an uplink NAS PDU with a security header: it either leaves no trace at all, or it
advances one COUNT and reaches the dispatcher deciphered.
-/

namespace Midn.Core.Mme

open Ecs Nas S1ap

variable (P : Primitives)

/-- Every NAS context uses the algorithms of the SecurityModeCommand. -/
def SelectedAlgorithms (mme : Mme) : Prop :=
  ∀ e ctx, mme.world.nasSecurity? e = some ctx → ctx.eea = selectedEea ∧ ctx.eia = selectedEia

/-- The state in which only the uplink COUNT of one context has moved. -/
def advanceUplink (mme : Mme) (e : EntityId) (ctx : NasSecurityContext) (ulCount : UInt32) : Mme :=
  { mme with world := mme.world.setNasSecurity e { ctx with ulCount := ulCount } }

/-- Protected uplink messages of a state. Without a context, in a buffer that is too short, or
with a MAC that does not verify they have no effect; otherwise the COUNT advances and the
deciphered message is dispatched. -/
structure UplinkAtomic (mme : Mme) : Prop where
  without_context : ∀ rand m, securityHeaderType m.nasPdu ≠ shtPlain →
    mme.world.nasSecurity? m.mmeUeS1apId = none →
    step P mme (.s1ap rand (.uplinkNasTransport m)) = (mme, silent)
  too_short : ∀ rand m, securityHeaderType m.nasPdu ≠ shtPlain → m.nasPdu.length < 6 →
    step P mme (.s1ap rand (.uplinkNasTransport m)) = (mme, silent)
  unverified : ∀ rand m ctx macI seqByte ciphertext,
    mme.world.nasSecurity? m.mmeUeS1apId = some ctx →
    IsEnvelope m.nasPdu macI seqByte ciphertext →
    eia2VerifyMac P ctx.kNasInt (reconstructCount ctx.ulCount seqByte) nasBearer .uplink
      ciphertext macI = false →
    step P mme (.s1ap rand (.uplinkNasTransport m)) = (mme, silent)
  verified : ∀ rand m ctx macI seqByte ciphertext,
    mme.world.nasSecurity? m.mmeUeS1apId = some ctx →
    IsEnvelope m.nasPdu macI seqByte ciphertext →
    eia2VerifyMac P ctx.kNasInt (reconstructCount ctx.ulCount seqByte) nasBearer .uplink
      ciphertext macI = true →
    step P mme (.s1ap rand (.uplinkNasTransport m)) =
      dispatchNas P
        (mme.advanceUplink m.mmeUeS1apId ctx (reconstructCount ctx.ulCount seqByte + 1))
        m.enbUeS1apId m.mmeUeS1apId
        (eea2Apply P ctx.kNasEnc (reconstructCount ctx.ulCount seqByte) nasBearer .uplink
          ciphertext)

variable {P} {mme : Mme} {input : Input}

theorem selectedAlgorithms_step (hselected : SelectedAlgorithms mme) :
    SelectedAlgorithms (step P mme input).1 := by
  intro e ctx hctx
  cases contextStep P mme input e with
  | kept hpost _ =>
      rw [hpost, Option.map_eq_some_iff] at hctx
      obtain ⟨old, hold, rfl⟩ := hctx
      have hkeys := reopenContext_sameKeys P input e old
      rw [← hkeys.eea, ← hkeys.eia]
      exact hselected e old hold
  | installed enb n _ _ hpost _ =>
      rw [hpost] at hctx
      cases hctx
      exact ⟨rfl, rfl⟩
  | used old hold hpost _ =>
      rw [hpost] at hctx
      cases hctx
      have hkeys := reopenContext_sameKeys P input e old
      rw [encodeProtected_ctx, ← hkeys.eea, ← hkeys.eia]
      exact hselected e old hold
  | dropped hpost _ =>
      rw [World.nasSecurity?, hpost] at hctx
      cases hctx

theorem selectedAlgorithms_after (phase3Upf : Option (Octets 4)) (inputs : List Input) :
    SelectedAlgorithms (Mealy.after (step P) (Mme.new phase3Upf) inputs) := by
  apply Mealy.after_of_step
  · intro e ctx hctx
    simp [Mme.new, World.nasSecurity?] at hctx
  · exact fun _ _ => selectedAlgorithms_step

/-- The header of an envelope is not plain. -/
theorem protected_of_isEnvelope {buf ciphertext : List UInt8} {macI : Octets 4} {seqByte : UInt8}
    (henvelope : IsEnvelope buf macI seqByte ciphertext) : securityHeaderType buf ≠ shtPlain := by
  obtain ⟨header, hprotected, rfl⟩ := henvelope
  exact hprotected

/-- An uplink message whose envelope does not open has no effect. -/
theorem step_of_unopened (rand : Octets 16) {m : UplinkNasTransport}
    (hprotected : securityHeaderType m.nasPdu ≠ shtPlain)
    (hunopened : ∀ ctx, mme.world.nasSecurity? m.mmeUeS1apId = some ctx →
      decodeProtected P ctx m.nasPdu nasBearer = (none, ctx)) :
    step P mme (.s1ap rand (.uplinkNasTransport m)) = (mme, silent) := by
  simp only [step, processS1ap, handleUplinkNas, openUplink, if_neg hprotected]
  cases hctx : mme.world.nasSecurity? m.mmeUeS1apId with
  | none => rfl
  | some ctx => simp only [hunopened ctx hctx, World.setNasSecurity_self hctx]

theorem decodeProtected_of_isEnvelope (hselected : SelectedAlgorithms mme) {e : EntityId}
    {ctx : NasSecurityContext} (hctx : mme.world.nasSecurity? e = some ctx)
    {buf ciphertext : List UInt8} {macI : Octets 4} {seqByte : UInt8}
    (henvelope : IsEnvelope buf macI seqByte ciphertext) :
    decodeProtected P ctx buf nasBearer =
      if eia2VerifyMac P ctx.kNasInt (reconstructCount ctx.ulCount seqByte) nasBearer .uplink
          ciphertext macI then
        (some (eea2Apply P ctx.kNasEnc (reconstructCount ctx.ulCount seqByte) nasBearer .uplink
          ciphertext), { ctx with ulCount := reconstructCount ctx.ulCount seqByte + 1 })
      else (none, ctx) := by
  obtain ⟨heea, heia⟩ := hselected e ctx hctx
  have hcipher : ctx.eea ≠ .eea0 := by
    rw [heea]
    decide
  have hintegrity : ctx.eia ≠ .eia0 := by
    rw [heia]
    decide
  rw [decodeProtected, decodeEnvelope_of_isEnvelope henvelope]
  exact NasSecurityContext.unprotectUplink_of_enabled P hcipher hintegrity ..

theorem uplinkAtomic_of_selected (hselected : SelectedAlgorithms mme) : UplinkAtomic P mme where
  without_context := by
    intro rand m hprotected hctx
    apply step_of_unopened rand hprotected
    intro ctx hheld
    cases hctx.symm.trans hheld
  too_short := by
    intro rand m hprotected hshort
    apply step_of_unopened rand hprotected
    intro ctx _
    rw [decodeProtected, decodeEnvelope_of_short hshort]
  unverified := by
    intro rand m ctx macI seqByte ciphertext hctx henvelope hmac
    apply step_of_unopened rand (protected_of_isEnvelope henvelope)
    intro ctx' hheld
    cases hctx.symm.trans hheld
    rw [decodeProtected_of_isEnvelope hselected hctx henvelope, hmac]
    rfl
  verified := by
    intro rand m ctx macI seqByte ciphertext hctx henvelope hmac
    simp only [step, processS1ap, handleUplinkNas, openUplink,
      if_neg (protected_of_isEnvelope henvelope), hctx,
      decodeProtected_of_isEnvelope hselected hctx henvelope, hmac, if_true, advanceUplink]

end Midn.Core.Mme
