import Midn.Core.Amf.Subscriber

/-!
# Protected uplink messages

What becomes of an uplink NAS PDU with a security header: it either leaves no trace at all, or it
advances one COUNT and reaches the dispatcher deciphered.
-/

namespace Midn.Core.Amf

open Ecs Nas5gs Ngap
open Nas (eea2Apply eia2VerifyMac nasBearer reconstructCount)

variable (P : Primitives)

/-- Every NAS context uses the algorithms of the SecurityModeCommand. -/
def SelectedAlgorithms (amf : Amf) : Prop :=
  ∀ e ctx, amf.world.nasSecurity5g? e = some ctx →
    ctx.nasCipherAlg = selectedNasCipherAlg ∧ ctx.nasIntegrityAlg = selectedNasIntegrityAlg

/-- The state in which only the uplink COUNT of one context has moved. -/
def advanceUplink (amf : Amf) (e : EntityId) (ctx : Nas5gsSecurityContext) (ulCount : UInt32) :
    Amf :=
  { amf with world := amf.world.setNasSecurity5g e { ctx with ulCount := ulCount } }

/-- Protected uplink messages of a state. Without a context, in a buffer that is too short or has
another discriminator, or with a MAC that does not verify they have no effect; otherwise the COUNT
advances and the deciphered message is dispatched. -/
structure UplinkAtomic (amf : Amf) : Prop where
  without_context : ∀ rand m, securityHeaderType m.nasPdu ≠ nas5gsShtPlain →
    amf.world.nasSecurity5g? m.amfUeNgapId = none →
    step P amf (.ngap rand (.uplinkNasTransport m)) = (amf, silent)
  too_short : ∀ rand m, securityHeaderType m.nasPdu ≠ nas5gsShtPlain → m.nasPdu.length < 7 →
    step P amf (.ngap rand (.uplinkNasTransport m)) = (amf, silent)
  other_discriminator : ∀ rand m, securityHeaderType m.nasPdu ≠ nas5gsShtPlain →
    m.nasPdu.head? ≠ some nas5gsMmEpd →
    step P amf (.ngap rand (.uplinkNasTransport m)) = (amf, silent)
  unverified : ∀ rand m ctx macI seqByte ciphertext,
    amf.world.nasSecurity5g? m.amfUeNgapId = some ctx →
    IsEnvelope m.nasPdu macI seqByte ciphertext →
    eia2VerifyMac P ctx.kNasInt (reconstructCount ctx.ulCount seqByte) nasBearer .uplink
      ciphertext macI = false →
    step P amf (.ngap rand (.uplinkNasTransport m)) = (amf, silent)
  verified : ∀ rand m ctx macI seqByte ciphertext,
    amf.world.nasSecurity5g? m.amfUeNgapId = some ctx →
    IsEnvelope m.nasPdu macI seqByte ciphertext →
    eia2VerifyMac P ctx.kNasInt (reconstructCount ctx.ulCount seqByte) nasBearer .uplink
      ciphertext macI = true →
    step P amf (.ngap rand (.uplinkNasTransport m)) =
      dispatchNas P
        (amf.advanceUplink m.amfUeNgapId ctx (reconstructCount ctx.ulCount seqByte + 1)) rand
        m.ranUeNgapId m.amfUeNgapId
        (eea2Apply P ctx.kNasEnc (reconstructCount ctx.ulCount seqByte) nasBearer .uplink
          ciphertext)

variable {P} {amf : Amf} {input : Input}

theorem selectedAlgorithms_step (hselected : SelectedAlgorithms amf) :
    SelectedAlgorithms (step P amf input).1 := by
  intro e ctx hctx
  cases contextStep P amf input e with
  | kept hpost _ =>
      rw [hpost, Option.map_eq_some_iff] at hctx
      obtain ⟨old, hold, rfl⟩ := hctx
      have hkeys := reopenContext_sameKeys P input e old
      rw [← hkeys.nasCipherAlg, ← hkeys.nasIntegrityAlg]
      exact hselected e old hold
  | installed enb n _ _ hpost _ =>
      rw [hpost] at hctx
      cases hctx
      exact ⟨rfl, rfl⟩
  | used old hold hpost _ =>
      rw [hpost] at hctx
      cases hctx
      have hkeys := reopenContext_sameKeys P input e old
      rw [encodeProtected_ctx, ← hkeys.nasCipherAlg, ← hkeys.nasIntegrityAlg]
      exact hselected e old hold
  | dropped hpost _ =>
      rw [World.nasSecurity5g?, hpost] at hctx
      cases hctx

theorem selectedAlgorithms_after (phaseBUpf : Option (Octets 4)) (inputs : List Input) :
    SelectedAlgorithms (Mealy.after (step P) (Amf.new phaseBUpf) inputs) := by
  apply Mealy.after_of_step
  · intro e ctx hctx
    simp [Amf.new, World.nasSecurity5g?] at hctx
  · exact fun _ _ => selectedAlgorithms_step

/-- The header of an envelope is not plain. -/
theorem protected_of_isEnvelope {buf ciphertext : List UInt8} {macI : Octets 4} {seqByte : UInt8}
    (henvelope : IsEnvelope buf macI seqByte ciphertext) :
    securityHeaderType buf ≠ nas5gsShtPlain := by
  obtain ⟨header, hprotected, rfl⟩ := henvelope
  exact hprotected

/-- An uplink message whose envelope does not open has no effect. -/
theorem step_of_unopened (rand : Octets 16) {m : NgapUplinkNasTransport}
    (hprotected : securityHeaderType m.nasPdu ≠ nas5gsShtPlain)
    (hunopened : ∀ ctx, amf.world.nasSecurity5g? m.amfUeNgapId = some ctx →
      decodeProtected P ctx m.nasPdu = (none, ctx)) :
    step P amf (.ngap rand (.uplinkNasTransport m)) = (amf, silent) := by
  simp only [step, processNgap, handleUplinkNas, openUplink, if_neg hprotected]
  cases hctx : amf.world.nasSecurity5g? m.amfUeNgapId with
  | none => rfl
  | some ctx => simp only [hunopened ctx hctx, World.setNasSecurity5g_self hctx]

theorem decodeProtected_of_isEnvelope (hselected : SelectedAlgorithms amf) {e : EntityId}
    {ctx : Nas5gsSecurityContext} (hctx : amf.world.nasSecurity5g? e = some ctx)
    {buf ciphertext : List UInt8} {macI : Octets 4} {seqByte : UInt8}
    (henvelope : IsEnvelope buf macI seqByte ciphertext) :
    decodeProtected P ctx buf =
      if eia2VerifyMac P ctx.kNasInt (reconstructCount ctx.ulCount seqByte) nasBearer .uplink
          ciphertext macI then
        (some (eea2Apply P ctx.kNasEnc (reconstructCount ctx.ulCount seqByte) nasBearer .uplink
          ciphertext), { ctx with ulCount := reconstructCount ctx.ulCount seqByte + 1 })
      else (none, ctx) := by
  obtain ⟨heea, heia⟩ := hselected e ctx hctx
  have hcipher : ctx.nasCipherAlg ≠ 0 := by
    rw [heea]
    decide
  have hintegrity : ctx.nasIntegrityAlg ≠ 0 := by
    rw [heia]
    decide
  rw [decodeProtected, decodeEnvelope_of_isEnvelope henvelope]
  exact Nas5gsSecurityContext.unprotectUplink_of_enabled P hcipher hintegrity ..

theorem uplinkAtomic_of_selected (hselected : SelectedAlgorithms amf) : UplinkAtomic P amf where
  without_context := by
    intro rand m hprotected hctx
    apply step_of_unopened rand hprotected
    intro ctx hheld
    cases hctx.symm.trans hheld
  too_short := by
    intro rand m hprotected hshort
    apply step_of_unopened rand hprotected
    intro ctx _
    rw [decodeProtected, decodeEnvelope_of_short hshort]
  other_discriminator := by
    intro rand m hprotected hepd
    apply step_of_unopened rand hprotected
    intro ctx _
    rw [decodeProtected, decodeEnvelope_of_discriminator hepd]
  unverified := by
    intro rand m ctx macI seqByte ciphertext hctx henvelope hmac
    apply step_of_unopened rand (protected_of_isEnvelope henvelope)
    intro ctx' hheld
    cases hctx.symm.trans hheld
    rw [decodeProtected_of_isEnvelope hselected hctx henvelope, hmac]
    rfl
  verified := by
    intro rand m ctx macI seqByte ciphertext hctx henvelope hmac
    simp only [step, processNgap, handleUplinkNas, openUplink,
      if_neg (protected_of_isEnvelope henvelope), hctx,
      decodeProtected_of_isEnvelope hselected hctx henvelope, hmac, if_true, advanceUplink]

end Midn.Core.Amf
