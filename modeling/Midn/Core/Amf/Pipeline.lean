import Midn.Core.Amf.Request
import Midn.Proto.Ngap.RoundTrip

/-!
# Octets in, octets out: the AMF

What arrives is decoded, and what the AMF responds is encoded. An element has room for every
RAN-side id, and the other numbers of a response and the length of its NAS PDU are fixed. So the
encoder accepts every response.
-/

namespace Midn.Core.Amf

open Ecs Nas5gs Ngap

variable (P : Primitives)

/-- What arrives: the octets of a message with the randomness it may use, or any change of the
subscriber database. -/
inductive Arrival where
  | message (rand : Octets 16) (octets : List UInt8)
  | hssMut (hss : Hss)

/-- Octets that cannot be decoded are dropped. -/
def Arrival.input? : Arrival → Option Input
  | message rand octets =>
      match decodeNgapPdu octets with
      | .ok msg => some (.ngap rand msg)
      | .error _ => none
  | hssMut hss => some (.hssMut hss)

/-! ## Responses -/

theorem length_registrationAcceptPlain (amfUeNgapId : UInt32) :
    (registrationAcceptPlain amfUeNgapId).length = 17 := by
  simp [registrationAcceptPlain, encodeRegistrationAccept, header, Nas.writeLv]

section Responses

variable {P} {amf : Amf} (ranUeNgapId : UInt32)

theorem roundTrips_issueChallenge (e : EntityId) (imsi : UInt64) (authInfo : HssAuthInfo)
    (hss : Hss) :
    ∀ resp ∈ (issueChallenge P amf ranUeNgapId e imsi authInfo hss).2.1, resp.RoundTrips := by
  intro resp hmem
  unfold issueChallenge at hmem
  split at hmem
  · cases hmem
  · obtain rfl := List.mem_singleton.mp hmem
    apply roundTrips_downlinkNasTransport
    rw [length_encodeAuthRequest]
    decide

theorem roundTrips_verifyResponse (e : EntityId) (resStar : Octets 16) :
    ∀ resp ∈ (verifyResponse amf ranUeNgapId e resStar).2.1, resp.RoundTrips := by
  intro resp hmem
  unfold verifyResponse at hmem
  split at hmem
  · cases hmem
  · simp only at hmem
    split at hmem
    · obtain rfl := List.mem_singleton.mp hmem
      apply roundTrips_downlinkNasTransport
      rw [length_encodeSecModeCmd]
      decide
    · cases hmem

theorem roundTrips_handleSecurityModeComplete (e : EntityId) :
    ∀ resp ∈ (handleSecurityModeComplete P amf ranUeNgapId e).2.1, resp.RoundTrips := by
  intro resp hmem
  unfold handleSecurityModeComplete at hmem
  split at hmem
  · simp only at hmem
    have hshort (ctx : Nas5gsSecurityContext) :
        (encodeProtected P ctx nas5gsShtIntegrityCiphered
          (registrationAcceptPlain e)).1.length < 128 := by
      rw [length_encodeProtected, length_registrationAcceptPlain]
      decide
    have hsession : defaultQfi.toNat ≤ qfiMax := by decide
    split at hmem
    · obtain rfl := List.mem_singleton.mp hmem
      exact roundTrips_initialContextSetupRequest e ranUeNgapId hsession (hshort _)
        ⟨by decide, by decide⟩ _
    · obtain rfl := List.mem_singleton.mp hmem
      exact roundTrips_downlinkNasTransport e ranUeNgapId (hshort _)
  · cases hmem

theorem roundTrips_acceptDeregistration (e : EntityId) (switchOff : Bool) :
    ∀ resp ∈ (acceptDeregistration P amf ranUeNgapId e switchOff).2, resp.RoundTrips := by
  have hrelease := roundTrips_ueContextReleaseCommand e ranUeNgapId .nasDeregister
  have hplain : encodeDeregistrationAccept.length = 3 := rfl
  unfold acceptDeregistration
  simp only
  split
  · split
    · exact List.forall_mem_singleton.mpr hrelease
    · split
      · refine List.forall_mem_cons.mpr
          ⟨roundTrips_downlinkNasTransport e ranUeNgapId ?_,
            List.forall_mem_singleton.mpr hrelease⟩
        rw [length_encodeProtected, hplain]
        decide
      · exact List.forall_mem_cons.mpr
          ⟨roundTrips_downlinkNasTransport e ranUeNgapId (by decide),
            List.forall_mem_singleton.mpr hrelease⟩
  · exact List.forall_mem_nil _

end Responses

/-- Every response to a request is encoded and decoded to itself. -/
theorem roundTrips_perform (amf : Amf) (r : Request) :
    ∀ resp ∈ (perform P amf r).2.1, resp.RoundTrips := by
  cases r with
  | register ran plmn =>
      exact List.forall_mem_singleton.mpr (roundTrips_downlinkNasTransport _ ran (by decide))
  | challenge e ran imsi authInfo hss => exact roundTrips_issueChallenge ran e imsi authInfo hss
  | authResponse e ran resStar => exact roundTrips_verifyResponse ran e resStar
  | securityModeComplete e ran => exact roundTrips_handleSecurityModeComplete ran e
  | deregister e ran switchOff => exact roundTrips_acceptDeregistration ran e switchOff
  | contextSetup resp =>
      intro _ hmem
      simp only [perform, handleIcsResponse] at hmem
      split at hmem
      · cases hmem
      · split at hmem <;> cases hmem
  | release msg =>
      intro _ hmem
      simp only [perform, handleReleaseComplete] at hmem
      split at hmem <;> cases hmem
  | hssMut hss => exact List.forall_mem_nil _
  | ignored => exact List.forall_mem_nil _

/-- In every run, every response is encoded and decoded to itself. -/
theorem roundTrips_run (phaseBUpf : Option (Octets 4)) (inputs : List Input) :
    ∀ t ∈ Mealy.run (step P) (Amf.new phaseBUpf) inputs, ∀ resp ∈ t.output.1,
      resp.RoundTrips := by
  intro t hmem
  rw [Mealy.run_mem_eq_transition hmem, Mealy.transition, step_eq_perform]
  exact roundTrips_perform P _ _

end Midn.Core.Amf
