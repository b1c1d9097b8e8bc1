import Midn.Core.Mme.Request
import Midn.Proto.S1ap.Reencode

/-!
# Octets in, octets out: the MME

What arrives is decoded, and what the MME responds is encoded. A response repeats the RAN-side id
of the message it answers, which the decoder has read from three octets; the other numbers of a
response and the length of its NAS PDU are fixed. So the encoder accepts every response.
-/

namespace Midn.Core.Mme

open Ecs Nas S1ap

variable (P : Primitives)

/-- What arrives: the octets of a message with the randomness it may use, or any change of the
subscriber database. -/
inductive Arrival where
  | message (rand : Octets 16) (octets : List UInt8)
  | hssMut (hss : Hss)

/-- Octets that cannot be decoded are dropped. -/
def Arrival.input? : Arrival → Option Input
  | message rand octets =>
      match decodeS1apPdu octets with
      | .ok msg => some (.s1ap rand msg)
      | .error _ => none
  | hssMut hss => some (.hssMut hss)

theorem Arrival.input?_message (rand : Octets 16) {octets : List UInt8} {msg : S1apMessage}
    (hdecode : decodeS1apPdu octets = .ok msg) :
    (message rand octets).input? = some (.s1ap rand msg) := by
  simp only [input?, hdecode]

/-- The input comes from an arrival. -/
def Arrived (input : Input) : Prop := ∃ arrival : Arrival, arrival.input? = some input

/-- The RAN-side id that the responses to a request name. -/
def Request.enbUeS1apId? : Request → Option UInt32
  | .challenge enbUeS1apId _ _ _ _ => some enbUeS1apId
  | .authResponse _ enbUeS1apId _ => some enbUeS1apId
  | .securityModeComplete _ enbUeS1apId => some enbUeS1apId
  | .detach _ enbUeS1apId _ => some enbUeS1apId
  | _ => none

/-! ## Requests -/

theorem enbUeS1apId?_nasRequest {enb e enbUeS1apId : UInt32} {plainPdu : List UInt8}
    (hmem : enbUeS1apId ∈ (nasRequest enb e plainPdu).enbUeS1apId?) : enbUeS1apId = enb := by
  unfold nasRequest at hmem
  split at hmem
  · exact (Option.some.inj hmem).symm
  · exact (Option.some.inj hmem).symm
  · exact (Option.some.inj hmem).symm
  · cases hmem

/-- A request names the RAN-side id of its message. -/
theorem enbUeS1apId?_request {mme : Mme} {rand : Octets 16} {msg : S1apMessage}
    {enbUeS1apId : UInt32}
    (hmem : enbUeS1apId ∈ (request P mme (.s1ap rand msg)).enbUeS1apId?) :
    enbUeS1apId ∈ msg.enbUeS1apId? := by
  cases msg with
  | initialUeMessage m =>
      simp only [request] at hmem
      split at hmem
      · cases hmem
      · exact hmem
  | uplinkNasTransport m =>
      simp only [request] at hmem
      split at hmem
      · cases hmem
      · rw [enbUeS1apId?_nasRequest hmem]
        rfl
  | _ => cases hmem

/-- The request of an arrival names a RAN-side id that can be encoded. -/
theorem enbUeS1apId?_le_of_arrived {mme : Mme} {input : Input} (harrived : Arrived input) :
    ∀ enbUeS1apId ∈ (request P mme input).enbUeS1apId?, enbUeS1apId.toNat ≤ enbUeS1apIdMax := by
  intro enbUeS1apId hmem
  obtain ⟨arrival, hinput⟩ := harrived
  cases arrival with
  | hssMut hss =>
      cases hinput
      cases hmem
  | message rand octets =>
      simp only [Arrival.input?] at hinput
      split at hinput
      next msg hdecode =>
        cases hinput
        exact enbUeS1apId?_le hdecode enbUeS1apId (enbUeS1apId?_request P hmem)
      next => cases hinput

/-! ## Responses -/

theorem length_attachAcceptPlain (ueIp : Octets 4) : (attachAcceptPlain ueIp).length = 12 := by
  simp [attachAcceptPlain, encodeAttachAccept, writeLv, writeTlv]

section Responses

variable {P} {mme : Mme} {enbUeS1apId : UInt32} (henb : enbUeS1apId.toNat ≤ enbUeS1apIdMax)
include henb

theorem roundTrips_verifyResponse (e : EntityId) (res : Octets 8) :
    ∀ resp ∈ (verifyResponse mme enbUeS1apId e res).2.1, resp.RoundTrips := by
  intro resp hmem
  unfold verifyResponse at hmem
  split at hmem
  · cases hmem
  · simp only at hmem
    split at hmem
    · obtain rfl := List.mem_singleton.mp hmem
      apply roundTrips_downlinkNasTransport e henb
      rw [length_encodeSecModeCmd]
      decide
    · cases hmem

theorem roundTrips_handleSecurityModeComplete (e : EntityId) :
    ∀ resp ∈ (handleSecurityModeComplete P mme enbUeS1apId e).2.1, resp.RoundTrips := by
  intro resp hmem
  unfold handleSecurityModeComplete at hmem
  split at hmem
  · simp only at hmem
    have hshort (ctx : NasSecurityContext) (ueIp : Octets 4) :
        (encodeProtected P ctx shtIntegrityCiphered nasBearer
          (attachAcceptPlain ueIp)).1.length < 128 := by
      rw [length_encodeProtected, length_attachAcceptPlain]
      decide
    have hbearer : (5 : UInt8).toNat ≤ erabIdMax := by decide
    split at hmem
    · obtain rfl := List.mem_singleton.mp hmem
      exact roundTrips_initialContextSetupRequest e henb hbearer (hshort _ _)
        ⟨by decide, by decide⟩ _
    · obtain rfl := List.mem_singleton.mp hmem
      exact roundTrips_downlinkNasTransport e henb (hshort _ _)
  · cases hmem

theorem roundTrips_acceptDetach (e : EntityId) (switchOff : Bool) :
    ∀ resp ∈ (acceptDetach P mme enbUeS1apId e switchOff).2, resp.RoundTrips := by
  have hrelease := roundTrips_ueContextReleaseCommand e henb .nasDetach
  have hplain : encodeDetachAccept.length = 2 := rfl
  unfold acceptDetach
  simp only
  split
  · split
    · exact List.forall_mem_singleton.mpr hrelease
    · split
      · refine List.forall_mem_cons.mpr
          ⟨roundTrips_downlinkNasTransport e henb ?_, List.forall_mem_singleton.mpr hrelease⟩
        rw [length_encodeProtected, hplain]
        decide
      · exact List.forall_mem_cons.mpr
          ⟨roundTrips_downlinkNasTransport e henb (by decide),
            List.forall_mem_singleton.mpr hrelease⟩
  · exact List.forall_mem_nil _

end Responses

/-- Every response to a request that names a short enough id is encoded and decoded to itself. -/
theorem roundTrips_perform (mme : Mme) {r : Request}
    (henb : ∀ enbUeS1apId ∈ r.enbUeS1apId?, enbUeS1apId.toNat ≤ enbUeS1apIdMax) :
    ∀ resp ∈ (perform P mme r).2.1, resp.RoundTrips := by
  cases r with
  | challenge enb plmn imsi authInfo hss =>
      refine List.forall_mem_singleton.mpr
        (roundTrips_downlinkNasTransport _ (henb enb rfl) ?_)
      rw [length_encodeAuthRequest]
      decide
  | authResponse e enb res => exact roundTrips_verifyResponse (henb enb rfl) e res
  | securityModeComplete e enb => exact roundTrips_handleSecurityModeComplete (henb enb rfl) e
  | detach e enb switchOff => exact roundTrips_acceptDetach (henb enb rfl) e switchOff
  | contextSetup resp =>
      intro _ hmem
      simp only [perform, handleIcsrsp] at hmem
      split at hmem
      · cases hmem
      · split at hmem <;> cases hmem
  | release msg =>
      intro _ hmem
      simp only [perform, handleReleaseComplete] at hmem
      split at hmem <;> cases hmem
  | hssMut hss => exact List.forall_mem_nil _
  | ignored => exact List.forall_mem_nil _

/-- The response of a step on an arrival is encoded and decoded to itself. -/
theorem roundTrips_step (mme : Mme) {input : Input} (harrived : Arrived input) :
    ∀ resp ∈ (step P mme input).2.1, resp.RoundTrips := by
  rw [step_eq_perform]
  exact roundTrips_perform P _ (enbUeS1apId?_le_of_arrived P harrived)

/-- In every run on what arrives, every response is encoded and decoded to itself. -/
theorem roundTrips_run (phase3Upf : Option (Octets 4)) (arrivals : List Arrival) :
    ∀ t ∈ Mealy.run (step P) (Mme.new phase3Upf) (arrivals.filterMap Arrival.input?),
      ∀ resp ∈ t.output.1, resp.RoundTrips := by
  apply Mealy.forall_mem_run Arrived fun output : Output => ∀ resp ∈ output.1, resp.RoundTrips
  · exact fun mme _ harrived => roundTrips_step P mme harrived
  · intro input hmem
    obtain ⟨arrival, _, hinput⟩ := List.mem_filterMap.mp hmem
    exact ⟨arrival, hinput⟩

end Midn.Core.Mme
