import Midn.Core.Mme.StateMachine

/-!
# What a step asks of the MME

A step first takes the NAS PDU out of its envelope and then performs one request. Every request
rewrites at most one entity and delivers at most one NAS PDU, to that entity; both are functions
of the components the entity holds. All laws about runs are derived from this description.
-/

namespace Midn.Core.Mme

open Ecs Nas S1ap

variable (P : Primitives)

/-- What is asked of the MME by an input whose NAS PDU has been opened and decoded. -/
inductive Request where
  | challenge (enbUeS1apId : UInt32) (plmn : Octets 3) (imsi : UInt64) (authInfo : HssAuthInfo)
      (hss : Hss)
  | authResponse (entity : EntityId) (enbUeS1apId : UInt32) (res : Octets 8)
  | securityModeComplete (entity : EntityId) (enbUeS1apId : UInt32)
  | detach (entity : EntityId) (enbUeS1apId : UInt32) (switchOff : Bool)
  | contextSetup (resp : InitialContextSetupResponse)
  | release (msg : UeContextReleaseComplete)
  | hssMut (hss : Hss)
  | ignored

/-- The request of a plain uplink PDU. -/
def nasRequest (enbUeS1apId mmeUeS1apId : UInt32) (plainPdu : List UInt8) : Request :=
  match decodeNas plainPdu with
  | .ok (.authenticationResponse inner) => .authResponse mmeUeS1apId enbUeS1apId inner.res
  | .ok .securityModeComplete => .securityModeComplete mmeUeS1apId enbUeS1apId
  | .ok (.detachRequest d) => .detach mmeUeS1apId enbUeS1apId d.switchOff
  | _ => .ignored

/-- The request an input makes in a state. -/
def request (mme : Mme) : Input → Request
  | .s1ap rand (.initialUeMessage m) =>
      match attachVector P mme.hss m.nasPdu rand with
      | none => .ignored
      | some (imsi, authInfo, hss) =>
          .challenge m.enbUeS1apId (m.tai.slice 0 3 plmn_in_tai) imsi authInfo hss
  | .s1ap _ (.uplinkNasTransport m) =>
      match (openUplink P mme m.mmeUeS1apId m.nasPdu).1 with
      | none => .ignored
      | some plainPdu => nasRequest m.enbUeS1apId m.mmeUeS1apId plainPdu
  | .s1ap _ (.initialContextSetupResponse m) => .contextSetup m
  | .s1ap _ (.ueContextReleaseComplete m) => .release m
  | .s1ap _ _ => .ignored
  | .hssMut hss => .hssMut hss

/-- The state in which the request is performed: an accepted envelope has advanced a COUNT. -/
def opened (mme : Mme) : Input → Mme
  | .s1ap _ (.uplinkNasTransport m) => (openUplink P mme m.mmeUeS1apId m.nasPdu).2
  | _ => mme

def perform (mme : Mme) : Request → Mme × Output
  | .challenge enbUeS1apId plmn imsi authInfo hss =>
      issueChallenge mme enbUeS1apId plmn imsi authInfo hss
  | .authResponse entity enbUeS1apId res => verifyResponse mme enbUeS1apId entity res
  | .securityModeComplete entity enbUeS1apId =>
      handleSecurityModeComplete P mme enbUeS1apId entity
  | .detach entity enbUeS1apId switchOff =>
      let (mme, responses) := acceptDetach P mme enbUeS1apId entity switchOff
      (mme, responses, [])
  | .contextSetup resp => handleIcsrsp mme resp
  | .release msg => handleReleaseComplete mme msg
  | .hssMut hss => ({ mme with hss := hss }, silent)
  | .ignored => (mme, silent)

theorem dispatchNas_eq_perform (mme : Mme) (enbUeS1apId mmeUeS1apId : UInt32)
    (plainPdu : List UInt8) :
    dispatchNas P mme enbUeS1apId mmeUeS1apId plainPdu =
      perform P mme (nasRequest enbUeS1apId mmeUeS1apId plainPdu) := by
  unfold dispatchNas nasRequest
  cases hdecode : decodeNas plainPdu with
  | error err => rfl
  | ok pdu =>
      cases pdu with
      | authenticationResponse inner => simp only [handleAuthResponse, hdecode, perform]
      | detachRequest d => simp only [handleDetachRequest, hdecode, perform]
      | _ => rfl

/-- Every step is the opening of the envelope followed by one request. -/
theorem step_eq_perform (mme : Mme) (input : Input) :
    step P mme input = perform P (opened P mme input) (request P mme input) := by
  cases input with
  | hssMut hss => rfl
  | s1ap rand msg =>
      cases msg with
      | initialUeMessage m =>
          simp only [step, processS1ap, startAttach, opened, request]
          cases attachVector P mme.hss m.nasPdu rand <;> rfl
      | uplinkNasTransport m =>
          simp only [step, processS1ap, handleUplinkNas, opened, request]
          split
          next mme' hopen => simp only [hopen, perform]
          next plainPdu mme' hopen => simp only [hopen, dispatchNas_eq_perform]
      | _ => rfl

/-! ## Opening an envelope -/

/-- What opening the envelope of an input does to the context of an entity. -/
def reopenContext (input : Input) (e : EntityId) (ctx : NasSecurityContext) :
    NasSecurityContext :=
  match input with
  | .s1ap _ (.uplinkNasTransport m) =>
      if m.mmeUeS1apId = e ∧ securityHeaderType m.nasPdu ≠ shtPlain then
        (decodeProtected P ctx m.nasPdu nasBearer).2
      else ctx
  | _ => ctx

def reopen (input : Input) (e : EntityId) (n : Entity) : Entity :=
  { n with nasSecurity := n.nasSecurity.map (reopenContext P input e) }

theorem reopenContext_sameKeys (input : Input) (e : EntityId) (ctx : NasSecurityContext) :
    ctx.SameKeys (reopenContext P input e ctx) := by
  unfold reopenContext
  split
  · split
    · exact (decodeProtected_ctx P ctx _ _).1
    · exact .refl ctx
  · exact .refl ctx

theorem reopenContext_dlCount (input : Input) (e : EntityId) (ctx : NasSecurityContext) :
    (reopenContext P input e ctx).dlCount = ctx.dlCount := by
  unfold reopenContext
  split
  · split
    · exact (decodeProtected_ctx P ctx _ _).2
    · rfl
  · rfl

end Midn.Core.Mme
