import Midn.Core.Amf.StateMachine

/-!
# What a step asks of the AMF

A step first takes the NAS PDU out of its envelope and then performs one request. Every request
rewrites at most one entity and delivers at most one NAS PDU, to that entity; both are functions
of the components the entity holds. All laws about runs are derived from this description.
-/

namespace Midn.Core.Amf

open Ecs Nas5gs Ngap

variable (P : Primitives)

/-- What is asked of the AMF by an input whose NAS PDU has been opened and decoded. -/
inductive Request where
  | register (ranUeNgapId : UInt32) (plmn : Octets 3)
  | challenge (entity : EntityId) (ranUeNgapId : UInt32) (imsi : UInt64) (authInfo : HssAuthInfo)
      (hss : Hss)
  | authResponse (entity : EntityId) (ranUeNgapId : UInt32) (resStar : Octets 16)
  | securityModeComplete (entity : EntityId) (ranUeNgapId : UInt32)
  | deregister (entity : EntityId) (ranUeNgapId : UInt32) (switchOff : Bool)
  | contextSetup (resp : NgapInitialContextSetupResponse)
  | release (msg : NgapUeContextReleaseComplete)
  | hssMut (hss : Hss)
  | ignored

/-- The request of a plain initial PDU. -/
def initialRequest (ranUeNgapId : UInt32) (plmn : Octets 3) (nasPdu : List UInt8) : Request :=
  match decodeNas5gs nasPdu with
  | .ok (.registrationRequest inner) =>
      match inner.guti with
      | some _ => .ignored
      | none => .register ranUeNgapId plmn
  | _ => .ignored

/-- The request of a plain uplink PDU. -/
def nasRequest (hss : Hss) (rand : Octets 16) (ranUeNgapId amfUeNgapId : UInt32)
    (plainPdu : List UInt8) : Request :=
  match decodeNas5gs plainPdu with
  | .ok (.identityResponse _) =>
      match identityVector P hss plainPdu rand with
      | none => .ignored
      | some (imsi, authInfo, hss) => .challenge amfUeNgapId ranUeNgapId imsi authInfo hss
  | .ok (.authenticationResponse inner) => .authResponse amfUeNgapId ranUeNgapId inner.resStar
  | .ok .securityModeComplete => .securityModeComplete amfUeNgapId ranUeNgapId
  | .ok (.deregistrationRequest switchOff) => .deregister amfUeNgapId ranUeNgapId switchOff
  | _ => .ignored

/-- The request an input makes in a state. -/
def request (amf : Amf) : Input → Request
  | .ngap _ (.initialUeMessage m) =>
      initialRequest m.ranUeNgapId (m.tai.slice 0 3 plmn_in_tai) m.nasPdu
  | .ngap rand (.uplinkNasTransport m) =>
      match (openUplink P amf m.amfUeNgapId m.nasPdu).1 with
      | none => .ignored
      | some plainPdu => nasRequest P amf.hss rand m.ranUeNgapId m.amfUeNgapId plainPdu
  | .ngap _ (.initialContextSetupResponse m) => .contextSetup m
  | .ngap _ (.ueContextReleaseComplete m) => .release m
  | .ngap _ _ => .ignored
  | .hssMut hss => .hssMut hss

/-- The state in which the request is performed: an accepted envelope has advanced a COUNT. -/
def opened (amf : Amf) : Input → Amf
  | .ngap _ (.uplinkNasTransport m) => (openUplink P amf m.amfUeNgapId m.nasPdu).2
  | _ => amf

def perform (amf : Amf) : Request → Amf × Output
  | .register ranUeNgapId plmn => requestIdentity amf ranUeNgapId plmn
  | .challenge entity ranUeNgapId imsi authInfo hss =>
      issueChallenge P amf ranUeNgapId entity imsi authInfo hss
  | .authResponse entity ranUeNgapId resStar => verifyResponse amf ranUeNgapId entity resStar
  | .securityModeComplete entity ranUeNgapId =>
      handleSecurityModeComplete P amf ranUeNgapId entity
  | .deregister entity ranUeNgapId switchOff =>
      let (amf, responses) := acceptDeregistration P amf ranUeNgapId entity switchOff
      (amf, responses, [])
  | .contextSetup resp => handleIcsResponse amf resp
  | .release msg => handleReleaseComplete amf msg
  | .hssMut hss => ({ amf with hss := hss }, silent)
  | .ignored => (amf, silent)

theorem startRegistration_eq_perform (amf : Amf) (ranUeNgapId : UInt32) (nasPdu : List UInt8)
    (tai : Octets 6) :
    startRegistration amf ranUeNgapId nasPdu tai =
      perform P amf (initialRequest ranUeNgapId (tai.slice 0 3 plmn_in_tai) nasPdu) := by
  unfold startRegistration initialRequest
  cases decodeNas5gs nasPdu with
  | error err => rfl
  | ok pdu =>
      cases pdu with
      | registrationRequest inner =>
          simp only
          cases inner.guti <;> rfl
      | _ => rfl

theorem dispatchNas_eq_perform (amf : Amf) (rand : Octets 16) (ranUeNgapId amfUeNgapId : UInt32)
    (plainPdu : List UInt8) :
    dispatchNas P amf rand ranUeNgapId amfUeNgapId plainPdu =
      perform P amf (nasRequest P amf.hss rand ranUeNgapId amfUeNgapId plainPdu) := by
  unfold dispatchNas nasRequest
  cases hdecode : decodeNas5gs plainPdu with
  | error err => rfl
  | ok pdu =>
      cases pdu with
      | identityResponse inner =>
          simp only [handleIdentityResponse]
          cases identityVector P amf.hss plainPdu rand <;> rfl
      | authenticationResponse inner => simp only [handleAuthResponse, hdecode, perform]
      | deregistrationRequest switchOff =>
          simp only [handleDeregistrationRequest, hdecode, perform]
      | _ => rfl

/-- Opening an envelope does not touch the subscriber database. -/
@[simp] theorem openUplink_hss (amf : Amf) (amfUeNgapId : UInt32) (nasPdu : List UInt8) :
    (openUplink P amf amfUeNgapId nasPdu).2.hss = amf.hss := by
  unfold openUplink
  split
  · rfl
  · split <;> rfl

@[simp] theorem openUplink_registry (amf : Amf) (amfUeNgapId : UInt32) (nasPdu : List UInt8) :
    (openUplink P amf amfUeNgapId nasPdu).2.registry = amf.registry := by
  unfold openUplink
  split
  · rfl
  · split <;> rfl

/-- Every step is the opening of the envelope followed by one request. -/
theorem step_eq_perform (amf : Amf) (input : Input) :
    step P amf input = perform P (opened P amf input) (request P amf input) := by
  cases input with
  | hssMut hss => rfl
  | ngap rand msg =>
      cases msg with
      | initialUeMessage m =>
          simp only [step, processNgap, opened, request]
          exact startRegistration_eq_perform P ..
      | uplinkNasTransport m =>
          have hhss := openUplink_hss P amf m.amfUeNgapId m.nasPdu
          simp only [step, processNgap, handleUplinkNas, opened, request]
          split
          next amf' hopen => simp only [hopen, perform]
          next plainPdu amf' hopen =>
            rw [hopen] at hhss
            simp only [hopen, dispatchNas_eq_perform, ← hhss]
      | _ => rfl

/-! ## Opening an envelope -/

/-- What opening the envelope of an input does to the context of an entity. -/
def reopenContext (input : Input) (e : EntityId) (ctx : Nas5gsSecurityContext) :
    Nas5gsSecurityContext :=
  match input with
  | .ngap _ (.uplinkNasTransport m) =>
      if m.amfUeNgapId = e ∧ securityHeaderType m.nasPdu ≠ nas5gsShtPlain then
        (decodeProtected P ctx m.nasPdu).2
      else ctx
  | _ => ctx

def reopen (input : Input) (e : EntityId) (n : Entity) : Entity :=
  { n with nasSecurity5g := n.nasSecurity5g.map (reopenContext P input e) }

theorem reopenContext_sameKeys (input : Input) (e : EntityId) (ctx : Nas5gsSecurityContext) :
    ctx.SameKeys (reopenContext P input e ctx) := by
  unfold reopenContext
  split
  · split
    · exact (decodeProtected_ctx P ctx _).1
    · exact .refl ctx
  · exact .refl ctx

theorem reopenContext_dlCount (input : Input) (e : EntityId) (ctx : Nas5gsSecurityContext) :
    (reopenContext P input e ctx).dlCount = ctx.dlCount := by
  unfold reopenContext
  split
  · split
    · exact (decodeProtected_ctx P ctx _).2
    · rfl
  · rfl

end Midn.Core.Amf
