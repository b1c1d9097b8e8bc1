import Midn.Core.Amf.Request

/-!
# The AMF seen by one subscriber

The effect of a request on the entity it targets, as a function of the components of that entity,
and the NAS PDU it delivers there. Other entities are left alone and receive nothing.
-/

namespace Midn.Core.Amf

open Ecs Nas5gs Ngap

variable (P : Primitives)

/-! ## Effect on the components -/

def registering (ranUeNgapId : UInt32) (plmn : Octets 3) (n : Entity) : Entity :=
  { n with
    identity := ⟨0, ranUeNgapId, Octets.zeros 4⟩
    security5g := { Nas5gsAkaContext.newEmpty with plmn := plmn } }

def challenged (ranUeNgapId : UInt32) (imsi : UInt64) (authInfo : HssAuthInfo) (n : Entity) :
    Entity :=
  { n with
    identity := ⟨imsi, ranUeNgapId, Octets.zeros 4⟩
    security5g := challengeContext P authInfo n.security5g.plmn
    auth := .challengeIssued }

def answered (resStar : Octets 16) (n : Entity) : Entity :=
  { n with
    security5g := n.security5g.clearPendingChallenge
    auth :=
      if n.security5g.pendingXresStar = resStar then .authenticated
      else .failed .resMismatch }

/-- The context a SecurityModeComplete installs, before its first use. -/
def initialContext (n : Entity) : Nas5gsSecurityContext :=
  .new P (kamfOf P n.identity.imsi n.security5g) selectedNasCipherAlg selectedNasIntegrityAlg

/-- The protected RegistrationAccept and the context after it. -/
def registrationAcceptOf (e : EntityId) (n : Entity) : List UInt8 × Nas5gsSecurityContext :=
  encodeProtected P (initialContext P n) nas5gsShtIntegrityCiphered (registrationAcceptPlain e)

def secured (amf : Amf) (e : EntityId) (n : Entity) : Entity :=
  { n with
    security5g := n.security5g.clearPostKamf
    nasSecurity5g := some (registrationAcceptOf P e n).2
    tunnel :=
      match amf.phaseBUpf with
      | some _ => some ⟨amf.teidAllocator.alloc.1, 0, Octets.zeros 4⟩
      | none => n.tunnel }

/-- The DeregistrationAccept, under the NAS security of the entity if it has any. -/
def deregistrationAcceptOf (n : Entity) : List UInt8 :=
  match n.nasSecurity5g with
  | some ctx => (encodeProtected P ctx nas5gsShtIntegrityCiphered encodeDeregistrationAccept).1
  | none => encodeDeregistrationAccept

def deregistering (switchOff : Bool) (n : Entity) : Entity :=
  if switchOff then n
  else
    { n with
      nasSecurity5g := n.nasSecurity5g.map fun ctx =>
        (encodeProtected P ctx nas5gsShtIntegrityCiphered encodeDeregistrationAccept).2 }

def connected (resp : NgapInitialContextSetupResponse) (n : Entity) : Entity :=
  match resp.pduSessionsSetup with
  | [] => n
  | session :: _ =>
      { n with
        tunnel := n.tunnel.map fun t =>
          ⟨t.ulTeid, UInt32.fromBeBytes session.gtpTeid, session.transportLayerAddr⟩ }

/-- The entity a request is about. -/
def Request.target (amf : Amf) : Request → Option EntityId
  | .register .. => some amf.world.spawn.1
  | .challenge entity _ _ _ _ => some entity
  | .authResponse entity _ _ => some entity
  | .securityModeComplete entity _ => some entity
  | .deregister entity _ _ => some entity
  | .contextSetup resp => some resp.amfUeNgapId
  | .release msg => some msg.amfUeNgapId
  | .hssMut _ => none
  | .ignored => none

/-- What a request makes of the components of its target. -/
def Request.rewrite (amf : Amf) : Request → Option Entity → Option Entity
  | .register ranUeNgapId plmn, n => some (registering ranUeNgapId plmn (n.getD .empty))
  | .challenge _ ranUeNgapId imsi authInfo _, n =>
      n.map (challenged P ranUeNgapId imsi authInfo)
  | .authResponse _ _ resStar, n => n.map (answered resStar)
  | .securityModeComplete e _, n => n.map (secured P amf e)
  | .deregister _ _ switchOff, n => n.map (deregistering P switchOff)
  | .contextSetup resp, n => n.map (connected resp)
  | .release _, _ => none
  | .hssMut _, n => n
  | .ignored, n => n

section Components

variable (amf : Amf)

theorem get?_requestIdentity (ranUeNgapId : UInt32) (plmn : Octets 3) :
    (requestIdentity amf ranUeNgapId plmn).1.world.get? =
      Function.update amf.world.get? amf.world.spawn.1
        (some (registering ranUeNgapId plmn
          ((amf.world.get? amf.world.spawn.1).getD .empty))) := by
  simp only [requestIdentity, World.insertSecurity5g, World.insertIdentity, World.get?_modify,
    World.get?_spawn, Function.update_self, Function.update_idem, Option.map_some, registering]

theorem get?_issueChallenge (ranUeNgapId e : UInt32) (imsi : UInt64) (authInfo : HssAuthInfo)
    (hss : Hss) :
    (issueChallenge P amf ranUeNgapId e imsi authInfo hss).1.world.get? =
      Function.update amf.world.get? e
        ((amf.world.get? e).map (challenged P ranUeNgapId imsi authInfo)) := by
  unfold issueChallenge World.security5g?
  cases hentity : amf.world.get? e with
  | none => exact (Function.update_eq_self_iff.mpr hentity.symm).symm
  | some n =>
      simp only [Option.map_some, World.setAuthState, World.insertSecurity5g,
        World.insertIdentity, World.get?_modify, hentity, Function.update_self,
        Function.update_idem, challenged]

theorem get?_verifyResponse (ranUeNgapId e : UInt32) (resStar : Octets 16) :
    (verifyResponse amf ranUeNgapId e resStar).1.world.get? =
      Function.update amf.world.get? e ((amf.world.get? e).map (answered resStar)) := by
  unfold verifyResponse World.security5g?
  cases hentity : amf.world.get? e with
  | none => exact (Function.update_eq_self_iff.mpr hentity.symm).symm
  | some n =>
      simp only [Option.map_some, answered, ctEq16_iff]
      split
      · simp only [World.setAuthState, World.modifySecurity5g, World.get?_modify, hentity,
          Function.update_self, Function.update_idem, Option.map_some]
      · simp only [World.setAuthState, World.modifySecurity5g, World.get?_modify, hentity,
          Function.update_self, Function.update_idem, Option.map_some]

theorem get?_handleSecurityModeComplete (ranUeNgapId e : UInt32) :
    (handleSecurityModeComplete P amf ranUeNgapId e).1.world.get? =
      Function.update amf.world.get? e ((amf.world.get? e).map (secured P amf e)) := by
  unfold handleSecurityModeComplete World.identity? World.security5g?
  cases hentity : amf.world.get? e with
  | none => exact (Function.update_eq_self_iff.mpr hentity.symm).symm
  | some n =>
      simp only [Option.map_some, secured]
      cases hupf : amf.phaseBUpf with
      | some upfAddr =>
          simp only [World.setTunnel, World.setNasSecurity5g, World.modifySecurity5g,
            World.get?_modify, hentity, Function.update_self, Function.update_idem,
            Option.map_some, registrationAcceptOf, initialContext]
      | none =>
          simp only [World.setNasSecurity5g, World.modifySecurity5g, World.get?_modify, hentity,
            Function.update_self, Function.update_idem, Option.map_some, registrationAcceptOf,
            initialContext]

theorem get?_acceptDeregistration (ranUeNgapId e : UInt32) (switchOff : Bool) :
    (acceptDeregistration P amf ranUeNgapId e switchOff).1.world.get? =
      Function.update amf.world.get? e
        ((amf.world.get? e).map (deregistering P switchOff)) := by
  unfold acceptDeregistration World.nasSecurity5g?
  rw [World.isLive_eq_isSome]
  cases hentity : amf.world.get? e with
  | none => exact (Function.update_eq_self_iff.mpr hentity.symm).symm
  | some n =>
      simp only [Option.isSome_some, if_true, Option.map_some, Option.bind_some, deregistering]
      cases switchOff with
      | true => exact (Function.update_eq_self_iff.mpr hentity.symm).symm
      | false =>
          cases hctx : n.nasSecurity5g with
          | none =>
              have hsame : { n with nasSecurity5g := none } = n := by rw [← hctx]
              simp only [Bool.false_eq_true, if_false, Option.map_none, hsame]
              exact (Function.update_eq_self_iff.mpr hentity.symm).symm
          | some ctx =>
              simp only [Bool.false_eq_true, if_false, World.setNasSecurity5g, World.get?_modify,
                hentity, Option.map_some]

theorem get?_handleIcsResponse (resp : NgapInitialContextSetupResponse) :
    (handleIcsResponse amf resp).1.world.get? =
      Function.update amf.world.get? resp.amfUeNgapId
        ((amf.world.get? resp.amfUeNgapId).map (connected resp)) := by
  unfold handleIcsResponse World.tunnel?
  cases hsessions : resp.pduSessionsSetup with
  | nil =>
      have hsame : connected resp = id := by
        funext n
        simp only [connected, hsessions, id]
      simp only [hsame, Option.map_id, id, Function.update_eq_self]
  | cons session rest =>
      cases hentity : amf.world.get? resp.amfUeNgapId with
      | none => exact (Function.update_eq_self_iff.mpr hentity.symm).symm
      | some n =>
          simp only [Option.bind_some, Option.map_some, connected, hsessions]
          cases htunnel : n.tunnel with
          | none =>
              have hsame : { n with tunnel := none } = n := by rw [← htunnel]
              simp only [Option.map_none, hsame]
              exact (Function.update_eq_self_iff.mpr hentity.symm).symm
          | some t =>
              simp only [World.setTunnel, World.get?_modify, hentity, Option.map_some]

theorem get?_handleReleaseComplete (msg : NgapUeContextReleaseComplete) :
    (handleReleaseComplete amf msg).1.world.get? =
      Function.update amf.world.get? msg.amfUeNgapId none := by
  simp only [handleReleaseComplete]
  split
  · exact World.get?_despawn ..
  · exact World.get?_despawn ..

/-- A request rewrites its target and nothing else. -/
theorem get?_perform (r : Request) (e : EntityId) :
    (perform P amf r).1.world.get? e =
      if r.target amf = some e then r.rewrite P amf (amf.world.get? e)
      else amf.world.get? e := by
  cases r with
  | register ran plmn =>
      simp only [perform, get?_requestIdentity, Request.target, Request.rewrite]
      exact World.update_get?_apply _ _ _ fun n => some (registering ran plmn (n.getD .empty))
  | challenge id ran imsi authInfo hss =>
      simp only [perform, get?_issueChallenge, Request.target, Request.rewrite]
      exact World.update_get?_apply _ _ _ fun n => n.map (challenged P ran imsi authInfo)
  | authResponse id ran resStar =>
      simp only [perform, get?_verifyResponse, Request.target, Request.rewrite]
      exact World.update_get?_apply _ _ _ fun n => n.map (answered resStar)
  | securityModeComplete id ran =>
      simp only [perform, get?_handleSecurityModeComplete, Request.target, Request.rewrite]
      exact World.update_get?_apply _ _ _ fun n => n.map (secured P amf id)
  | deregister id ran switchOff =>
      simp only [perform, get?_acceptDeregistration, Request.target, Request.rewrite]
      exact World.update_get?_apply _ _ _ fun n => n.map (deregistering P switchOff)
  | contextSetup resp =>
      simp only [perform, get?_handleIcsResponse, Request.target, Request.rewrite]
      exact World.update_get?_apply _ _ _ fun n => n.map (connected resp)
  | release msg =>
      simp only [perform, get?_handleReleaseComplete, Request.target, Request.rewrite]
      exact World.update_get?_apply _ _ _ fun _ => none
  | hssMut hss => rfl
  | ignored => rfl

theorem reopen_eq_id {input : Input} {e : EntityId}
    (hcontext : ∀ ctx, reopenContext P input e ctx = ctx) : reopen P input e = id := by
  funext n
  have hmap : n.nasSecurity5g.map (reopenContext P input e) = n.nasSecurity5g := by
    cases hctx : n.nasSecurity5g with
    | none => rfl
    | some ctx => rw [Option.map_some, hcontext]
  rw [reopen, hmap, id]

/-- Opening an envelope only advances the COUNT of the addressed context. -/
theorem get?_opened (input : Input) (e : EntityId) :
    (opened P amf input).world.get? e = (amf.world.get? e).map (reopen P input e) := by
  have hsame : (∀ ctx, reopenContext P input e ctx = ctx) →
      (amf.world.get? e).map (reopen P input e) = amf.world.get? e := by
    intro hcontext
    rw [reopen_eq_id P hcontext, Option.map_id, id]
  cases input with
  | hssMut hss => exact (hsame fun _ => rfl).symm
  | ngap rand msg =>
      cases msg with
      | uplinkNasTransport m =>
          simp only [opened, openUplink]
          by_cases hsht : securityHeaderType m.nasPdu = nas5gsShtPlain
          · rw [if_pos hsht, hsame fun ctx => by simp [reopenContext, hsht]]
          · rw [if_neg hsht]
            rcases eq_or_ne m.amfUeNgapId e with rfl | hne
            · cases hentity : amf.world.get? m.amfUeNgapId with
              | none =>
                  simp only [World.nasSecurity5g?, hentity, Option.bind_none, Option.map_none]
              | some n =>
                  simp only [World.nasSecurity5g?, hentity, Option.bind_some, Option.map_some,
                    reopen]
                  cases hctx : n.nasSecurity5g with
                  | none =>
                      have hsame : { n with nasSecurity5g := none } = n := by rw [← hctx]
                      simp only [hentity, Option.map_none, hsame]
                  | some ctx =>
                      simp only [World.setNasSecurity5g, World.get?_modify, hentity,
                        Option.map_some, Function.update_self, reopenContext, hsht, ne_eq,
                        not_false_eq_true, and_self, if_true]
            · rw [hsame fun ctx => by simp [reopenContext, hne]]
              split
              · rfl
              · simp only [World.setNasSecurity5g, World.get?_modify]
                exact Function.update_of_ne hne.symm ..
      | _ => exact (hsame fun _ => rfl).symm

/-- The components of an entity after a step. -/
theorem get?_step (input : Input) (e : EntityId) :
    (step P amf input).1.world.get? e =
      if (request P amf input).target (opened P amf input) = some e then
        (request P amf input).rewrite P (opened P amf input)
          ((amf.world.get? e).map (reopen P input e))
      else (amf.world.get? e).map (reopen P input e) := by
  rw [step_eq_perform, get?_perform, get?_opened]

end Components

/-! ## Delivered NAS PDUs -/

/-- The NAS PDU a request delivers to its target, given the components the target holds. -/
def Request.nas : Request → Option Entity → Option (List UInt8)
  | .register _ _, _ => some (encodeIdentityRequest idtypeSuci)
  | .challenge _ _ _ authInfo _, some _ =>
      some (encodeAuthRequest 0 authInfo.rand
        (authInfo.vector.autn authInfo.sqnUsed milenageAmfField))
  | .authResponse _ _ resStar, some n =>
      if n.security5g.pendingXresStar = resStar then
        some (encodeSecModeCmd selectedNasCipherAlg selectedNasIntegrityAlg 0x2040)
      else none
  | .securityModeComplete e _, some n => some (registrationAcceptOf P e n).1
  | .deregister _ _ switchOff, some n =>
      if switchOff then none else some (deregistrationAcceptOf P n)
  | _, _ => none

/-- The NAS PDUs an output delivers to an entity. -/
def nasTo (e : EntityId) (output : Output) : List (List UInt8) :=
  output.1.filterMap (NgapMessage.nasFor e)

variable (amf : Amf)

theorem nasTo_singleton (e : EntityId) (msg : NgapMessage) (events : List N3Event) :
    nasTo e ([msg], events) = (msg.nasFor e).toList := by
  cases hnas : msg.nasFor e <;> simp [nasTo, hnas]

/-- A request delivers at most one NAS PDU, and that to its target. -/
theorem nasTo_perform (r : Request) (e : EntityId) :
    nasTo e (perform P amf r).2 =
      if r.target amf = some e then (r.nas P (amf.world.get? e)).toList else [] := by
  cases r with
  | register ran plmn =>
      simp only [perform, requestIdentity, nasTo_singleton, NgapMessage.nasFor, Request.target,
        Request.nas, Option.some.injEq]
      split <;> rfl
  | challenge id ran imsi authInfo hss =>
      simp only [perform, issueChallenge, World.security5g?, Request.target, Option.some.injEq]
      rcases eq_or_ne id e with rfl | hne
      · cases hentity : amf.world.get? id with
        | none => simp [Request.nas, nasTo, silent]
        | some n => simp only [Option.map_some, Request.nas, if_true, nasTo_singleton,
            NgapMessage.nasFor, milenageAmf_eq]
      · simp only [hne, if_false]
        split
        · rfl
        · simp only [nasTo_singleton, NgapMessage.nasFor, hne, if_false, Option.toList_none]
  | authResponse id ran resStar =>
      simp only [perform, verifyResponse, World.security5g?, Request.target, Option.some.injEq,
        ctEq16_iff]
      rcases eq_or_ne id e with rfl | hne
      · cases hentity : amf.world.get? id with
        | none => simp [Request.nas, nasTo, silent]
        | some n =>
            simp only [Option.map_some, Request.nas, if_true]
            split
            · simp only [nasTo_singleton, NgapMessage.nasFor, if_true]
            · rfl
      · simp only [hne, if_false]
        split
        · rfl
        · split
          · simp only [nasTo_singleton, NgapMessage.nasFor, hne, if_false, Option.toList_none]
          · rfl
  | securityModeComplete id ran =>
      simp only [perform, handleSecurityModeComplete, World.identity?, World.security5g?,
        Request.target, Option.some.injEq]
      rcases eq_or_ne id e with rfl | hne
      · cases hentity : amf.world.get? id with
        | none => simp [Request.nas, nasTo, silent]
        | some n =>
            simp only [Option.map_some, Request.nas, if_true]
            cases amf.phaseBUpf with
            | none => simp only [nasTo_singleton, NgapMessage.nasFor, if_true,
                registrationAcceptOf, initialContext]
            | some upfAddr => simp only [nasTo_singleton, NgapMessage.nasFor, if_true,
                registrationAcceptOf, initialContext]
      · simp only [hne, if_false]
        split
        · split
          · simp only [nasTo_singleton, NgapMessage.nasFor, hne, if_false, Option.toList_none]
          · simp only [nasTo_singleton, NgapMessage.nasFor, hne, if_false, Option.toList_none]
        · rfl
  | deregister id ran switchOff =>
      simp only [perform, acceptDeregistration, World.isLive_eq_isSome, World.nasSecurity5g?,
        Request.target, Option.some.injEq]
      rcases eq_or_ne id e with rfl | hne
      · cases hentity : amf.world.get? id with
        | none => simp [Request.nas, nasTo]
        | some n =>
            cases switchOff with
            | true => simp [Request.nas, nasTo, NgapMessage.nasFor]
            | false =>
                cases hctx : n.nasSecurity5g <;>
                  simp [Request.nas, nasTo, NgapMessage.nasFor, deregistrationAcceptOf, hctx]
      · simp only [hne, if_false]
        split
        · split
          · simp [nasTo, NgapMessage.nasFor]
          · split <;> simp [nasTo, NgapMessage.nasFor, hne]
        · rfl
  | contextSetup resp =>
      simp only [perform, handleIcsResponse, Request.nas, Option.toList_none, ite_self]
      split
      · rfl
      · split <;> rfl
  | release msg =>
      simp only [perform, handleReleaseComplete, Request.nas, Option.toList_none, ite_self]
      split <;> rfl
  | hssMut hss => simp [perform, Request.target, nasTo, silent]
  | ignored => simp [perform, Request.target, nasTo, silent]

/-- The NAS PDUs of a step are those of its request. -/
theorem nasTo_step (input : Input) (e : EntityId) :
    nasTo e (step P amf input).2 =
      if (request P amf input).target (opened P amf input) = some e then
        ((request P amf input).nas P ((amf.world.get? e).map (reopen P input e))).toList
      else [] := by
  rw [step_eq_perform, nasTo_perform, get?_opened]

/-! ## The NAS security context -/

/-- What a step does to the NAS security context of an entity, and what it sends under it: the
context is kept up to the COUNT an opened envelope advances, installed by a SecurityModeComplete,
used by a DeregistrationAccept, or dropped by a release. -/
inductive ContextStep (input : Input) (e : EntityId) : Prop
  | kept
      (hpost : (step P amf input).1.world.nasSecurity5g? e =
        (amf.world.nasSecurity5g? e).map (reopenContext P input e))
      (hplain : ∀ pdu ∈ nasTo e (step P amf input).2, decodeEnvelope pdu = none)
  | installed (ran : UInt32) (n : Entity)
      (hrequest : request P amf input = .securityModeComplete e ran)
      (hn : amf.world.get? e = some n)
      (hpost : (step P amf input).1.world.nasSecurity5g? e = some (registrationAcceptOf P e n).2)
      (hnas : nasTo e (step P amf input).2 = [(registrationAcceptOf P e n).1])
  | used (ctx : Nas5gsSecurityContext) (hctx : amf.world.nasSecurity5g? e = some ctx)
      (hpost : (step P amf input).1.world.nasSecurity5g? e =
        some (encodeProtected P (reopenContext P input e ctx) nas5gsShtIntegrityCiphered
          encodeDeregistrationAccept).2)
      (hnas : nasTo e (step P amf input).2 =
        [(encodeProtected P (reopenContext P input e ctx) nas5gsShtIntegrityCiphered
          encodeDeregistrationAccept).1])
  | dropped (hpost : (step P amf input).1.world.get? e = none)
      (hnas : nasTo e (step P amf input).2 = [])

/-- Every step is accounted for. -/
theorem contextStep (input : Input) (e : EntityId) : ContextStep P amf input e := by
  have hpost := get?_step P amf input e
  have hnas := nasTo_step P amf input e
  by_cases htarget : (request P amf input).target (opened P amf input) = some e
  · rw [if_pos htarget] at hpost hnas
    cases hrequest : request P amf input with
    | register ran plmn =>
        rw [hrequest] at hpost hnas
        refine .kept ?_ ?_
        · rw [World.nasSecurity5g?, hpost, World.nasSecurity5g?]
          cases amf.world.get? e <;> rfl
        · rw [hnas]
          intro pdu hmem
          rw [List.mem_singleton.mp hmem]
          exact decodeEnvelope_plainHeader _
    | challenge id ran imsi authInfo hss =>
        rw [hrequest] at hpost hnas
        refine .kept ?_ ?_
        · rw [World.nasSecurity5g?, hpost, World.nasSecurity5g?]
          cases amf.world.get? e <;> rfl
        · rw [hnas]
          intro pdu hmem
          cases hentity : amf.world.get? e with
          | none => simp [hentity, Request.nas] at hmem
          | some n =>
              rw [hentity] at hmem
              rw [List.mem_singleton.mp hmem]
              exact decodeEnvelope_plainHeader _
    | authResponse id ran resStar =>
        rw [hrequest] at hpost hnas
        refine .kept ?_ ?_
        · rw [World.nasSecurity5g?, hpost, World.nasSecurity5g?]
          cases amf.world.get? e <;> rfl
        · rw [hnas]
          intro pdu hmem
          cases hentity : amf.world.get? e with
          | none => simp [hentity, Request.nas] at hmem
          | some n =>
              simp only [hentity, Option.map_some, Request.nas] at hmem
              split at hmem
              · rw [List.mem_singleton.mp hmem]
                exact decodeEnvelope_plainHeader _
              · cases hmem
    | securityModeComplete id ran =>
        rw [hrequest] at hpost hnas htarget
        cases htarget
        cases hentity : amf.world.get? e with
        | none =>
            rw [hentity] at hpost hnas
            exact .dropped hpost hnas
        | some n =>
            rw [hentity] at hpost hnas
            exact .installed ran n hrequest hentity
              (congrArg (Option.bind · Entity.nasSecurity5g) hpost) hnas
    | deregister id ran switchOff =>
        rw [hrequest] at hpost hnas
        cases hentity : amf.world.get? e with
        | none =>
            rw [hentity] at hpost hnas
            exact .dropped hpost hnas
        | some n =>
            rw [hentity] at hpost hnas
            cases switchOff with
            | true =>
                refine .kept ?_ ?_
                · rw [World.nasSecurity5g?, hpost, World.nasSecurity5g?, hentity]
                  rfl
                · rw [hnas]
                  exact fun pdu hmem => absurd hmem List.not_mem_nil
            | false =>
                -- the accept is protected if there is a context, and then the context moves on
                cases hctx : n.nasSecurity5g with
                | none =>
                    have hplain : (reopen P input e n).nasSecurity5g = none := by
                      rw [reopen, hctx, Option.map_none]
                    refine .kept ?_ ?_
                    · rw [World.nasSecurity5g?, hpost, World.nasSecurity5g?, hentity]
                      simp [Request.rewrite, deregistering, hplain, hctx]
                    · rw [hnas]
                      simp only [Request.nas, Option.map_some, Bool.false_eq_true, if_false,
                        deregistrationAcceptOf, hplain]
                      intro pdu hmem
                      rw [List.mem_singleton.mp hmem]
                      exact decodeEnvelope_plainHeader _
                | some ctx =>
                    have hopened : (reopen P input e n).nasSecurity5g =
                        some (reopenContext P input e ctx) := by
                      rw [reopen, hctx, Option.map_some]
                    refine .used ctx (by rw [World.nasSecurity5g?, hentity]; exact hctx) ?_ ?_
                    · rw [World.nasSecurity5g?, hpost]
                      simp [Request.rewrite, deregistering, hopened]
                    · rw [hnas]
                      simp [Request.nas, deregistrationAcceptOf, hopened]
    | contextSetup resp =>
        rw [hrequest] at hpost hnas
        refine .kept ?_ ?_
        · rw [World.nasSecurity5g?, hpost, World.nasSecurity5g?]
          cases amf.world.get? e with
          | none => rfl
          | some n =>
              simp only [Request.rewrite, Option.map_some, Option.bind_some, connected]
              split <;> rfl
        · rw [hnas]
          exact fun pdu hmem => absurd hmem List.not_mem_nil
    | release msg =>
        rw [hrequest] at hpost hnas
        exact .dropped hpost hnas
    | hssMut hss =>
        rw [hrequest] at htarget
        cases htarget
    | ignored =>
        rw [hrequest] at htarget
        cases htarget
  · rw [if_neg htarget] at hpost hnas
    -- nothing is asked of this entity, but its context may have opened an envelope
    refine .kept ?_ ?_
    · rw [World.nasSecurity5g?, hpost, World.nasSecurity5g?]
      cases amf.world.get? e <;> rfl
    · rw [hnas]
      exact fun pdu hmem => absurd hmem List.not_mem_nil

/-- The step installs a context: one with other keys than the entity held before. -/
def Installs (t : Transition) (e : EntityId) (ctx : Nas5gsSecurityContext) : Prop :=
  t.post.world.nasSecurity5g? e = some ctx ∧
    ∀ old, t.pre.world.nasSecurity5g? e = some old → ¬ old.SameKeys ctx

/-- Only the SecurityModeComplete of a live entity installs a context. -/
theorem request_of_installs {input : Input} {e : EntityId} {ctx : Nas5gsSecurityContext}
    (hinstalls : Installs (Mealy.transition (step P) amf input) e ctx) :
    ∃ ran n, request P amf input = .securityModeComplete e ran ∧ amf.world.get? e = some n ∧
      ctx = (registrationAcceptOf P e n).2 := by
  obtain ⟨hheld, hnew⟩ := hinstalls
  simp only [Mealy.transition] at hheld hnew
  cases contextStep P amf input e with
  | kept hpost _ =>
      cases hold : amf.world.nasSecurity5g? e with
      | none => simp [hold, hpost] at hheld
      | some old =>
          rw [hpost, hold, Option.map_some, Option.some.injEq] at hheld
          exact absurd (hheld ▸ reopenContext_sameKeys P input e old) (hnew old hold)
  | installed ran n hrequest hn hpost _ =>
      rw [hpost, Option.some.injEq] at hheld
      exact ⟨ran, n, hrequest, hn, hheld.symm⟩
  | used old hold hpost _ =>
      rw [hpost, Option.some.injEq] at hheld
      have hkeys := reopenContext_sameKeys P input e old
      exact absurd
        (hheld ▸ ⟨hkeys.kNasEnc, hkeys.kNasInt, hkeys.nasCipherAlg, hkeys.nasIntegrityAlg⟩)
        (hnew old hold)
  | dropped hpost _ =>
      rw [World.nasSecurity5g?, hpost] at hheld
      cases hheld

/-! ## Sessions -/

/-- Only the SecurityModeComplete of a live entity creates a session, for the IMSI it records. -/
theorem createSession_mem_perform {r : Request} {ulTeid : UInt32} {e : EntityId} {imsi : UInt64}
    {pduSessionId qfi : UInt8} {ueIp gnbAddr : Octets 4}
    (hmem : N3Event.createSession ulTeid e imsi pduSessionId qfi ueIp gnbAddr ∈
      (perform P amf r).2.2) :
    ∃ ran n, r = .securityModeComplete e ran ∧ amf.world.get? e = some n ∧
      imsi = n.identity.imsi := by
  cases r with
  | securityModeComplete id ran =>
      simp only [perform, handleSecurityModeComplete, World.identity?, World.security5g?] at hmem
      cases hentity : amf.world.get? id with
      | none => simp [hentity, silent] at hmem
      | some n =>
          simp only [hentity, Option.map_some] at hmem
          split at hmem
          · simp only [List.mem_singleton, N3Event.createSession.injEq] at hmem
            obtain ⟨_, rfl, himsi, _⟩ := hmem
            exact ⟨ran, n, rfl, hentity, himsi⟩
          · simp at hmem
  | challenge id ran imsi authInfo hss =>
      simp only [perform, issueChallenge] at hmem
      split at hmem <;> simp [silent] at hmem
  | authResponse id ran resStar =>
      simp only [perform, verifyResponse] at hmem
      split at hmem
      · simp [silent] at hmem
      · split at hmem <;> simp [silent] at hmem
  | contextSetup resp =>
      simp only [perform, handleIcsResponse] at hmem
      split at hmem
      · simp [silent] at hmem
      · split at hmem <;> simp [silent] at hmem
  | release msg =>
      simp only [perform, handleReleaseComplete] at hmem
      split at hmem <;> simp [silent] at hmem
  | _ => simp [perform, requestIdentity, silent] at hmem

end Midn.Core.Amf
