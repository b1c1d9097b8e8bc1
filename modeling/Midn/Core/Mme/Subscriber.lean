import Midn.Core.Mme.Request

/-!
# The MME seen by one subscriber

The effect of a request on the entity it targets, as a function of the components of that entity,
and the NAS PDU it delivers there. Other entities are left alone and receive nothing.
-/

namespace Midn.Core.Mme

open Ecs Nas S1ap

variable (P : Primitives)

/-! ## Effect on the components -/

def challenged (enbUeS1apId : UInt32) (plmn : Octets 3) (imsi : UInt64) (authInfo : HssAuthInfo)
    (n : Entity) : Entity :=
  { n with
    identity := ⟨imsi, enbUeS1apId, Octets.zeros 4⟩
    security := challengeContext authInfo plmn
    auth := .challengeIssued }

def answered (res : Octets 8) (n : Entity) : Entity :=
  { n with
    security := n.security.clearPendingChallenge
    auth :=
      if Auth.MilenageContext.verifyRes n.security.pendingXres res then .authenticated
      else .failed .resMismatch }

/-- The context a SecurityModeComplete installs, before its first use. -/
def initialContext (n : Entity) : NasSecurityContext :=
  .new P (kasmeOf P n.security) selectedEea selectedEia

/-- The protected AttachAccept and the context after it. -/
def attachAcceptOf (n : Entity) : List UInt8 × NasSecurityContext :=
  encodeProtected P (initialContext P n) shtIntegrityCiphered nasBearer
    (attachAcceptPlain n.identity.ueIp)

def secured (mme : Mme) (n : Entity) : Entity :=
  { n with
    security := n.security.clearPostKasme
    nasSecurity := some (attachAcceptOf P n).2
    tunnel :=
      match mme.phase3Upf with
      | some _ => some ⟨mme.teidAllocator.alloc.1, 0, Octets.zeros 4⟩
      | none => n.tunnel }

/-- The DetachAccept, under the NAS security of the entity if it has any. -/
def detachAcceptOf (n : Entity) : List UInt8 :=
  match n.nasSecurity with
  | some ctx => (encodeProtected P ctx shtIntegrityCiphered nasBearer encodeDetachAccept).1
  | none => encodeDetachAccept

def detaching (switchOff : Bool) (n : Entity) : Entity :=
  if switchOff then n
  else
    { n with
      nasSecurity := n.nasSecurity.map fun ctx =>
        (encodeProtected P ctx shtIntegrityCiphered nasBearer encodeDetachAccept).2 }

def connected (resp : InitialContextSetupResponse) (n : Entity) : Entity :=
  match resp.eRabsSetup with
  | [] => n
  | erab :: _ =>
      { n with
        tunnel := n.tunnel.map fun t =>
          ⟨t.ulTeid, UInt32.fromBeBytes erab.gtpTeid, erab.transportLayerAddr⟩ }

/-- The entity a request is about. -/
def Request.target (mme : Mme) : Request → Option EntityId
  | .challenge .. => some mme.world.spawn.1
  | .authResponse entity _ _ => some entity
  | .securityModeComplete entity _ => some entity
  | .detach entity _ _ => some entity
  | .contextSetup resp => some resp.mmeUeS1apId
  | .release msg => some msg.mmeUeS1apId
  | .hssMut _ => none
  | .ignored => none

/-- What a request makes of the components of its target. -/
def Request.rewrite (mme : Mme) : Request → Option Entity → Option Entity
  | .challenge enbUeS1apId plmn imsi authInfo _, n =>
      some (challenged enbUeS1apId plmn imsi authInfo (n.getD .empty))
  | .authResponse _ _ res, n => n.map (answered res)
  | .securityModeComplete _ _, n => n.map (secured P mme)
  | .detach _ _ switchOff, n => n.map (detaching P switchOff)
  | .contextSetup resp, n => n.map (connected resp)
  | .release _, _ => none
  | .hssMut _, n => n
  | .ignored, n => n

section Components

variable (mme : Mme)

theorem get?_issueChallenge (enbUeS1apId : UInt32) (plmn : Octets 3) (imsi : UInt64)
    (authInfo : HssAuthInfo) (hss : Hss) :
    (issueChallenge mme enbUeS1apId plmn imsi authInfo hss).1.world.get? =
      Function.update mme.world.get? mme.world.spawn.1
        (some (challenged enbUeS1apId plmn imsi authInfo
          ((mme.world.get? mme.world.spawn.1).getD .empty))) := by
  simp only [issueChallenge, World.setAuthState, World.insertSecurity, World.insertIdentity,
    World.get?_modify, World.get?_spawn, Function.update_self, Function.update_idem,
    Option.map_some, challenged]

theorem get?_verifyResponse (enbUeS1apId e : UInt32) (res : Octets 8) :
    (verifyResponse mme enbUeS1apId e res).1.world.get? =
      Function.update mme.world.get? e ((mme.world.get? e).map (answered res)) := by
  unfold verifyResponse World.security?
  cases hentity : mme.world.get? e with
  | none => exact (Function.update_eq_self_iff.mpr hentity.symm).symm
  | some n =>
      simp only [Option.map_some, answered]
      split
      · simp only [World.setAuthState, World.modifySecurity, World.get?_modify, hentity,
          Function.update_self, Function.update_idem, Option.map_some]
      · simp only [World.setAuthState, World.modifySecurity, World.get?_modify, hentity,
          Function.update_self, Function.update_idem, Option.map_some]

theorem get?_handleSecurityModeComplete (enbUeS1apId e : UInt32) :
    (handleSecurityModeComplete P mme enbUeS1apId e).1.world.get? =
      Function.update mme.world.get? e ((mme.world.get? e).map (secured P mme)) := by
  unfold handleSecurityModeComplete World.identity? World.security?
  cases hentity : mme.world.get? e with
  | none => exact (Function.update_eq_self_iff.mpr hentity.symm).symm
  | some n =>
      simp only [Option.map_some, secured]
      cases hupf : mme.phase3Upf with
      | some upfAddr =>
          simp only [World.setTunnel, World.setNasSecurity, World.modifySecurity,
            World.get?_modify, hentity, Function.update_self, Function.update_idem,
            Option.map_some, attachAcceptOf, initialContext]
      | none =>
          simp only [World.setNasSecurity, World.modifySecurity, World.get?_modify, hentity,
            Function.update_self, Function.update_idem, Option.map_some, attachAcceptOf,
            initialContext]

theorem get?_acceptDetach (enbUeS1apId e : UInt32) (switchOff : Bool) :
    (acceptDetach P mme enbUeS1apId e switchOff).1.world.get? =
      Function.update mme.world.get? e ((mme.world.get? e).map (detaching P switchOff)) := by
  unfold acceptDetach World.nasSecurity?
  rw [World.isLive_eq_isSome]
  cases hentity : mme.world.get? e with
  | none => exact (Function.update_eq_self_iff.mpr hentity.symm).symm
  | some n =>
      simp only [Option.isSome_some, if_true, Option.map_some, Option.bind_some, detaching]
      cases switchOff with
      | true => exact (Function.update_eq_self_iff.mpr hentity.symm).symm
      | false =>
          cases hctx : n.nasSecurity with
          | none =>
              have hsame : { n with nasSecurity := none } = n := by rw [← hctx]
              simp only [Bool.false_eq_true, if_false, Option.map_none, hsame]
              exact (Function.update_eq_self_iff.mpr hentity.symm).symm
          | some ctx =>
              simp only [Bool.false_eq_true, if_false, World.setNasSecurity, World.get?_modify,
                hentity, Option.map_some]

theorem get?_handleIcsrsp (resp : InitialContextSetupResponse) :
    (handleIcsrsp mme resp).1.world.get? =
      Function.update mme.world.get? resp.mmeUeS1apId
        ((mme.world.get? resp.mmeUeS1apId).map (connected resp)) := by
  unfold handleIcsrsp World.tunnel?
  cases hrabs : resp.eRabsSetup with
  | nil =>
      have hsame : connected resp = id := by
        funext n
        simp only [connected, hrabs, id]
      simp only [hsame, Option.map_id, id, Function.update_eq_self]
  | cons erab rest =>
      cases hentity : mme.world.get? resp.mmeUeS1apId with
      | none => exact (Function.update_eq_self_iff.mpr hentity.symm).symm
      | some n =>
          simp only [Option.bind_some, Option.map_some, connected, hrabs]
          cases htunnel : n.tunnel with
          | none =>
              have hsame : { n with tunnel := none } = n := by rw [← htunnel]
              simp only [Option.map_none, hsame]
              exact (Function.update_eq_self_iff.mpr hentity.symm).symm
          | some t =>
              simp only [World.setTunnel, World.get?_modify, hentity, Option.map_some]

theorem get?_handleReleaseComplete (msg : UeContextReleaseComplete) :
    (handleReleaseComplete mme msg).1.world.get? =
      Function.update mme.world.get? msg.mmeUeS1apId none := by
  simp only [handleReleaseComplete]
  split
  · exact World.get?_despawn ..
  · exact World.get?_despawn ..

/-- A request rewrites its target and nothing else. -/
theorem get?_perform (r : Request) (e : EntityId) :
    (perform P mme r).1.world.get? e =
      if r.target mme = some e then r.rewrite P mme (mme.world.get? e)
      else mme.world.get? e := by
  cases r with
  | challenge enb plmn imsi authInfo hss =>
      simp only [perform, get?_issueChallenge, Request.target, Request.rewrite]
      exact World.update_get?_apply _ _ _ fun n =>
        some (challenged enb plmn imsi authInfo (n.getD .empty))
  | authResponse id enb res =>
      simp only [perform, get?_verifyResponse, Request.target, Request.rewrite]
      exact World.update_get?_apply _ _ _ fun n => n.map (answered res)
  | securityModeComplete id enb =>
      simp only [perform, get?_handleSecurityModeComplete, Request.target, Request.rewrite]
      exact World.update_get?_apply _ _ _ fun n => n.map (secured P mme)
  | detach id enb switchOff =>
      simp only [perform, get?_acceptDetach, Request.target, Request.rewrite]
      exact World.update_get?_apply _ _ _ fun n => n.map (detaching P switchOff)
  | contextSetup resp =>
      simp only [perform, get?_handleIcsrsp, Request.target, Request.rewrite]
      exact World.update_get?_apply _ _ _ fun n => n.map (connected resp)
  | release msg =>
      simp only [perform, get?_handleReleaseComplete, Request.target, Request.rewrite]
      exact World.update_get?_apply _ _ _ fun _ => none
  | hssMut hss => rfl
  | ignored => rfl

theorem reopen_eq_id {input : Input} {e : EntityId}
    (hcontext : ∀ ctx, reopenContext P input e ctx = ctx) : reopen P input e = id := by
  funext n
  have hmap : n.nasSecurity.map (reopenContext P input e) = n.nasSecurity := by
    cases hctx : n.nasSecurity with
    | none => rfl
    | some ctx => rw [Option.map_some, hcontext]
  rw [reopen, hmap, id]

/-- Opening an envelope only advances the COUNT of the addressed context. -/
theorem get?_opened (input : Input) (e : EntityId) :
    (opened P mme input).world.get? e = (mme.world.get? e).map (reopen P input e) := by
  have hsame : (∀ ctx, reopenContext P input e ctx = ctx) →
      (mme.world.get? e).map (reopen P input e) = mme.world.get? e := by
    intro hcontext
    rw [reopen_eq_id P hcontext, Option.map_id, id]
  cases input with
  | hssMut hss => exact (hsame fun _ => rfl).symm
  | s1ap rand msg =>
      cases msg with
      | uplinkNasTransport m =>
          simp only [opened, openUplink]
          by_cases hsht : securityHeaderType m.nasPdu = shtPlain
          · rw [if_pos hsht, hsame fun ctx => by simp [reopenContext, hsht]]
          · rw [if_neg hsht]
            rcases eq_or_ne m.mmeUeS1apId e with rfl | hne
            · cases hentity : mme.world.get? m.mmeUeS1apId with
              | none =>
                  simp only [World.nasSecurity?, hentity, Option.bind_none, Option.map_none]
              | some n =>
                  simp only [World.nasSecurity?, hentity, Option.bind_some, Option.map_some,
                    reopen]
                  cases hctx : n.nasSecurity with
                  | none =>
                      have hsame : { n with nasSecurity := none } = n := by rw [← hctx]
                      simp only [hentity, Option.map_none, hsame]
                  | some ctx =>
                      simp only [World.setNasSecurity, World.get?_modify, hentity,
                        Option.map_some, Function.update_self, reopenContext, hsht, ne_eq,
                        not_false_eq_true, and_self, if_true]
            · rw [hsame fun ctx => by simp [reopenContext, hne]]
              split
              · rfl
              · simp only [World.setNasSecurity, World.get?_modify]
                exact Function.update_of_ne hne.symm ..
      | _ => exact (hsame fun _ => rfl).symm

theorem isLive_opened (input : Input) (e : EntityId) :
    (opened P mme input).world.isLive e = mme.world.isLive e := by
  rw [World.isLive_eq_isSome, World.isLive_eq_isSome, get?_opened, Option.isSome_map]

/-- The components of an entity after a step. -/
theorem get?_step (input : Input) (e : EntityId) :
    (step P mme input).1.world.get? e =
      if (request P mme input).target (opened P mme input) = some e then
        (request P mme input).rewrite P (opened P mme input)
          ((mme.world.get? e).map (reopen P input e))
      else (mme.world.get? e).map (reopen P input e) := by
  rw [step_eq_perform, get?_perform, get?_opened]

end Components

/-! ## Delivered NAS PDUs -/

/-- The NAS PDU a request delivers to its target, given the components the target holds. -/
def Request.nas : Request → Option Entity → Option (List UInt8)
  | .challenge _ _ _ authInfo _, _ =>
      some (encodeAuthRequest 0 authInfo.rand
        (authInfo.vector.autn authInfo.sqnUsed milenageAmfField))
  | .authResponse _ _ res, some n =>
      if Auth.MilenageContext.verifyRes n.security.pendingXres res then
        some (encodeSecModeCmd selectedEea selectedEia 0 [0x20, 0x40])
      else none
  | .securityModeComplete _ _, some n => some (attachAcceptOf P n).1
  | .detach _ _ switchOff, some n => if switchOff then none else some (detachAcceptOf P n)
  | _, _ => none

/-- The NAS PDUs an output delivers to an entity. -/
def nasTo (e : EntityId) (output : Output) : List (List UInt8) :=
  output.1.filterMap (S1apMessage.nasFor e)

variable (mme : Mme)

theorem nasTo_singleton (e : EntityId) (msg : S1apMessage) (events : List UpfEvent) :
    nasTo e ([msg], events) = (msg.nasFor e).toList := by
  cases hnas : msg.nasFor e <;> simp [nasTo, hnas]

/-- A request delivers at most one NAS PDU, and that to its target. -/
theorem nasTo_perform (r : Request) (e : EntityId) :
    nasTo e (perform P mme r).2 =
      if r.target mme = some e then (r.nas P (mme.world.get? e)).toList else [] := by
  cases r with
  | challenge enb plmn imsi authInfo hss =>
      simp only [perform, issueChallenge, nasTo_singleton, S1apMessage.nasFor, Request.target,
        Request.nas, Option.some.injEq]
      split <;> rfl
  | authResponse id enb res =>
      simp only [perform, verifyResponse, World.security?, Request.target, Option.some.injEq]
      rcases eq_or_ne id e with rfl | hne
      · cases hentity : mme.world.get? id with
        | none => simp [Request.nas, nasTo, silent]
        | some n =>
            simp only [Option.map_some, Request.nas, if_true]
            split
            · simp only [nasTo_singleton, S1apMessage.nasFor, if_true]
            · rfl
      · simp only [hne, if_false]
        split
        · rfl
        · split
          · simp only [nasTo_singleton, S1apMessage.nasFor, hne, if_false, Option.toList_none]
          · rfl
  | securityModeComplete id enb =>
      simp only [perform, handleSecurityModeComplete, World.identity?, World.security?,
        Request.target, Option.some.injEq]
      rcases eq_or_ne id e with rfl | hne
      · cases hentity : mme.world.get? id with
        | none => simp [Request.nas, nasTo, silent]
        | some n =>
            simp only [Option.map_some, Request.nas, if_true]
            cases mme.phase3Upf with
            | none => simp only [nasTo_singleton, S1apMessage.nasFor, if_true, attachAcceptOf,
                initialContext]
            | some upfAddr => simp only [nasTo_singleton, S1apMessage.nasFor, if_true,
                attachAcceptOf, initialContext]
      · simp only [hne, if_false]
        split
        · split
          · simp only [nasTo_singleton, S1apMessage.nasFor, hne, if_false, Option.toList_none]
          · simp only [nasTo_singleton, S1apMessage.nasFor, hne, if_false, Option.toList_none]
        · rfl
  | detach id enb switchOff =>
      simp only [perform, acceptDetach, World.isLive_eq_isSome, World.nasSecurity?,
        Request.target, Option.some.injEq]
      rcases eq_or_ne id e with rfl | hne
      · cases hentity : mme.world.get? id with
        | none => simp [Request.nas, nasTo]
        | some n =>
            cases switchOff with
            | true => simp [Request.nas, nasTo, S1apMessage.nasFor]
            | false =>
                cases hctx : n.nasSecurity <;>
                  simp [Request.nas, nasTo, S1apMessage.nasFor, detachAcceptOf, hctx]
      · simp only [hne, if_false]
        split
        · split
          · simp [nasTo, S1apMessage.nasFor]
          · split <;> simp [nasTo, S1apMessage.nasFor, hne]
        · rfl
  | contextSetup resp =>
      simp only [perform, handleIcsrsp, Request.nas, Option.toList_none, ite_self]
      split
      · rfl
      · split <;> rfl
  | release msg =>
      simp only [perform, handleReleaseComplete, Request.nas, Option.toList_none, ite_self]
      split <;> rfl
  | hssMut hss => simp [perform, Request.target, nasTo, silent]
  | ignored => simp [perform, Request.target, nasTo, silent]

/-- The NAS PDUs of a step are those of its request. -/
theorem nasTo_step (input : Input) (e : EntityId) :
    nasTo e (step P mme input).2 =
      if (request P mme input).target (opened P mme input) = some e then
        ((request P mme input).nas P ((mme.world.get? e).map (reopen P input e))).toList
      else [] := by
  rw [step_eq_perform, nasTo_perform, get?_opened]

/-! ## The NAS security context -/

/-- What a step does to the NAS security context of an entity, and what it sends under it: the
context is kept up to the COUNT an opened envelope advances, installed by a SecurityModeComplete,
used by a DetachAccept, or dropped by a release. -/
inductive ContextStep (input : Input) (e : EntityId) : Prop
  | kept
      (hpost : (step P mme input).1.world.nasSecurity? e =
        (mme.world.nasSecurity? e).map (reopenContext P input e))
      (hplain : ∀ pdu ∈ nasTo e (step P mme input).2, decodeEnvelope pdu = none)
  | installed (enb : UInt32) (n : Entity)
      (hrequest : request P mme input = .securityModeComplete e enb)
      (hn : mme.world.get? e = some n)
      (hpost : (step P mme input).1.world.nasSecurity? e = some (attachAcceptOf P n).2)
      (hnas : nasTo e (step P mme input).2 = [(attachAcceptOf P n).1])
  | used (ctx : NasSecurityContext) (hctx : mme.world.nasSecurity? e = some ctx)
      (hpost : (step P mme input).1.world.nasSecurity? e =
        some (encodeProtected P (reopenContext P input e ctx) shtIntegrityCiphered nasBearer
          encodeDetachAccept).2)
      (hnas : nasTo e (step P mme input).2 =
        [(encodeProtected P (reopenContext P input e ctx) shtIntegrityCiphered nasBearer
          encodeDetachAccept).1])
  | dropped (hpost : (step P mme input).1.world.get? e = none)
      (hnas : nasTo e (step P mme input).2 = [])

/-- Every step is accounted for. -/
theorem contextStep (input : Input) (e : EntityId) : ContextStep P mme input e := by
  have hpost := get?_step P mme input e
  have hnas := nasTo_step P mme input e
  by_cases htarget : (request P mme input).target (opened P mme input) = some e
  · rw [if_pos htarget] at hpost hnas
    cases hrequest : request P mme input with
    | challenge enb plmn imsi authInfo hss =>
        rw [hrequest] at hpost hnas
        refine .kept ?_ ?_
        · rw [World.nasSecurity?, hpost, World.nasSecurity?]
          cases mme.world.get? e <;> rfl
        · rw [hnas]
          intro pdu hmem
          rw [List.mem_singleton.mp hmem]
          exact decodeEnvelope_plainHeader _
    | authResponse id enb res =>
        rw [hrequest] at hpost hnas
        refine .kept ?_ ?_
        · rw [World.nasSecurity?, hpost, World.nasSecurity?]
          cases mme.world.get? e <;> rfl
        · rw [hnas]
          intro pdu hmem
          cases hentity : mme.world.get? e with
          | none => simp [hentity, Request.nas] at hmem
          | some n =>
              simp only [hentity, Option.map_some, Request.nas] at hmem
              split at hmem
              · rw [List.mem_singleton.mp hmem]
                exact decodeEnvelope_plainHeader _
              · cases hmem
    | securityModeComplete id enb =>
        rw [hrequest] at hpost hnas htarget
        cases htarget
        cases hentity : mme.world.get? e with
        | none =>
            rw [hentity] at hpost hnas
            exact .dropped hpost hnas
        | some n =>
            rw [hentity] at hpost hnas
            exact .installed enb n hrequest hentity
              (congrArg (Option.bind · Entity.nasSecurity) hpost) hnas
    | detach id enb switchOff =>
        rw [hrequest] at hpost hnas
        cases hentity : mme.world.get? e with
        | none =>
            rw [hentity] at hpost hnas
            exact .dropped hpost hnas
        | some n =>
            rw [hentity] at hpost hnas
            cases switchOff with
            | true =>
                refine .kept ?_ ?_
                · rw [World.nasSecurity?, hpost, World.nasSecurity?, hentity]
                  rfl
                · rw [hnas]
                  exact fun pdu hmem => absurd hmem List.not_mem_nil
            | false =>
                -- the accept is protected if there is a context, and then the context moves on
                cases hctx : n.nasSecurity with
                | none =>
                    have hplain : (reopen P input e n).nasSecurity = none := by
                      rw [reopen, hctx, Option.map_none]
                    refine .kept ?_ ?_
                    · rw [World.nasSecurity?, hpost, World.nasSecurity?, hentity]
                      simp [Request.rewrite, detaching, hplain, hctx]
                    · rw [hnas]
                      simp only [Request.nas, Option.map_some, Bool.false_eq_true, if_false,
                        detachAcceptOf, hplain]
                      intro pdu hmem
                      rw [List.mem_singleton.mp hmem]
                      exact decodeEnvelope_plainHeader _
                | some ctx =>
                    have hopened : (reopen P input e n).nasSecurity =
                        some (reopenContext P input e ctx) := by
                      rw [reopen, hctx, Option.map_some]
                    refine .used ctx (by rw [World.nasSecurity?, hentity]; exact hctx) ?_ ?_
                    · rw [World.nasSecurity?, hpost]
                      simp [Request.rewrite, detaching, hopened]
                    · rw [hnas]
                      simp [Request.nas, detachAcceptOf, hopened]
    | contextSetup resp =>
        rw [hrequest] at hpost hnas
        refine .kept ?_ ?_
        · rw [World.nasSecurity?, hpost, World.nasSecurity?]
          cases mme.world.get? e with
          | none => rfl
          | some n =>
              simp only [Request.rewrite, Option.map_some, Option.bind_some, connected]
              split <;> rfl
        · rw [hnas]
          exact fun pdu hmem => absurd hmem List.not_mem_nil
    | release msg =>
        rw [hrequest] at hpost hnas
        exact .dropped hpost hnas
    | hssMut hss =>
        rw [hrequest] at htarget
        cases htarget
    | ignored =>
        rw [hrequest] at htarget
        cases htarget
  · rw [if_neg htarget] at hpost hnas
    -- nothing is asked of this entity, but its context may have opened an envelope
    refine .kept ?_ ?_
    · rw [World.nasSecurity?, hpost, World.nasSecurity?]
      cases mme.world.get? e <;> rfl
    · rw [hnas]
      exact fun pdu hmem => absurd hmem List.not_mem_nil

/-- The step installs a context: one with other keys than the entity held before. -/
def Installs (t : Transition) (e : EntityId) (ctx : NasSecurityContext) : Prop :=
  t.post.world.nasSecurity? e = some ctx ∧
    ∀ old, t.pre.world.nasSecurity? e = some old → ¬ old.SameKeys ctx

/-- Only the SecurityModeComplete of a live entity installs a context. -/
theorem request_of_installs {input : Input} {e : EntityId} {ctx : NasSecurityContext}
    (hinstalls : Installs (Mealy.transition (step P) mme input) e ctx) :
    ∃ enb n, request P mme input = .securityModeComplete e enb ∧ mme.world.get? e = some n ∧
      ctx = (attachAcceptOf P n).2 := by
  obtain ⟨hheld, hnew⟩ := hinstalls
  simp only [Mealy.transition] at hheld hnew
  cases contextStep P mme input e with
  | kept hpost _ =>
      cases hold : mme.world.nasSecurity? e with
      | none => simp [hold, hpost] at hheld
      | some old =>
          rw [hpost, hold, Option.map_some, Option.some.injEq] at hheld
          exact absurd (hheld ▸ reopenContext_sameKeys P input e old) (hnew old hold)
  | installed enb n hrequest hn hpost _ =>
      rw [hpost, Option.some.injEq] at hheld
      exact ⟨enb, n, hrequest, hn, hheld.symm⟩
  | used old hold hpost _ =>
      rw [hpost, Option.some.injEq] at hheld
      have hkeys := reopenContext_sameKeys P input e old
      exact absurd (hheld ▸ ⟨hkeys.kNasEnc, hkeys.kNasInt, hkeys.eea, hkeys.eia⟩)
        (hnew old hold)
  | dropped hpost _ =>
      rw [World.nasSecurity?, hpost] at hheld
      cases hheld

/-! ## Bearers -/

/-- Only the SecurityModeComplete of a live entity creates a session. -/
theorem createSession_mem_perform {r : Request} {ulTeid : UInt32} {e : EntityId} {imsi : UInt64}
    {ueIp enbAddr : Octets 4} {qci : UInt8}
    (hmem : UpfEvent.createSession ulTeid e imsi ueIp enbAddr qci ∈ (perform P mme r).2.2) :
    ∃ enb n, r = .securityModeComplete e enb ∧ mme.world.get? e = some n ∧
      imsi = n.identity.imsi := by
  cases r with
  | securityModeComplete id enb =>
      simp only [perform, handleSecurityModeComplete, World.identity?, World.security?] at hmem
      cases hentity : mme.world.get? id with
      | none => simp [hentity, silent] at hmem
      | some n =>
          simp only [hentity, Option.map_some] at hmem
          split at hmem
          · simp only [List.mem_singleton, UpfEvent.createSession.injEq] at hmem
            obtain ⟨_, rfl, himsi, _⟩ := hmem
            exact ⟨enb, n, rfl, hentity, himsi⟩
          · simp at hmem
  | authResponse id enb res =>
      simp only [perform, verifyResponse] at hmem
      split at hmem
      · simp [silent] at hmem
      · split at hmem <;> simp [silent] at hmem
  | contextSetup resp =>
      simp only [perform, handleIcsrsp] at hmem
      split at hmem
      · simp [silent] at hmem
      · split at hmem <;> simp [silent] at hmem
  | release msg =>
      simp only [perform, handleReleaseComplete] at hmem
      split at hmem <;> simp [silent] at hmem
  | _ => simp [perform, issueChallenge, silent] at hmem

/-- Only the SecurityModeComplete of a live entity requests a context setup, under the Kasme of
the material the entity holds. -/
theorem contextSetupRequest_mem_perform {r : Request} {m : InitialContextSetupRequest}
    (hmem : S1apMessage.initialContextSetupRequest m ∈ (perform P mme r).2.1) :
    ∃ enb n, r = .securityModeComplete m.mmeUeS1apId enb ∧
      mme.world.get? m.mmeUeS1apId = some n ∧ m.securityKey = kasmeOf P n.security := by
  cases r with
  | securityModeComplete id enb =>
      simp only [perform, handleSecurityModeComplete, World.identity?, World.security?] at hmem
      cases hentity : mme.world.get? id with
      | none => simp [hentity, silent] at hmem
      | some n =>
          simp only [hentity, Option.map_some] at hmem
          split at hmem
          · simp only [List.mem_singleton, S1apMessage.initialContextSetupRequest.injEq] at hmem
            subst hmem
            exact ⟨enb, n, rfl, hentity, rfl⟩
          · simp at hmem
  | authResponse id enb res =>
      simp only [perform, verifyResponse] at hmem
      split at hmem
      · simp [silent] at hmem
      · split at hmem <;> simp [silent] at hmem
  | detach id enb switchOff =>
      simp only [perform, acceptDetach] at hmem
      split at hmem
      · split at hmem
        · simp at hmem
        · split at hmem <;> simp at hmem
      · simp at hmem
  | contextSetup resp =>
      simp only [perform, handleIcsrsp] at hmem
      split at hmem
      · simp [silent] at hmem
      · split at hmem <;> simp [silent] at hmem
  | release msg =>
      simp only [perform, handleReleaseComplete] at hmem
      split at hmem <;> simp [silent] at hmem
  | _ => simp [perform, issueChallenge, silent] at hmem

end Midn.Core.Mme
