import Midn.Sim.Enb.UeReactions

/-!
# What the node does at each stage

The MME answers each message that can be under way from the UE with what is under way to it at its
next stage, and has the user plane follow.
-/

namespace Midn.Sim.Enb

open Midn.Core Midn.Core.Mme Ecs Nas S1ap Userplane

/-! ## The user plane -/

section Plane

variable {τ υ : Type} (K : RouteMaps τ υ) {upf : SessionManager τ υ}

/-- A session comes with a placeholder for the far end of its tunnel. -/
theorem PlaneAt.createSession (hplane : PlaneAt none upf) :
    PlaneAt (some ⟨teidBase, 0, Octets.zeros 4⟩)
      (S1u.applyUpfEvent K upf
        (.createSession teidBase entity testImsi (Octets.zeros 4) (Octets.zeros 4) 9)) := by
  obtain ⟨hsessions, huplink, hdownlink⟩ := hplane
  simp only [S1u.applyUpfEvent, SessionManager.createSessionWithTeid, SessionManager.install,
    RoutingTable.install]
  refine ⟨?_, ?_, ?_⟩
  · rw [hsessions, update_only]
    rfl
  · rw [huplink, update_only]
    rfl
  · rw [hdownlink]
    exact update_only ..

/-- The far end becomes known. -/
theorem PlaneAt.updateBearer {t : TunnelComponent} (hteid : t.ulTeid = teidBase)
    (hplane : PlaneAt (some t) upf) (dlTeid : UInt32) (enbAddr : Octets 4) :
    PlaneAt (some ⟨teidBase, dlTeid, enbAddr⟩)
      (S1u.applyUpfEvent K upf (.updateBearer teidBase dlTeid enbAddr)) := by
  obtain ⟨hsessions, huplink, hdownlink⟩ := hplane
  have hcurrent : upf.routing.ulMap teidBase = some (S1u.placeholderRoute t) := by
    rw [huplink, only_self, Option.map_some]
  simp only [S1u.applyUpfEvent, SessionManager.updateBearerInfo_of_some hcurrent,
    RoutingTable.install]
  refine ⟨?_, ?_, ?_⟩
  · rw [hsessions, update_only, only_self, Option.map_some, Option.map_some, sessionOf, hteid]
    rfl
  · rw [huplink, update_only]
    rfl
  · rw [hdownlink]
    exact update_only ..

/-- The session goes with its routes. -/
theorem PlaneAt.removeSession {t : TunnelComponent} (hplane : PlaneAt (some t) upf) :
    PlaneAt none (S1u.applyUpfEvent K upf (.removeSession teidBase)) := by
  obtain ⟨hsessions, huplink, hdownlink⟩ := hplane
  have hcurrent : upf.routing.ulMap teidBase = some (S1u.placeholderRoute t) := by
    rw [huplink, only_self, Option.map_some]
  simp only [S1u.applyUpfEvent, SessionManager.removeSession, RoutingTable.remove, hcurrent]
  refine ⟨?_, ?_, ?_⟩
  · rw [hsessions]
    exact update_only ..
  · rw [huplink]
    exact update_only ..
  · rw [hdownlink]
    exact update_only ..

end Plane

/-! ## One reaction -/

section Reactions

variable {τ υ : Type} (K : RouteMaps τ υ) (P : Primitives) (setup : Setup)

/-- The node takes a message and goes on to the next stage, with the responses under way to the
UE. The task of the UE is not concerned. -/
structure NodeReaction (rand : Octets 16) (msg : S1apMessage) (node : S1u.Node τ υ)
    (st st' : Stage) : Prop where
  next : st.Next st'
  nodeAt : NodeAt P setup st' (S1u.step K P node (.s1ap rand msg)).1
  up : st.up P setup = msg :: st'.up P setup
  down : st'.down P setup = st.down P setup ++ (S1u.step K P node (.s1ap rand msg)).2.1
  progress : st'.progress setup = st.progress setup
  mmeUeS1apId : st'.mmeUeS1apId = st.mmeUeS1apId
  kasme : st'.kasme P setup = st.kasme P setup

variable {K P setup} {node : S1u.Node τ υ} {st st' : Stage} (rand : Octets 16)

theorem NodeAt.get?_entity (hnode : NodeAt P setup st node) :
    node.1.world.get? entity = st.components P setup := by
  rw [hnode.world, only_self]

/-- What the MME does for a request about the entity of the UE, the user plane follows. -/
theorem NodeAt.of_request (hnode : NodeAt P setup st node) {input : Input} {r : Request}
    (hstep : Mme.step P node.1 input = perform P node.1 r)
    (htarget : r.target node.1 = some entity)
    (hcomponents : r.rewrite P node.1 (st.components P setup) = st'.components P setup)
    (hregistry : (r.registry node.1).lookup =
      only testImsi ((st'.components P setup).map fun _ => entity))
    (hteids : r.allocator node.1 = st'.teids) (hold : st'.fresh = false)
    (hplane : PlaneAt (st'.tunnel? setup) ((r.events node.1).foldl (S1u.applyUpfEvent K) node.2)) :
    NodeAt P setup st' (S1u.step K P node input).1 := by
  obtain ⟨hregistry', hteids', hphase, hevents⟩ := resources_perform P node.1 r
  have hmme : (S1u.step K P node input).1.1 = (perform P node.1 r).1 := by rw [← hstep]; rfl
  have hupf : (S1u.step K P node input).1.2 =
      (perform P node.1 r).2.2.foldl (S1u.applyUpfEvent K) node.2 := by rw [← hstep]; rfl
  constructor
  · rw [hmme, hphase, hnode.phase]
  · rw [hmme]
    funext e
    rw [get?_perform, htarget]
    rcases eq_or_ne e entity with rfl | hne
    · rw [if_pos rfl, hnode.get?_entity, hcomponents, only_self]
    · rw [if_neg fun h => hne (Option.some.inj h).symm, hnode.world, only, only,
        Function.update_of_ne hne, Function.update_of_ne hne]
  · rw [hmme, hregistry', hregistry]
  · rw [hmme, hteids', hteids]
  · rw [hold]
    rintro ⟨⟩
  · rw [hupf, hevents]
    exact hplane

theorem lookup_register_only {r : ImsiRegistry} {imsi : UInt64} {old : Option EntityId}
    (hlookup : r.lookup = only imsi old) (e : EntityId) :
    (r.register imsi e).lookup = only imsi (some e) := by
  show Function.update r.lookup imsi (some e) = _
  rw [hlookup, update_only]

theorem lookup_deregister_only {r : ImsiRegistry} {imsi : UInt64} {old : Option EntityId}
    (hlookup : r.lookup = only imsi old) : (r.deregister imsi).lookup = only imsi none := by
  show Function.update r.lookup imsi none = _
  rw [hlookup, update_only]

/-- The responses are those of the request. -/
theorem output_step {input : Input} {r : Request}
    (hstep : Mme.step P node.1 input = perform P node.1 r) :
    (S1u.step K P node input).2 = (perform P node.1 r).2 := by
  rw [← hstep]
  rfl

/-- A plain uplink NAS PDU makes its request in the state as it is. -/
theorem step_uplinkMessage (mme : Mme) {nasPdu : List UInt8}
    (hplain : securityHeaderType nasPdu = shtPlain) :
    Mme.step P mme (.s1ap rand (uplinkMessage entity nasPdu)) =
      perform P mme (nasRequest enbUeS1apId entity nasPdu) := by
  rw [step_eq_perform, uplinkMessage, opened_uplink_plain P mme rand hplain,
    request_uplink_plain P mme rand hplain]

/-- The attach request makes an entity for the UE and challenges it. -/
theorem nodeReaction_attachRequest (hnode : NodeAt P setup .requesting node) :
    NodeReaction K P setup rand initialMessage node .requesting (.challenged rand) := by
  obtain ⟨hworld, hhss⟩ := hnode.fresh rfl
  have hsub : node.1.hss.subscribers testImsi = some ⟨setup.ctx, 0⟩ := by
    simp only [hhss, Setup.subscribers, Hss.provision, Function.update_self]
  have himsi : testImsi.toNat < 10 ^ 15 := by decide
  have hspawn : node.1.world.spawn.1 = entity := by rw [hworld]; rfl
  have hstep := step_attachRequest P node.1 hsub himsi rand 1 0
    (m := ⟨enbUeS1apId, encodeAttachRequest testImsi 1 0, testTai, testEutranCgi, 0⟩) rfl
  rw [SubscriberRecord.sqnBytes_fresh] at hstep
  have hperform : Mme.step P node.1 (.s1ap rand initialMessage) = perform P node.1
      (.challenge enbUeS1apId testPlmn testImsi (authInfo P setup rand)
        (node.1.hss.generateAuthVector P testImsi rand).2) := hstep
  exact
    { next := .challenge rand
      nodeAt := by
        refine hnode.of_request hperform (congrArg some hspawn) rfl ?_ hnode.teids rfl hnode.plane
        simp only [Request.registry, hspawn]
        exact lookup_register_only hnode.registry entity
      up := rfl
      down := by
        rw [output_step hperform]
        simp only [perform, issueChallenge, hspawn]
        rfl
      progress := rfl
      mmeUeS1apId := rfl
      kasme := rfl }

/-- The expected RES is answered by the command. -/
theorem nodeReaction_authResponse {rand' : Octets 16}
    (hnode : NodeAt P setup (.answering rand') node) :
    NodeReaction K P setup rand
      (uplinkMessage entity (encodeAuthResponse (vectorFor P setup.ctx rand').res)) node
      (.answering rand') (.commanded rand') := by
  have hentity : node.1.world.get? entity = some (challengedUe P setup rand') := hnode.get?_entity
  have hstep := step_uplinkMessage (P := P) rand node.1
    (securityHeaderType_encodeAuthResponse (vectorFor P setup.ctx rand').res)
  rw [nasRequest, decodeNas_encodeAuthResponse] at hstep
  have hres : (vectorFor P setup.ctx rand').res =
      (challengedUe P setup rand').security.pendingXres := by
    rw [vectorFor_eq]
    rfl
  exact
    { next := .command rand'
      nodeAt := by
        refine hnode.of_request hstep rfl ?_ hnode.registry hnode.teids rfl hnode.plane
        rw [hres]
        rfl
      up := rfl
      down := by
        rw [output_step hstep]
        simp only [perform, hres]
        rw [verifyResponse_output hentity]
        rfl
      progress := rfl
      mmeUeS1apId := rfl
      kasme := rfl }

/-- The confirmed security mode is answered by the accept, with a bearer. -/
theorem nodeReaction_secModeComplete {rand' : Octets 16}
    (hnode : NodeAt P setup (.completing rand') node) :
    NodeReaction K P setup rand (uplinkMessage entity encodeSecModeComplete) node
      (.completing rand') (.accepted rand') := by
  have hentity : node.1.world.get? entity = some (answeredUe P setup rand') := hnode.get?_entity
  have hidentity := World.identity?_of_some hentity
  have hsecurity := World.security?_of_some hentity
  have hphase := hnode.phase
  have hteids : node.1.teidAllocator = ⟨teidBase, []⟩ := hnode.teids
  have hstep := step_uplinkMessage (P := P) rand node.1
    (by decide : securityHeaderType encodeSecModeComplete = shtPlain)
  rw [nasRequest, decodeNas_encodeSecModeComplete] at hstep
  exact
    { next := .accept rand'
      nodeAt := by
        refine hnode.of_request hstep rfl ?_ hnode.registry ?_ rfl ?_
        · simp only [Request.rewrite, Stage.components, Option.map_some, secured, hphase, hteids]
          rfl
        · simp only [Request.allocator, hidentity, hphase, hteids]
          rfl
        · simp only [Request.events, hidentity, hphase, hteids, List.foldl_cons, List.foldl_nil]
          exact hnode.plane.createSession K
      up := rfl
      down := by
        rw [output_step hstep]
        simp only [perform, handleSecurityModeComplete, hidentity, hsecurity, hphase, hteids,
          Stage.down, Stage.setupRequest, kasmeFor_eq, List.nil_append]
        rfl
      progress := rfl
      mmeUeS1apId := rfl
      kasme := rfl }

/-- The confirmed bearer is recorded in the tunnel. -/
theorem nodeReaction_setupResponse {rand' : Octets 16} {activity : Activity}
    (hnode : NodeAt P setup (.attached rand' .nothing activity) node) :
    NodeReaction K P setup rand (setupResponse setup.myIp entity enbUeS1apId 5) node
      (.attached rand' .nothing activity) (.attached rand' .session activity) := by
  have hentity : node.1.world.get? entity = some (securedUe P setup rand') := hnode.get?_entity
  have htunnel : node.1.world.tunnel? entity = some ⟨teidBase, 0, Octets.zeros 4⟩ := by
    rw [World.tunnel?, hentity]
    rfl
  have hstep : Mme.step P node.1 (.s1ap rand (setupResponse setup.myIp entity enbUeS1apId 5)) =
      perform P node.1 (.contextSetup
        ⟨entity, enbUeS1apId, [⟨5, setup.myIp, mockDlTeid.toBeBytes⟩], []⟩) := rfl
  exact
    { next := .confirm rand' activity .session
      nodeAt := by
        refine hnode.of_request hstep rfl ?_ hnode.registry hnode.teids rfl ?_
        · simp only [Request.rewrite, Stage.components, Option.map_some, connected,
            UInt32.fromBeBytes_toBeBytes]
          rfl
        · simp only [Request.events, htunnel, UInt32.fromBeBytes_toBeBytes, List.foldl_cons,
            List.foldl_nil]
          exact hnode.plane.updateBearer K rfl mockDlTeid setup.myIp
      up := by cases activity <;> rfl
      down := by
        rw [output_step hstep]
        simp only [perform, handleIcsrsp, htunnel]
        rfl
      progress := by cases activity <;> rfl
      mmeUeS1apId := rfl
      kasme := rfl }

/-- The confirmed attach needs nothing done. -/
theorem nodeReaction_attachComplete {rand' : Octets 16} {activity : Activity}
    (hnode : NodeAt P setup (.attached rand' .session activity) node) :
    NodeReaction K P setup rand (uplinkMessage entity encodeAttachComplete) node
      (.attached rand' .session activity) (.attached rand' .registration activity) := by
  have hdecode : decodeNas encodeAttachComplete = .ok .attachComplete := by decide
  have hstep := step_uplinkMessage (P := P) rand node.1
    (by decide : securityHeaderType encodeAttachComplete = shtPlain)
  rw [nasRequest, hdecode] at hstep
  have hsilent : S1u.step K P node (.s1ap rand (uplinkMessage entity encodeAttachComplete)) =
      (node, silent) := by
    rw [S1u.step, Mealy.feeding, hstep]
    rfl
  have hkeeps : KeepsNode P setup (.attached rand' .session activity)
      (.attached rand' .registration activity) := ⟨rfl, rfl, fun h => h, rfl⟩
  exact
    { next := .confirm rand' activity .registration
      nodeAt := by
        rw [hsilent]
        exact hkeeps.nodeAt hnode
      up := by cases activity <;> rfl
      down := by
        rw [hsilent]
        rfl
      progress := by cases activity <;> rfl
      mmeUeS1apId := rfl
      kasme := rfl }

/-- The request for a detach is accepted, and the context is to be released. -/
theorem nodeReaction_detachRequest {rand' : Octets 16}
    (hnode : NodeAt P setup (.attached rand' .registration .leaving) node) :
    NodeReaction K P setup rand Stage.detachRequest node (.attached rand' .registration .leaving)
      (.dismissed rand') := by
  have hentity : node.1.world.get? entity = some (connectedUe P setup rand') := hnode.get?_entity
  have hlive := World.isLive_of_some hentity
  have hcontext : node.1.world.nasSecurity? entity =
      some (attachAcceptOf P (answeredUe P setup rand')).2 := by
    rw [World.nasSecurity?, hentity]
    rfl
  have hdecode : decodeNas (encodeDetachRequest 1 false 0 (Octets.zeros 10)) =
      .ok (.detachRequest ⟨1, false, 0⟩) := by decide
  have hstep := step_uplinkMessage (P := P) rand node.1
    (by decide : securityHeaderType (encodeDetachRequest 1 false 0 (Octets.zeros 10)) = shtPlain)
  rw [nasRequest, hdecode] at hstep
  exact
    { next := .dismiss rand'
      nodeAt := hnode.of_request hstep rfl rfl hnode.registry hnode.teids rfl hnode.plane
      up := rfl
      down := by
        rw [Stage.detachRequest, output_step hstep]
        simp only [perform, acceptDetach, hlive, if_true, Bool.false_eq_true, if_false, hcontext]
        rfl
      progress := rfl
      mmeUeS1apId := rfl
      kasme := rfl }

/-- The confirmed release removes the entity and its session. -/
theorem nodeReaction_releaseComplete {rand' : Octets 16}
    (hnode : NodeAt P setup (.releasing rand') node) :
    NodeReaction K P setup rand (.ueContextReleaseComplete ⟨entity, enbUeS1apId⟩) node
      (.releasing rand') (.gone rand') := by
  have hentity : node.1.world.get? entity = some (detachingUe P setup rand') := hnode.get?_entity
  have hidentity := World.identity?_of_some hentity
  have htunnel : node.1.world.tunnel? entity = some ⟨teidBase, mockDlTeid, setup.myIp⟩ := by
    rw [World.tunnel?, hentity]
    rfl
  have hteids : node.1.teidAllocator = ⟨teidBase + 1, []⟩ := hnode.teids
  have hstep : Mme.step P node.1 (.s1ap rand (.ueContextReleaseComplete ⟨entity, enbUeS1apId⟩)) =
      perform P node.1 (.release ⟨entity, enbUeS1apId⟩) := rfl
  exact
    { next := .go rand'
      nodeAt := by
        refine hnode.of_request hstep rfl rfl ?_ ?_ rfl ?_
        · simp only [Request.registry, hidentity]
          exact lookup_deregister_only hnode.registry
        · simp only [Request.allocator, htunnel, hteids]
          rfl
        · simp only [Request.events, htunnel, List.foldl_cons, List.foldl_nil]
          exact hnode.plane.removeSession K
      up := rfl
      down := by
        rw [output_step hstep]
        simp only [perform, handleReleaseComplete, htunnel]
        rfl
      progress := rfl
      mmeUeS1apId := rfl
      kasme := rfl }

/-- Whatever is next on its way from the UE, the node takes it as one step of the life cycle. -/
theorem exists_nodeReaction (hnode : NodeAt P setup st node) {msg : S1apMessage}
    {rest : List S1apMessage} (hup : st.up P setup = msg :: rest) :
    ∃ st', NodeReaction K P setup rand msg node st st' := by
  cases st with
  | requesting =>
      cases hup
      exact ⟨_, nodeReaction_attachRequest rand hnode⟩
  | answering rand' =>
      cases hup
      exact ⟨_, nodeReaction_authResponse rand hnode⟩
  | completing rand' =>
      cases hup
      exact ⟨_, nodeReaction_secModeComplete rand hnode⟩
  | attached rand' confirmed activity =>
      cases confirmed with
      | nothing =>
          have hmsg : setupResponse setup.myIp entity enbUeS1apId 5 = msg := by
            cases activity <;> exact (List.cons_eq_cons.mp hup).1
          rw [← hmsg]
          exact ⟨_, nodeReaction_setupResponse rand hnode⟩
      | session =>
          have hmsg : uplinkMessage entity encodeAttachComplete = msg := by
            cases activity <;> exact (List.cons_eq_cons.mp hup).1
          rw [← hmsg]
          exact ⟨_, nodeReaction_attachComplete rand hnode⟩
      | registration =>
          cases activity with
          | leaving =>
              cases hup
              exact ⟨_, nodeReaction_detachRequest rand hnode⟩
          | _ => cases hup
  | releasing rand' =>
      cases hup
      exact ⟨_, nodeReaction_releaseComplete rand hnode⟩
  | _ => cases hup

end Reactions

end Midn.Sim.Enb
