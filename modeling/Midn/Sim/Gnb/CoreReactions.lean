import Midn.Core.Amf.Isolation
import Midn.Core.Amf.Registry
import Midn.Sim.Gnb.UeReactions

/-!
# What the core does at each stage

The AMF answers each message that can be under way from a UE with what is under way to it at its
next stage, and changes nothing but the entity of that UE and its subscription.
-/

namespace Midn.Sim.Gnb

open Midn.Core Midn.Core.Amf Ecs Nas5gs Ngap

/-- No entry of the registry leads astray, and nobody is registered who has not named itself. -/
structure Listed (amf : Amf) : Prop where
  sound : amf.registry.Sound amf.world
  unnamed : amf.registry.lookup 0 = none

/-- The request makes the slots it needs, gives no entity a second tunnel, and registers nobody
twice. -/
structure Suits (amf : Amf) (r : Request) (st st' : Stage) : Prop where
  slots : slotsOf r + st.enrolled = st'.enrolled
  untunnelled : ∀ e ran, r = .securityModeComplete e ran → amf.world.tunnel? e = none
  registry : Listed amf → r.KeepsRegistry amf
  named : ∀ e ran imsi authInfo hss, r = .challenge e ran imsi authInfo hss → imsi ≠ 0

/-- The AMF keeps its registry so. -/
theorem Listed.step {P : Primitives} {amf : Amf} {input : Input} {st st' : Stage}
    (hlisted : Listed amf) (hsuits : Suits amf (request P amf input) st st') :
    Listed (Amf.step P amf input).1 := by
  refine ⟨(registry_sound_step_iff hlisted.sound).mpr (hsuits.registry hlisted), ?_⟩
  have hnamed := hsuits.named
  rw [(resources_step P amf input).registry]
  generalize request P amf input = r at hnamed
  cases r with
  | challenge e ran imsi authInfo hss =>
      rw [Request.registry]
      split
      · rw [ImsiRegistry.lookup_register_of_ne _ (hnamed e ran imsi authInfo hss rfl).symm]
        exact hlisted.unnamed
      · exact hlisted.unnamed
  | release msg =>
      rw [Request.registry]
      split
      next identity _ =>
        rcases eq_or_ne 0 identity.imsi with hzero | hne
        · rw [← hzero, ImsiRegistry.lookup_deregister]
        · rw [ImsiRegistry.lookup_deregister_of_ne _ hne]
          exact hlisted.unnamed
      · exact hlisted.unnamed
  | _ => exact hlisted.unnamed

/-! ## One reaction -/

section Reactions

variable (P : Primitives) (setup : Setup) (i : Fin setup.nUes)

/-- What the core holds about a UE at a stage. -/
structure CoreAt (st : Stage) (amf : Amf) : Prop where
  entity : ∀ e, st.entity? = some e → amf.world.get? e = st.components P setup i
  subscriber : st.unchallenged = true →
    amf.hss.subscribers (setup.imsi i) = some ⟨setup.ctx, 0⟩

/-- The entity that a message of the UE is about. -/
def Stage.subject (st : Stage) (amf : Amf) : EntityId := st.entity?.getD amf.world.spawn.1

/-- The core takes a message and goes on to the next stage of the UE, with the responses under way
to it and the user plane told. The task of the UE is not concerned. -/
structure CoreReaction (rand : Octets 16) (msg : NgapMessage) (amf amf' : Amf)
    (output : Output) (st st' : Stage) : Prop where
  next : st.Next st'
  opened : opened P amf (.ngap rand msg) = amf
  request : Suits amf (request P amf (.ngap rand msg)) st st'
  up : st.up P setup i = msg :: st'.up P setup i
  down : st'.down P setup i = st.down P setup i ++ output.1
  events : output.2 = st'.events setup i
  teid : ∀ a, st' = .accepted a → a.ulTeid = amf.teidAllocator.alloc.1
  progress : st'.progress setup = st.progress setup
  amfUeNgapId : st'.amfUeNgapId = st.amfUeNgapId
  kamf : st'.kamf P setup i = st.kamf P setup i
  world : amf'.world.get? =
    Function.update amf.world.get? (st.subject amf) (st'.components P setup i)
  entity : st'.entity? = if (st'.components P setup i).isSome then some (st.subject amf) else none
  subscriber : st'.unchallenged = true → amf'.hss = amf.hss
  others : ∀ imsi, imsi ≠ setup.imsi i → amf'.hss.subscribers imsi = amf.hss.subscribers imsi

variable {P setup i} {amf : Amf} (rand : Octets 16)

/-- A plain uplink NAS PDU makes its request in the state as it is. -/
theorem step_uplinkMessage {e : EntityId} {nasPdu : List UInt8}
    (hplain : securityHeaderType nasPdu = nas5gsShtPlain) :
    Amf.step P amf (.ngap rand (uplinkMessage (setup.ueArgs i) e nasPdu)) =
      perform P amf (nasRequest P amf.hss rand (setup.ranUeNgapId i) e nasPdu) := by
  rw [step_eq_perform, uplinkMessage, opened_uplink_plain P amf rand hplain,
    request_uplink_plain P amf rand hplain]
  rfl

/-- The registration request makes an entity for the UE. -/
theorem coreReaction_request (hroom : amf.world.slots < 2 ^ 32) :
    let r := Amf.step P amf (.ngap rand (initialMessage (setup.ueArgs i)))
    CoreReaction P setup i rand (initialMessage (setup.ueArgs i)) amf r.1 r.2 .requesting
      (.asked amf.world.spawn.1) := by
  intro r
  have hstep : r = requestIdentity amf (setup.ranUeNgapId i) testPlmn :=
    step_registrationRequest P amf rand 1 0 0x00C0 rfl
  have hdead := World.get?_spawn_of_slots_lt hroom
  rw [hstep]
  exact
    { next := .ask _
      opened := rfl
      request := by
        rw [initialMessage, request_registrationRequest P amf rand 1 0 0x00C0 rfl]
        refine ⟨rfl, by rintro _ _ ⟨⟩, ?_, by rintro _ _ _ _ _ ⟨⟩⟩
        intro hlisted other hlookup
        have himsi := hlisted.sound other _ hlookup
        rw [World.imsi?, World.identity?_of_none hdead] at himsi
        cases himsi
      up := rfl
      down := rfl
      events := rfl
      teid := by rintro _ ⟨⟩
      progress := rfl
      amfUeNgapId := rfl
      kamf := rfl
      world := by
        rw [get?_requestIdentity, hdead]
        rfl
      entity := rfl
      subscriber := fun _ => rfl
      others := fun _ _ => rfl }

/-- The subscriber that has named itself is challenged. -/
theorem coreReaction_identityResponse {e : EntityId}
    (hcore : CoreAt P setup i (.identifying e) amf) (himsi : (setup.imsi i).toNat < 2 ^ 40) :
    let msg := uplinkMessage (setup.ueArgs i) e
      (encodeIdentityResponseSuci (suciForImsi (setup.imsi i)))
    let r := Amf.step P amf (.ngap rand msg)
    CoreReaction P setup i rand msg amf r.1 r.2 (.identifying e) (.challenged e rand) := by
  intro msg r
  have hentity := hcore.entity e rfl
  have hsqn : SubscriberRecord.sqnBytes ⟨setup.ctx, 0⟩ = sqnUsed :=
    SubscriberRecord.sqnBytes_fresh setup.ctx
  have hstep : r = issueChallenge P amf (setup.ranUeNgapId i) e (setup.imsi i)
      (authInfo P setup rand) (amf.hss.generateAuthVector P (setup.imsi i) rand).2 := by
    rw [authInfo, ← hsqn]
    exact step_identityResponse P amf (hcore.subscriber rfl) himsi rand rfl
  rw [hstep]
  exact
    { next := .challenge e rand
      opened := opened_uplink_plain P amf rand (securityHeaderType_header ..)
      request := by
        rw [show msg = .uplinkNasTransport _ from rfl,
          request_identityResponse P amf (hcore.subscriber rfl) himsi rand rfl]
        refine ⟨rfl, by rintro _ _ ⟨⟩, ?_, ?_⟩
        · intro hlisted _ other hlookup
          have hunnamed := hlisted.sound other e hlookup
          rw [World.imsi?, World.identity?_of_some hentity] at hunnamed
          cases hunnamed
          cases hlookup.symm.trans hlisted.unnamed
        · rintro _ _ _ _ _ ⟨⟩
          exact Setup.imsi_ne_zero i
      up := rfl
      down := by
        rw [issueChallenge_output hentity]
        rfl
      events := by rw [issueChallenge_output hentity]; rfl
      teid := by rintro _ ⟨⟩
      progress := rfl
      amfUeNgapId := rfl
      kamf := rfl
      world := by
        rw [get?_issueChallenge, hentity]
        rfl
      entity := rfl
      subscriber := fun h => absurd h Bool.false_ne_true
      others := by
        intro imsi hne
        have hsub := hcore.subscriber rfl
        have hsecurity := World.security5g?_of_some hentity
        simp only [issueChallenge, hsecurity, Hss.generateAuthVector, hsub]
        exact Function.update_of_ne hne .. }

/-- The expected RES* is answered by the command. -/
theorem coreReaction_authResponse {e : EntityId} {rand' : Octets 16}
    (hcore : CoreAt P setup i (.answering e rand') amf) :
    let msg := uplinkMessage (setup.ueArgs i) e
      (encodeAuthResponse (resStarFor P setup.ctx rand'))
    let r := Amf.step P amf (.ngap rand msg)
    CoreReaction P setup i rand msg amf r.1 r.2 (.answering e rand') (.commanded e rand') := by
  intro msg r
  have hentity := hcore.entity e rfl
  have hstep : r = verifyResponse amf (setup.ranUeNgapId i) e
      (challengedUe P setup i rand').security5g.pendingXresStar := by
    rw [← resStarFor_eq]
    exact step_authResponse P amf rand rfl
  rw [hstep]
  exact
    { next := .command e rand'
      opened := opened_uplink_plain P amf rand (securityHeaderType_header ..)
      request := by
        rw [show msg = .uplinkNasTransport _ from rfl, request_authResponse P amf rand rfl]
        exact ⟨rfl, by rintro _ _ ⟨⟩, fun _ => trivial, by rintro _ _ _ _ _ ⟨⟩⟩
      up := rfl
      down := by
        rw [verifyResponse_output hentity]
        rfl
      events := by rw [verifyResponse_output hentity]; rfl
      teid := by rintro _ ⟨⟩
      progress := rfl
      amfUeNgapId := rfl
      kamf := rfl
      world := by
        rw [get?_verifyResponse, hentity]
        rfl
      entity := rfl
      subscriber := fun h => absurd h Bool.false_ne_true
      others := by
        intro imsi _
        simp only [verifyResponse, World.security5g?_of_some hentity]
        split <;> rfl }

/-- The confirmed security mode is answered by the accept, with a session. -/
theorem coreReaction_secModeComplete {e : EntityId} {rand' : Octets 16}
    (hcore : CoreAt P setup i (.completing e rand') amf)
    (hphase : amf.phaseBUpf = some setup.upfIp) :
    let msg := uplinkMessage (setup.ueArgs i) e encodeSecModeComplete
    let r := Amf.step P amf (.ngap rand msg)
    CoreReaction P setup i rand msg amf r.1 r.2 (.completing e rand')
      (.accepted ⟨e, rand', amf.teidAllocator.alloc.1⟩) := by
  intro msg r
  have hplain : securityHeaderType encodeSecModeComplete = nas5gsShtPlain := by decide
  have hentity : amf.world.get? e = some (answeredUe P setup i rand') := hcore.entity e rfl
  have hstep : r = handleSecurityModeComplete P amf (setup.ranUeNgapId i) e :=
    step_secModeComplete P amf rand rfl
  have hidentity := World.identity?_of_some hentity
  have hsecurity := World.security5g?_of_some hentity
  have htunnel : amf.world.tunnel? e = none := by
    rw [World.tunnel?, hentity]
    rfl
  rw [hstep]
  exact
    { next := .accept ⟨e, rand', amf.teidAllocator.alloc.1⟩
      opened := opened_uplink_plain P amf rand hplain
      request := by
        rw [show msg = .uplinkNasTransport _ from rfl, request_secModeComplete P amf rand rfl]
        refine ⟨rfl, ?_, fun _ => trivial, by rintro _ _ _ _ _ ⟨⟩⟩
        intro e' ran h
        cases h
        exact htunnel
      up := rfl
      down := by
        simp only [handleSecurityModeComplete, hidentity, hsecurity, hphase, Stage.down,
          Stage.setupRequest, kamfFor_eq, List.nil_append]
        rfl
      events := by
        simp only [handleSecurityModeComplete, hidentity, hsecurity, hphase]
        rfl
      teid := by
        intro a h
        cases h
        rfl
      progress := rfl
      amfUeNgapId := rfl
      kamf := rfl
      world := by
        rw [get?_handleSecurityModeComplete, hentity]
        simp only [Option.map_some, secured, hphase]
        rfl
      entity := rfl
      subscriber := fun h => absurd h Bool.false_ne_true
      others := by
        intro imsi _
        simp only [handleSecurityModeComplete, hidentity, hsecurity, hphase] }

/-- The confirmed session is recorded in the tunnel. -/
theorem coreReaction_setupResponse {a : Admission} {activity : Activity}
    (hcore : CoreAt P setup i (.attached a .nothing activity) amf) :
    let msg := setupResponse (setup.ueArgs i) a.entity defaultPduSessionId
    let r := Amf.step P amf (.ngap rand msg)
    CoreReaction P setup i rand msg amf r.1 r.2 (.attached a .nothing activity)
      (.attached a .session activity) := by
  intro msg r
  have hentity : amf.world.get? a.entity = some (securedUe P setup i a) :=
    hcore.entity a.entity rfl
  have hstep : r = handleIcsResponse amf ⟨a.entity, setup.ranUeNgapId i,
      [⟨defaultPduSessionId, setup.myIp, (setup.dlTeid i).toBeBytes⟩], []⟩ := rfl
  have htunnel : amf.world.tunnel? a.entity = some ⟨a.ulTeid, 0, Octets.zeros 4⟩ := by
    rw [World.tunnel?, hentity]
    rfl
  rw [hstep]
  exact
    { next := .confirm a activity .session
      opened := rfl
      request := ⟨rfl, by rintro _ _ ⟨⟩, fun _ => trivial, by rintro _ _ _ _ _ ⟨⟩⟩
      up := by cases activity <;> rfl
      down := by
        simp only [handleIcsResponse, htunnel]
        rfl
      events := by
        simp only [handleIcsResponse, htunnel, UInt32.fromBeBytes_toBeBytes]
        rfl
      teid := by rintro _ ⟨⟩
      progress := by cases activity <;> rfl
      amfUeNgapId := rfl
      kamf := rfl
      world := by
        rw [get?_handleIcsResponse, hentity]
        simp only [Option.map_some, connected, UInt32.fromBeBytes_toBeBytes]
        rfl
      entity := rfl
      subscriber := fun h => absurd h Bool.false_ne_true
      others := by
        intro imsi _
        simp only [handleIcsResponse, htunnel] }

/-- The confirmed registration needs nothing done. -/
theorem coreReaction_registrationComplete {a : Admission} {activity : Activity}
    (hcore : CoreAt P setup i (.attached a .session activity) amf) :
    let msg := uplinkMessage (setup.ueArgs i) a.entity encodeRegistrationComplete
    let r := Amf.step P amf (.ngap rand msg)
    CoreReaction P setup i rand msg amf r.1 r.2 (.attached a .session activity)
      (.attached a .registration activity) := by
  intro msg r
  have hentity := hcore.entity a.entity rfl
  have hplain : securityHeaderType encodeRegistrationComplete = nas5gsShtPlain := by decide
  have hdecode : decodeNas5gs encodeRegistrationComplete = .ok .registrationComplete := by decide
  have hstep : r = (amf, silent) := by
    rw [show r = _ from step_uplinkMessage rand hplain, nasRequest, hdecode]
    rfl
  rw [hstep]
  exact
    { next := .confirm a activity .registration
      opened := opened_uplink_plain P amf rand hplain
      request := by
        rw [show msg = .uplinkNasTransport _ from rfl, request_uplink_plain P amf rand hplain,
          nasRequest, hdecode]
        exact ⟨rfl, by rintro _ _ ⟨⟩, fun _ => trivial, by rintro _ _ _ _ _ ⟨⟩⟩
      up := by cases activity <;> rfl
      down := rfl
      events := rfl
      teid := by rintro _ ⟨⟩
      progress := by cases activity <;> rfl
      amfUeNgapId := rfl
      kamf := rfl
      world := (Function.update_eq_self_iff.mpr hentity.symm).symm
      entity := rfl
      subscriber := fun _ => rfl
      others := fun _ _ => rfl }

/-- The request for a deregistration is accepted, and the context is to be released. -/
theorem coreReaction_deregistrationRequest {a : Admission}
    (hcore : CoreAt P setup i (.attached a .registration .leaving) amf) :
    let msg := uplinkMessage (setup.ueArgs i) a.entity (encodeDeregistrationRequest false)
    let r := Amf.step P amf (.ngap rand msg)
    CoreReaction P setup i rand msg amf r.1 r.2 (.attached a .registration .leaving)
      (.dismissed a) := by
  intro msg r
  have hentity := hcore.entity a.entity rfl
  have hplain : securityHeaderType (encodeDeregistrationRequest false) = nas5gsShtPlain := by
    decide
  have hdecode : decodeNas5gs (encodeDeregistrationRequest false) =
      .ok (.deregistrationRequest false) := by decide
  have hstep : r =
      ((acceptDeregistration P amf (setup.ranUeNgapId i) a.entity false).1,
        (acceptDeregistration P amf (setup.ranUeNgapId i) a.entity false).2, []) := by
    rw [show r = _ from step_uplinkMessage rand hplain, nasRequest, hdecode]
    rfl
  have hlive := World.isLive_of_some hentity
  have hcontext : amf.world.nasSecurity5g? a.entity =
      some (registrationAcceptOf P a.entity (answeredUe P setup i a.rand)).2 := by
    rw [World.nasSecurity5g?, hentity]
    rfl
  rw [hstep]
  exact
    { next := .dismiss a
      opened := opened_uplink_plain P amf rand hplain
      request := by
        rw [show msg = .uplinkNasTransport _ from rfl, request_uplink_plain P amf rand hplain,
          nasRequest, hdecode]
        exact ⟨rfl, by rintro _ _ ⟨⟩, fun _ => trivial, by rintro _ _ _ _ _ ⟨⟩⟩
      up := rfl
      down := by
        simp only [acceptDeregistration, hlive, if_true, Bool.false_eq_true, if_false, hcontext]
        rfl
      events := rfl
      teid := by rintro _ ⟨⟩
      progress := rfl
      amfUeNgapId := rfl
      kamf := rfl
      world := by
        rw [get?_acceptDeregistration, hentity]
        rfl
      entity := rfl
      subscriber := fun h => absurd h Bool.false_ne_true
      others := by
        intro imsi _
        simp only [acceptDeregistration, hlive, if_true, Bool.false_eq_true, if_false, hcontext] }

/-- The confirmed release removes the entity. -/
theorem coreReaction_releaseComplete {a : Admission}
    (hcore : CoreAt P setup i (.releasing a) amf) :
    let msg := NgapMessage.ueContextReleaseComplete ⟨a.entity, setup.ranUeNgapId i⟩
    let r := Amf.step P amf (.ngap rand msg)
    CoreReaction P setup i rand msg amf r.1 r.2 (.releasing a) (.gone a) := by
  intro msg r
  have hstep : r = handleReleaseComplete amf ⟨a.entity, setup.ranUeNgapId i⟩ := rfl
  have hentity : amf.world.get? a.entity = some (deregisteredUe P setup i a) :=
    hcore.entity a.entity rfl
  have htunnel : amf.world.tunnel? a.entity =
      some ⟨a.ulTeid, setup.dlTeid i, setup.myIp⟩ := by
    rw [World.tunnel?, hentity]
    rfl
  have hsilent : (handleReleaseComplete amf ⟨a.entity, setup.ranUeNgapId i⟩).2.1 = [] := by
    simp only [handleReleaseComplete]
    split <;> rfl
  rw [hstep]
  exact
    { next := .go a
      opened := rfl
      request := ⟨rfl, by rintro _ _ ⟨⟩, fun _ => trivial, by rintro _ _ _ _ _ ⟨⟩⟩
      up := rfl
      down := by
        rw [hsilent]
        rfl
      events := by
        simp only [handleReleaseComplete, htunnel]
        rfl
      teid := by rintro _ ⟨⟩
      progress := rfl
      amfUeNgapId := rfl
      kamf := rfl
      world := get?_handleReleaseComplete ..
      entity := rfl
      subscriber := fun h => absurd h Bool.false_ne_true
      others := by
        intro imsi _
        simp only [handleReleaseComplete]
        split <;> rfl }

/-- Whatever is next on its way from a UE, the core takes it as one step of the life cycle. -/
theorem exists_coreReaction {st : Stage} (hcore : CoreAt P setup i st amf)
    (hphase : amf.phaseBUpf = some setup.upfIp) (hroom : amf.world.slots < 2 ^ 32)
    (himsi : (setup.imsi i).toNat < 2 ^ 40) {msg : NgapMessage} {rest : List NgapMessage}
    (hup : st.up P setup i = msg :: rest) :
    let r := Amf.step P amf (.ngap rand msg)
    ∃ st', CoreReaction P setup i rand msg amf r.1 r.2 st st' := by
  cases st with
  | requesting =>
      cases hup
      exact ⟨_, coreReaction_request rand hroom⟩
  | identifying e =>
      cases hup
      exact ⟨_, coreReaction_identityResponse rand hcore himsi⟩
  | answering e rand' =>
      cases hup
      exact ⟨_, coreReaction_authResponse rand hcore⟩
  | completing e rand' =>
      cases hup
      exact ⟨_, coreReaction_secModeComplete rand hcore hphase⟩
  | attached a confirmed activity =>
      cases confirmed with
      | nothing =>
          have hmsg : setupResponse (setup.ueArgs i) a.entity defaultPduSessionId = msg := by
            cases activity <;> exact (List.cons_eq_cons.mp hup).1
          rw [← hmsg]
          exact ⟨_, coreReaction_setupResponse rand hcore⟩
      | session =>
          have hmsg : uplinkMessage (setup.ueArgs i) a.entity encodeRegistrationComplete = msg := by
            cases activity <;> exact (List.cons_eq_cons.mp hup).1
          rw [← hmsg]
          exact ⟨_, coreReaction_registrationComplete rand hcore⟩
      | registration =>
          cases activity with
          | leaving =>
              cases hup
              exact ⟨_, coreReaction_deregistrationRequest rand hcore⟩
          | _ => cases hup
  | releasing a =>
      cases hup
      exact ⟨_, coreReaction_releaseComplete rand hcore⟩
  | _ => cases hup

end Reactions

end Midn.Sim.Gnb
