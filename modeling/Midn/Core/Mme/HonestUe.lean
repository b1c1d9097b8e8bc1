import Midn.Core.Mme.Procedure
import Midn.Core.Mme.Resources
import Midn.Crypto.Standard
import Midn.Lib.Dialogue

/-!
# Attach of an honest UE

The UE of the simulator in dialogue with the MME. Where the simulator assumes the first sequence
number, this UE takes SQN ⊕ AK from the AUTN it receives and verifies MAC-A with it.
-/

namespace Midn.Core.Mme

open Ecs Nas S1ap

variable (P : Primitives)

/-! ## The UE -/

/-- The subscription of a UE and the cell it attaches in. -/
structure Ue where
  ctx : Auth.MilenageContext
  imsi : UInt64
  enbUeS1apId : UInt32
  tai : Octets 5
  eutranCgi : Octets 7

/-- What a UE has derived and received so far. -/
structure UeState where
  kasme : Option (Octets 32)
  nasSecurity : Option NasSecurityContext
  accept : Option DecodedAttachAccept

namespace Ue

variable (ue : Ue)

/-- The serving network the cell broadcasts. -/
def plmn : Octets 3 := ue.tai.slice 0 3 plmn_in_tai

/-- RES and Kasme for a challenge whose MAC-A verifies. -/
def answerChallenge (rand autn : Octets 16) : Option (Octets 8 × Octets 32) :=
  let sqnXorAk := autn.slice 0 6 Auth.sqn_in_autn
  -- AK depends on RAND alone, so any SQN yields the one that unmasks the received SQN
  let ak := (ue.ctx.compute P rand (Octets.zeros 6) milenageAmfField).ak
  let vector := ue.ctx.compute P rand (Octets.xor sqnXorAk ak) (autn.slice 6 2 Auth.amf_in_autn)
  if autn.slice 8 8 Auth.macA_in_autn = vector.macA then
    some (vector.res, deriveKasme P vector.ck vector.ik ue.plmn sqnXorAk)
  else none

/-- The reply to a downlink NAS PDU, plain or in an envelope. -/
def receive (u : UeState) (nasPdu : List UInt8) : Option (List UInt8) × UeState :=
  if securityHeaderType nasPdu = shtPlain then
    match decodeNas nasPdu with
    | .ok (.authenticationRequest inner) =>
        match ue.answerChallenge P inner.rand inner.autn with
        | none => (none, u)
        | some (res, kasme) => (some (encodeAuthResponse res), { u with kasme := some kasme })
    | .ok (.securityModeCommand inner) =>
        match u.kasme with
        | none => (none, u)
        | some kasme =>
            let ctx := NasSecurityContext.new P kasme inner.eea inner.eia
            (some encodeSecModeComplete, { u with nasSecurity := some ctx })
    | _ => (none, u)
  else
    match u.nasSecurity with
    | none => (none, u)
    | some ctx =>
        match decodeProtectedDownlink P ctx nasPdu nasBearer with
        | (none, _) => (none, u)
        | (some plain, ctx) =>
            let u := { u with nasSecurity := some ctx }
            match decodeNas plain with
            | .ok (.attachAccept inner) => (none, { u with accept := some inner })
            | _ => (none, u)

/-- The eNodeB wraps a NAS PDU for the entity the core answered with. -/
def uplink (mmeUeS1apId : UInt32) (nasPdu : List UInt8) : S1apMessage :=
  .uplinkNasTransport ⟨mmeUeS1apId, ue.enbUeS1apId, nasPdu, ue.tai, ue.eutranCgi⟩

/-- The eNodeB passes the first NAS PDU for the UE on and its reply back. -/
def react (u : UeState) (output : Output) : Option S1apMessage × UeState :=
  match output.1.findSome? (S1apMessage.deliveryTo ue.enbUeS1apId) with
  | none => (none, u)
  | some (mmeUeS1apId, nasPdu) =>
      let (reply, u) := ue.receive P u nasPdu
      (reply.map (ue.uplink mmeUeS1apId), u)

/-- The first message, an attach request with the IMSI. -/
def initial (epsAttachType nasKsi rrcCause : UInt8) : S1apMessage :=
  .initialUeMessage
    { enbUeS1apId := ue.enbUeS1apId
      nasPdu := encodeAttachRequest ue.imsi epsAttachType nasKsi
      tai := ue.tai
      eutranCgi := ue.eutranCgi
      rrcCause := rrcCause }

/-- The attach of a UE that knows nothing yet; each step of the MME may draw a RAND. -/
def attach (mme : Mme) (message : S1apMessage) (rands : List (Octets 16)) :
    List Transition × UeState :=
  Mealy.dialogue (step P) Input.s1ap (ue.react P) rands mme ⟨none, none, none⟩ message

end Ue

variable {P} {ue : Ue} {u u' : UeState} {e : EntityId} {n : Entity} {mme : Mme}

/-! ## What the UE makes of a downlink message -/

/-- A PDU that decodes as plain has a plain header. -/
theorem securityHeaderType_of_decode {nasPdu : List UInt8} {pdu : NasPdu}
    (hdecode : decodeNas nasPdu = .ok pdu) : securityHeaderType nasPdu = shtPlain := by
  unfold decodeNas at hdecode
  split at hdecode
  next first msgType body =>
    split at hdecode
    · cases hdecode
    · split at hdecode
      · cases hdecode
      next hsht => exact not_not.mp hsht
  next => cases hdecode

/-- A lone message for the UE is received and its reply sent to the entity named in it. -/
theorem Ue.react_of_delivery {output : Output} {msg : S1apMessage} {nasPdu : List UInt8}
    {reply : Option (List UInt8)} (houtput : output.1 = [msg])
    (hdelivery : msg.deliveryTo ue.enbUeS1apId = some (e, nasPdu))
    (hreceive : ue.receive P u nasPdu = (reply, u')) :
    ue.react P u output = (reply.map (ue.uplink e), u') := by
  have hfirst : output.1.findSome? (S1apMessage.deliveryTo ue.enbUeS1apId) = some (e, nasPdu) := by
    rw [houtput, List.findSome?_cons, hdelivery]
  simp only [react, hfirst, hreceive]

/-- From a genuine AUTN the UE derives the RES and the Kasme of the network. -/
theorem Ue.answerChallenge_autn (rand : Octets 16) (sqn : Octets 6) :
    let authInfo : HssAuthInfo := ⟨rand, ue.ctx.compute P rand sqn milenageAmfField, sqn⟩
    ue.answerChallenge P rand (authInfo.vector.autn sqn milenageAmfField) =
      some (authInfo.vector.res, kasmeOf P (challengeContext authInfo ue.plmn)) := by
  have hak := (ue.ctx.compute_indep_sqn P rand (Octets.zeros 6) sqn milenageAmfField
    milenageAmfField).2.2.2
  simp only [answerChallenge, Auth.AuthVector.autn_sqnXorAk, Auth.AuthVector.autn_amf,
    Auth.AuthVector.autn_macA, hak, Octets.xor_xor_cancel_right, if_true]
  rfl

theorem Ue.receive_authRequest {rand autn : Octets 16} {res : Octets 8} {kasme : Octets 32}
    (hanswer : ue.answerChallenge P rand autn = some (res, kasme)) (nasKsi : UInt8) :
    ue.receive P u (encodeAuthRequest nasKsi rand autn) =
      (some (encodeAuthResponse res), { u with kasme := some kasme }) := by
  have hdecode := decodeNas_encodeAuthRequest nasKsi rand autn
  rw [receive, if_pos (securityHeaderType_of_decode hdecode), hdecode]
  simp only [hanswer]

theorem Ue.receive_secModeCmd {kasme : Octets 32} (hkasme : u.kasme = some kasme)
    (eea : NasEeaAlgorithm) (eia : NasEiaAlgorithm) (nasKsi : UInt8) (ueCap : List UInt8) :
    ue.receive P u (encodeSecModeCmd eea eia nasKsi ueCap) =
      (some encodeSecModeComplete, { u with nasSecurity := some (.new P kasme eea eia) }) := by
  have hdecode := decodeNas_encodeSecModeCmd eea eia nasKsi ueCap
  rw [receive, if_pos (securityHeaderType_of_decode hdecode), hdecode]
  simp only [hkasme]

theorem decodeNas_attachAcceptPlain (ueIp : Octets 4) :
    decodeNas (attachAcceptPlain ueIp) =
      .ok (.attachAccept ⟨1, 0x54, none, some ueIp, none⟩) :=
  decodeNas_encodeAttachAccept 1 0x54 ueIp

theorem securityHeaderType_encodeProtected (ctx : NasSecurityContext) (plain : List UInt8) :
    securityHeaderType (encodeProtected P ctx shtIntegrityCiphered nasBearer plain).1 ≠
      shtPlain := by
  simp only [encodeProtected, encodeEnvelope, List.cons_append, securityHeaderType]
  decide

/-- The context that an entity is about to install opens the accept. -/
theorem decodeProtectedDownlink_attachAccept (n : Entity) :
    decodeProtectedDownlink P (initialContext P n) (attachAcceptOf P n).1 nasBearer =
      (some (attachAcceptPlain n.identity.ueIp), { initialContext P n with dlCount := 1 }) :=
  decodeProtectedDownlink_encodeProtected P (.refl (initialContext P n)) rfl (by decide)
    (by decide) nasBearer (attachAcceptPlain n.identity.ueIp)

/-- The UE opens the accept with the context it has derived. -/
theorem Ue.receive_attachAccept (hctx : u.nasSecurity = some (initialContext P n)) :
    ue.receive P u (attachAcceptOf P n).1 =
      (none, { u with
        nasSecurity := some { initialContext P n with dlCount := 1 }
        accept := some ⟨1, 0x54, none, some n.identity.ueIp, none⟩ }) := by
  have hprotected : securityHeaderType (attachAcceptOf P n).1 ≠ shtPlain :=
    securityHeaderType_encodeProtected _ _
  rw [receive, if_neg hprotected, hctx]
  simp only [decodeProtectedDownlink_attachAccept, decodeNas_attachAcceptPlain]

/-! ## What the MME answers -/

/-- The expected RES is answered by a SecurityModeCommand. -/
theorem verifyResponse_output (hentity : mme.world.get? e = some n) (enbUeS1apId : UInt32) :
    (verifyResponse mme enbUeS1apId e n.security.pendingXres).2 =
      ([.downlinkNasTransport ⟨e, enbUeS1apId,
        encodeSecModeCmd selectedEea selectedEia 0 [0x20, 0x40]⟩], []) := by
  simp only [verifyResponse, World.security?, hentity, Option.map_some,
    Auth.MilenageContext.verifyRes, decide_true, if_true]

/-- SecurityModeComplete is answered by one message with the accept in it, in phase 3 together
with the Kasme. -/
theorem handleSecurityModeComplete_output (hentity : mme.world.get? e = some n)
    (enbUeS1apId : UInt32) :
    ∃ msg events, (handleSecurityModeComplete P mme enbUeS1apId e).2 = ([msg], events) ∧
      msg.deliveryTo enbUeS1apId = some (e, (attachAcceptOf P n).1) ∧
      ∀ upfAddr, mme.phase3Upf = some upfAddr → ∃ icsr, msg = .initialContextSetupRequest icsr ∧
        icsr.securityKey = kasmeOf P n.security := by
  simp only [handleSecurityModeComplete, World.identity?, World.security?, hentity,
    Option.map_some]
  cases hupf : mme.phase3Upf with
  | none =>
      refine ⟨_, _, rfl, if_pos rfl, ?_⟩
      intro upfAddr hsome
      cases hsome
  | some upfAddr =>
      refine ⟨_, _, rfl, if_pos rfl, ?_⟩
      intro _ _
      exact ⟨_, rfl, rfl⟩

/-! ## The three exchanges -/

section Exchanges

variable (P ue u) (rand : Octets 16)

/-- A subscriber that attaches is registered to a new entity and challenged, and the UE answers with
the RES that is now expected, having derived the Kasme the entity's material yields. -/
theorem Ue.exchange_initial {sqn : UInt64}
    (hsub : mme.hss.subscribers ue.imsi = some ⟨ue.ctx, sqn⟩) (himsi : ue.imsi.toNat < 10 ^ 15)
    (epsAttachType nasKsi rrcCause : UInt8) :
    let input := Input.s1ap rand (ue.initial epsAttachType nasKsi rrcCause)
    let e := mme.world.spawn.1
    (step P mme input).1.registry.lookup ue.imsi = some e ∧
      ∃ n, (step P mme input).1.world.get? e = some n ∧
        ue.react P u (step P mme input).2 =
          (some (ue.uplink e (encodeAuthResponse n.security.pendingXres)),
            { u with kasme := some (kasmeOf P n.security) }) := by
  intro input e
  let sqnUsed := SubscriberRecord.sqnBytes ⟨ue.ctx, sqn⟩
  let authInfo : HssAuthInfo :=
    ⟨rand, ue.ctx.compute P rand sqnUsed milenageAmfField, sqnUsed⟩
  have hstep : step P mme input = issueChallenge mme ue.enbUeS1apId ue.plmn ue.imsi authInfo
      (mme.hss.generateAuthVector P ue.imsi rand).2 :=
    step_attachRequest P mme hsub himsi rand epsAttachType nasKsi rfl
  have hanswer := ue.answerChallenge_autn (P := P) rand sqnUsed
  have hentity : (step P mme input).1.world.get? e =
      some (challenged ue.enbUeS1apId ue.plmn ue.imsi authInfo
        ((mme.world.get? e).getD .empty)) := by
    rw [hstep, get?_issueChallenge, Function.update_self]
  refine ⟨?_, _, hentity, ?_⟩
  · rw [hstep]
    exact mme.registry.lookup_register ue.imsi e
  · rw [hstep]
    exact Ue.react_of_delivery rfl (S1apMessage.deliveryTo_downlinkNasTransport ..)
      (Ue.receive_authRequest hanswer 0)

/-- The expected RES authenticates the entity, and the UE takes its context into use. -/
theorem Ue.exchange_authResponse (hentity : mme.world.get? e = some n) {kasme : Octets 32}
    (hkasme : u.kasme = some kasme) :
    let input := Input.s1ap rand (ue.uplink e (encodeAuthResponse n.security.pendingXres))
    (step P mme input).1.registry = mme.registry ∧
      (step P mme input).1.world.get? e = some (answered n.security.pendingXres n) ∧
      ue.react P u (step P mme input).2 =
        (some (ue.uplink e encodeSecModeComplete),
          { u with nasSecurity := some (.new P kasme selectedEea selectedEia) }) := by
  intro input
  have hstep : step P mme input = verifyResponse mme ue.enbUeS1apId e n.security.pendingXres :=
    step_authResponse P mme rand rfl
  rw [hstep]
  refine ⟨?_, ?_, ?_⟩
  · unfold verifyResponse
    split
    · rfl
    · split <;> rfl
  · rw [get?_verifyResponse, Function.update_self, hentity, Option.map_some]
  · rw [verifyResponse_output hentity]
    exact Ue.react_of_delivery rfl (S1apMessage.deliveryTo_downlinkNasTransport ..)
      (Ue.receive_secModeCmd hkasme selectedEea selectedEia 0 [0x20, 0x40])

/-- SecurityModeComplete activates the context of the UE, which opens the accept with it. -/
theorem Ue.exchange_secModeComplete (hentity : mme.world.get? e = some n)
    (hctx : u.nasSecurity = some (initialContext P n)) :
    let input := Input.s1ap rand (ue.uplink e encodeSecModeComplete)
    let ctx := { initialContext P n with dlCount := 1 }
    (step P mme input).1.registry = mme.registry ∧
      (step P mme input).1.world.get? e = some (secured P mme n) ∧
      nasTo e (step P mme input).2 = [(attachAcceptOf P n).1] ∧
      ue.react P u (step P mme input).2 =
        (none, { u with
          nasSecurity := some ctx
          accept := some ⟨1, 0x54, none, some n.identity.ueIp, none⟩ }) ∧
      ∀ upfAddr, mme.phase3Upf = some upfAddr → ∃ icsr,
        (step P mme input).2.1 = [.initialContextSetupRequest icsr] ∧
        icsr.securityKey = kasmeOf P n.security := by
  intro input ctx
  have hstep : step P mme input = handleSecurityModeComplete P mme ue.enbUeS1apId e :=
    step_secModeComplete P mme rand rfl
  have hnas := nasTo_perform P mme (.securityModeComplete e ue.enbUeS1apId) e
  obtain ⟨msg, events, houtput, hdelivery, hkey⟩ :=
    handleSecurityModeComplete_output (P := P) hentity ue.enbUeS1apId
  rw [hstep]
  refine ⟨?_, ?_, ?_, ?_, ?_⟩
  · unfold handleSecurityModeComplete
    split
    · dsimp only
      split <;> rfl
    · rfl
  · rw [get?_handleSecurityModeComplete, Function.update_self, hentity, Option.map_some]
  · rw [perform, Request.target, if_pos rfl, hentity] at hnas
    exact hnas
  · rw [houtput]
    exact Ue.react_of_delivery rfl hdelivery (Ue.receive_attachAccept hctx)
  · intro upfAddr hupf
    obtain ⟨icsr, rfl, hsecurityKey⟩ := hkey upfAddr hupf
    exact ⟨icsr, by rw [houtput], hsecurityKey⟩

/-- The rest of the dialogue once the UE has its challenge, from whatever state the MME is then
in. -/
theorem Ue.dialogue_of_challenged (hentity : mme.world.get? e = some n) (rand' : Octets 16)
    (rands : List (Octets 16)) :
    let kasme := kasmeOf P n.security
    ∃ t₁ t₂ ctx accept envelope plain,
      Mealy.dialogue (step P) Input.s1ap (ue.react P) (rand :: rand' :: rands) mme
          ⟨some kasme, none, none⟩ (ue.uplink e (encodeAuthResponse n.security.pendingXres)) =
        ([t₁, t₂], ⟨some kasme, some ctx, some accept⟩) ∧
      t₂.post.registry = mme.registry ∧
      t₂.post.world.authState e = some .authenticated ∧
      t₂.post.world.nasSecurity? e = some ctx ∧
      nasTo e t₂.output = [envelope] ∧
      decodeProtectedDownlink P (.new P kasme selectedEea selectedEia) envelope nasBearer =
        (some plain, ctx) ∧
      decodeNas plain = .ok (.attachAccept accept) ∧
      ∀ upfAddr, mme.phase3Upf = some upfAddr → ∃ icsr,
        t₂.output.1 = [.initialContextSetupRequest icsr] ∧ icsr.securityKey = kasme := by
  intro kasme
  let n' := answered n.security.pendingXres n
  obtain ⟨hregistry₁, hentity₁, hreact₁⟩ :=
    ue.exchange_authResponse P ⟨some kasme, none, none⟩ rand hentity rfl
  obtain ⟨hregistry₂, hentity₂, hnas, hreact₂, hkey⟩ :=
    ue.exchange_secModeComplete P
      ⟨some kasme, some (.new P kasme selectedEea selectedEia), none⟩ rand' hentity₁ rfl
  simp only [phase3Upf_step] at hkey
  let t₁ := Mealy.transition (step P) mme
    (.s1ap rand (ue.uplink e (encodeAuthResponse n.security.pendingXres)))
  let t₂ := Mealy.transition (step P) t₁.post (.s1ap rand' (ue.uplink e encodeSecModeComplete))
  refine ⟨t₁, t₂, { initialContext P n' with dlCount := 1 },
    ⟨1, 0x54, none, some n'.identity.ueIp, none⟩, (attachAcceptOf P n').1,
    attachAcceptPlain n'.identity.ueIp, ?_, hregistry₂.trans hregistry₁, ?_, ?_, hnas, ?_, ?_, hkey⟩
  · rw [Mealy.dialogue_of_reply hreact₁, Mealy.dialogue_of_silence hreact₂]
    rfl
  · -- the entity has kept the outcome of its answer
    have hauth : n'.auth = .authenticated := if_pos (decide_eq_true rfl)
    exact (congrArg (Option.map Entity.auth) hentity₂).trans (congrArg some hauth)
  · exact congrArg (Option.bind · Entity.nasSecurity) hentity₂
  · exact decodeProtectedDownlink_attachAccept n'
  · exact decodeNas_attachAcceptPlain n'.identity.ueIp

end Exchanges

variable (P)

/-- An honest UE attaches to any MME, in any state, whose HSS has its subscription: after three
messages its IMSI is registered to the new entity, which is authenticated, UE and MME hold the same
NAS context under the Kasme of the UE, the accept opens under it, and in phase 3 the eNodeB receives
the same Kasme. -/
theorem attach_completes (mme : Mme) (ue : Ue) {sqn : UInt64}
    (hsub : mme.hss.subscribers ue.imsi = some ⟨ue.ctx, sqn⟩) (himsi : ue.imsi.toNat < 10 ^ 15)
    (epsAttachType nasKsi rrcCause : UInt8) (rand₁ rand₂ rand₃ : Octets 16)
    (rands : List (Octets 16)) :
    let e := mme.world.spawn.1
    let message := ue.initial epsAttachType nasKsi rrcCause
    ∃ t₁ t₂ t₃ kasme ctx accept envelope plain,
      ue.attach P mme message (rand₁ :: rand₂ :: rand₃ :: rands) =
        ([t₁, t₂, t₃], ⟨some kasme, some ctx, some accept⟩) ∧
      t₃.post.registry.lookup ue.imsi = some e ∧
      t₃.post.world.authState e = some .authenticated ∧
      t₃.post.world.nasSecurity? e = some ctx ∧
      nasTo e t₃.output = [envelope] ∧
      decodeProtectedDownlink P (.new P kasme selectedEea selectedEia) envelope nasBearer =
        (some plain, ctx) ∧
      decodeNas plain = .ok (.attachAccept accept) ∧
      ∀ upfAddr, mme.phase3Upf = some upfAddr → ∃ icsr,
        t₃.output.1 = [.initialContextSetupRequest icsr] ∧ icsr.securityKey = kasme := by
  intro e message
  obtain ⟨hlookup, n, hentity, hreact⟩ :=
    ue.exchange_initial P ⟨none, none, none⟩ rand₁ hsub himsi epsAttachType nasKsi rrcCause
  obtain ⟨t₂, t₃, ctx, accept, envelope, plain, hrest, hregistry, hauth, hctx, hnas, hopen, hdecode,
    hkey⟩ := ue.dialogue_of_challenged P rand₂ hentity rand₃ rands
  rw [phase3Upf_step] at hkey
  refine ⟨Mealy.transition (step P) mme (.s1ap rand₁ message), t₂, t₃, kasmeOf P n.security, ctx,
    accept, envelope, plain, ?_, ?_, hauth, hctx, hnas, hopen, hdecode, hkey⟩
  · rw [Ue.attach, Mealy.dialogue_of_reply hreact, hrest]
  · rw [hregistry]
    exact hlookup

/-- The test UE. -/
def testUe : Ue where
  ctx := ⟨Octets.zeros 16, Octets.zeros 16⟩
  imsi := testImsi
  enbUeS1apId := 1
  tai := Octets.zeros 5
  eutranCgi := Octets.zeros 7

/-- The test UE attaches to a fresh MME in phase 3. -/
theorem testUe_attaches :
    ∃ t₁ t₂ t₃ kasme ctx accept envelope plain,
      testUe.attach .standard (provisioned .standard (some (Octets.zeros 4)))
        (testUe.initial 1 7 0) (List.replicate 3 (Octets.zeros 16)) =
          ([t₁, t₂, t₃], ⟨some kasme, some ctx, some accept⟩) ∧
      t₃.post.registry.lookup testImsi = some 0 ∧
      t₃.post.world.authState 0 = some .authenticated ∧
      t₃.post.world.nasSecurity? 0 = some ctx ∧
      nasTo 0 t₃.output = [envelope] ∧
      decodeProtectedDownlink .standard (.new .standard kasme selectedEea selectedEia) envelope
        nasBearer = (some plain, ctx) ∧
      decodeNas plain = .ok (.attachAccept accept) ∧
      ∀ upfAddr, (provisioned .standard (some (Octets.zeros 4))).phase3Upf = some upfAddr →
        ∃ icsr, t₃.output.1 = [.initialContextSetupRequest icsr] ∧ icsr.securityKey = kasme :=
  attach_completes .standard (provisioned .standard (some (Octets.zeros 4))) testUe rfl
    (by decide) 1 7 0 (Octets.zeros 16) (Octets.zeros 16) (Octets.zeros 16) []

end Midn.Core.Mme
