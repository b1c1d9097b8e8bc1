import Midn.Core.Amf.Procedure
import Midn.Core.Amf.Resources
import Midn.Crypto.Standard
import Midn.Lib.Dialogue

/-!
# Registration of an honest UE

The UE of the simulator in dialogue with the AMF. Where the simulator assumes the first sequence
number, this UE takes SQN ⊕ AK from the AUTN it receives and verifies MAC-A with it.
-/

namespace Midn.Core.Amf

open Ecs Nas5gs Ngap

variable (P : Primitives)

/-! ## The UE -/

/-- The subscription of a UE and the cell it registers in. -/
structure Ue where
  ctx : Auth.MilenageContext
  imsi : UInt64
  ranUeNgapId : UInt32
  tai : Octets 6
  nrCgi : Octets 9

/-- What a UE has derived and received so far. -/
structure UeState where
  kamf : Option (Octets 32)
  nasSecurity : Option Nas5gsSecurityContext
  accept : Option DecodedRegistrationAccept

namespace Ue

variable (ue : Ue)

/-- The serving network the cell broadcasts. -/
def plmn : Octets 3 := ue.tai.slice 0 3 plmn_in_tai

/-- RES* and KAMF for a challenge whose MAC-A verifies. -/
def answerChallenge (rand autn : Octets 16) : Option (Octets 16 × Octets 32) :=
  let sqnXorAk := autn.slice 0 6 Auth.sqn_in_autn
  -- AK depends on RAND alone, so any SQN yields the one that unmasks the received SQN
  let ak := (ue.ctx.compute P rand (Octets.zeros 6) milenageAmfField).ak
  let vector := ue.ctx.compute P rand (Octets.xor sqnXorAk ak) (autn.slice 6 2 Auth.amf_in_autn)
  if autn.slice 8 8 Auth.macA_in_autn = vector.macA then
    let snn := servingNetworkName ue.plmn
    let kausf := deriveKausf P vector.ck vector.ik snn sqnXorAk
    let kseaf := deriveKseaf P kausf snn
    some (deriveResStar P vector.ck vector.ik snn rand vector.res,
      deriveKamf P kseaf (supiOf ue.imsi) defaultAbba)
  else none

/-- The reply to a downlink NAS PDU, plain or in an envelope. -/
def receive (u : UeState) (nasPdu : List UInt8) : Option (List UInt8) × UeState :=
  if securityHeaderType nasPdu = nas5gsShtPlain then
    match decodeNas5gs nasPdu with
    | .ok (.identityRequest _) => (some (encodeIdentityResponseSuci (suciForImsi ue.imsi)), u)
    | .ok (.authenticationRequest inner) =>
        match ue.answerChallenge P inner.rand inner.autn with
        | none => (none, u)
        | some (resStar, kamf) => (some (encodeAuthResponse resStar), { u with kamf := some kamf })
    | .ok (.securityModeCommand inner) =>
        match u.kamf with
        | none => (none, u)
        | some kamf =>
            let ctx := Nas5gsSecurityContext.new P kamf inner.nasCipherAlg inner.nasIntegrityAlg
            (some encodeSecModeComplete, { u with nasSecurity := some ctx })
    | _ => (none, u)
  else
    match u.nasSecurity with
    | none => (none, u)
    | some ctx =>
        match decodeProtectedDownlink P ctx nasPdu with
        | (none, _) => (none, u)
        | (some plain, ctx) =>
            let u := { u with nasSecurity := some ctx }
            match decodeNas5gs plain with
            | .ok (.registrationAccept inner) => (none, { u with accept := some inner })
            | _ => (none, u)

/-- The gNodeB wraps a NAS PDU for the entity the core answered with. -/
def uplink (amfUeNgapId : UInt32) (nasPdu : List UInt8) : NgapMessage :=
  .uplinkNasTransport ⟨amfUeNgapId, ue.ranUeNgapId, nasPdu, ue.tai, ue.nrCgi⟩

/-- The gNodeB passes the first NAS PDU for the UE on and its reply back. -/
def react (u : UeState) (output : Output) : Option NgapMessage × UeState :=
  match output.1.findSome? (NgapMessage.deliveryTo ue.ranUeNgapId) with
  | none => (none, u)
  | some (amfUeNgapId, nasPdu) =>
      let (reply, u) := ue.receive P u nasPdu
      (reply.map (ue.uplink amfUeNgapId), u)

/-- The first message, a registration request without a GUTI. -/
def initial (registrationType ngKsi : UInt8) (ueSecurityCap : UInt16)
    (rrcEstablishmentCause : UInt8) : NgapMessage :=
  .initialUeMessage
    { ranUeNgapId := ue.ranUeNgapId
      nasPdu := encodeRegistrationRequest registrationType ngKsi none ueSecurityCap
      tai := ue.tai
      nrCgi := ue.nrCgi
      rrcEstablishmentCause := rrcEstablishmentCause }

/-- The registration of a UE that knows nothing yet; each step of the AMF may draw a RAND. -/
def register (amf : Amf) (message : NgapMessage) (rands : List (Octets 16)) :
    List Transition × UeState :=
  Mealy.dialogue (step P) Input.ngap (ue.react P) rands amf ⟨none, none, none⟩ message

end Ue

variable {P} {ue : Ue} {u u' : UeState} {e : EntityId} {n : Entity} {amf : Amf}

/-! ## What the UE makes of a downlink message -/

/-- A PDU that decodes as plain has a plain header. -/
theorem securityHeaderType_of_decode {nasPdu : List UInt8} {pdu : Nas5gsPdu}
    (hdecode : decodeNas5gs nasPdu = .ok pdu) : securityHeaderType nasPdu = nas5gsShtPlain := by
  unfold decodeNas5gs at hdecode
  split at hdecode
  next epd header msgType body =>
    split at hdecode
    · cases hdecode
    · split at hdecode
      · cases hdecode
      next hsht => exact not_not.mp hsht
  next => cases hdecode

/-- A lone message for the UE is received and its reply sent to the entity named in it. -/
theorem Ue.react_of_delivery {output : Output} {msg : NgapMessage} {nasPdu : List UInt8}
    {reply : Option (List UInt8)} (houtput : output.1 = [msg])
    (hdelivery : msg.deliveryTo ue.ranUeNgapId = some (e, nasPdu))
    (hreceive : ue.receive P u nasPdu = (reply, u')) :
    ue.react P u output = (reply.map (ue.uplink e), u') := by
  have hfirst : output.1.findSome? (NgapMessage.deliveryTo ue.ranUeNgapId) = some (e, nasPdu) := by
    rw [houtput, List.findSome?_cons, hdelivery]
  simp only [react, hfirst, hreceive]

/-- The UE identifies itself by its SUCI. -/
theorem Ue.receive_identityRequest (identityType : UInt8) :
    ue.receive P u (encodeIdentityRequest identityType) =
      (some (encodeIdentityResponseSuci (suciForImsi ue.imsi)), u) := by
  have hdecode := decodeNas5gs_encodeIdentityRequest identityType
  rw [receive, if_pos (securityHeaderType_of_decode hdecode), hdecode]

/-- From a genuine AUTN the UE derives the XRES* and the KAMF of the network. -/
theorem Ue.answerChallenge_autn (rand : Octets 16) (sqn : Octets 6) :
    let authInfo : HssAuthInfo := ⟨rand, ue.ctx.compute P rand sqn milenageAmfField, sqn⟩
    ue.answerChallenge P rand (authInfo.vector.autn sqn milenageAmfField) =
      some (xresStarOf P authInfo ue.plmn,
        kamfOf P ue.imsi (challengeContext P authInfo ue.plmn)) := by
  have hak := (ue.ctx.compute_indep_sqn P rand (Octets.zeros 6) sqn milenageAmfField
    milenageAmfField).2.2.2
  simp only [answerChallenge, Auth.AuthVector.autn_sqnXorAk, Auth.AuthVector.autn_amf,
    Auth.AuthVector.autn_macA, hak, Octets.xor_xor_cancel_right, if_true]
  rfl

theorem Ue.receive_authRequest {rand autn resStar : Octets 16} {kamf : Octets 32}
    (hanswer : ue.answerChallenge P rand autn = some (resStar, kamf)) (ngKsi : UInt8) :
    ue.receive P u (encodeAuthRequest ngKsi rand autn) =
      (some (encodeAuthResponse resStar), { u with kamf := some kamf }) := by
  have hdecode := decodeNas5gs_encodeAuthRequest ngKsi rand autn
  rw [receive, if_pos (securityHeaderType_of_decode hdecode), hdecode]
  simp only [hanswer]

theorem Ue.receive_secModeCmd {kamf : Octets 32} (hkamf : u.kamf = some kamf)
    {nasCipherAlg nasIntegrityAlg : UInt8} (hcipher : nasCipherAlg < 16)
    (hintegrity : nasIntegrityAlg < 16) (replayedUeSecCap : UInt16) :
    ue.receive P u (encodeSecModeCmd nasCipherAlg nasIntegrityAlg replayedUeSecCap) =
      (some encodeSecModeComplete,
        { u with nasSecurity := some (.new P kamf nasCipherAlg nasIntegrityAlg) }) := by
  have hdecode := decodeNas5gs_encodeSecModeCmd hcipher hintegrity replayedUeSecCap
  rw [receive, if_pos (securityHeaderType_of_decode hdecode), hdecode]
  simp only [hkamf]

theorem decodeNas5gs_registrationAcceptPlain (e : EntityId) :
    decodeNas5gs (registrationAcceptPlain e) =
      .ok (.registrationAccept ⟨1, placeholderGuti e, []⟩) :=
  decodeNas5gs_encodeRegistrationAccept 1 (placeholderGuti e)

theorem securityHeaderType_encodeProtected (ctx : Nas5gsSecurityContext) (plain : List UInt8) :
    securityHeaderType (encodeProtected P ctx nas5gsShtIntegrityCiphered plain).1 ≠
      nas5gsShtPlain := by
  simp only [encodeProtected, encodeEnvelope, List.cons_append, securityHeaderType]
  decide

/-- The context that an entity is about to install opens the accept. -/
theorem decodeProtectedDownlink_registrationAccept (e : EntityId) (n : Entity) :
    decodeProtectedDownlink P (initialContext P n) (registrationAcceptOf P e n).1 =
      (some (registrationAcceptPlain e), { initialContext P n with dlCount := 1 }) :=
  decodeProtectedDownlink_encodeProtected P (.refl (initialContext P n)) rfl (by decide)
    (by decide) (registrationAcceptPlain e)

/-- The UE opens the accept with the context it has derived. -/
theorem Ue.receive_registrationAccept
    (hctx : u.nasSecurity = some (initialContext P n)) :
    ue.receive P u (registrationAcceptOf P e n).1 =
      (none, { u with
        nasSecurity := some { initialContext P n with dlCount := 1 }
        accept := some ⟨1, placeholderGuti e, []⟩ }) := by
  have hprotected : securityHeaderType (registrationAcceptOf P e n).1 ≠ nas5gsShtPlain :=
    securityHeaderType_encodeProtected _ _
  rw [receive, if_neg hprotected, hctx]
  simp only [decodeProtectedDownlink_registrationAccept, decodeNas5gs_registrationAcceptPlain]

/-! ## What the AMF answers -/

theorem issueChallenge_output (hentity : amf.world.get? e = some n) (ranUeNgapId : UInt32)
    (imsi : UInt64) (authInfo : HssAuthInfo) (hss : Hss) :
    (issueChallenge P amf ranUeNgapId e imsi authInfo hss).2 =
      ([.downlinkNasTransport ⟨e, ranUeNgapId, encodeAuthRequest 0 authInfo.rand
        (authInfo.vector.autn authInfo.sqnUsed milenageAmfField)⟩], []) := by
  simp only [issueChallenge, World.security5g?, hentity, Option.map_some, milenageAmf_eq]

/-- The expected RES* is answered by a SecurityModeCommand. -/
theorem verifyResponse_output (hentity : amf.world.get? e = some n) (ranUeNgapId : UInt32) :
    (verifyResponse amf ranUeNgapId e n.security5g.pendingXresStar).2 =
      ([.downlinkNasTransport ⟨e, ranUeNgapId,
        encodeSecModeCmd selectedNasCipherAlg selectedNasIntegrityAlg 0x2040⟩], []) := by
  have hequal := (ctEq16_iff n.security5g.pendingXresStar _).mpr rfl
  simp only [verifyResponse, World.security5g?, hentity, Option.map_some, hequal, if_true]

/-- SecurityModeComplete is answered by one message with the accept in it, in phase B together
with the KAMF. -/
theorem handleSecurityModeComplete_output (hentity : amf.world.get? e = some n)
    (ranUeNgapId : UInt32) :
    ∃ msg events, (handleSecurityModeComplete P amf ranUeNgapId e).2 = ([msg], events) ∧
      msg.deliveryTo ranUeNgapId = some (e, (registrationAcceptOf P e n).1) ∧
      ∀ upfAddr, amf.phaseBUpf = some upfAddr → ∃ icsr, msg = .initialContextSetupRequest icsr ∧
        icsr.securityKey = kamfOf P n.identity.imsi n.security5g := by
  simp only [handleSecurityModeComplete, World.identity?, World.security5g?, hentity,
    Option.map_some]
  cases hupf : amf.phaseBUpf with
  | none =>
      refine ⟨_, _, rfl, if_pos rfl, ?_⟩
      intro upfAddr hsome
      cases hsome
  | some upfAddr =>
      refine ⟨_, _, rfl, if_pos rfl, ?_⟩
      intro _ _
      exact ⟨_, rfl, rfl⟩

/-! ## The four exchanges -/

section Exchanges

variable (P ue u) (rand : Octets 16)

/-- A registration request spawns an entity in the serving network of the UE, and the UE identifies
itself to it. -/
theorem Ue.exchange_initial (amf : Amf) (registrationType ngKsi : UInt8) (ueSecurityCap : UInt16)
    (rrcEstablishmentCause : UInt8) :
    let input := Input.ngap rand
      (ue.initial registrationType ngKsi ueSecurityCap rrcEstablishmentCause)
    (step P amf input).1.hss = amf.hss ∧
      ∃ n, (step P amf input).1.world.get? amf.world.spawn.1 = some n ∧
        n.security5g.plmn = ue.plmn ∧
        ue.react P u (step P amf input).2 =
          (some (ue.uplink amf.world.spawn.1
            (encodeIdentityResponseSuci (suciForImsi ue.imsi))), u) := by
  intro input
  have hstep : step P amf input = requestIdentity amf ue.ranUeNgapId ue.plmn :=
    step_registrationRequest P amf rand registrationType ngKsi ueSecurityCap rfl
  have hentity : (requestIdentity amf ue.ranUeNgapId ue.plmn).1.world.get? amf.world.spawn.1 =
      some (registering ue.ranUeNgapId ue.plmn
        ((amf.world.get? amf.world.spawn.1).getD .empty)) := by
    rw [get?_requestIdentity, Function.update_self]
  rw [hstep]
  refine ⟨rfl, _, hentity, rfl, ?_⟩
  exact Ue.react_of_delivery rfl (NgapMessage.deliveryTo_downlinkNasTransport ..)
    (Ue.receive_identityRequest idtypeSuci)

/-- The subscriber that has identified itself is challenged, and the UE answers with the RES* that
is now expected, having derived the KAMF the entity's material yields. -/
theorem Ue.exchange_identityResponse {sqn : UInt64}
    (hsub : amf.hss.subscribers ue.imsi = some ⟨ue.ctx, sqn⟩) (himsi : ue.imsi.toNat < 2 ^ 40)
    (hentity : amf.world.get? e = some n) (hplmn : n.security5g.plmn = ue.plmn) :
    let input := Input.ngap rand (ue.uplink e (encodeIdentityResponseSuci (suciForImsi ue.imsi)))
    ∃ n', (step P amf input).1.world.get? e = some n' ∧
      ue.react P u (step P amf input).2 =
        (some (ue.uplink e (encodeAuthResponse n'.security5g.pendingXresStar)),
          { u with kamf := some (kamfOf P n'.identity.imsi n'.security5g) }) := by
  intro input
  let sqnUsed := SubscriberRecord.sqnBytes ⟨ue.ctx, sqn⟩
  let authInfo : HssAuthInfo :=
    ⟨rand, ue.ctx.compute P rand sqnUsed milenageAmfField, sqnUsed⟩
  have hstep : step P amf input = issueChallenge P amf ue.ranUeNgapId e ue.imsi authInfo
      (amf.hss.generateAuthVector P ue.imsi rand).2 :=
    step_identityResponse P amf hsub himsi rand rfl
  have hanswer := ue.answerChallenge_autn (P := P) rand sqnUsed
  have hchallenged : (step P amf input).1.world.get? e =
      some (challenged P ue.ranUeNgapId ue.imsi authInfo n) := by
    rw [hstep, get?_issueChallenge, Function.update_self, hentity, Option.map_some]
  refine ⟨_, hchallenged, ?_⟩
  rw [hstep, issueChallenge_output hentity, challenged, hplmn]
  exact Ue.react_of_delivery rfl (NgapMessage.deliveryTo_downlinkNasTransport ..)
    (Ue.receive_authRequest hanswer 0)

/-- The expected RES* authenticates the entity, and the UE takes its context into use. -/
theorem Ue.exchange_authResponse (hentity : amf.world.get? e = some n) {kamf : Octets 32}
    (hkamf : u.kamf = some kamf) :
    let input := Input.ngap rand (ue.uplink e (encodeAuthResponse n.security5g.pendingXresStar))
    (step P amf input).1.world.get? e = some (answered n.security5g.pendingXresStar n) ∧
      ue.react P u (step P amf input).2 =
        (some (ue.uplink e encodeSecModeComplete),
          { u with
            nasSecurity := some (.new P kamf selectedNasCipherAlg selectedNasIntegrityAlg) }) := by
  intro input
  have hstep : step P amf input =
      verifyResponse amf ue.ranUeNgapId e n.security5g.pendingXresStar :=
    step_authResponse P amf rand rfl
  rw [hstep]
  constructor
  · rw [get?_verifyResponse, Function.update_self, hentity, Option.map_some]
  · rw [verifyResponse_output hentity]
    exact Ue.react_of_delivery rfl (NgapMessage.deliveryTo_downlinkNasTransport ..)
      (Ue.receive_secModeCmd hkamf (by decide) (by decide) 0x2040)

/-- SecurityModeComplete activates the context of the UE, which opens the accept with it. -/
theorem Ue.exchange_secModeComplete (hentity : amf.world.get? e = some n)
    (hctx : u.nasSecurity = some (initialContext P n)) :
    let input := Input.ngap rand (ue.uplink e encodeSecModeComplete)
    let ctx := { initialContext P n with dlCount := 1 }
    (step P amf input).1.world.get? e = some (secured P amf e n) ∧
      nasTo e (step P amf input).2 = [(registrationAcceptOf P e n).1] ∧
      ue.react P u (step P amf input).2 =
        (none, { u with nasSecurity := some ctx, accept := some ⟨1, placeholderGuti e, []⟩ }) ∧
      ∀ upfAddr, amf.phaseBUpf = some upfAddr → ∃ icsr,
        (step P amf input).2.1 = [.initialContextSetupRequest icsr] ∧
        icsr.securityKey = kamfOf P n.identity.imsi n.security5g := by
  intro input ctx
  have hstep : step P amf input = handleSecurityModeComplete P amf ue.ranUeNgapId e :=
    step_secModeComplete P amf rand rfl
  have hnas := nasTo_perform P amf (.securityModeComplete e ue.ranUeNgapId) e
  obtain ⟨msg, events, houtput, hdelivery, hkey⟩ :=
    handleSecurityModeComplete_output (P := P) hentity ue.ranUeNgapId
  rw [hstep]
  refine ⟨?_, ?_, ?_, ?_⟩
  · rw [get?_handleSecurityModeComplete, Function.update_self, hentity, Option.map_some]
  · rw [perform, Request.target, if_pos rfl, hentity] at hnas
    exact hnas
  · rw [houtput]
    exact Ue.react_of_delivery rfl hdelivery (Ue.receive_registrationAccept hctx)
  · intro upfAddr hupf
    obtain ⟨icsr, rfl, hsecurityKey⟩ := hkey upfAddr hupf
    exact ⟨icsr, by rw [houtput], hsecurityKey⟩

end Exchanges

variable (P)

/-- An honest UE registers with any AMF, in any state, whose HSS has its subscription: after four
messages it is authenticated, UE and AMF hold the same NAS context under the KAMF of the UE, the
accept opens under it, and in phase B the gNodeB receives the same KAMF. -/
theorem register_completes (amf : Amf) (ue : Ue) {sqn : UInt64}
    (hsub : amf.hss.subscribers ue.imsi = some ⟨ue.ctx, sqn⟩) (himsi : ue.imsi.toNat < 2 ^ 40)
    (registrationType ngKsi : UInt8) (ueSecurityCap : UInt16) (rrcEstablishmentCause : UInt8)
    (rand₁ rand₂ rand₃ rand₄ : Octets 16) (rands : List (Octets 16)) :
    let e := amf.world.spawn.1
    let message := ue.initial registrationType ngKsi ueSecurityCap rrcEstablishmentCause
    ∃ t₁ t₂ t₃ t₄ kamf ctx accept envelope plain,
      ue.register P amf message (rand₁ :: rand₂ :: rand₃ :: rand₄ :: rands) =
        ([t₁, t₂, t₃, t₄], ⟨some kamf, some ctx, some accept⟩) ∧
      t₄.post.world.authState e = some .authenticated ∧
      t₄.post.world.nasSecurity5g? e = some ctx ∧
      nasTo e t₄.output = [envelope] ∧
      decodeProtectedDownlink P
        (.new P kamf selectedNasCipherAlg selectedNasIntegrityAlg) envelope = (some plain, ctx) ∧
      decodeNas5gs plain = .ok (.registrationAccept accept) ∧
      ∀ upfAddr, amf.phaseBUpf = some upfAddr → ∃ icsr,
        t₄.output.1 = [.initialContextSetupRequest icsr] ∧ icsr.securityKey = kamf := by
  intro e message
  obtain ⟨hhss, n₁, hentity₁, hplmn, hreact₁⟩ :=
    ue.exchange_initial P ⟨none, none, none⟩ rand₁ amf registrationType ngKsi ueSecurityCap
      rrcEstablishmentCause
  rw [← hhss] at hsub
  obtain ⟨n₂, hentity₂, hreact₂⟩ :=
    ue.exchange_identityResponse P ⟨none, none, none⟩ rand₂ hsub himsi hentity₁ hplmn
  let kamf := kamfOf P n₂.identity.imsi n₂.security5g
  let n₃ := answered n₂.security5g.pendingXresStar n₂
  obtain ⟨hentity₃, hreact₃⟩ :=
    ue.exchange_authResponse P ⟨some kamf, none, none⟩ rand₃ hentity₂ rfl
  obtain ⟨hentity₄, hnas, hreact₄, hkey⟩ :=
    ue.exchange_secModeComplete P
      ⟨some kamf, some (.new P kamf selectedNasCipherAlg selectedNasIntegrityAlg), none⟩ rand₄
      hentity₃ rfl
  simp only [phaseBUpf_step] at hkey
  let t₁ := Mealy.transition (step P) amf (.ngap rand₁ message)
  let t₂ := Mealy.transition (step P) t₁.post
    (.ngap rand₂ (ue.uplink e (encodeIdentityResponseSuci (suciForImsi ue.imsi))))
  let t₃ := Mealy.transition (step P) t₂.post
    (.ngap rand₃ (ue.uplink e (encodeAuthResponse n₂.security5g.pendingXresStar)))
  let t₄ := Mealy.transition (step P) t₃.post (.ngap rand₄ (ue.uplink e encodeSecModeComplete))
  refine ⟨t₁, t₂, t₃, t₄, kamf, { initialContext P n₃ with dlCount := 1 },
    ⟨1, placeholderGuti e, []⟩, (registrationAcceptOf P e n₃).1, registrationAcceptPlain e,
    ?_, ?_, ?_, hnas, ?_, ?_, hkey⟩
  · rw [Ue.register, Mealy.dialogue_of_reply hreact₁, Mealy.dialogue_of_reply hreact₂,
      Mealy.dialogue_of_reply hreact₃, Mealy.dialogue_of_silence hreact₄]
    rfl
  · -- the entity has kept the outcome of its answer
    have hauth : (answered n₂.security5g.pendingXresStar n₂).auth = .authenticated := if_pos rfl
    exact (congrArg (Option.map Entity.auth) hentity₄).trans (congrArg some hauth)
  · exact congrArg (Option.bind · Entity.nasSecurity5g) hentity₄
  · exact decodeProtectedDownlink_registrationAccept ..
  · exact decodeNas5gs_registrationAcceptPlain e

/-- The test UE. -/
def testUe : Ue where
  ctx := ⟨Octets.zeros 16, Octets.zeros 16⟩
  imsi := testImsi
  ranUeNgapId := 1
  tai := Octets.zeros 6
  nrCgi := Octets.zeros 9

/-- The test UE registers with a fresh AMF in phase B. -/
theorem testUe_completes :
    ∃ t₁ t₂ t₃ t₄ kamf ctx accept envelope plain,
      testUe.register .standard (provisioned .standard (some (Octets.zeros 4)))
        (testUe.initial 1 0 0x00C0 0) (List.replicate 4 (Octets.zeros 16)) =
          ([t₁, t₂, t₃, t₄], ⟨some kamf, some ctx, some accept⟩) ∧
      t₄.post.world.authState 0 = some .authenticated ∧
      t₄.post.world.nasSecurity5g? 0 = some ctx ∧
      nasTo 0 t₄.output = [envelope] ∧
      decodeProtectedDownlink .standard
        (.new .standard kamf selectedNasCipherAlg selectedNasIntegrityAlg) envelope =
          (some plain, ctx) ∧
      decodeNas5gs plain = .ok (.registrationAccept accept) ∧
      ∀ upfAddr, (provisioned .standard (some (Octets.zeros 4))).phaseBUpf = some upfAddr →
        ∃ icsr, t₄.output.1 = [.initialContextSetupRequest icsr] ∧ icsr.securityKey = kamf :=
  register_completes .standard (provisioned .standard (some (Octets.zeros 4))) testUe rfl
    (by decide) 1 0 0x00C0 0 (Octets.zeros 16) (Octets.zeros 16) (Octets.zeros 16)
    (Octets.zeros 16) []

end Midn.Core.Amf
