import Midn.Core.Amf.HonestUe
import Midn.Lib.Mux
import Midn.Proto.Ngap.RoundTrip
import Midn.Proto.Resync
import Midn.Sim.Gnb.LifeCycle

/-!
# What a UE does at each stage

The task of a UE takes each message that can be under way to it without an error, and what it sends
in return is what is under way at its next stage.
-/

namespace Midn.Sim.Gnb

open Midn.Core Midn.Core.Amf Ecs Nas5gs Ngap Container Per

/-! ## Messages of a UE on the wire -/

section Wire

variable (ue : UeArgs)

theorem roundTrips_initialMessage : (initialMessage ue).RoundTrips := by
  have hrange : (0 : UInt8).toNat ≤ rrcEstablishmentCauseMax := by decide
  have hsmall : containerLength
      [4, octetStringLength (encodeRegistrationRequest 1 0 none 0x00C0).length, 15, 1] < 16384 := by
    decide
  exact NgapMessage.roundTrips_of_encode
    (exists_map_ok (exists_encodeInitialUeMessage hrange hsmall))

theorem roundTrips_uplinkMessage (e : EntityId) {nasPdu : List UInt8}
    (hshort : nasPdu.length < 128) : (uplinkMessage ue e nasPdu).RoundTrips := by
  refine NgapMessage.roundTrips_of_encode (exists_map_ok (exists_encodeUplinkNasTransport ?_))
  have hoctets : octetStringLength nasPdu.length ≤ octetStringLength 128 :=
    octetStringLength_mono hshort.le
  have hlonger : List.Forall₂ (· ≤ ·) [4, 4, octetStringLength nasPdu.length, 15]
      [4, 4, octetStringLength 128, 15] :=
    .cons (le_refl _) (.cons (le_refl _) (.cons hoctets (.cons (le_refl _) .nil)))
  exact lt_of_le_of_lt (containerLength_mono hlonger) (by decide)

theorem roundTrips_setupResponse (e : EntityId) (pduSessionId : UInt8) :
    (setupResponse ue e pduSessionId).RoundTrips := by
  have hsmall : containerLength [4, 4, lengthDeterminantLength 1 + 9 * 1] < 16384 := by decide
  exact NgapMessage.roundTrips_of_encode
    (exists_map_ok (exists_encodeInitialContextSetupResponse hsmall))

theorem roundTrips_releaseComplete (e ranUeNgapId : UInt32) :
    (NgapMessage.ueContextReleaseComplete ⟨e, ranUeNgapId⟩).RoundTrips :=
  NgapMessage.roundTrips_of_encode
    (exists_map_ok (exists_encodeUeContextReleaseComplete ⟨e, ranUeNgapId⟩))

theorem length_encodeIdentityResponseSuci (suci : Suci) :
    (encodeIdentityResponseSuci suci).length < 128 := by
  simp only [encodeIdentityResponseSuci, header, Nas.writeLv, List.length_append,
    List.length_cons, suci.payload_length]
  decide

theorem length_encodeAuthResponse (resStar : Octets 16) :
    (encodeAuthResponse resStar).length < 128 := by
  simp [encodeAuthResponse, header, Nas.writeLv]

end Wire

/-- A message that survives the wire is sent, and the task goes on. -/
theorem UeTask.send_of_roundTrips {msg : NgapMessage} (hround : msg.RoundTrips) :
    ∃ octets, decodeNgapPdu octets = .ok msg ∧ ∀ (u : UeTask) (andThen : UeTask → UeTask),
      u.send msg andThen = andThen { u with outbox := u.outbox ++ [octets] } := by
  obtain ⟨octets, hput, hdecode⟩ := hround
  refine ⟨octets, hdecode, ?_⟩
  intro u andThen
  simp only [UeTask.send, hput]

/-! ## Opening what the core has protected -/

/-- A receiver that is behind opens a message if it finds the COUNT of the sender. -/
theorem decodeProtectedDownlink_of_resync {P : Primitives} {net ue : Nas5gsSecurityContext}
    (hkeys : net.SameKeys ue)
    (hcount : Nas.reconstructCount ue.dlCount (Nas.seqOctet net.dlCount) = net.dlCount)
    {sht : UInt8} (hplain : sht ≠ 0) (hsht : sht < 16) (plain : List UInt8) :
    (decodeProtectedDownlink P ue (encodeProtected P net sht plain).1).1 = some plain := by
  have hopen := Nas5gsSecurityContext.unprotect_protect P hkeys net.dlCount .downlink plain
  rw [Nas.seqOctet] at hcount
  simp only [Nas5gsSecurityContext.protect] at hopen
  simp only [encodeProtected, decodeProtectedDownlink, Nas5gsSecurityContext.protectDownlink,
    decodeEnvelope_encodeEnvelope hplain hsht, Nas5gsSecurityContext.unprotectDownlink,
    Nas5gsSecurityContext.protect, hcount, hopen]

section Reactions

variable (P : Primitives) (setup : Setup) (i : Fin setup.nUes)

/-- The UE computes the vector of the network. -/
theorem vectorFor_eq (rand : Octets 16) :
    vectorFor P setup.ctx rand = (authInfo P setup rand).vector := by
  rw [vectorFor, Auth.Sqn.toBytes_fromBytes, milenageAmf_eq]
  rfl

theorem resStarFor_eq (rand : Octets 16) :
    resStarFor P setup.ctx rand = (challengedUe P setup i rand).security5g.pendingXresStar := by
  rw [resStarFor, vectorFor_eq]
  rfl

/-- UE and core arrive at the same KAMF. -/
theorem kamfFor_eq (rand : Octets 16) :
    kamfFor P setup.ctx (setup.ueArgs i) rand =
      kamfOf P (answeredUe P setup i rand).identity.imsi
        (answeredUe P setup i rand).security5g := by
  rw [kamfFor, vectorFor_eq]
  rfl

theorem openProtected_registrationAccept (a : Admission) :
    openProtected P (kamfFor P setup.ctx (setup.ueArgs i) a.rand)
      (registrationAcceptOf P a.entity (answeredUe P setup i a.rand)).1 =
        some (registrationAcceptPlain a.entity) := by
  have hopen := decodeProtectedDownlink_registrationAccept (P := P) a.entity
    (answeredUe P setup i a.rand)
  rw [openProtected, kamfFor_eq]
  exact congrArg Prod.fst hopen

/-- The accept of the deregistration is the second message under the context of the core, and a
fresh context of the UE opens it all the same. -/
theorem openProtected_deregistrationAccept (a : Admission) :
    openProtected P (kamfFor P setup.ctx (setup.ueArgs i) a.rand)
      (deregistrationAcceptOf P (connectedUe P setup i a)) = some encodeDeregistrationAccept := by
  let ue := initialContext P (answeredUe P setup i a.rand)
  let net := { ue with dlCount := 1 }
  have hkeys : Nas5gsSecurityContext.SameKeys net ue := ⟨rfl, rfl, rfl, rfl⟩
  have hcount : Nas.reconstructCount 0 (Nas.seqOctet 1) = 1 := by decide
  have hprotected : nas5gsShtIntegrityCiphered ≠ 0 := by decide
  rw [openProtected, kamfFor_eq]
  exact decodeProtectedDownlink_of_resync hkeys hcount hprotected (by decide)
    encodeDeregistrationAccept

/-! ## One reaction -/

/-- Where the task of a UE at a stage stands. -/
structure TaskAt (st : Stage) (u : UeTask) : Prop where
  progress : u.progress = st.progress setup
  amfUeNgapId : u.amfUeNgapId = st.amfUeNgapId
  kamf : u.kamf = st.kamf P setup i

/-- A task takes the received messages and goes on to the next stage of its life cycle, with all
that it sends in its outbox. The core is not concerned. -/
structure Reaction (received : List NgapMessage) (st st' : Stage) (u u' : UeTask) : Prop where
  next : st.Next st'
  task : TaskAt P setup i st' u'
  ngapRx : u'.ngapRx = u.ngapRx
  gtpRx : u'.gtpRx = u.gtpRx
  down : st.down P setup i = received ++ st'.down P setup i
  up : ∃ octets msgs, Mux.Decodes decodeNgapPdu octets msgs ∧ u'.outbox = u.outbox ++ octets ∧
    st'.up P setup i = st.up P setup i ++ msgs ∧ msgs.length ≤ 2
  entity? : st'.entity? = st.entity?
  components : st'.components P setup i = st.components P setup i
  unchallenged : st'.unchallenged = true → st.unchallenged = true

variable {P setup i} {u : UeTask}

/-- The first thing a UE does is to ask for its registration. -/
theorem reaction_start (htask : TaskAt P setup i .idle u) :
    Reaction P setup i [] .idle .requesting u (start (setup.ueArgs i) u) := by
  obtain ⟨octets, hdecode, hsend⟩ :=
    UeTask.send_of_roundTrips (roundTrips_initialMessage (setup.ueArgs i))
  rw [start, hsend]
  exact
    { next := .request
      task := ⟨rfl, htask.amfUeNgapId, htask.kamf⟩
      ngapRx := rfl
      gtpRx := rfl
      down := rfl
      up := ⟨[octets], _, Mux.decodes_singleton hdecode, rfl, rfl, Nat.le_succ 1⟩
      entity? := rfl
      components := rfl
      unchallenged := fun _ => rfl }

/-- A message for the UE is not misrouted. -/
theorem onMessage_of_ran {msg : NgapMessage}
    (hran : ranUeNgapIdOf msg = some (setup.ranUeNgapId i)) :
    onMessage P setup.ctx (setup.ueArgs i) u msg =
      onMessage.react P setup.ctx (setup.ueArgs i) u msg := by
  have hsame : (setup.ueArgs i).ranUeNgapId = setup.ranUeNgapId i := rfl
  simp only [onMessage, hran, hsame, ne_eq, not_true_eq_false, if_false]

/-- A plain NAS PDU from the core the UE answers to. -/
theorem onMessage_plain {e : EntityId} {nasPdu : List UInt8} {pdu : Nas5gsPdu}
    (hdecode : decodeNas5gs nasPdu = .ok pdu) (hid : u.amfUeNgapId.getD e = e) :
    onMessage P setup.ctx (setup.ueArgs i) u
        (.downlinkNasTransport ⟨e, setup.ranUeNgapId i, nasPdu⟩) =
      onPlainNas P setup.ctx (setup.ueArgs i) { u with amfUeNgapId := some e } e nasPdu := by
  have hplain := securityHeaderType_of_decode hdecode
  rw [onMessage_of_ran rfl, onMessage.react, onDownlinkNas]
  simp only [hid, hplain, ne_eq, not_true_eq_false, if_false]

/-- Asked for its identity, the UE names its subscriber. -/
theorem reaction_identityRequest {e : EntityId} (htask : TaskAt P setup i (.asked e) u) :
    Reaction P setup i ((Stage.asked e).down P setup i) (.asked e) (.identifying e) u
      (onMessage P setup.ctx (setup.ueArgs i) u
        (.downlinkNasTransport ⟨e, setup.ranUeNgapId i, encodeIdentityRequest idtypeSuci⟩)) := by
  have hdecode := decodeNas5gs_encodeIdentityRequest idtypeSuci
  have hid : u.amfUeNgapId.getD e = e := by rw [htask.amfUeNgapId]; rfl
  obtain ⟨octets, hsent, hsend⟩ := UeTask.send_of_roundTrips
    (roundTrips_uplinkMessage (setup.ueArgs i) e
      (length_encodeIdentityResponseSuci (suciForImsi (setup.ueArgs i).imsi)))
  rw [onMessage_plain hdecode hid, onPlainNas, hdecode]
  simp only [hsend, id]
  exact
    { next := .identify e
      task := ⟨htask.progress, rfl, htask.kamf⟩
      ngapRx := rfl
      gtpRx := rfl
      down := rfl
      up := ⟨[octets], _, Mux.decodes_singleton hsent, rfl, rfl, Nat.le_succ 1⟩
      entity? := rfl
      components := rfl
      unchallenged := fun _ => rfl }

/-- Challenged, the UE answers with the RES* that the core expects and keeps its KAMF. -/
theorem reaction_authRequest {e : EntityId} {rand autn : Octets 16}
    (htask : TaskAt P setup i (.challenged e rand) u) {msg : NgapMessage}
    (hmsg : msg = .downlinkNasTransport ⟨e, setup.ranUeNgapId i, encodeAuthRequest 0 rand autn⟩)
    (hdown : (Stage.challenged e rand).down P setup i = [msg]) :
    Reaction P setup i [msg] (.challenged e rand) (.answering e rand) u
      (onMessage P setup.ctx (setup.ueArgs i) u msg) := by
  have hdecode := decodeNas5gs_encodeAuthRequest 0 rand autn
  have hid : u.amfUeNgapId.getD e = e := by rw [htask.amfUeNgapId]; rfl
  obtain ⟨octets, hsent, hsend⟩ := UeTask.send_of_roundTrips
    (roundTrips_uplinkMessage (setup.ueArgs i) e
      (length_encodeAuthResponse (resStarFor P setup.ctx rand)))
  rw [hmsg, onMessage_plain hdecode hid, onPlainNas, hdecode]
  simp only [hsend, id]
  exact
    { next := .answer e rand
      task := ⟨htask.progress, rfl, rfl⟩
      ngapRx := rfl
      gtpRx := rfl
      down := by rw [hdown, hmsg]; rfl
      up := ⟨[octets], _, Mux.decodes_singleton hsent, rfl, rfl, Nat.le_succ 1⟩
      entity? := rfl
      components := rfl
      unchallenged := fun h => h }

/-- Commanded, the UE confirms the security mode. -/
theorem reaction_secModeCmd {e : EntityId} {rand : Octets 16}
    (htask : TaskAt P setup i (.commanded e rand) u) :
    Reaction P setup i ((Stage.commanded e rand).down P setup i) (.commanded e rand)
      (.completing e rand) u
      (onMessage P setup.ctx (setup.ueArgs i) u
        (.downlinkNasTransport ⟨e, setup.ranUeNgapId i,
          encodeSecModeCmd selectedNasCipherAlg selectedNasIntegrityAlg 0x2040⟩)) := by
  have hcipher : selectedNasCipherAlg < 16 := by decide
  have hdecode := decodeNas5gs_encodeSecModeCmd hcipher (by decide : selectedNasIntegrityAlg < 16)
    0x2040
  have hid : u.amfUeNgapId.getD e = e := by rw [htask.amfUeNgapId]; rfl
  have hshort : encodeSecModeComplete.length < 128 := by decide
  obtain ⟨octets, hsent, hsend⟩ := UeTask.send_of_roundTrips
    (roundTrips_uplinkMessage (setup.ueArgs i) e hshort)
  rw [onMessage_plain hdecode hid, onPlainNas, hdecode]
  simp only [hsend, id]
  exact
    { next := .complete e rand
      task := ⟨htask.progress, rfl, htask.kamf⟩
      ngapRx := rfl
      gtpRx := rfl
      down := rfl
      up := ⟨[octets], _, Mux.decodes_singleton hsent, rfl, rfl, Nat.le_succ 1⟩
      entity? := rfl
      components := rfl
      unchallenged := fun h => h }

/-- Accepted, the UE confirms the session and the registration and begins to send. -/
theorem reaction_setupRequest {a : Admission} (htask : TaskAt P setup i (.accepted a) u) :
    Reaction P setup i [Stage.setupRequest P setup i a] (.accepted a)
      (.attached a .nothing (.sending firstAttempt)) u
      (onMessage P setup.ctx (setup.ueArgs i) u (Stage.setupRequest P setup i a)) := by
  have hid : u.amfUeNgapId.getD a.entity = a.entity := by rw [htask.amfUeNgapId]; rfl
  have hkamf : u.kamf = some (kamfFor P setup.ctx (setup.ueArgs i) a.rand) := htask.kamf
  have hopen := openProtected_registrationAccept P setup i a
  have hplain := decodeNas5gs_registrationAcceptPlain a.entity
  have hshort : encodeRegistrationComplete.length < 128 := by decide
  obtain ⟨response, hresponse, hsend⟩ := UeTask.send_of_roundTrips
    (roundTrips_setupResponse (setup.ueArgs i) a.entity defaultPduSessionId)
  obtain ⟨complete, hcomplete, hsend'⟩ := UeTask.send_of_roundTrips
    (roundTrips_uplinkMessage (setup.ueArgs i) a.entity hshort)
  rw [onMessage_of_ran rfl, Stage.setupRequest, onMessage.react, onSetupRequest]
  simp only [hid, hkamf, hopen, hplain, hsend, hsend', List.append_assoc, List.singleton_append]
  exact
    { next := .attach a
      task := by
        refine ⟨?_, rfl, rfl⟩
        simp only [UInt32.fromBeBytes_toBeBytes]
        rfl
      ngapRx := rfl
      gtpRx := rfl
      down := rfl
      up := ⟨[response, complete], _,
        (Mux.decodes_singleton hresponse).append (Mux.decodes_singleton hcomplete), rfl, rfl,
        le_refl 2⟩
      entity? := rfl
      components := rfl
      unchallenged := fun h => h }

/-- The accept of the deregistration is opened and asks for nothing. -/
theorem reaction_deregistrationAccept {a : Admission}
    (htask : TaskAt P setup i (.dismissed a) u) {msg : NgapMessage}
    (hmsg : msg = .downlinkNasTransport ⟨a.entity, setup.ranUeNgapId i,
      deregistrationAcceptOf P (connectedUe P setup i a)⟩)
    (hdown : (Stage.dismissed a).down P setup i = msg :: (Stage.ordered a).down P setup i) :
    Reaction P setup i [msg] (.dismissed a) (.ordered a) u
      (onMessage P setup.ctx (setup.ueArgs i) u msg) := by
  have hid : u.amfUeNgapId.getD a.entity = a.entity := by rw [htask.amfUeNgapId]; rfl
  have hkamf : u.kamf = some (kamfFor P setup.ctx (setup.ueArgs i) a.rand) := htask.kamf
  have hopen := openProtected_deregistrationAccept P setup i a
  have hprotected : securityHeaderType (deregistrationAcceptOf P (connectedUe P setup i a)) ≠
      nas5gsShtPlain := securityHeaderType_encodeProtected _ _
  rw [hmsg, onMessage_of_ran rfl, onMessage.react, onDownlinkNas]
  simp only [hid, hprotected, ne_eq, not_false_eq_true, if_true, onProtectedNas, hkamf, hopen,
    decodeNas5gs_encodeDeregistrationAccept]
  exact
    { next := .order a
      task := ⟨htask.progress, rfl, rfl⟩
      ngapRx := rfl
      gtpRx := rfl
      down := by rw [hdown, hmsg]; rfl
      up := ⟨[], [], rfl, (List.append_nil _).symm, rfl, Nat.zero_le 2⟩
      entity? := rfl
      components := rfl
      unchallenged := fun h => h }

/-- Ordered to release its context, the UE confirms and is done. -/
theorem reaction_releaseCommand {a : Admission} (htask : TaskAt P setup i (.ordered a) u) :
    Reaction P setup i [Stage.releaseCommand setup i a] (.ordered a) (.releasing a) u
      (onMessage P setup.ctx (setup.ueArgs i) u (Stage.releaseCommand setup i a)) := by
  obtain ⟨octets, hsent, hsend⟩ := UeTask.send_of_roundTrips
    (roundTrips_releaseComplete a.entity (setup.ranUeNgapId i))
  rw [onMessage_of_ran rfl, Stage.releaseCommand, onMessage.react, onReleaseCommand, hsend]
  exact
    { next := .release a
      task := ⟨rfl, htask.amfUeNgapId, htask.kamf⟩
      ngapRx := rfl
      gtpRx := rfl
      down := rfl
      up := ⟨[octets], _, Mux.decodes_singleton hsent, rfl, rfl, Nat.le_succ 1⟩
      entity? := rfl
      components := rfl
      unchallenged := fun h => h }

/-- Whatever is next on its way to a UE, the UE takes it without an error. -/
theorem exists_reaction {st : Stage} (htask : TaskAt P setup i st u) {msg : NgapMessage}
    {rest : List NgapMessage} (hdown : st.down P setup i = msg :: rest) :
    ∃ st', st'.down P setup i = rest ∧
      Reaction P setup i [msg] st st' u (onMessage P setup.ctx (setup.ueArgs i) u msg) := by
  cases st with
  | asked e =>
      cases hdown
      exact ⟨_, rfl, reaction_identityRequest htask⟩
  | challenged e rand =>
      obtain ⟨hmsg, rfl⟩ := List.cons_eq_cons.mp hdown
      exact ⟨_, rfl, reaction_authRequest htask hmsg.symm (by rw [hdown])⟩
  | commanded e rand =>
      cases hdown
      exact ⟨_, rfl, reaction_secModeCmd htask⟩
  | accepted a =>
      cases hdown
      exact ⟨_, rfl, reaction_setupRequest htask⟩
  | dismissed a =>
      obtain ⟨hmsg, rfl⟩ := List.cons_eq_cons.mp hdown
      exact ⟨_, rfl, reaction_deregistrationAccept htask hmsg.symm hdown⟩
  | ordered a =>
      cases hdown
      exact ⟨_, rfl, reaction_releaseCommand htask⟩
  | _ => cases hdown

/-! ## The user plane -/

/-- The echo of the payload leads on to the deregistration. -/
theorem reaction_echo {a : Admission} {confirmed : Confirmed}
    {attempt : Fin maxAttempts}
    (htask : TaskAt P setup i (.attached a confirmed (.waiting attempt)) u) :
    Reaction P setup i [] (.attached a confirmed (.waiting attempt))
      (.attached a confirmed .leaving) u (onEcho (setup.ueArgs i) u payload) := by
  have hid : u.amfUeNgapId = some a.entity := htask.amfUeNgapId
  have hshort : (encodeDeregistrationRequest false).length < 128 := by decide
  obtain ⟨octets, hsent, hsend⟩ := UeTask.send_of_roundTrips
    (roundTrips_uplinkMessage (setup.ueArgs i) a.entity hshort)
  rw [onEcho]
  simp only [ne_eq, not_true_eq_false, if_false, hid, hsend]
  exact
    { next := .act a confirmed (.leave attempt)
      task := ⟨rfl, rfl, htask.kamf⟩
      ngapRx := rfl
      gtpRx := rfl
      down := rfl
      up := ⟨[octets], _, Mux.decodes_singleton hsent, rfl, rfl, Nat.le_succ 1⟩
      entity? := rfl
      components := by cases confirmed <;> rfl
      unchallenged := fun h => h }

/-- A packet goes out, and the task waits for its echo. -/
theorem reaction_transmit {a : Admission} {confirmed : Confirmed}
    {attempt : Fin maxAttempts}
    (htask : TaskAt P setup i (.attached a confirmed (.sending attempt)) u) :
    Reaction P setup i [] (.attached a confirmed (.sending attempt))
      (.attached a confirmed (.waiting attempt)) u
      { u with progress := .awaitingEcho (attempt.val + 1) setup.upfIp a.ulTeid } where
  next := .act a confirmed (.transmit attempt)
  task := ⟨rfl, htask.amfUeNgapId, htask.kamf⟩
  ngapRx := rfl
  gtpRx := rfl
  down := rfl
  up := ⟨[], [], rfl, (List.append_nil _).symm, (List.append_nil _).symm, Nat.zero_le 2⟩
  entity? := rfl
  components := by cases confirmed <;> rfl
  unchallenged := fun h => h

/-- A packet that does not go out is the last attempt. -/
theorem reaction_transmitFails {a : Admission} {confirmed : Confirmed}
    {attempt : Fin maxAttempts}
    (htask : TaskAt P setup i (.attached a confirmed (.sending attempt)) u) :
    Reaction P setup i [] (.attached a confirmed (.sending attempt))
      (.attached a confirmed (.stranded .unsent)) u (u.fail .gtpSocket) where
  next := .act a confirmed (.fail attempt)
  task := ⟨rfl, htask.amfUeNgapId, htask.kamf⟩
  ngapRx := rfl
  gtpRx := rfl
  down := rfl
  up := ⟨[], [], rfl, (List.append_nil _).symm, (List.append_nil _).symm, Nat.zero_le 2⟩
  entity? := rfl
  components := by cases confirmed <;> rfl
  unchallenged := fun h => h

/-- Without an echo the task tries again. -/
theorem reaction_retry {a : Admission} {confirmed : Confirmed}
    {attempt attempt' : Fin maxAttempts} (hnext : attempt'.val = attempt.val + 1)
    (htask : TaskAt P setup i (.attached a confirmed (.waiting attempt)) u) :
    Reaction P setup i [] (.attached a confirmed (.waiting attempt))
      (.attached a confirmed (.sending attempt')) u
      { u with progress := .transmitting (attempt.val + 1) setup.upfIp a.ulTeid } where
  next := .act a confirmed (.retry hnext)
  task := ⟨by rw [← hnext]; rfl, htask.amfUeNgapId, htask.kamf⟩
  ngapRx := rfl
  gtpRx := rfl
  down := rfl
  up := ⟨[], [], rfl, (List.append_nil _).symm, (List.append_nil _).symm, Nat.zero_le 2⟩
  entity? := rfl
  components := by cases confirmed <;> rfl
  unchallenged := fun h => h

/-- After the last attempt it gives up. -/
theorem reaction_giveUp {a : Admission} {confirmed : Confirmed}
    {attempt : Fin maxAttempts} (hlast : attempt.val + 1 = maxAttempts)
    (htask : TaskAt P setup i (.attached a confirmed (.waiting attempt)) u) :
    Reaction P setup i [] (.attached a confirmed (.waiting attempt))
      (.attached a confirmed (.stranded .noEcho)) u (u.fail .noEcho) where
  next := .act a confirmed (.giveUp hlast)
  task := ⟨rfl, htask.amfUeNgapId, htask.kamf⟩
  ngapRx := rfl
  gtpRx := rfl
  down := rfl
  up := ⟨[], [], rfl, (List.append_nil _).symm, (List.append_nil _).symm, Nat.zero_le 2⟩
  entity? := rfl
  components := by cases confirmed <;> rfl
  unchallenged := fun h => h

end Reactions

end Midn.Sim.Gnb
