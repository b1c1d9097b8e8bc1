import Midn.Lib.Mux
import Midn.Proto.Resync
import Midn.Proto.S1ap.RoundTrip
import Midn.Sim.Enb.LifeCycle

/-!
# What the LTE UE does at each stage

The task takes whatever can be under way to it without an error, and what it sends in return is what
is under way at its next stage.
-/

namespace Midn.Sim.Enb

open Midn.Core Midn.Core.Mme Ecs Nas S1ap Container Per

/-! ## Messages of the UE on the wire -/

section Wire

theorem enbUeS1apId_le : enbUeS1apId.toNat ≤ enbUeS1apIdMax := by decide

theorem length_encodeAttachRequest : (encodeAttachRequest testImsi 1 0).length < 128 := by
  simp [encodeAttachRequest, writeLv]

theorem roundTrips_initialMessage : initialMessage.RoundTrips := by
  have hoctets : octetStringLength (encodeAttachRequest testImsi 1 0).length ≤
      octetStringLength 128 := octetStringLength_mono length_encodeAttachRequest.le
  have hlonger : List.Forall₂ (· ≤ ·) initialMessage.ieLengths
      [3, octetStringLength 128, 5, 7, 1] :=
    .cons (le_refl _) (.cons hoctets (.cons (le_refl _)
      (.cons (le_refl _) (.cons (le_refl _) .nil))))
  have hsmall := lt_of_le_of_lt (containerLength_mono hlonger)
    (by decide : containerLength [3, octetStringLength 128, 5, 7, 1] < 16384)
  have hrange : initialMessage.InRange := ⟨enbUeS1apId_le, by decide⟩
  exact S1apMessage.roundTrips_of_encode (exists_encodeS1apPdu trivial hrange hsmall)

theorem roundTrips_uplinkMessage (mmeUeS1apId : UInt32) {nasPdu : List UInt8}
    (hshort : nasPdu.length < 128) : (uplinkMessage mmeUeS1apId nasPdu).RoundTrips := by
  have hoctets : octetStringLength nasPdu.length ≤ octetStringLength 128 :=
    octetStringLength_mono hshort.le
  have hlonger : List.Forall₂ (· ≤ ·) (uplinkMessage mmeUeS1apId nasPdu).ieLengths
      [4, 3, octetStringLength 128, 5, 7] :=
    .cons (le_refl _) (.cons (le_refl _) (.cons hoctets
      (.cons (le_refl _) (.cons (le_refl _) .nil))))
  have hsmall := lt_of_le_of_lt (containerLength_mono hlonger)
    (by decide : containerLength [4, 3, octetStringLength 128, 5, 7] < 16384)
  have hrange : (uplinkMessage mmeUeS1apId nasPdu).InRange := enbUeS1apId_le
  exact S1apMessage.roundTrips_of_encode (exists_encodeS1apPdu trivial hrange hsmall)

theorem roundTrips_setupResponse (myIp : Octets 4) (mmeUeS1apId : UInt32) {erabId : UInt8}
    (herab : erabId.toNat ≤ erabIdMax) :
    (setupResponse myIp mmeUeS1apId enbUeS1apId erabId).RoundTrips := by
  have hsmall : containerLength [4, 3, lengthDeterminantLength 1 + 9 * 1] < 16384 := by decide
  have hfailed : (0 : Nat) < 16384 := by decide
  have hrange : (setupResponse myIp mmeUeS1apId enbUeS1apId erabId).InRange :=
    ⟨enbUeS1apId_le, List.forall_mem_singleton.mpr herab, hfailed, List.forall_mem_nil _⟩
  exact S1apMessage.roundTrips_of_encode (exists_encodeS1apPdu trivial hrange hsmall)

theorem roundTrips_releaseComplete (mmeUeS1apId : UInt32) :
    (S1apMessage.ueContextReleaseComplete ⟨mmeUeS1apId, enbUeS1apId⟩).RoundTrips :=
  S1apMessage.roundTrips_of_encode
    (exists_map_ok (exists_encodeUeContextReleaseComplete enbUeS1apId_le))

theorem length_encodeAuthResponse (res : Octets 8) : (encodeAuthResponse res).length < 128 := by
  simp [encodeAuthResponse, writeLv]

end Wire

/-- A message that survives the wire is sent, and the task goes on. -/
theorem UeTask.send_of_roundTrips {msg : S1apMessage} (hround : msg.RoundTrips) :
    ∃ octets, decodeS1apPdu octets = .ok msg ∧ ∀ (u : UeTask) (andThen : UeTask → UeTask),
      u.send msg andThen = andThen { u with outbox := u.outbox ++ [octets] } := by
  obtain ⟨octets, hput, hdecode⟩ := hround
  refine ⟨octets, hdecode, ?_⟩
  intro u andThen
  simp only [UeTask.send, hput]

/-! ## Opening what the MME has protected -/

/-- A receiver that is behind opens a message if it finds the COUNT of the sender. -/
theorem decodeProtectedDownlink_of_resync {P : Primitives} {net ue : NasSecurityContext}
    (hkeys : net.SameKeys ue)
    (hcount : reconstructCount ue.dlCount (seqOctet net.dlCount) = net.dlCount)
    {sht : UInt8} (hplain : sht ≠ 0) (hsht : sht < 16) (bearer : UInt8) (plain : List UInt8) :
    (decodeProtectedDownlink P ue (encodeProtected P net sht bearer plain).1 bearer).1 =
      some plain := by
  have hopen := NasSecurityContext.unprotect_protect P hkeys net.dlCount bearer .downlink plain
  rw [seqOctet] at hcount
  simp only [NasSecurityContext.protect] at hopen
  simp only [encodeProtected, decodeProtectedDownlink, NasSecurityContext.protectDownlink,
    decodeEnvelope_encodeEnvelope hplain hsht, NasSecurityContext.unprotectDownlink,
    NasSecurityContext.protect, hcount, hopen]

section Reactions

variable (P : Primitives) (setup : Setup)

/-- The UE computes the vector of the network. -/
theorem vectorFor_eq (rand : Octets 16) :
    vectorFor P setup.ctx rand = (authInfo P setup rand).vector := by
  rw [vectorFor, Auth.Sqn.toBytes_fromBytes]
  rfl

/-- UE and MME arrive at the same Kasme. -/
theorem kasmeFor_eq (rand : Octets 16) :
    kasmeFor P setup.ctx rand = kasmeOf P (answeredUe P setup rand).security := by
  rw [kasmeFor, vectorFor_eq]
  rfl

theorem openProtected_attachAccept (rand : Octets 16) :
    openProtected P (kasmeFor P setup.ctx rand) (attachAcceptOf P (answeredUe P setup rand)).1 =
      some (attachAcceptPlain (Octets.zeros 4)) := by
  have hopen := decodeProtectedDownlink_attachAccept (P := P) (answeredUe P setup rand)
  rw [openProtected, kasmeFor_eq]
  exact congrArg Prod.fst hopen

/-- The accept of the detach is the second message under the context of the MME, and a fresh
context of the UE opens it all the same. -/
theorem openProtected_detachAccept (rand : Octets 16) :
    openProtected P (kasmeFor P setup.ctx rand) (detachAcceptOf P (connectedUe P setup rand)) =
      some encodeDetachAccept := by
  let ue := initialContext P (answeredUe P setup rand)
  let net := { ue with dlCount := 1 }
  have hkeys : NasSecurityContext.SameKeys net ue := ⟨rfl, rfl, rfl, rfl⟩
  have hcount : reconstructCount 0 (seqOctet 1) = 1 := by decide
  have hprotected : shtIntegrityCiphered ≠ 0 := by decide
  rw [openProtected, kasmeFor_eq]
  exact decodeProtectedDownlink_of_resync hkeys hcount hprotected (by decide) nasBearer
    encodeDetachAccept

/-! ## One reaction -/

/-- Where the task at a stage stands. -/
structure TaskAt (st : Stage) (u : UeTask) : Prop where
  progress : u.progress = st.progress setup
  mmeUeS1apId : u.mmeUeS1apId = st.mmeUeS1apId
  kasme : u.kasme = st.kasme P setup

/-- The MME and the user plane are not concerned with a step of the life cycle. -/
structure KeepsNode (st st' : Stage) : Prop where
  components : st'.components P setup = st.components P setup
  teids : st'.teids = st.teids
  fresh : st'.fresh = true → st.fresh = true
  tunnel? : st'.tunnel? setup = st.tunnel? setup

/-- The task takes the received messages and goes on to the next stage of its life cycle, with all
that it sends in its outbox. -/
structure Reaction (received : List S1apMessage) (st st' : Stage) (u u' : UeTask) : Prop where
  next : st.Next st'
  task : TaskAt P setup st' u'
  down : st.down P setup = received ++ st'.down P setup
  up : ∃ octets msgs, Mux.Decodes decodeS1apPdu octets msgs ∧ u'.outbox = u.outbox ++ octets ∧
    st'.up P setup = st.up P setup ++ msgs ∧ msgs.length ≤ 2
  keeps : KeepsNode P setup st st'

variable {P setup} {u : UeTask}

/-- The node is where it was. -/
theorem KeepsNode.nodeAt {τ υ : Type} {st st' : Stage} (hkeeps : KeepsNode P setup st st')
    {node : S1u.Node τ υ} (hnode : NodeAt P setup st node) : NodeAt P setup st' node where
  phase := hnode.phase
  world := hkeeps.components ▸ hnode.world
  registry := hkeeps.components ▸ hnode.registry
  teids := hkeeps.teids ▸ hnode.teids
  fresh := fun hfresh => hnode.fresh (hkeeps.fresh hfresh)
  plane := hkeeps.tunnel? ▸ hnode.plane

/-- The first thing the UE does is to ask for its attach. -/
theorem reaction_start (htask : TaskAt P setup .idle u) :
    Reaction P setup [] .idle .requesting u (start u) := by
  obtain ⟨octets, hdecode, hsend⟩ := UeTask.send_of_roundTrips roundTrips_initialMessage
  rw [start, hsend]
  exact
    { next := .request
      task := ⟨rfl, htask.mmeUeS1apId, htask.kasme⟩
      down := rfl
      up := ⟨[octets], _, Mux.decodes_singleton hdecode, rfl, rfl, Nat.le_succ 1⟩
      keeps := ⟨rfl, rfl, fun _ => rfl, rfl⟩ }

/-- A plain NAS PDU from the MME the UE answers to. -/
theorem onDownlinkNas_plain {nasPdu : List UInt8} {pdu : NasPdu}
    (hdecode : decodeNas nasPdu = .ok pdu) (hid : u.mmeUeS1apId.getD entity = entity) :
    onDownlinkNas P setup.ctx u ⟨entity, enbUeS1apId, nasPdu⟩ =
      onPlainNas P setup.ctx { u with mmeUeS1apId := some entity } entity nasPdu := by
  have hplain := securityHeaderType_of_decode hdecode
  rw [onDownlinkNas]
  simp only [hid, hplain, ne_eq, not_true_eq_false, if_false]

/-- Challenged, the UE answers with the RES that the MME expects and keeps its Kasme. -/
theorem reaction_authRequest {rand autn : Octets 16} (htask : TaskAt P setup (.challenged rand) u)
    {received : List S1apMessage} (hdown : (Stage.challenged rand).down P setup = received) :
    Reaction P setup received (.challenged rand) (.answering rand) u
      (onDownlinkNas P setup.ctx u ⟨entity, enbUeS1apId, encodeAuthRequest 0 rand autn⟩) := by
  have hdecode := decodeNas_encodeAuthRequest 0 rand autn
  have hid : u.mmeUeS1apId.getD entity = entity := by rw [htask.mmeUeS1apId]; rfl
  obtain ⟨octets, hsent, hsend⟩ := UeTask.send_of_roundTrips
    (roundTrips_uplinkMessage entity (length_encodeAuthResponse (vectorFor P setup.ctx rand).res))
  rw [onDownlinkNas_plain hdecode hid, onPlainNas, hdecode]
  simp only [hsend, id]
  exact
    { next := .answer rand
      task := ⟨htask.progress, rfl, rfl⟩
      down := by rw [hdown]; exact (List.append_nil _).symm
      up := ⟨[octets], _, Mux.decodes_singleton hsent, rfl, rfl, Nat.le_succ 1⟩
      keeps := ⟨rfl, rfl, fun h => h, rfl⟩ }

/-- Commanded, the UE confirms the security mode. -/
theorem reaction_secModeCmd {rand : Octets 16} (htask : TaskAt P setup (.commanded rand) u) :
    Reaction P setup ((Stage.commanded rand).down P setup) (.commanded rand) (.completing rand) u
      (onDownlinkNas P setup.ctx u ⟨entity, enbUeS1apId,
        encodeSecModeCmd Mme.selectedEea Mme.selectedEia 0 [0x20, 0x40]⟩) := by
  have hdecode := decodeNas_encodeSecModeCmd Mme.selectedEea Mme.selectedEia 0 [0x20, 0x40]
  have hid : u.mmeUeS1apId.getD entity = entity := by rw [htask.mmeUeS1apId]; rfl
  have hshort : encodeSecModeComplete.length < 128 := by decide
  obtain ⟨octets, hsent, hsend⟩ := UeTask.send_of_roundTrips
    (roundTrips_uplinkMessage entity hshort)
  rw [onDownlinkNas_plain hdecode hid, onPlainNas, hdecode]
  simp only [hsend, id]
  exact
    { next := .complete rand
      task := ⟨htask.progress, rfl, htask.kasme⟩
      down := rfl
      up := ⟨[octets], _, Mux.decodes_singleton hsent, rfl, rfl, Nat.le_succ 1⟩
      keeps := ⟨rfl, rfl, fun h => h, rfl⟩ }

/-- Accepted, the UE confirms the bearer and the attach and begins to send. -/
theorem reaction_setupRequest {rand : Octets 16} {icsr : InitialContextSetupRequest}
    (hicsr : Stage.setupRequest P setup rand = .initialContextSetupRequest icsr)
    (htask : TaskAt P setup (.accepted rand) u) :
    Reaction P setup [Stage.setupRequest P setup rand] (.accepted rand)
      (.attached rand .nothing (.sending firstAttempt)) u (onSetupRequest P setup.myIp u icsr) := by
  have hid : u.mmeUeS1apId.getD entity = entity := by rw [htask.mmeUeS1apId]; rfl
  have hkasme : u.kasme = some (kasmeFor P setup.ctx rand) := htask.kasme
  have hopen := openProtected_attachAccept P setup rand
  have hplain := decodeNas_attachAcceptPlain (Octets.zeros 4)
  have hshort : encodeAttachComplete.length < 128 := by decide
  have herab : (5 : UInt8).toNat ≤ erabIdMax := by decide
  obtain ⟨response, hresponse, hsend⟩ := UeTask.send_of_roundTrips
    (roundTrips_setupResponse setup.myIp entity herab)
  obtain ⟨complete, hcomplete, hsend'⟩ := UeTask.send_of_roundTrips
    (roundTrips_uplinkMessage entity hshort)
  cases hicsr
  simp only [onSetupRequest, hid, hkasme, hopen, hplain, hsend, hsend', List.append_assoc,
    List.singleton_append]
  exact
    { next := .attach rand
      task := by
        refine ⟨?_, rfl, rfl⟩
        simp only [UInt32.fromBeBytes_toBeBytes]
        rfl
      down := rfl
      up := ⟨[response, complete], _,
        (Mux.decodes_singleton hresponse).append (Mux.decodes_singleton hcomplete), rfl, rfl,
        le_refl 2⟩
      keeps := ⟨rfl, rfl, fun h => h, rfl⟩ }

/-- The accept of the detach is opened and asks for nothing. -/
theorem reaction_detachAccept {rand : Octets 16} (htask : TaskAt P setup (.dismissed rand) u)
    {msg : S1apMessage}
    (hdown : (Stage.dismissed rand).down P setup = msg :: (Stage.ordered rand).down P setup) :
    Reaction P setup [msg] (.dismissed rand) (.ordered rand) u
      (onDownlinkNas P setup.ctx u ⟨entity, enbUeS1apId,
        detachAcceptOf P (connectedUe P setup rand)⟩) := by
  have hid : u.mmeUeS1apId.getD entity = entity := by rw [htask.mmeUeS1apId]; rfl
  have hkasme : u.kasme = some (kasmeFor P setup.ctx rand) := htask.kasme
  have hopen := openProtected_detachAccept P setup rand
  have hprotected : securityHeaderType (detachAcceptOf P (connectedUe P setup rand)) ≠
      shtPlain := securityHeaderType_encodeProtected _ _
  simp only [onDownlinkNas, hid, hprotected, ne_eq, not_false_eq_true, if_true, onProtectedNas,
    hkasme, hopen, decodeNas_encodeDetachAccept]
  exact
    { next := .order rand
      task := ⟨htask.progress, rfl, rfl⟩
      down := hdown
      up := ⟨[], [], rfl, (List.append_nil _).symm, rfl, Nat.zero_le 2⟩
      keeps := ⟨rfl, rfl, fun h => h, rfl⟩ }

/-- Ordered to release its context, the UE confirms and is done. -/
theorem reaction_releaseCommand {rand : Octets 16} (htask : TaskAt P setup (.ordered rand) u) :
    Reaction P setup [Stage.releaseCommand] (.ordered rand) (.releasing rand) u
      (onReleaseCommand u entity enbUeS1apId) := by
  obtain ⟨octets, hsent, hsend⟩ := UeTask.send_of_roundTrips (roundTrips_releaseComplete entity)
  rw [onReleaseCommand, hsend]
  exact
    { next := .release rand
      task := ⟨rfl, htask.mmeUeS1apId, htask.kasme⟩
      down := rfl
      up := ⟨[octets], _, Mux.decodes_singleton hsent, rfl, rfl, Nat.le_succ 1⟩
      keeps := ⟨rfl, rfl, fun h => h, rfl⟩ }

/-- Whatever is next on its way to the UE, the UE takes it without an error. -/
theorem exists_reaction {st : Stage} (htask : TaskAt P setup st u) {msg : S1apMessage}
    {rest : List S1apMessage} (hdown : st.down P setup = msg :: rest) {octets : List UInt8}
    (hdecode : decodeS1apPdu octets = .ok msg) :
    ∃ st', st'.down P setup = rest ∧
      Reaction P setup [msg] st st' u (onMessage P setup.ctx setup.myIp u octets) := by
  rw [onMessage, hdecode]
  cases st with
  | challenged rand =>
      obtain ⟨hmsg, rfl⟩ := List.cons_eq_cons.mp hdown
      subst hmsg
      exact ⟨_, rfl, reaction_authRequest htask hdown⟩
  | commanded rand =>
      cases hdown
      exact ⟨_, rfl, reaction_secModeCmd htask⟩
  | accepted rand =>
      cases hdown
      exact ⟨_, rfl, reaction_setupRequest rfl htask⟩
  | dismissed rand =>
      obtain ⟨hmsg, rfl⟩ := List.cons_eq_cons.mp hdown
      subst hmsg
      exact ⟨_, rfl, reaction_detachAccept htask hdown⟩
  | ordered rand =>
      cases hdown
      exact ⟨_, rfl, reaction_releaseCommand htask⟩
  | _ => cases hdown

/-! ## The user plane -/

section UserPlane

variable {rand : Octets 16} {confirmed : Confirmed} {attempt : Fin maxAttempts}

/-- What the UE does with its user data does not concern the node. -/
theorem keepsNode_activity (rand : Octets 16) (confirmed : Confirmed)
    (activity activity' : Activity) :
    KeepsNode P setup (.attached rand confirmed activity)
      (.attached rand confirmed activity') := by
  cases confirmed <;> exact ⟨rfl, rfl, fun h => h, rfl⟩

/-- An echo of the payload leads on to the detach. -/
theorem reaction_echo (htask : TaskAt P setup (.attached rand confirmed (.waiting attempt)) u)
    (teid : UInt32) :
    Reaction P setup [] (.attached rand confirmed (.waiting attempt))
      (.attached rand confirmed .leaving) u
      (onDatagram u (attempt.val + 1) (Stage.bearer setup) (uplinkGpdu teid)) := by
  have hshort : (encodeDetachRequest 1 false 0 (Octets.zeros 10)).length < 128 := by decide
  obtain ⟨octets, hsent, hsend⟩ := UeTask.send_of_roundTrips
    (roundTrips_uplinkMessage entity hshort)
  have hid : (Stage.bearer setup).mmeUeS1apId = entity := rfl
  simp only [onDatagram, parse_uplinkGpdu, ne_eq, not_true_eq_false, if_false, hid, hsend]
  exact
    { next := .act rand confirmed (.leave attempt)
      task := ⟨rfl, htask.mmeUeS1apId, htask.kasme⟩
      down := rfl
      up := ⟨[octets], _, Mux.decodes_singleton hsent, rfl, rfl, Nat.le_succ 1⟩
      keeps := keepsNode_activity .. }

/-- A packet goes out, and the task waits for its echo. -/
theorem reaction_transmit (htask : TaskAt P setup (.attached rand confirmed (.sending attempt)) u) :
    Reaction P setup [] (.attached rand confirmed (.sending attempt))
      (.attached rand confirmed (.waiting attempt)) u
      { u with progress := .awaitingEcho (attempt.val + 1) (Stage.bearer setup) } where
  next := .act rand confirmed (.transmit attempt)
  task := ⟨rfl, htask.mmeUeS1apId, htask.kasme⟩
  down := rfl
  up := ⟨[], [], rfl, (List.append_nil _).symm, (List.append_nil _).symm, Nat.zero_le 2⟩
  keeps := keepsNode_activity ..

/-- A packet that does not go out is the last attempt. -/
theorem reaction_transmitFails
    (htask : TaskAt P setup (.attached rand confirmed (.sending attempt)) u) :
    Reaction P setup [] (.attached rand confirmed (.sending attempt))
      (.attached rand confirmed (.stranded .unsent)) u (u.fail .gtpSocket) where
  next := .act rand confirmed (.fail attempt)
  task := ⟨rfl, htask.mmeUeS1apId, htask.kasme⟩
  down := rfl
  up := ⟨[], [], rfl, (List.append_nil _).symm, (List.append_nil _).symm, Nat.zero_le 2⟩
  keeps := keepsNode_activity ..

/-- Without an echo the task tries again, or gives up after the last attempt. -/
theorem exists_reaction_retry
    (htask : TaskAt P setup (.attached rand confirmed (.waiting attempt)) u) :
    ∃ activity, (∀ attempt', activity ≠ .waiting attempt') ∧
      Reaction P setup [] (.attached rand confirmed (.waiting attempt))
        (.attached rand confirmed activity) u
        (retry u (attempt.val + 1) (Stage.bearer setup)) := by
  rw [retry]
  split
  next hmore =>
    let attempt' : Fin maxAttempts := ⟨attempt.val + 1, hmore⟩
    exact ⟨.sending attempt', by rintro _ ⟨⟩,
      { next := .act rand confirmed (.retry rfl)
        task := ⟨rfl, htask.mmeUeS1apId, htask.kasme⟩
        down := rfl
        up := ⟨[], [], rfl, (List.append_nil _).symm, (List.append_nil _).symm, Nat.zero_le 2⟩
        keeps := keepsNode_activity .. }⟩
  next hlast =>
    have hall := Nat.le_antisymm attempt.isLt (Nat.le_of_not_lt hlast)
    exact ⟨.stranded .noEcho, by rintro _ ⟨⟩,
      { next := .act rand confirmed (.giveUp hall)
        task := ⟨rfl, htask.mmeUeS1apId, htask.kasme⟩
        down := rfl
        up := ⟨[], [], rfl, (List.append_nil _).symm, (List.append_nil _).symm, Nat.zero_le 2⟩
        keeps := keepsNode_activity .. }⟩

end UserPlane

end Reactions

end Midn.Sim.Enb
