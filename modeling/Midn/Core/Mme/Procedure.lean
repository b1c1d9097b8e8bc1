import Midn.Core.Mme.Subscriber

/-!
# Messages of the attach procedure

The request each message of a UE makes, in any state of the MME.
-/

namespace Midn.Core.Mme

open Ecs Nas S1ap

variable (P : Primitives) (mme : Mme)

/-- An attach request of a provisioned subscriber draws a challenge with a fresh vector. -/
theorem request_attachRequest {imsi : UInt64} {sub : SubscriberRecord}
    (hsub : mme.hss.subscribers imsi = some sub) (himsi : imsi.toNat < 10 ^ 15)
    (rand : Octets 16) (epsAttachType nasKsi : UInt8) {m : InitialUeMessage}
    (hpdu : m.nasPdu = encodeAttachRequest imsi epsAttachType nasKsi) :
    request P mme (.s1ap rand (.initialUeMessage m)) =
      .challenge m.enbUeS1apId (m.tai.slice 0 3 plmn_in_tai) imsi
        ⟨rand, sub.ctx.compute P rand sub.sqnBytes milenageAmfField, sub.sqnBytes⟩
        (mme.hss.generateAuthVector P imsi rand).2 := by
  obtain ⟨inner, hdecode, hidentity⟩ :=
    decodeNas_encodeAttachRequest epsAttachType nasKsi himsi
  have hinfo := Hss.generateAuthVector_of_subscriber P hsub rand
  cases hvector : mme.hss.generateAuthVector P imsi rand with
  | mk authInfo hss =>
      rw [hvector] at hinfo
      cases hinfo
      simp only [request, attachVector, hpdu, hdecode, hidentity, hvector]

/-- A plain uplink PDU is its own content. -/
theorem request_uplink_plain (rand : Octets 16) {m : UplinkNasTransport}
    (hplain : securityHeaderType m.nasPdu = shtPlain) :
    request P mme (.s1ap rand (.uplinkNasTransport m)) =
      nasRequest m.enbUeS1apId m.mmeUeS1apId m.nasPdu := by
  simp only [request, openUplink, hplain, if_true]

theorem opened_uplink_plain (rand : Octets 16) {m : UplinkNasTransport}
    (hplain : securityHeaderType m.nasPdu = shtPlain) :
    opened P mme (.s1ap rand (.uplinkNasTransport m)) = mme := by
  simp only [opened, openUplink, hplain, if_true]

theorem securityHeaderType_encodeAuthResponse (res : Octets 8) :
    securityHeaderType (encodeAuthResponse res) = shtPlain := by
  simp only [encodeAuthResponse, List.cons_append, securityHeaderType]
  decide

theorem request_authResponse (rand : Octets 16) {m : UplinkNasTransport} {res : Octets 8}
    (hpdu : m.nasPdu = encodeAuthResponse res) :
    request P mme (.s1ap rand (.uplinkNasTransport m)) =
      .authResponse m.mmeUeS1apId m.enbUeS1apId res := by
  have hplain : securityHeaderType m.nasPdu = shtPlain := by
    rw [hpdu]
    exact securityHeaderType_encodeAuthResponse res
  rw [request_uplink_plain P mme rand hplain, hpdu, nasRequest, decodeNas_encodeAuthResponse]

theorem request_secModeComplete (rand : Octets 16) {m : UplinkNasTransport}
    (hpdu : m.nasPdu = encodeSecModeComplete) :
    request P mme (.s1ap rand (.uplinkNasTransport m)) =
      .securityModeComplete m.mmeUeS1apId m.enbUeS1apId := by
  have hplain : securityHeaderType m.nasPdu = shtPlain := by
    rw [hpdu]
    decide
  rw [request_uplink_plain P mme rand hplain, hpdu, nasRequest, decodeNas_encodeSecModeComplete]

/-- An attach request of a provisioned subscriber is challenged at once. -/
theorem step_attachRequest {imsi : UInt64} {sub : SubscriberRecord}
    (hsub : mme.hss.subscribers imsi = some sub) (himsi : imsi.toNat < 10 ^ 15)
    (rand : Octets 16) (epsAttachType nasKsi : UInt8) {m : InitialUeMessage}
    (hpdu : m.nasPdu = encodeAttachRequest imsi epsAttachType nasKsi) :
    step P mme (.s1ap rand (.initialUeMessage m)) =
      issueChallenge mme m.enbUeS1apId (m.tai.slice 0 3 plmn_in_tai) imsi
        ⟨rand, sub.ctx.compute P rand sub.sqnBytes milenageAmfField, sub.sqnBytes⟩
        (mme.hss.generateAuthVector P imsi rand).2 := by
  rw [step_eq_perform, request_attachRequest P mme hsub himsi rand epsAttachType nasKsi hpdu]
  rfl

/-- A plain AuthenticationResponse is compared at once. -/
theorem step_authResponse (rand : Octets 16) {m : UplinkNasTransport} {res : Octets 8}
    (hpdu : m.nasPdu = encodeAuthResponse res) :
    step P mme (.s1ap rand (.uplinkNasTransport m)) =
      verifyResponse mme m.enbUeS1apId m.mmeUeS1apId res := by
  have hplain : securityHeaderType m.nasPdu = shtPlain := by
    rw [hpdu]
    exact securityHeaderType_encodeAuthResponse res
  rw [step_eq_perform, opened_uplink_plain P mme rand hplain, request_authResponse P mme rand hpdu,
    perform]

/-- A plain SecurityModeComplete activates security at once. -/
theorem step_secModeComplete (rand : Octets 16) {m : UplinkNasTransport}
    (hpdu : m.nasPdu = encodeSecModeComplete) :
    step P mme (.s1ap rand (.uplinkNasTransport m)) =
      handleSecurityModeComplete P mme m.enbUeS1apId m.mmeUeS1apId := by
  have hplain : securityHeaderType m.nasPdu = shtPlain := by
    rw [hpdu]
    decide
  rw [step_eq_perform, opened_uplink_plain P mme rand hplain,
    request_secModeComplete P mme rand hpdu, perform]

/-! ## The first subscriber of a fresh MME -/

/-- A plain answer and a plain SecurityModeComplete for entity 0. -/
def answerWith (res : Octets 8) : Input :=
  .s1ap (Octets.zeros 16) (.uplinkNasTransport
    ⟨0, 1, encodeAuthResponse res, Octets.zeros 5, Octets.zeros 7⟩)

def completeSecurity : Input :=
  .s1ap (Octets.zeros 16) (.uplinkNasTransport
    ⟨0, 1, encodeSecModeComplete, Octets.zeros 5, Octets.zeros 7⟩)

theorem request_answerWith (res : Octets 8) :
    request P mme (answerWith res) = .authResponse 0 1 res :=
  request_authResponse P mme (Octets.zeros 16) rfl

theorem request_completeSecurity :
    request P mme completeSecurity = .securityModeComplete 0 1 :=
  request_secModeComplete P mme (Octets.zeros 16) rfl

theorem get?_answerWith (res : Octets 8) :
    (step P mme (answerWith res)).1.world.get? 0 = (mme.world.get? 0).map (answered res) := by
  rw [answerWith, step_authResponse P mme (Octets.zeros 16) rfl, get?_verifyResponse,
    Function.update_self]

theorem get?_completeSecurity :
    (step P mme completeSecurity).1.world.get? 0 = (mme.world.get? 0).map (secured P mme) := by
  rw [completeSecurity, step_secModeComplete P mme (Octets.zeros 16) rfl,
    get?_handleSecurityModeComplete, Function.update_self]

/-- The test subscriber. -/
def testImsi : UInt64 := 1010000000001

def provisionTest : Input :=
  .hssMut (Hss.new.provision testImsi (Octets.zeros 16) (Octets.zeros 16))

/-- The attach request of the test subscriber. -/
def attachTest : Input :=
  .s1ap (Octets.zeros 16) (.initialUeMessage
    ⟨1, encodeAttachRequest testImsi 1 7, Octets.zeros 5, Octets.zeros 7, 0⟩)

/-- The test subscriber completes security mode once, as the procedure has it. -/
def secureOnce : List Input := [provisionTest, attachTest, completeSecurity]

/-- The eNB reports its side of the bearer of entity 0. -/
def setUpTest : Input :=
  .s1ap (Octets.zeros 16) (.initialContextSetupResponse
    ⟨0, 1, [⟨5, Octets.zeros 4, Octets.zeros 4⟩], []⟩)

/-- Entity 0 detaches and waits for the answer. -/
def detachTest : Input :=
  .s1ap (Octets.zeros 16) (.uplinkNasTransport
    ⟨0, 1, encodeDetachRequest 1 false 0 (Octets.zeros 10), Octets.zeros 5, Octets.zeros 7⟩)

/-- The eNB has released entity 0. -/
def releaseTest : Input := .s1ap (Octets.zeros 16) (.ueContextReleaseComplete ⟨0, 1⟩)

/-- The test subscriber from its attach to its release. -/
def wholeSession : List Input := secureOnce ++ [setUpTest, detachTest, releaseTest]

theorem request_detachTest : request P mme detachTest = .detach 0 1 false := by
  have hplain : securityHeaderType (encodeDetachRequest 1 false 0 (Octets.zeros 10)) = shtPlain :=
    by decide
  have hdecode : decodeNas (encodeDetachRequest 1 false 0 (Octets.zeros 10)) =
      .ok (.detachRequest ⟨1, false, 0⟩) := by decide
  rw [detachTest, request_uplink_plain P mme (Octets.zeros 16) hplain, nasRequest, hdecode]

/-- A second subscriber, who attaches over the same eNB as entity 1. -/
def otherImsi : UInt64 := 1010000000002

def provisionPair : Input :=
  .hssMut ((Hss.new.provision testImsi (Octets.zeros 16) (Octets.zeros 16)).provision otherImsi
    (Octets.zeros 16) (Octets.zeros 16))

def attachOther : Input :=
  .s1ap (Octets.zeros 16) (.initialUeMessage
    ⟨2, encodeAttachRequest otherImsi 1 7, Octets.zeros 5, Octets.zeros 7, 0⟩)

def secureOther : Input :=
  .s1ap (Octets.zeros 16) (.uplinkNasTransport
    ⟨1, 2, encodeSecModeComplete, Octets.zeros 5, Octets.zeros 7⟩)

/-- Both subscribers attach and complete security mode; then the first is served and leaves. -/
def twoSubscribers : List Input :=
  [provisionPair, attachTest, attachOther, completeSecurity, secureOther, setUpTest, detachTest,
    releaseTest]

/-- The vector the test subscriber is challenged with. -/
def testAuthInfo : HssAuthInfo :=
  ⟨Octets.zeros 16,
    (⟨Octets.zeros 16, Octets.zeros 16⟩ : Auth.MilenageContext).compute P (Octets.zeros 16)
      (Octets.zeros 6) milenageAmfField,
    Octets.zeros 6⟩

/-- A fresh MME with the test subscriber. -/
def provisioned (phase3Upf : Option (Octets 4)) : Mme :=
  (step P (Mme.new phase3Upf) provisionTest).1

theorem request_attachTest (phase3Upf : Option (Octets 4)) :
    ∃ hss, request P (provisioned P phase3Upf) attachTest =
      .challenge 1 (Octets.zeros 3) testImsi (testAuthInfo P) hss := by
  have hsub : (provisioned P phase3Upf).hss.subscribers testImsi =
      some ⟨⟨Octets.zeros 16, Octets.zeros 16⟩, 0⟩ := rfl
  exact ⟨_, request_attachRequest P _ hsub (by decide) (Octets.zeros 16) 1 7 rfl⟩

/-- The test subscriber after its challenge. -/
def testSubscriber : Entity :=
  challenged 1 (Octets.zeros 3) testImsi (testAuthInfo P) .empty

/-- The test subscriber attaches as entity 0. -/
theorem get?_attachTest (phase3Upf : Option (Octets 4)) :
    (step P (provisioned P phase3Upf) attachTest).1.world.get? 0 =
      some (testSubscriber P) := by
  obtain ⟨hss, hrequest⟩ := request_attachTest P phase3Upf
  have hopened : opened P (provisioned P phase3Upf) attachTest = provisioned P phase3Upf := rfl
  have hnew : (provisioned P phase3Upf).world = World.new := rfl
  have hspawn : World.new.spawn.1 = 0 := rfl
  rw [get?_step, hrequest, hopened, hnew]
  simp only [Request.target, hnew, hspawn, if_true, Request.rewrite, World.get?_new,
    Option.map_none, Option.getD_none, testSubscriber]

/-- Nobody else is live then. -/
theorem get?_attachTest_of_ne (phase3Upf : Option (Octets 4)) {e : EntityId} (hne : e ≠ 0) :
    (step P (provisioned P phase3Upf) attachTest).1.world.get? e = none := by
  obtain ⟨hss, hrequest⟩ := request_attachTest P phase3Upf
  have hopened : opened P (provisioned P phase3Upf) attachTest = provisioned P phase3Upf := rfl
  have hnew : (provisioned P phase3Upf).world = World.new := rfl
  have hspawn : World.new.spawn.1 = 0 := rfl
  have hother : (Request.challenge 1 (Octets.zeros 3) testImsi (testAuthInfo P) hss).target
      (provisioned P phase3Upf) ≠ some e := by
    simpa only [Request.target, hnew, hspawn, ne_eq, Option.some.injEq] using hne.symm
  rw [get?_step, hrequest, hopened, if_neg hother, hnew, World.get?_new, Option.map_none]

/-! ## The same subscriber attaching again and again -/

/-- So many attaches have each left an entity for the test subscriber, who can attach again. -/
structure Attached (attaches : Nat) (mme : Mme) : Prop where
  unretired : mme.world.Unretired attaches
  subscribed : ∃ sub, mme.hss.subscribers testImsi = some sub
  identity?_eq : ∀ e : EntityId, e.toNat < attaches →
    mme.world.identity? e = some ⟨testImsi, 1, Octets.zeros 4⟩

variable {P} {mme} {attaches : Nat}

theorem attached_provisioned (phase3Upf : Option (Octets 4)) :
    Attached 0 (provisioned P phase3Upf) where
  unretired := World.Unretired.new
  subscribed := ⟨_, rfl⟩
  identity?_eq := fun _ hlt => absurd hlt (Nat.not_lt_zero _)

namespace Attached

/-- An attach of the test subscriber on any association is challenged. -/
theorem step_attach (hattached : Attached attaches mme) (enbUeS1apId : UInt32) :
    ∃ authInfo hss, (∃ sub, hss.subscribers testImsi = some sub) ∧
      step P mme (.s1ap (Octets.zeros 16) (.initialUeMessage
        ⟨enbUeS1apId, encodeAttachRequest testImsi 1 7, Octets.zeros 5, Octets.zeros 7, 0⟩)) =
        issueChallenge mme enbUeS1apId (Octets.zeros 3) testImsi authInfo hss := by
  obtain ⟨sub, hsub⟩ := hattached.subscribed
  exact ⟨_, _, Hss.generateAuthVector_keeps P hattached.subscribed testImsi (Octets.zeros 16),
    step_attachRequest P mme hsub (by decide) (Octets.zeros 16) 1 7 rfl⟩

theorem step (hattached : Attached attaches mme) :
    Attached (attaches + 1) (Mme.step P mme attachTest).1 := by
  obtain ⟨authInfo, hss, hsubscribed, hstep⟩ := hattached.step_attach (P := P) 1
  have hidentity := World.identity?_of_update
    (get?_issueChallenge mme 1 (Octets.zeros 3) testImsi authInfo hss)
  rw [attachTest, hstep]
  refine ⟨?_, hsubscribed, hattached.unretired.forall_lt_succ ?_ ?_⟩
  · simp only [issueChallenge, World.setAuthState, World.insertSecurity, World.insertIdentity]
    exact ((hattached.unretired.spawn.modify _ _).modify _ _).modify _ _
  · rw [hidentity, Function.update_self]
    rfl
  · intro e hne hlt
    rw [hidentity, Function.update_of_ne hne]
    exact hattached.identity?_eq e hlt

end Attached

/-- Every further attach leaves one more entity. -/
theorem attached_replicate (phase3Upf : Option (Octets 4)) (attaches : Nat) :
    Attached attaches (Mealy.after (step P) (provisioned P phase3Upf)
      (List.replicate attaches attachTest)) :=
  Mealy.after_replicate (attached_provisioned phase3Upf) (fun _ _ h => h.step) attaches

end Midn.Core.Mme
