import Midn.Core.Amf.Subscriber

/-!
# Messages of the registration procedure

The request each message of a UE makes, in any state of the AMF.
-/

namespace Midn.Core.Amf

open Ecs Nas5gs Ngap

variable (P : Primitives) (amf : Amf)

/-- The null-scheme SUCI of a short IMSI. -/
def suciForImsi (imsi : UInt64) : Suci where
  mcc := Octets.zeros 3
  mnc := Octets.zeros 3
  routingIndicator := 0
  protectionScheme := 0
  homeNetworkPki := 0
  msin := imsi.toBeBytes.slice 3 5 (by decide)

/-- An IMSI below 2^40 survives the five bytes of the MSIN. -/
theorem resolveSuciToImsi_suciForImsi {imsi : UInt64} (himsi : imsi.toNat < 2 ^ 40) :
    resolveSuciToImsi (suciForImsi imsi) = some imsi := by
  have hhigh : ∀ w, 5 ≤ w → UInt8.ofNat (imsi.toNat / 256 ^ w) = 0 := by
    intro w hw
    have hpow : 256 ^ 5 ≤ 256 ^ w := Nat.pow_le_pow_right (by decide) hw
    rw [Nat.div_eq_of_lt (lt_of_lt_of_le himsi hpow)]
    rfl
  have hbytes : Octets.beBytes 8 imsi.toNat = 0 :: 0 :: 0 :: Octets.beBytes 5 imsi.toNat := by
    rw [Octets.beBytes, Octets.beBytes, Octets.beBytes, hhigh 7 (by decide), hhigh 6 (by decide),
      hhigh 5 (by decide)]
  have hpadded : (0 ::ᵥ 0 ::ᵥ 0 ::ᵥ (suciForImsi imsi).msin : Octets 8) = imsi.toBeBytes := by
    have hlist : imsi.toBeBytes.toList = 0 :: 0 :: 0 :: Octets.beBytes 5 imsi.toNat := hbytes
    apply List.Vector.eq
    rw [List.Vector.toList_cons, List.Vector.toList_cons, List.Vector.toList_cons, suciForImsi,
      Octets.toList_slice, hlist, List.drop_succ_cons, List.drop_succ_cons, List.drop_succ_cons,
      List.drop_zero, List.take_of_length_le (le_of_eq (Octets.length_beBytes 5 _))]
  rw [resolveSuciToImsi, if_neg (by simp [suciForImsi]), hpadded, UInt64.fromBeBytes_toBeBytes]

/-- A plain initial PDU is its own content. -/
theorem request_registrationRequest (rand : Octets 16) (registrationType ngKsi : UInt8)
    (ueSecurityCap : UInt16) {m : NgapInitialUeMessage}
    (hpdu : m.nasPdu = encodeRegistrationRequest registrationType ngKsi none ueSecurityCap) :
    request P amf (.ngap rand (.initialUeMessage m)) =
      .register m.ranUeNgapId (m.tai.slice 0 3 plmn_in_tai) := by
  obtain ⟨inner, hdecode, hguti⟩ :=
    decodeNas5gs_encodeRegistrationRequest registrationType ngKsi ueSecurityCap
  simp only [request, initialRequest, hpdu, hdecode, hguti]

/-- A plain uplink PDU is its own content. -/
theorem request_uplink_plain (rand : Octets 16) {m : NgapUplinkNasTransport}
    (hplain : securityHeaderType m.nasPdu = nas5gsShtPlain) :
    request P amf (.ngap rand (.uplinkNasTransport m)) =
      nasRequest P amf.hss rand m.ranUeNgapId m.amfUeNgapId m.nasPdu := by
  simp only [request, openUplink, hplain, if_true]

theorem opened_uplink_plain (rand : Octets 16) {m : NgapUplinkNasTransport}
    (hplain : securityHeaderType m.nasPdu = nas5gsShtPlain) :
    opened P amf (.ngap rand (.uplinkNasTransport m)) = amf := by
  simp only [opened, openUplink, hplain, if_true]

theorem securityHeaderType_header (msgType : UInt8) (body : List UInt8) :
    securityHeaderType (header msgType ++ body) = nas5gsShtPlain := by
  simp only [header, List.cons_append, securityHeaderType]
  decide

/-- An identity response of a provisioned subscriber draws a challenge with a fresh vector. -/
theorem request_identityResponse {imsi : UInt64} {sub : SubscriberRecord}
    (hsub : amf.hss.subscribers imsi = some sub) (himsi : imsi.toNat < 2 ^ 40) (rand : Octets 16)
    {m : NgapUplinkNasTransport}
    (hpdu : m.nasPdu = encodeIdentityResponseSuci (suciForImsi imsi)) :
    request P amf (.ngap rand (.uplinkNasTransport m)) =
      .challenge m.amfUeNgapId m.ranUeNgapId imsi
        ⟨rand, sub.ctx.compute P rand sub.sqnBytes milenageAmfField, sub.sqnBytes⟩
        (amf.hss.generateAuthVector P imsi rand).2 := by
  have hplain : securityHeaderType m.nasPdu = nas5gsShtPlain := by
    rw [hpdu]
    exact securityHeaderType_header ..
  have hinfo := Hss.generateAuthVector_of_subscriber P hsub rand
  rw [request_uplink_plain P amf rand hplain, hpdu]
  cases hvector : amf.hss.generateAuthVector P imsi rand with
  | mk authInfo hss =>
      rw [hvector] at hinfo
      cases hinfo
      simp only [nasRequest, identityVector, decodeNas5gs_encodeIdentityResponseSuci,
        resolveSuciToImsi_suciForImsi himsi, hvector]

theorem request_authResponse (rand : Octets 16) {m : NgapUplinkNasTransport}
    {resStar : Octets 16} (hpdu : m.nasPdu = encodeAuthResponse resStar) :
    request P amf (.ngap rand (.uplinkNasTransport m)) =
      .authResponse m.amfUeNgapId m.ranUeNgapId resStar := by
  have hplain : securityHeaderType m.nasPdu = nas5gsShtPlain := by
    rw [hpdu]
    exact securityHeaderType_header ..
  rw [request_uplink_plain P amf rand hplain, hpdu, nasRequest, decodeNas5gs_encodeAuthResponse]

theorem request_secModeComplete (rand : Octets 16) {m : NgapUplinkNasTransport}
    (hpdu : m.nasPdu = encodeSecModeComplete) :
    request P amf (.ngap rand (.uplinkNasTransport m)) =
      .securityModeComplete m.amfUeNgapId m.ranUeNgapId := by
  have hplain : securityHeaderType m.nasPdu = nas5gsShtPlain := by
    rw [hpdu]
    decide
  rw [request_uplink_plain P amf rand hplain, hpdu, nasRequest,
    decodeNas5gs_encodeSecModeComplete]

/-- A registration request without a GUTI asks for the identity. -/
theorem step_registrationRequest (rand : Octets 16) (registrationType ngKsi : UInt8)
    (ueSecurityCap : UInt16) {m : NgapInitialUeMessage}
    (hpdu : m.nasPdu = encodeRegistrationRequest registrationType ngKsi none ueSecurityCap) :
    step P amf (.ngap rand (.initialUeMessage m)) =
      requestIdentity amf m.ranUeNgapId (m.tai.slice 0 3 plmn_in_tai) := by
  rw [step_eq_perform, request_registrationRequest P amf rand _ _ _ hpdu]
  rfl

/-- A plain identity response of a provisioned subscriber is challenged at once. -/
theorem step_identityResponse {imsi : UInt64} {sub : SubscriberRecord}
    (hsub : amf.hss.subscribers imsi = some sub) (himsi : imsi.toNat < 2 ^ 40) (rand : Octets 16)
    {m : NgapUplinkNasTransport}
    (hpdu : m.nasPdu = encodeIdentityResponseSuci (suciForImsi imsi)) :
    step P amf (.ngap rand (.uplinkNasTransport m)) =
      issueChallenge P amf m.ranUeNgapId m.amfUeNgapId imsi
        ⟨rand, sub.ctx.compute P rand sub.sqnBytes milenageAmfField, sub.sqnBytes⟩
        (amf.hss.generateAuthVector P imsi rand).2 := by
  have hplain : securityHeaderType m.nasPdu = nas5gsShtPlain := by
    rw [hpdu]
    exact securityHeaderType_header ..
  rw [step_eq_perform, opened_uplink_plain P amf rand hplain,
    request_identityResponse P amf hsub himsi rand hpdu, perform]

/-- A plain AuthenticationResponse is compared at once. -/
theorem step_authResponse (rand : Octets 16) {m : NgapUplinkNasTransport} {resStar : Octets 16}
    (hpdu : m.nasPdu = encodeAuthResponse resStar) :
    step P amf (.ngap rand (.uplinkNasTransport m)) =
      verifyResponse amf m.ranUeNgapId m.amfUeNgapId resStar := by
  have hplain : securityHeaderType m.nasPdu = nas5gsShtPlain := by
    rw [hpdu]
    exact securityHeaderType_header ..
  rw [step_eq_perform, opened_uplink_plain P amf rand hplain,
    request_authResponse P amf rand hpdu, perform]

/-- A plain SecurityModeComplete activates security at once. -/
theorem step_secModeComplete (rand : Octets 16) {m : NgapUplinkNasTransport}
    (hpdu : m.nasPdu = encodeSecModeComplete) :
    step P amf (.ngap rand (.uplinkNasTransport m)) =
      handleSecurityModeComplete P amf m.ranUeNgapId m.amfUeNgapId := by
  have hplain : securityHeaderType m.nasPdu = nas5gsShtPlain := by
    rw [hpdu]
    decide
  rw [step_eq_perform, opened_uplink_plain P amf rand hplain,
    request_secModeComplete P amf rand hpdu, perform]

/-! ## The first subscriber of a fresh AMF -/

/-- A registration request, a plain answer and a plain SecurityModeComplete for entity 0. -/
def registerTest : Input :=
  .ngap (Octets.zeros 16) (.initialUeMessage
    ⟨1, encodeRegistrationRequest 1 0 none 0x00C0, Octets.zeros 6, Octets.zeros 9, 0⟩)

def answerWith (resStar : Octets 16) : Input :=
  .ngap (Octets.zeros 16) (.uplinkNasTransport
    ⟨0, 1, encodeAuthResponse resStar, Octets.zeros 6, Octets.zeros 9⟩)

def completeSecurity : Input :=
  .ngap (Octets.zeros 16) (.uplinkNasTransport
    ⟨0, 1, encodeSecModeComplete, Octets.zeros 6, Octets.zeros 9⟩)

theorem request_registerTest : request P amf registerTest = .register 1 (Octets.zeros 3) :=
  request_registrationRequest P amf (Octets.zeros 16) 1 0 0x00C0 rfl

theorem request_answerWith (resStar : Octets 16) :
    request P amf (answerWith resStar) = .authResponse 0 1 resStar :=
  request_authResponse P amf (Octets.zeros 16) rfl

theorem request_completeSecurity :
    request P amf completeSecurity = .securityModeComplete 0 1 :=
  request_secModeComplete P amf (Octets.zeros 16) rfl

theorem get?_answerWith (resStar : Octets 16) :
    (step P amf (answerWith resStar)).1.world.get? 0 =
      (amf.world.get? 0).map (answered resStar) := by
  rw [answerWith, step_authResponse P amf (Octets.zeros 16) rfl, get?_verifyResponse,
    Function.update_self]

theorem get?_completeSecurity :
    (step P amf completeSecurity).1.world.get? 0 = (amf.world.get? 0).map (secured P amf 0) := by
  rw [completeSecurity, step_secModeComplete P amf (Octets.zeros 16) rfl,
    get?_handleSecurityModeComplete, Function.update_self]

/-- The test subscriber. -/
def testImsi : UInt64 := 1010000000001

def provisionTest : Input :=
  .hssMut (Hss.new.provision testImsi (Octets.zeros 16) (Octets.zeros 16))

/-- The identity response of the test subscriber for entity 0. -/
def identifyTest : Input :=
  .ngap (Octets.zeros 16) (.uplinkNasTransport
    ⟨0, 1, encodeIdentityResponseSuci (suciForImsi testImsi), Octets.zeros 6, Octets.zeros 9⟩)

/-- The vector the test subscriber is challenged with. -/
def testAuthInfo : HssAuthInfo :=
  ⟨Octets.zeros 16,
    (⟨Octets.zeros 16, Octets.zeros 16⟩ : Auth.MilenageContext).compute P (Octets.zeros 16)
      (Octets.zeros 6) milenageAmfField,
    Octets.zeros 6⟩

/-- A fresh AMF with the test subscriber. -/
def provisioned (phaseBUpf : Option (Octets 4)) : Amf :=
  (step P (Amf.new phaseBUpf) provisionTest).1

/-- The same AMF after the UE of entity 0 has registered. -/
def registered (phaseBUpf : Option (Octets 4)) : Amf :=
  (step P (provisioned P phaseBUpf) registerTest).1

/-- The test subscriber after its challenge. -/
def testSubscriber : Entity :=
  challenged P 1 testImsi (testAuthInfo P) (registering 1 (Octets.zeros 3) .empty)

/-- The first UE to register is entity 0. -/
theorem get?_registerTest {amf : Amf} (hnew : amf.world = .new) :
    (step P amf registerTest).1.world.get? 0 =
      some (registering 1 (Octets.zeros 3) .empty) := by
  have hspawn : World.new.spawn.1 = 0 := rfl
  have hplmn : Octets.slice (Octets.zeros 6) 0 3 (by decide) = Octets.zeros 3 := rfl
  rw [registerTest, step_registrationRequest P amf (Octets.zeros 16) 1 0 0x00C0 rfl,
    get?_requestIdentity, hnew, hspawn, Function.update_self, World.get?_new, Option.getD_none,
    hplmn]

/-- Nobody else is live then. -/
theorem get?_registerTest_of_ne {amf : Amf} (hnew : amf.world = .new) {e : EntityId}
    (hne : e ≠ 0) : (step P amf registerTest).1.world.get? e = none := by
  have hspawn : World.new.spawn.1 = 0 := rfl
  rw [registerTest, step_registrationRequest P amf (Octets.zeros 16) 1 0 0x00C0 rfl,
    get?_requestIdentity, hnew, hspawn, Function.update_of_ne hne, World.get?_new]

theorem request_identifyTest (phaseBUpf : Option (Octets 4)) :
    ∃ hss, request P (registered P phaseBUpf) identifyTest =
      .challenge 0 1 testImsi (testAuthInfo P) hss := by
  have hsub : (registered P phaseBUpf).hss.subscribers testImsi =
      some ⟨⟨Octets.zeros 16, Octets.zeros 16⟩, 0⟩ := by
    rw [registered, registerTest, step_registrationRequest P _ (Octets.zeros 16) 1 0 0x00C0 rfl]
    rfl
  exact ⟨_, request_identityResponse P _ hsub (by decide) (Octets.zeros 16) rfl⟩

/-- Entity 0 is challenged as the test subscriber. -/
theorem get?_identifyTest (phaseBUpf : Option (Octets 4)) :
    (step P (registered P phaseBUpf) identifyTest).1.world.get? 0 = some (testSubscriber P) := by
  obtain ⟨hss, hrequest⟩ := request_identifyTest P phaseBUpf
  have hopened : opened P (registered P phaseBUpf) identifyTest = registered P phaseBUpf :=
    opened_uplink_plain P _ (Octets.zeros 16) (securityHeaderType_header ..)
  rw [step_eq_perform, hopened, hrequest, perform, get?_issueChallenge, Function.update_self,
    registered, get?_registerTest P rfl, Option.map_some, testSubscriber]

/-- The gNodeB reports its side of the session of entity 0. -/
def setUpTest : Input :=
  .ngap (Octets.zeros 16) (.initialContextSetupResponse
    ⟨0, 1, [⟨1, Octets.zeros 4, Octets.zeros 4⟩], []⟩)

/-- Entity 0 deregisters and waits for the answer. -/
def deregisterTest : Input :=
  .ngap (Octets.zeros 16) (.uplinkNasTransport
    ⟨0, 1, encodeDeregistrationRequest false, Octets.zeros 6, Octets.zeros 9⟩)

/-- The gNodeB has released entity 0. -/
def releaseTest : Input := .ngap (Octets.zeros 16) (.ueContextReleaseComplete ⟨0, 1⟩)

/-- The test subscriber from its registration to its release. -/
def wholeSession : List Input :=
  [provisionTest, registerTest, identifyTest, completeSecurity, setUpTest, deregisterTest,
    releaseTest]

theorem request_deregisterTest : request P amf deregisterTest = .deregister 0 1 false := by
  have hdecode : decodeNas5gs (encodeDeregistrationRequest false) =
      .ok (.deregistrationRequest false) := by decide
  rw [deregisterTest, request_uplink_plain P amf (Octets.zeros 16) (securityHeaderType_header ..),
    nasRequest, hdecode]

/-- A registration on another association. -/
def registerOther : Input :=
  .ngap (Octets.zeros 16) (.initialUeMessage
    ⟨2, encodeRegistrationRequest 1 0 none 0x00C0, Octets.zeros 6, Octets.zeros 9, 0⟩)

/-- The second subscriber, who names itself as entity 1. -/
def otherImsi : UInt64 := 1010000000002

def provisionPair : Input :=
  .hssMut ((Hss.new.provision testImsi (Octets.zeros 16) (Octets.zeros 16)).provision otherImsi
    (Octets.zeros 16) (Octets.zeros 16))

def identifyOther : Input :=
  .ngap (Octets.zeros 16) (.uplinkNasTransport
    ⟨1, 2, encodeIdentityResponseSuci (suciForImsi otherImsi), Octets.zeros 6, Octets.zeros 9⟩)

def secureOther : Input :=
  .ngap (Octets.zeros 16) (.uplinkNasTransport
    ⟨1, 2, encodeSecModeComplete, Octets.zeros 6, Octets.zeros 9⟩)

/-- Both subscribers register and complete security mode; then the first is served and leaves. -/
def twoSubscribers : List Input :=
  [provisionPair, registerTest, registerOther, identifyTest, identifyOther, completeSecurity,
    secureOther, setUpTest, deregisterTest, releaseTest]

theorem get?_registerOther :
    (step P amf registerOther).1.world.get? =
      Function.update amf.world.get? amf.world.spawn.1
        (some (registering 2 (Octets.zeros 3)
          ((amf.world.get? amf.world.spawn.1).getD .empty))) := by
  have hplmn : Octets.slice (Octets.zeros 6) 0 3 (by decide) = Octets.zeros 3 := rfl
  rw [registerOther, step_registrationRequest P amf (Octets.zeros 16) 1 0 0x00C0 rfl, hplmn,
    get?_requestIdentity]

/-! ## UEs registering one after another -/

/-- So many registrations have each left an entity without an identity. -/
structure Registered (registrations : Nat) (amf : Amf) : Prop where
  unretired : amf.world.Unretired registrations
  identity?_eq : ∀ e : EntityId, e.toNat < registrations →
    amf.world.identity? e = some ⟨0, 1, Octets.zeros 4⟩

variable {P} {amf} {registrations : Nat}

theorem registered_new (phaseBUpf : Option (Octets 4)) : Registered 0 (Amf.new phaseBUpf) where
  unretired := World.Unretired.new
  identity?_eq := fun _ hlt => absurd hlt (Nat.not_lt_zero _)

theorem registered_registerTest (hregistered : Registered registrations amf) :
    Registered (registrations + 1) (step P amf registerTest).1 := by
  have hidentity := World.identity?_of_update (get?_requestIdentity amf 1 (Octets.zeros 3))
  have hplmn : Octets.slice (Octets.zeros 6) 0 3 (by decide) = Octets.zeros 3 := rfl
  rw [registerTest, step_registrationRequest P amf (Octets.zeros 16) 1 0 0x00C0 rfl, hplmn]
  refine ⟨?_, hregistered.unretired.forall_lt_succ ?_ ?_⟩
  · simp only [requestIdentity, World.insertSecurity5g, World.insertIdentity]
    exact (hregistered.unretired.spawn.modify _ _).modify _ _
  · rw [hidentity, Function.update_self]
    rfl
  · intro e hne hlt
    rw [hidentity, Function.update_of_ne hne]
    exact hregistered.identity?_eq e hlt

/-- Every further registration leaves one more entity. -/
theorem registered_replicate (phaseBUpf : Option (Octets 4)) (registrations : Nat) :
    Registered registrations (Mealy.after (step P) (Amf.new phaseBUpf)
      (List.replicate registrations registerTest)) :=
  Mealy.after_replicate (registered_new phaseBUpf) (fun _ _ h => registered_registerTest h)
    registrations

end Midn.Core.Amf
