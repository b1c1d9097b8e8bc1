import Midn.Core.Amf.Procedure
import Midn.Crypto.Standard

/-!
# Rejected identity responses

An identity response that is not answered leaves the stores of the AMF as they are, with one
exception: the vector is drawn before the entity is looked up, so for an entity that is not there
the SQN of the subscriber has advanced.
-/

namespace Midn

/-- A vector is never drawn without a change of the SQN. -/
theorem Hss.generateAuthVector_ne (P : Primitives) {hss : Hss} {imsi : UInt64}
    (hsub : hss.hasSubscriber imsi = true) (rand : Octets 16) :
    (hss.generateAuthVector P imsi rand).2 ≠ hss := by
  obtain ⟨sub, hsub⟩ := Option.isSome_iff_exists.mp hsub
  intro hsame
  have hrecord := congrArg (fun hss => hss.subscribers imsi) hsame
  simp only [generateAuthVector, hsub, Function.update_self, Option.some.injEq] at hrecord
  have hsqn := congrArg (fun record => record.sqn.toNat) hrecord
  have hlt := sub.sqn.toNat_lt
  rw [and_sqnMask_toNat, UInt64.toNat_add, UInt64.toNat_one] at hsqn
  omega

/-- The COUNT after an accepted message is another one. -/
theorem Nas.reconstructCount_add_one_ne (lastCount : UInt32) (seqByte : UInt8) :
    Nas.reconstructCount lastCount seqByte + 1 ≠ lastCount := by
  intro hsame
  have hcount := congrArg UInt32.toNat hsame
  have hlast := lastCount.toNat_lt
  have hseq : seqByte.toNat < 256 := seqByte.toNat_lt
  rw [UInt32.toNat_add, Nas.reconstructCount_toNat, UInt32.toNat_one] at hcount
  split at hcount
  next => omega
  next => omega

/-- A message that opens moves the uplink COUNT. -/
theorem Nas5gs.decodeProtected_ctx_ne (P : Primitives) {ctx : Nas5gsSecurityContext}
    {buf plainPdu : List UInt8} (hopen : (decodeProtected P ctx buf).1 = some plainPdu) :
    (decodeProtected P ctx buf).2 ≠ ctx := by
  intro hsame
  rw [decodeProtected] at hopen hsame
  split at hopen
  next => cases hopen
  next macI seqByte ciphertext henvelope =>
    simp only [henvelope, Nas5gsSecurityContext.unprotectUplink] at hopen hsame
    split at hopen
    next => cases hopen
    next hplain =>
      simp only [hplain] at hsame
      exact Nas.reconstructCount_add_one_ne _ _ (congrArg Nas5gsSecurityContext.ulCount hsame)

namespace Core.Amf

open Ecs Nas5gs Ngap

variable (P : Primitives) (amf : Amf)

/-- Two AMF states with the same subscribers, entities and registry. -/
structure SameStores (amf amf' : Amf) : Prop where
  hss : amf'.hss = amf.hss
  world : amf'.world = amf.world
  registry : amf'.registry = amf.registry

/-- What an uplink message holds, out of its envelope, is an identity response. -/
def CarriesIdentityResponse (m : NgapUplinkNasTransport) (inner : DecodedIdentityResponse) : Prop :=
  ∃ plainPdu, (openUplink P amf m.amfUeNgapId m.nasPdu).1 = some plainPdu ∧
    decodeNas5gs plainPdu = .ok (.identityResponse inner)

/-- The SUCI of an identity response is the null-scheme SUCI of a provisioned subscriber. -/
def NamesSubscriber (hss : Hss) (inner : DecodedIdentityResponse) : Prop :=
  ∃ suci imsi, inner.suci = some suci ∧ resolveSuciToImsi suci = some imsi ∧
    hss.hasSubscriber imsi = true

variable {P amf} {rand : Octets 16} {m : NgapUplinkNasTransport} {inner : DecodedIdentityResponse}

/-- A vector is drawn for the subscriber an identity response names. -/
theorem identityVector_of_names (P : Primitives) (rand : Octets 16) {hss : Hss}
    {plainPdu : List UInt8} (hdecode : decodeNas5gs plainPdu = .ok (.identityResponse inner))
    (hnames : NamesSubscriber hss inner) :
    ∃ imsi authInfo, hss.hasSubscriber imsi = true ∧
      identityVector P hss plainPdu rand =
        some (imsi, authInfo, (hss.generateAuthVector P imsi rand).2) := by
  obtain ⟨suci, imsi, hsuci, himsi, hsub⟩ := hnames
  obtain ⟨sub, hrecord⟩ := Option.isSome_iff_exists.mp hsub
  have hdrawn := Hss.generateAuthVector_of_subscriber P hrecord rand
  cases hvector : hss.generateAuthVector P imsi rand with
  | mk drawn hss' =>
      rw [hvector] at hdrawn
      cases drawn with
      | none => cases hdrawn
      | some authInfo =>
          refine ⟨imsi, authInfo, hsub, ?_⟩
          simp only [identityVector, hdecode, hsuci, himsi, hvector]

theorem identityVector_of_not_names (P : Primitives) (rand : Octets 16) {hss : Hss}
    {plainPdu : List UInt8} (hdecode : decodeNas5gs plainPdu = .ok (.identityResponse inner))
    (hnames : ¬ NamesSubscriber hss inner) : identityVector P hss plainPdu rand = none := by
  simp only [identityVector, hdecode]
  cases hsuci : inner.suci with
  | none => rfl
  | some suci =>
      cases himsi : resolveSuciToImsi suci with
      | none => simp only [himsi]
      | some imsi =>
          cases hrecord : hss.subscribers imsi with
          | none => simp only [himsi, Hss.generateAuthVector, hrecord]
          | some sub =>
              have hsub : hss.hasSubscriber imsi = true := by
                rw [Hss.hasSubscriber, hrecord, Option.isSome_some]
              exact absurd ⟨suci, imsi, hsuci, himsi, hsub⟩ hnames

/-- A challenge that is not sent has no effect but that of its vector. -/
theorem issueChallenge_of_no_message {ranUeNgapId amfUeNgapId : UInt32} {imsi : UInt64}
    {authInfo : HssAuthInfo} {hss : Hss}
    (hsilent : (issueChallenge P amf ranUeNgapId amfUeNgapId imsi authInfo hss).2.1 = []) :
    (issueChallenge P amf ranUeNgapId amfUeNgapId imsi authInfo hss).1 =
      { amf with hss := hss } := by
  unfold issueChallenge at hsilent ⊢
  split
  next => rfl
  next aka hlive =>
    simp only [hlive] at hsilent
    cases hsilent

/-- A rejected identity response leaves at most other subscribers behind, and does so exactly when
it names one. -/
theorem handleIdentityResponse_of_rejected {ranUeNgapId amfUeNgapId : UInt32}
    {plainPdu : List UInt8} (hdecode : decodeNas5gs plainPdu = .ok (.identityResponse inner))
    (hrejected : (handleIdentityResponse P amf rand ranUeNgapId amfUeNgapId plainPdu).2.1 = []) :
    ∃ hss, (handleIdentityResponse P amf rand ranUeNgapId amfUeNgapId plainPdu).1 =
      { amf with hss := hss } ∧ (hss = amf.hss ↔ ¬ NamesSubscriber amf.hss inner) := by
  unfold handleIdentityResponse at hrejected ⊢
  by_cases hnames : NamesSubscriber amf.hss inner
  · obtain ⟨imsi, authInfo, hsub, hvector⟩ := identityVector_of_names P rand hdecode hnames
    simp only [hvector] at hrejected ⊢
    refine ⟨_, issueChallenge_of_no_message hrejected, ?_⟩
    exact iff_of_false (Hss.generateAuthVector_ne P hsub rand) (not_not.mpr hnames)
  · simp only [identityVector_of_not_names P rand hdecode hnames]
    exact ⟨amf.hss, rfl, iff_of_true rfl hnames⟩

/-- Opening the envelope of a message leaves the entities alone only where there is none. -/
theorem openUplink_world_iff {amfUeNgapId : UInt32} {nasPdu plainPdu : List UInt8}
    (hopen : (openUplink P amf amfUeNgapId nasPdu).1 = some plainPdu) :
    (openUplink P amf amfUeNgapId nasPdu).2.world = amf.world ↔
      securityHeaderType nasPdu = nas5gsShtPlain := by
  unfold openUplink at hopen ⊢
  by_cases hplain : securityHeaderType nasPdu = nas5gsShtPlain
  · rw [if_pos hplain]
    exact ⟨fun _ => hplain, fun _ => rfl⟩
  · rw [if_neg hplain] at hopen ⊢
    cases hctx : amf.world.nasSecurity5g? amfUeNgapId with
    | none =>
        simp only [hctx] at hopen
        cases hopen
    | some ctx =>
        simp only [hctx] at hopen ⊢
        refine iff_of_false ?_ hplain
        intro hsame
        have hstored := congrArg (fun w => w.nasSecurity5g? amfUeNgapId) hsame
        simp only [World.nasSecurity5g?_setNasSecurity5g hctx, hctx, Option.some.injEq] at hstored
        exact decodeProtected_ctx_ne P hopen hstored

/-- An identity response is handled once it is out of its envelope. -/
theorem step_of_opened (rand : Octets 16) {plainPdu : List UInt8}
    (hopen : (openUplink P amf m.amfUeNgapId m.nasPdu).1 = some plainPdu)
    (hdecode : decodeNas5gs plainPdu = .ok (.identityResponse inner)) :
    step P amf (.ngap rand (.uplinkNasTransport m)) =
      handleIdentityResponse P (openUplink P amf m.amfUeNgapId m.nasPdu).2 rand m.ranUeNgapId
        m.amfUeNgapId plainPdu := by
  simp only [step, processNgap, handleUplinkNas]
  split
  next amf' hclosed =>
    rw [hclosed] at hopen
    cases hopen
  next plainPdu' amf' hopened =>
    rw [hopened] at hopen
    cases hopen
    simp only [hopened, dispatchNas, hdecode]

/-- A rejected identity response leaves the subscribers, the entities and the registry alone exactly
when its SUCI names no subscriber; counted from before its envelope is opened, exactly when it also
came without one. -/
theorem rejectedIdentity_atomic_iff (hcarries : CarriesIdentityResponse P amf m inner)
    (hrejected : (step P amf (.ngap rand (.uplinkNasTransport m))).2.1 = []) :
    (SameStores (openUplink P amf m.amfUeNgapId m.nasPdu).2
        (step P amf (.ngap rand (.uplinkNasTransport m))).1 ↔ ¬ NamesSubscriber amf.hss inner) ∧
      (SameStores amf (step P amf (.ngap rand (.uplinkNasTransport m))).1 ↔
        securityHeaderType m.nasPdu = nas5gsShtPlain ∧ ¬ NamesSubscriber amf.hss inner) := by
  obtain ⟨plainPdu, hopen, hdecode⟩ := hcarries
  have hstep := step_of_opened rand hopen hdecode
  rw [hstep] at hrejected
  obtain ⟨hss, hpost, hsubs⟩ := handleIdentityResponse_of_rejected hdecode hrejected
  rw [openUplink_hss] at hsubs
  rw [hstep, hpost, ← hsubs, ← openUplink_world_iff hopen]
  constructor
  · constructor
    · intro hsame
      have hkept := hsame.hss
      rw [openUplink_hss] at hkept
      exact hkept
    · intro hkept
      exact ⟨by rw [openUplink_hss, hkept], rfl, rfl⟩
  · constructor
    · intro hsame
      exact ⟨hsame.world, hsame.hss⟩
    · rintro ⟨hworld, hkept⟩
      exact ⟨hkept, hworld, openUplink_registry ..⟩

/-- The identity response of the test subscriber for entity 0, which `identifyTest` delivers. -/
def testIdentity : NgapUplinkNasTransport :=
  ⟨0, 1, encodeIdentityResponseSuci (suciForImsi testImsi), Octets.zeros 6, Octets.zeros 9⟩

theorem securityHeaderType_testIdentity : securityHeaderType testIdentity.nasPdu = nas5gsShtPlain :=
  securityHeaderType_header ..

theorem carries_testIdentity (P : Primitives) (amf : Amf) :
    ∃ inner, inner.suci = some (suciForImsi testImsi) ∧
      CarriesIdentityResponse P amf testIdentity inner := by
  refine ⟨_, rfl, testIdentity.nasPdu, ?_, decodeNas5gs_encodeIdentityResponseSuci _⟩
  rw [openUplink, if_pos securityHeaderType_testIdentity]

/-- Before any UE has registered there is no entity 0 to challenge. -/
theorem step_testIdentity (P : Primitives) :
    step P (provisioned P none) (.ngap (Octets.zeros 16) (.uplinkNasTransport testIdentity)) =
      ({ provisioned P none with
          hss := ((provisioned P none).hss.generateAuthVector P testImsi (Octets.zeros 16)).2 },
        silent) := by
  have hsub : (provisioned P none).hss.subscribers testImsi =
      some ⟨⟨Octets.zeros 16, Octets.zeros 16⟩, 0⟩ := rfl
  rw [step_identityResponse P _ hsub (by decide) (Octets.zeros 16) rfl]
  rfl

theorem testIdentity_rejectedIdentity_atomic_iff :
    ∃ inner, NamesSubscriber (provisioned .standard none).hss inner ∧
      (SameStores (openUplink .standard (provisioned .standard none) 0 testIdentity.nasPdu).2
          (step .standard (provisioned .standard none) identifyTest).1 ↔
        ¬ NamesSubscriber (provisioned .standard none).hss inner) ∧
      (SameStores (provisioned .standard none)
          (step .standard (provisioned .standard none) identifyTest).1 ↔
        securityHeaderType testIdentity.nasPdu = nas5gsShtPlain ∧
          ¬ NamesSubscriber (provisioned .standard none).hss inner) := by
  obtain ⟨inner, hsuci, hcarries⟩ := carries_testIdentity .standard (provisioned .standard none)
  refine ⟨inner, ⟨_, _, hsuci, resolveSuciToImsi_suciForImsi (by decide), rfl⟩, ?_⟩
  exact rejectedIdentity_atomic_iff hcarries
    (by rw [step_testIdentity]; rfl)

/-- A provisioned subscriber that is named for an entity nobody has registered loses a vector. -/
theorem testIdentity_without_entity_not_atomic :
    ¬ ∃ P : Primitives, ∀ inner,
      CarriesIdentityResponse P (provisioned P none) testIdentity inner →
      (step P (provisioned P none) identifyTest).2.1 = [] →
      SameStores (provisioned P none) (step P (provisioned P none) identifyTest).1 := by
  rintro ⟨P, hatomic⟩
  obtain ⟨inner, -, hcarries⟩ := carries_testIdentity P (provisioned P none)
  have hstep : step P (provisioned P none) identifyTest = _ := step_testIdentity P
  have hsame := hatomic inner hcarries (by rw [hstep]; rfl)
  have hkept := hsame.hss
  rw [hstep] at hkept
  exact Hss.generateAuthVector_ne P (by rfl) (Octets.zeros 16) hkept

end Core.Amf

end Midn
