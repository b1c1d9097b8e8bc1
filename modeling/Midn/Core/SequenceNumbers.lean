import Midn.Core.Amf.Registration
import Midn.Core.Hss
import Midn.Core.Mme.Attach
import Midn.Lib.Mealy

/-!
# Sequence numbers

The HSS counts the vectors of each subscriber from where its last provisioning or update set the
counter. A holder of the credentials reads the sequence number out of the challenge that is sent.
-/

namespace Midn

open Auth

variable (P : Primitives)

/-! ## The subscriber store as a machine -/

inductive HssInput where
  | provision (imsi : UInt64) (k opc : Octets 16)
  | provisionWithOp (imsi : UInt64) (k op : Octets 16)
  | deprovision (imsi : UInt64)
  | generateAuthVector (imsi : UInt64) (rand : Octets 16)
  | updateSqn (imsi newSqn : UInt64)

/-- Nothing, whether the subscriber was there, or a vector for it. -/
inductive HssOutput where
  | done
  | present (found : Bool)
  | vector (authInfo : Option HssAuthInfo)

def hssStep (hss : Hss) : HssInput → Hss × HssOutput
  | .provision imsi k opc => (hss.provision imsi k opc, .done)
  | .provisionWithOp imsi k op => (hss.provisionWithOp P imsi k op, .done)
  | .deprovision imsi => ((hss.deprovision imsi).2, .present (hss.deprovision imsi).1)
  | .generateAuthVector imsi rand =>
      ((hss.generateAuthVector P imsi rand).2, .vector (hss.generateAuthVector P imsi rand).1)
  | .updateSqn imsi newSqn =>
      ((hss.updateSqn imsi newSqn).2, .present (hss.updateSqn imsi newSqn).1)

abbrev HssTransition := Mealy.Transition Hss HssInput HssOutput

/-- The IMSI an input is about. -/
def HssInput.imsi : HssInput → UInt64
  | .provision imsi _ _ => imsi
  | .provisionWithOp imsi _ _ => imsi
  | .deprovision imsi => imsi
  | .generateAuthVector imsi _ => imsi
  | .updateSqn imsi _ => imsi

/-- What an input makes of the record of its IMSI. -/
def HssInput.effect : HssInput → Option SubscriberRecord → Option SubscriberRecord
  | .provision _ k opc, _ => some ⟨⟨k, opc⟩, 0⟩
  | .provisionWithOp _ k op, _ => some ⟨.withOp P k op, 0⟩
  | .deprovision _, _ => none
  | .generateAuthVector _ _, sub => sub.map fun sub => { sub with sqn := (sub.sqn + 1) &&& sqnMask }
  | .updateSqn _ newSqn, sub => sub.map fun sub => { sub with sqn := newSqn &&& sqnMask }

/-- A step changes the record of its IMSI alone. -/
theorem subscribers_hssStep (hss : Hss) (input : HssInput) :
    (hssStep P hss input).1.subscribers =
      Function.update hss.subscribers input.imsi
        (input.effect P (hss.subscribers input.imsi)) := by
  cases input with
  | provision imsi k opc => rfl
  | provisionWithOp imsi k op => rfl
  | deprovision imsi => rfl
  | generateAuthVector imsi rand =>
      cases hsub : hss.subscribers imsi with
      | none =>
          have hsame : Function.update hss.subscribers imsi none = hss.subscribers := by
            rw [← hsub, Function.update_eq_self]
          simp only [hssStep, Hss.generateAuthVector, HssInput.imsi, HssInput.effect, hsub,
            Option.map_none, hsame]
      | some sub =>
          simp only [hssStep, Hss.generateAuthVector, HssInput.imsi, HssInput.effect, hsub,
            Option.map_some]
  | updateSqn imsi newSqn =>
      cases hsub : hss.subscribers imsi with
      | none =>
          have hsame : Function.update hss.subscribers imsi none = hss.subscribers := by
            rw [← hsub, Function.update_eq_self]
          simp only [hssStep, Hss.updateSqn, HssInput.imsi, HssInput.effect, hsub,
            Option.map_none, hsame]
      | some sub =>
          simp only [hssStep, Hss.updateSqn, HssInput.imsi, HssInput.effect, hsub, Option.map_some]

/-- The value an input sets the counter of an IMSI to. -/
def HssInput.setsSqn (imsi : UInt64) : HssInput → Option Nat
  | .provision i _ _ => if i = imsi then some 0 else none
  | .provisionWithOp i _ _ => if i = imsi then some 0 else none
  | .updateSqn i newSqn => if i = imsi then some (newSqn.toNat % 2 ^ 48) else none
  | .deprovision _ => none
  | .generateAuthVector _ _ => none

/-- The credentials an input stores for an IMSI, or that it removes them. -/
def HssInput.setsCredentials : HssInput → Option (UInt64 × Option MilenageContext)
  | .provision imsi k opc => some (imsi, some ⟨k, opc⟩)
  | .provisionWithOp imsi k op => some (imsi, some (.withOp P k op))
  | .deprovision imsi => some (imsi, none)
  | .updateSqn _ _ => none
  | .generateAuthVector _ _ => none

/-- A vector is generated for the IMSI. -/
def drawsVector (imsi : UInt64) (t : HssTransition) : Bool :=
  match t.input, t.output with
  | .generateAuthVector i _, .vector (some _) => i = imsi
  | _, _ => false

/-- Since the counter of the IMSI was last set, to `s0`, `k` vectors have been generated for it. -/
def CountedSince (imsi : UInt64) (s0 k : Nat) (past : List HssTransition) : Prop :=
  ∃ before reset after, past = before ++ reset :: after ∧ reset.input.setsSqn imsi = some s0 ∧
    (∀ u ∈ after, u.input.setsSqn imsi = none) ∧ after.countP (drawsVector imsi) = k

/-! ## Counters -/

/-- The six octets of a record are the low 48 bits of its counter. -/
theorem beValue_sqnBytes (sub : SubscriberRecord) :
    Octets.beValue sub.sqnBytes.toList = sub.sqn.toNat % 2 ^ 48 := by
  have hbytes : sub.sqnBytes.toList = Octets.beBytes 6 sub.sqn.toNat := by
    rw [SubscriberRecord.sqnBytes, Octets.toList_slice]
    change (Octets.beBytes 6 sub.sqn.toNat).take 6 = _
    exact List.take_of_length_le (le_of_eq (Octets.length_beBytes ..))
  have hword : 256 ^ 6 = 2 ^ 48 := rfl
  rw [hbytes, Octets.beValue_beBytes, hword]

variable {imsi : UInt64} {s0 k : Nat} {past : List HssTransition} {t : HssTransition}

theorem countedSince_of_sets (hsets : t.input.setsSqn imsi = some s0) :
    CountedSince imsi s0 0 (past ++ [t]) :=
  ⟨past, t, [], rfl, hsets, List.forall_mem_nil _, rfl⟩

theorem CountedSince.append (hcounted : CountedSince imsi s0 k past)
    (hsets : t.input.setsSqn imsi = none) :
    CountedSince imsi s0 (k + if drawsVector imsi t then 1 else 0) (past ++ [t]) := by
  obtain ⟨before, reset, after, rfl, hreset, hafter, hcount⟩ := hcounted
  refine ⟨before, reset, after ++ [t], by simp, hreset, ?_, ?_⟩
  · intro u hmem
    rcases List.mem_append.mp hmem with hmem | hmem
    · exact hafter u hmem
    · rw [List.mem_singleton.mp hmem]
      exact hsets
  · rw [List.countP_append, hcount, List.countP_singleton]

/-! ## The invariant -/

theorem setsSqn_of_ne {input : HssInput} (hne : input.imsi ≠ imsi) :
    input.setsSqn imsi = none := by
  cases input with
  | provision i k opc => exact if_neg hne
  | provisionWithOp i k op => exact if_neg hne
  | deprovision i => rfl
  | generateAuthVector i rand => rfl
  | updateSqn i newSqn => exact if_neg hne

theorem drawsVector_of_ne (hne : t.input.imsi ≠ imsi) : drawsVector imsi t = false := by
  obtain ⟨pre, input, post, output⟩ := t
  cases input with
  | generateAuthVector i rand =>
      cases output with
      | vector authInfo =>
          cases authInfo with
          | none => rfl
          | some authInfo => exact decide_eq_false hne
      | _ => rfl
  | _ => rfl

/-- A vector for the IMSI is counted. -/
theorem drawsVector_generate {hss : Hss} {sub : SubscriberRecord}
    (hsub : hss.subscribers imsi = some sub) (rand : Octets 16) :
    drawsVector imsi (Mealy.transition (hssStep P) hss (.generateAuthVector imsi rand)) = true := by
  have hvector := Hss.generateAuthVector_of_subscriber P hsub rand
  simp only [drawsVector, Mealy.transition, hssStep, hvector, decide_true]

/-- The credentials of the subscribers. -/
def Hss.credentials (hss : Hss) (imsi : UInt64) : Option MilenageContext :=
  (hss.subscribers imsi).map SubscriberRecord.ctx

/-- The credentials of the IMSI were last set to these. -/
def LastCredentials (imsi : UInt64) (ctx : MilenageContext) : List HssTransition → Prop :=
  Mealy.LastWrote (fun t => t.input.setsCredentials P) imsi (some ctx)

structure HssInvariant (past : List HssTransition) (hss : Hss) : Prop where
  /-- A counter holds the number of vectors since it was last set. -/
  counted : ∀ imsi sub, hss.subscribers imsi = some sub →
    ∃ s0 k, CountedSince imsi s0 k past ∧ sub.sqn.toNat = (s0 + k) % 2 ^ 48
  /-- The credentials are those of the last provisioning. -/
  credentials : ∀ imsi ctx, LastCredentials P imsi ctx past ↔ hss.credentials imsi = some ctx

theorem hssInvariant_new : HssInvariant P [] Hss.new where
  counted := fun _ _ hsub => nomatch hsub
  credentials := fun _ _ => iff_of_false Mealy.not_lastWrote_nil nofun

theorem counted_step {hss : Hss} (hinv : HssInvariant P past hss) (input : HssInput)
    {sub : SubscriberRecord} (hsub : (hssStep P hss input).1.subscribers imsi = some sub) :
    ∃ s0 k, CountedSince imsi s0 k (past ++ [Mealy.transition (hssStep P) hss input]) ∧
      sub.sqn.toNat = (s0 + k) % 2 ^ 48 := by
  rw [subscribers_hssStep] at hsub
  by_cases hsame : input.imsi = imsi
  · subst hsame
    rw [Function.update_self] at hsub
    cases input with
    | provision i k opc =>
        cases hsub
        exact ⟨0, 0, countedSince_of_sets (if_pos rfl), rfl⟩
    | provisionWithOp i k op =>
        cases hsub
        exact ⟨0, 0, countedSince_of_sets (if_pos rfl), rfl⟩
    | deprovision i => cases hsub
    | generateAuthVector i rand =>
        obtain ⟨before, hbefore, rfl⟩ := Option.map_eq_some_iff.mp hsub
        have hbefore : hss.subscribers i = some before := hbefore
        obtain ⟨s0, k, hcounted, hsqn⟩ := hinv.counted i before hbefore
        have hnext := hcounted.append
          (t := Mealy.transition (hssStep P) hss (.generateAuthVector i rand)) rfl
        rw [drawsVector_generate P hbefore rand, if_pos rfl] at hnext
        refine ⟨s0, k + 1, hnext, ?_⟩
        rw [and_sqnMask_toNat, UInt64.toNat_add, hsqn, UInt64.toNat_one]
        omega
    | updateSqn i newSqn =>
        obtain ⟨before, hbefore, rfl⟩ := Option.map_eq_some_iff.mp hsub
        refine ⟨newSqn.toNat % 2 ^ 48, 0, countedSince_of_sets (if_pos rfl), ?_⟩
        rw [and_sqnMask_toNat, Nat.add_zero, Nat.mod_mod]
  · rw [Function.update_of_ne (Ne.symm hsame)] at hsub
    obtain ⟨s0, k, hcounted, hsqn⟩ := hinv.counted imsi sub hsub
    have hnext := hcounted.append (t := Mealy.transition (hssStep P) hss input)
      (setsSqn_of_ne hsame)
    rw [drawsVector_of_ne hsame] at hnext
    exact ⟨s0, k, hnext, hsqn⟩

/-- The credentials change by provisioning and deprovisioning alone. -/
theorem credentials_hssStep (hss : Hss) (input : HssInput) :
    (hssStep P hss input).1.credentials =
      Mealy.write hss.credentials (input.setsCredentials P) := by
  have hstep : (hssStep P hss input).1.credentials =
      Function.update hss.credentials input.imsi
        ((input.effect P (hss.subscribers input.imsi)).map SubscriberRecord.ctx) := by
    funext imsi
    rw [Hss.credentials, subscribers_hssStep]
    exact Function.apply_update (fun _ => Option.map SubscriberRecord.ctx) ..
  rw [hstep]
  cases input with
  | provision i k opc => rfl
  | provisionWithOp i k op => rfl
  | deprovision i => rfl
  | generateAuthVector i rand =>
      have hkept : ((hss.subscribers i).map fun sub =>
          { sub with sqn := (sub.sqn + 1) &&& sqnMask }).map SubscriberRecord.ctx =
            hss.credentials i := Option.map_map ..
      simp only [HssInput.effect, HssInput.imsi, hkept, Function.update_eq_self]
      rfl
  | updateSqn i newSqn =>
      have hkept : ((hss.subscribers i).map fun sub =>
          { sub with sqn := newSqn &&& sqnMask }).map SubscriberRecord.ctx =
            hss.credentials i := Option.map_map ..
      simp only [HssInput.effect, HssInput.imsi, hkept, Function.update_eq_self]
      rfl

theorem hssInvariant_step {hss : Hss} (hinv : HssInvariant P past hss) (input : HssInput) :
    HssInvariant P (past ++ [Mealy.transition (hssStep P) hss input]) (hssStep P hss input).1 where
  counted := fun _ _ hsub => counted_step P hinv input hsub
  credentials := fun imsi ctx =>
    Mealy.lastWrote_append_singleton_iff Hss.credentials (hinv.credentials imsi ctx)
      (credentials_hssStep P hss input)

/-- A vector holds the number its subscriber has counted to, under its current credentials. -/
def VectorCounted (past : List HssTransition) (t : HssTransition) : Prop :=
  ∀ imsi rand authInfo, t.input = .generateAuthVector imsi rand →
    t.output = .vector (some authInfo) →
    (∃ s0 k, CountedSince imsi s0 k past ∧
      Octets.beValue authInfo.sqnUsed.toList = (s0 + k) % 2 ^ 48) ∧
    ∃ ctx, LastCredentials P imsi ctx past ∧ authInfo.rand = rand ∧
      authInfo.vector = ctx.compute P rand authInfo.sqnUsed milenageAmfField

theorem vectorCounted_of_invariant {hss : Hss} (hinv : HssInvariant P past hss)
    (input : HssInput) : VectorCounted P past (Mealy.transition (hssStep P) hss input) := by
  intro imsi rand authInfo hinput houtput
  have hinput : input = .generateAuthVector imsi rand := hinput
  subst hinput
  cases hsub : hss.subscribers imsi with
  | none =>
      simp only [Mealy.transition, hssStep, Hss.generateAuthVector, hsub] at houtput
      cases houtput
  | some sub =>
      have hvector := Hss.generateAuthVector_of_subscriber P hsub rand
      simp only [Mealy.transition, hssStep, hvector] at houtput
      cases houtput
      obtain ⟨s0, k, hcounted, hsqn⟩ := hinv.counted imsi sub hsub
      have hcredentials : hss.credentials imsi = some sub.ctx := by
        rw [Hss.credentials, hsub, Option.map_some]
      refine ⟨⟨s0, k, hcounted, ?_⟩, sub.ctx, (hinv.credentials imsi sub.ctx).mpr hcredentials,
        rfl, rfl⟩
      rw [beValue_sqnBytes, hsqn, Nat.mod_mod]

/-- Every vector of every run of the subscriber store is counted. -/
theorem always_vectorCounted (inputs : List HssInput) :
    Mealy.Always (hssStep P) Hss.new inputs (VectorCounted P) := by
  have hunconditional : Mealy.Always (hssStep P) Hss.new inputs fun _ _ => True :=
    fun _ _ _ _ => trivial
  exact Mealy.always_of_invariant (HssInvariant P) (hssInvariant_new P)
    (fun _ _ input hinv _ => hssInvariant_step P hinv input)
    (fun _ _ input hinv _ => vectorCounted_of_invariant P hinv input) hunconditional

/-! ## What a challenge tells -/

/-- A holder of the credentials gets the sequence number out of RAND and AUTN, by an anonymity key
that takes nothing but RAND, and finds the MAC of it there. -/
structure ReadsBack (ctx : MilenageContext) (rand autn : Octets 16) (sqn : Octets 6) : Prop where
  recovered : ∀ sqn' amf',
    Octets.xor (autn.slice 0 6 sqn_in_autn) (ctx.compute P rand sqn' amf').ak = sqn
  mac : autn.slice 8 8 macA_in_autn =
    (ctx.compute P rand sqn (autn.slice 6 2 amf_in_autn)).macA

theorem readsBack_autn (ctx : MilenageContext) (rand : Octets 16) (sqn : Octets 6)
    (amf : Octets 2) :
    ReadsBack P ctx rand ((ctx.compute P rand sqn amf).autn sqn amf) sqn := by
  constructor
  · intro sqn' amf'
    rw [AuthVector.autn_sqnXorAk, (ctx.compute_indep_sqn P rand sqn' sqn amf' amf).2.2.2,
      Octets.xor_xor_cancel_right]
  · rw [AuthVector.autn_macA, AuthVector.autn_amf]

/-- What a fresh vector is. -/
theorem Hss.generateAuthVector_eq_some {hss hss' : Hss} {rand : Octets 16}
    {authInfo : HssAuthInfo}
    (hvector : hss.generateAuthVector P imsi rand = (some authInfo, hss')) :
    ∃ sub, hss.subscribers imsi = some sub ∧
      authInfo = ⟨rand, sub.ctx.compute P rand sub.sqnBytes milenageAmfField, sub.sqnBytes⟩ := by
  cases hsub : hss.subscribers imsi with
  | none =>
      rw [generateAuthVector, hsub] at hvector
      cases hvector
  | some sub =>
      have hdrawn := generateAuthVector_of_subscriber P hsub rand
      rw [hvector] at hdrawn
      exact ⟨sub, rfl, Option.some.inj hdrawn⟩

/-- RAND and AUTN challenge a subscriber with a vector that has just been drawn for it. -/
def DrawnChallenge (hss hss' : Hss) (rand autn : Octets 16) : Prop :=
  ∃ imsi sub authInfo, hss.subscribers imsi = some sub ∧
    hss.generateAuthVector P imsi rand = (some authInfo, hss') ∧
    ReadsBack P sub.ctx rand autn authInfo.sqnUsed

variable {P}

/-- A vector challenges its subscriber with the AUTN of the AMF it has been generated with. -/
theorem challenges_autn {hss hss' : Hss} {rand : Octets 16} {authInfo : HssAuthInfo}
    (hvector : hss.generateAuthVector P imsi rand = (some authInfo, hss')) :
    authInfo.rand = rand ∧ DrawnChallenge P hss hss' rand
      (authInfo.vector.autn authInfo.sqnUsed milenageAmfField) := by
  obtain ⟨sub, hsub, hinfo⟩ := Hss.generateAuthVector_eq_some P hvector
  refine ⟨by rw [hinfo], imsi, sub, authInfo, hsub, hvector, ?_⟩
  rw [hinfo]
  exact readsBack_autn ..

namespace Core.Mme

open Nas S1ap

/-- The vector of an attach request has been drawn for the IMSI in it. -/
theorem attachVector_eq_some {hss hss' : Hss} {nasPdu : List UInt8} {rand : Octets 16}
    {authInfo : HssAuthInfo}
    (hvector : attachVector P hss nasPdu rand = some (imsi, authInfo, hss')) :
    hss.generateAuthVector P imsi rand = (some authInfo, hss') := by
  unfold attachVector at hvector
  split at hvector
  next inner _ =>
    cases himsi : inner.imsi with
    | none => simp only [himsi, reduceCtorEq] at hvector
    | some i =>
        cases hdrawn : hss.generateAuthVector P i rand with
        | mk drawn rest =>
            cases drawn with
            | none => simp only [himsi, hdrawn, reduceCtorEq] at hvector
            | some drawn =>
                simp only [himsi, hdrawn] at hvector
                cases hvector
                exact hdrawn
  next => cases hvector

/-- What an attach request is answered with is a challenge of the subscriber. -/
theorem startAttach_challenges {mme : Mme} {rand : Octets 16} {enbUeS1apId : UInt32}
    {nasPdu : List UInt8} {tai : Octets 5} {m : DownlinkNasTransport}
    (hsent : .downlinkNasTransport m ∈ (startAttach P mme rand enbUeS1apId nasPdu tai).2.1) :
    ∃ autn, decodeNas m.nasPdu = .ok (.authenticationRequest ⟨0, rand, autn⟩) ∧
      DrawnChallenge P mme.hss (startAttach P mme rand enbUeS1apId nasPdu tai).1.hss rand autn := by
  cases hvector : attachVector P mme.hss nasPdu rand with
  | none =>
      simp only [startAttach, hvector] at hsent
      cases hsent
  | some drawn =>
      obtain ⟨imsi, authInfo, hss⟩ := drawn
      obtain ⟨hrand, hchallenges⟩ := challenges_autn (attachVector_eq_some hvector)
      simp only [startAttach, hvector, issueChallenge, amfField_eq] at hsent ⊢
      cases List.mem_singleton.mp hsent
      refine ⟨_, ?_, hchallenges⟩
      rw [decodeNas_encodeAuthRequest, hrand]
      rfl

end Core.Mme

namespace Core.Amf

open Nas5gs Ngap

/-- The vector of an identity response has been drawn for the IMSI in it. -/
theorem identityVector_eq_some {hss hss' : Hss} {nasPdu : List UInt8} {rand : Octets 16}
    {authInfo : HssAuthInfo}
    (hvector : identityVector P hss nasPdu rand = some (imsi, authInfo, hss')) :
    hss.generateAuthVector P imsi rand = (some authInfo, hss') := by
  unfold identityVector at hvector
  split at hvector
  next inner _ =>
    cases hsuci : inner.suci with
    | none => simp only [hsuci, reduceCtorEq] at hvector
    | some suci =>
        cases himsi : resolveSuciToImsi suci with
        | none => simp only [hsuci, himsi, reduceCtorEq] at hvector
        | some i =>
            cases hdrawn : hss.generateAuthVector P i rand with
            | mk drawn rest =>
                cases drawn with
                | none => simp only [hsuci, himsi, hdrawn, reduceCtorEq] at hvector
                | some drawn =>
                    simp only [hsuci, himsi, hdrawn] at hvector
                    cases hvector
                    exact hdrawn
  next => cases hvector

/-- What an identity response is answered with is a challenge of the subscriber. -/
theorem handleIdentityResponse_challenges {amf : Amf} {rand : Octets 16}
    {ranUeNgapId amfUeNgapId : UInt32} {nasPdu : List UInt8} {m : NgapDownlinkNasTransport}
    (hsent : .downlinkNasTransport m ∈
      (handleIdentityResponse P amf rand ranUeNgapId amfUeNgapId nasPdu).2.1) :
    ∃ autn, decodeNas5gs m.nasPdu = .ok (.authenticationRequest ⟨0, rand, autn⟩) ∧
      DrawnChallenge P amf.hss
        (handleIdentityResponse P amf rand ranUeNgapId amfUeNgapId nasPdu).1.hss rand autn := by
  cases hvector : identityVector P amf.hss nasPdu rand with
  | none =>
      simp only [handleIdentityResponse, hvector] at hsent
      cases hsent
  | some drawn =>
      obtain ⟨imsi, authInfo, hss⟩ := drawn
      obtain ⟨hrand, hchallenges⟩ := challenges_autn (identityVector_eq_some hvector)
      cases haka : amf.world.security5g? amfUeNgapId with
      | none =>
          simp only [handleIdentityResponse, hvector, issueChallenge, haka] at hsent
          cases hsent
      | some aka =>
          simp only [handleIdentityResponse, hvector, issueChallenge, haka, milenageAmf_eq]
            at hsent ⊢
          cases List.mem_singleton.mp hsent
          refine ⟨_, ?_, hchallenges⟩
          rw [decodeNas5gs_encodeAuthRequest, hrand]
          rfl

end Core.Amf

/-- Over every run of the subscriber store the vectors of an IMSI are counted, and inputs about
other IMSIs leave its record as it is. Each challenge the MME or the AMF sends is for a vector
just drawn, and a holder of the credentials of the subscriber finds its sequence number and its
MAC there. -/
theorem vectors_counted_and_readBack (P : Primitives) :
    (∀ inputs, Mealy.Always (hssStep P) Hss.new inputs (VectorCounted P)) ∧
    (∀ hss input imsi, input.imsi ≠ imsi →
      (hssStep P hss input).1.subscribers imsi = hss.subscribers imsi) ∧
    (∀ mme rand enbUeS1apId nasPdu tai m,
      .downlinkNasTransport m ∈ (Core.Mme.startAttach P mme rand enbUeS1apId nasPdu tai).2.1 →
      ∃ autn, Nas.decodeNas m.nasPdu = .ok (.authenticationRequest ⟨0, rand, autn⟩) ∧
        DrawnChallenge P mme.hss (Core.Mme.startAttach P mme rand enbUeS1apId nasPdu tai).1.hss rand
          autn) ∧
    ∀ amf rand ranUeNgapId amfUeNgapId nasPdu m,
      .downlinkNasTransport m ∈
        (Core.Amf.handleIdentityResponse P amf rand ranUeNgapId amfUeNgapId nasPdu).2.1 →
      ∃ autn, Nas5gs.decodeNas5gs m.nasPdu = .ok (.authenticationRequest ⟨0, rand, autn⟩) ∧
        DrawnChallenge P amf.hss
          (Core.Amf.handleIdentityResponse P amf rand ranUeNgapId amfUeNgapId nasPdu).1.hss rand
          autn := by
  refine ⟨always_vectorCounted P, ?_, ?_, ?_⟩
  · intro hss input imsi hne
    rw [subscribers_hssStep, Function.update_of_ne (Ne.symm hne)]
  · exact fun mme rand enbUeS1apId nasPdu tai m hsent => Core.Mme.startAttach_challenges hsent
  · exact fun amf rand ranUeNgapId amfUeNgapId nasPdu m hsent =>
      Core.Amf.handleIdentityResponse_challenges hsent

end Midn
