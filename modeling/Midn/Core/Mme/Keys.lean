import Midn.Core.Mme.Lifecycle
import Midn.Core.Mme.Procedure
import Midn.Crypto.Standard

/-!
# The keys of a subscriber

The handler of SecurityModeComplete derives Kasme from the material the entity holds and wipes CK,
IK and AK in place. The first one after a challenge therefore derives the key of that challenge;
nothing keeps the handler from running again on the wiped material.
-/

namespace Midn.Core.Mme

open Ecs Nas S1ap

variable (P : Primitives)

/-- Kasme of the vector issued in a challenge, for the PLMN of the initial message. -/
def issuedKasme (authInfo : HssAuthInfo) (plmn : Octets 3) : Octets 32 :=
  deriveKasme P authInfo.vector.ck authInfo.vector.ik plmn
    (Octets.xor authInfo.sqnUsed authInfo.vector.ak)

/-- The key is the Kasme of the latest challenge of the entity. -/
def FromLatestChallenge (past : List Transition) (e : EntityId) (kasme : Octets 32) : Prop :=
  ∃ plmn imsi authInfo,
    Mealy.Since (IssuesChallenge P e plmn imsi authInfo) (Challenges P e) past ∧
      kasme = issuedKasme P authInfo plmn

/-- Contexts installed and bearer keys sent come from the latest challenge of their entity. -/
def KeysFromChallenge (past : List Transition) (t : Transition) : Prop :=
  ∀ e,
    (∀ ctx, Installs t e ctx →
      ∃ kasme, FromLatestChallenge P past e kasme ∧
        (ctx.kNasEnc, ctx.kNasInt) = deriveNasKeys P kasme ctx.eea ctx.eia) ∧
    ∀ m, .initialContextSetupRequest m ∈ t.output.1 → m.mmeUeS1apId = e →
      FromLatestChallenge P past e m.securityKey

/-- Since the latest challenge of the entity, a SecurityModeComplete has been processed for it. -/
def Secured (past : List Transition) (e : EntityId) : Prop :=
  Mealy.Since (Secures P e) (Challenges P e) past

/-- No second SecurityModeComplete of a live entity is processed for one challenge. -/
def SecuresOnce (past : List Transition) (t : Transition) : Prop :=
  ∀ e, Secures P e t → t.pre.world.isLive e = true → ¬ Secured P past e

/-- Until it is secured, an entity holds the material of its latest challenge. -/
def MaterialInvariant (past : List Transition) (mme : Mme) : Prop :=
  ∀ e n, mme.world.get? e = some n → ¬ Secured P past e →
    FromLatestChallenge P past e (kasmeOf P n.security)

variable {P} {mme : Mme} {input : Input} {past : List Transition}

theorem materialInvariant_step (hinv : MaterialInvariant P past mme) :
    MaterialInvariant P (past ++ [Mealy.transition (step P) mme input]) (step P mme input).1 := by
  intro e n hn hunsecured
  -- the latest challenge stays the latest in a step that issues none
  have hkept : ∀ old : Entity, mme.world.get? e = some old →
      ¬ Challenges P e (Mealy.transition (step P) mme input) →
      ¬ Secures P e (Mealy.transition (step P) mme input) →
      kasmeOf P n.security = kasmeOf P old.security →
      FromLatestChallenge P (past ++ [Mealy.transition (step P) mme input]) e
        (kasmeOf P n.security) := by
    intro old hold hchallenges hsecures hkasme
    have hbefore : ¬ Secured P past e := by
      intro hsecured
      exact hunsecured ((Mealy.since_append_of_neither hsecures hchallenges).mpr hsecured)
    obtain ⟨plmn, imsi, authInfo, hsince, hissued⟩ := hinv e old hold hbefore
    refine ⟨plmn, imsi, authInfo, ?_, hkasme.trans hissued⟩
    exact Mealy.since_append_singleton.mpr (Or.inr ⟨hsince, hchallenges⟩)
  cases subscriberStep hn with
  | challenge hissues _ _ _ _ hsecurity =>
      refine ⟨_, _, _, Mealy.since_append_singleton.mpr (Or.inl hissues), ?_⟩
      rw [hsecurity]
      rfl
  | answer _ hchallenges hsecures hold hn' =>
      subst hn'
      exact hkept _ hold hchallenges hsecures rfl
  | secure hrequest _ _ _ _ =>
      exact absurd (Mealy.since_append_singleton.mpr (Or.inl ⟨_, hrequest⟩)) hunsecured
  | other hchallenges _ hsecures hold _ _ hsecurity =>
      refine hkept _ hold hchallenges hsecures ?_
      rw [hsecurity]

variable (P) in
/-- In a run without a second SecurityModeComplete for one challenge, every key in use is the one
of the latest challenge of its entity. -/
theorem always_keysFromChallenge (phase3Upf : Option (Octets 4)) (inputs : List Input)
    (honce : Mealy.Always (step P) (Mme.new phase3Upf) inputs (SecuresOnce P)) :
    Mealy.Always (step P) (Mme.new phase3Upf) inputs (KeysFromChallenge P) := by
  refine Mealy.always_of_invariant (MaterialInvariant P) ?_ ?_ ?_ honce
  · intro e n hn
    simp [Mme.new] at hn
  · exact fun past mme input hinv _ => materialInvariant_step hinv
  · intro past mme input hinv honce e
    have hfresh : ∀ enb n, request P mme input = .securityModeComplete e enb →
        mme.world.get? e = some n → FromLatestChallenge P past e (kasmeOf P n.security) := by
      intro enb n hrequest hn
      refine hinv e n hn (honce e ⟨enb, hrequest⟩ ?_)
      simp only [Mealy.transition, World.isLive_eq_isSome, hn, Option.isSome_some]
    refine ⟨?_, ?_⟩
    · intro ctx hinstalls
      obtain ⟨enb, n, hrequest, hn, rfl⟩ := request_of_installs P mme hinstalls
      exact ⟨_, hfresh enb n hrequest hn, rfl⟩
    · rintro m hmem rfl
      simp only [Mealy.transition, step_eq_perform] at hmem
      obtain ⟨enb, n, hrequest, hn, hkey⟩ := contextSetupRequest_mem_perform P _ hmem
      rw [get?_opened] at hn
      obtain ⟨old, hold, rfl⟩ := Option.map_eq_some_iff.mp hn
      rw [hkey]
      exact hfresh enb old hrequest hold

variable (P) in
theorem secureOnce_securesOnce :
    Mealy.Always (step P) (Mme.new none) secureOnce (SecuresOnce P) := by
  obtain ⟨hss, hattach⟩ := request_attachTest P none
  rw [secureOnce, Mealy.always_cons, Mealy.always_cons, Mealy.always_cons]
  refine ⟨?_, ?_, ?_, Mealy.always_nil⟩
  · intro e hsecures
    obtain ⟨enb, hrequest⟩ := hsecures
    cases hrequest
  · intro e hsecures
    obtain ⟨enb, hrequest⟩ := hsecures
    cases hattach.symm.trans hrequest
  · intro e _ _ hsecured
    obtain ⟨before, t, after, hpast, ⟨enb, hrequest⟩, -⟩ := hsecured
    have hmem : t ∈ before ++ t :: after := List.mem_append_right _ List.mem_cons_self
    rw [← hpast] at hmem
    rcases List.mem_cons.mp hmem with rfl | hmem
    · cases hrequest
    · rcases List.mem_cons.mp hmem with rfl | hmem
      · cases hattach.symm.trans hrequest
      · cases hmem

/-- The run that completes security mode once meets the condition, and so has its keys. -/
theorem secureOnce_keysFromChallenge :
    Mealy.Always (step .standard) (Mme.new none) secureOnce (SecuresOnce .standard) ∧
      Mealy.Always (step .standard) (Mme.new none) secureOnce (KeysFromChallenge .standard) :=
  ⟨secureOnce_securesOnce .standard,
    always_keysFromChallenge .standard none secureOnce (secureOnce_securesOnce .standard)⟩

/-- A UE that completes security mode twice. -/
def secureTwice : List Input := secureOnce ++ [completeSecurity]

variable (P) in
/-- The test subscriber after its material has been wiped. -/
def wipedSubscriber : Entity :=
  { testSubscriber P with security := (testSubscriber P).security.clearPostKasme }

/-- The second completion installs a key of the wiped material, which the law allows only where
it coincides with the issued one. -/
theorem kNasEnc_eq_of_secureTwice
    (halways : Mealy.Always (step P) (Mme.new none) secureTwice (KeysFromChallenge P)) :
    (initialContext P (testSubscriber P)).kNasEnc =
      (initialContext P (wipedSubscriber P)).kNasEnc := by
  by_contra hdiffer
  have hlaw := (halways.last 0).1
  rw [secureOnce, Mealy.after_cons, ← provisioned, Mealy.after_cons, Mealy.after_cons,
    Mealy.after_nil] at hlaw
  obtain ⟨hss, hattach⟩ := request_attachTest P none
  have hfirst := get?_completeSecurity P (step P (provisioned P none) attachTest).1
  rw [get?_attachTest, Option.map_some] at hfirst
  have hsecond := get?_completeSecurity P
    (step P (step P (provisioned P none) attachTest).1 completeSecurity).1
  rw [hfirst, Option.map_some] at hsecond
  have hheld : (step P (step P (provisioned P none) attachTest).1
      completeSecurity).1.world.nasSecurity? 0 =
        some (attachAcceptOf P (testSubscriber P)).2 :=
    congrArg (Option.bind · Entity.nasSecurity) hfirst
  have hinstalls : Installs (Mealy.transition (step P)
      (step P (step P (provisioned P none) attachTest).1 completeSecurity).1
      completeSecurity) 0 (attachAcceptOf P (wipedSubscriber P)).2 := by
    refine ⟨congrArg (Option.bind · Entity.nasSecurity) hsecond, ?_⟩
    intro old hold hkeys
    have hold := Option.some.inj (hold.symm.trans hheld)
    subst hold
    exact hdiffer hkeys.kNasEnc
  obtain ⟨kasme, ⟨plmn, imsi, authInfo, ⟨before, t, after, hpast, hissues, -⟩, rfl⟩, hkeys⟩ :=
    hlaw _ hinstalls
  have hmem : t ∈ before ++ t :: after := List.mem_append_right _ List.mem_cons_self
  rw [← hpast] at hmem
  obtain ⟨enb, hss', hrequest, -⟩ := hissues
  -- the only challenge of the run is the one of the test subscriber
  rcases List.mem_cons.mp hmem with rfl | hmem
  · cases hrequest
  · rcases List.mem_cons.mp hmem with rfl | hmem
    · cases hattach.symm.trans hrequest
      exact hdiffer (congrArg Prod.fst hkeys).symm
    · rw [List.mem_singleton.mp hmem] at hrequest
      cases (request_completeSecurity P _).symm.trans hrequest

/-- With the real primitives they differ. -/
theorem secureTwice_wiped_keys :
    ¬ Mealy.Always (step .standard) (Mme.new none) secureTwice (KeysFromChallenge .standard) :=
  fun halways => absurd (kNasEnc_eq_of_secureTwice halways) (by decide +kernel)

end Midn.Core.Mme
