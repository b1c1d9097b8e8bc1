import Midn.Core.Amf.Lifecycle
import Midn.Core.Amf.Procedure
import Midn.Crypto.Standard

/-!
# Which subscriber a session belongs to

The identity on an entity, the pending challenge and the authentication state are written by
different handlers, none of which checks the others. They belong together in every run in which
SecurityModeComplete follows authentication, an all-zero RES* answers only an issued challenge,
and a registration does not take over a live entity.
-/

namespace Midn.Core.Amf

open Ecs Nas5gs Ngap

variable (P : Primitives)

/-- The step begins the authentication of the entity anew, or begins or ends the entity. -/
def Restarts (e : EntityId) (t : Transition) : Prop :=
  Challenges P e t ∨ Registers P e t ∨ Releases P e t

/-- The step compares an answer with this XRES* and finds them equal. -/
def Passes (e : EntityId) (xresStar : Octets 16) (t : Transition) : Prop :=
  ∃ ran aka, request P t.pre t.input = .authResponse e ran xresStar ∧
    t.pre.world.security5g? e = some aka ∧ aka.pendingXresStar = xresStar

/-- The latest challenge of the entity was for this subscriber, and the entity has since passed
the comparison with its XRES*. -/
def Confirmed (past : List Transition) (e : EntityId) (imsi : UInt64) : Prop :=
  ∃ xresStar,
    Mealy.SinceThen (IssuesChallenge P e imsi xresStar) (Passes P e xresStar) (Restarts P e) past

/-- Contexts are installed and sessions created only for the confirmed subscriber recorded on the
entity. -/
def BindsSubscriber (past : List Transition) (t : Transition) : Prop :=
  ∀ e,
    (∀ ctx, Installs t e ctx →
      ∃ identity, t.pre.world.identity? e = some identity ∧ Confirmed P past e identity.imsi) ∧
    ∀ ulTeid imsi pduSessionId qfi ueIp gnbAddr,
      .createSession ulTeid e imsi pduSessionId qfi ueIp gnbAddr ∈ t.output.2 →
      ∃ identity, t.pre.world.identity? e = some identity ∧ identity.imsi = imsi ∧
        Confirmed P past e imsi

/-- The step keeps to the order of the procedure. -/
structure KeepsOrder (t : Transition) : Prop where
  /-- SecurityModeComplete comes from an authenticated entity. -/
  secures : ∀ e ran, request P t.pre t.input = .securityModeComplete e ran →
    t.pre.world.isLive e = true → t.pre.world.isAuthenticated e = true
  /-- An all-zero RES* answers an issued challenge. -/
  answers : ∀ e ran, request P t.pre t.input = .authResponse e ran (Octets.zeros 16) →
    t.pre.world.isLive e = true → t.pre.world.authState e = some .challengeIssued
  /-- A registration finds a free id. -/
  registers : ∀ ran plmn, request P t.pre t.input = .register ran plmn → ¬ t.pre.world.Exhausted

/-- What the authentication state of a live entity says about its history. -/
structure BindingInvariant (past : List Transition) (e : EntityId) (n : Entity) : Prop where
  issued : n.auth = .challengeIssued →
    Mealy.Since (IssuesChallenge P e n.identity.imsi n.security5g.pendingXresStar)
      (Restarts P e) past
  confirmed : n.auth = .authenticated → Confirmed P past e n.identity.imsi
  wiped : n.auth ≠ .challengeIssued → n.security5g.pendingXresStar = Octets.zeros 16

variable {P} {amf : Amf} {input : Input} {past : List Transition}

/-- The invariant survives every step that keeps to the order of the procedure. -/
theorem bindingInvariant_step
    (hinv : ∀ e n, amf.world.get? e = some n → BindingInvariant P past e n)
    (horder : KeepsOrder P (Mealy.transition (step P) amf input)) :
    ∀ e n, (step P amf input).1.world.get? e = some n →
      BindingInvariant P (past ++ [Mealy.transition (step P) amf input]) e n := by
  intro e n hn
  -- a step that restarts nothing keeps both kinds of evidence
  have hkept : ∀ old : Entity, amf.world.get? e = some old →
      ¬ Restarts P e (Mealy.transition (step P) amf input) →
      n.identity = old.identity → n.auth = old.auth →
      n.security5g.pendingXresStar = old.security5g.pendingXresStar →
      BindingInvariant P (past ++ [Mealy.transition (step P) amf input]) e n := by
    intro old hold hrestarts hidentity hauth hpending
    have hpre := hinv e old hold
    refine ⟨fun hissued => ?_, fun hconfirmed => ?_, fun hnot => ?_⟩
    · rw [hidentity, hpending]
      exact Mealy.since_append_singleton.mpr
        (Or.inr ⟨hpre.issued (hauth.symm.trans hissued), hrestarts⟩)
    · obtain ⟨xresStar, hsince⟩ := hpre.confirmed (hauth.symm.trans hconfirmed)
      rw [hidentity]
      exact ⟨xresStar, Mealy.sinceThen_append_singleton.mpr (Or.inr ⟨hsince, hrestarts⟩)⟩
    · rw [hpending]
      exact hpre.wiped fun h => hnot (hauth.trans h)
  cases subscriberStep hn with
  | register hregisters _ hn' =>
      obtain ⟨ran, plmn, hrequest, hspawn⟩ := hregisters
      have hdead : amf.world.get? e = none := by
        have hfree := horder.registers ran plmn hrequest
        rw [← World.isLive_spawn_iff, Bool.not_eq_true] at hfree
        simp only [Mealy.transition] at hspawn hfree
        rw [hspawn] at hfree
        exact World.get?_eq_none.mpr hfree
      subst hn'
      rw [hdead]
      refine ⟨fun h => ?_, fun h => ?_, fun _ => rfl⟩
      · cases h
      · cases h
  | challenge hissues _ hn' =>
      subst hn'
      refine ⟨fun _ => Mealy.since_append_singleton.mpr (Or.inl hissues), fun h => ?_,
        fun h => absurd rfl h⟩
      cases h
  | @answer old ran resStar hrequest hregisters hchallenges hreleases hold hn' =>
      have hpre := hinv e old hold
      have hrestarts : ¬ Restarts P e (Mealy.transition (step P) amf input) := by
        rintro (h | h | h)
        · exact hchallenges h
        · exact hregisters h
        · exact hreleases h
      have haka := World.security5g?_of_some hold
      subst hn'
      refine ⟨fun h => ?_, fun hauth => ?_, fun _ => rfl⟩
      · simp only [answered] at h
        split at h <;> cases h
      · have hmatch : old.security5g.pendingXresStar = resStar := by
          simp only [answered] at hauth
          split at hauth
          next hmatch => exact hmatch
          next => cases hauth
        have hissued : old.auth = .challengeIssued := by
          by_contra hnot
          have hzero : resStar = Octets.zeros 16 := hmatch.symm.trans (hpre.wiped hnot)
          have hlive := World.isLive_of_some hold
          have hstate := horder.answers e ran (hrequest.trans (by rw [hzero])) hlive
          simp only [Mealy.transition, World.authState, hold, Option.map_some,
            Option.some.injEq] at hstate
          exact hnot hstate
        exact ⟨_, Mealy.sinceThen_append_singleton.mpr (Or.inl ⟨hpre.issued hissued,
          ⟨ran, _, hrequest.trans (by rw [hmatch]), haka, rfl⟩, hrestarts⟩)⟩
  | secure _ hregisters hchallenges _ hreleases hold hn' =>
      subst hn'
      refine hkept _ hold ?_ rfl rfl rfl
      rintro (h | h | h)
      · exact hchallenges h
      · exact hregisters h
      · exact hreleases h
  | other hregisters hchallenges _ hreleases hold hidentity hauth hsecurity =>
      refine hkept _ hold ?_ hidentity hauth (by rw [hsecurity])
      rintro (h | h | h)
      · exact hchallenges h
      · exact hregisters h
      · exact hreleases h

variable (P) in
/-- In a run whose steps keep to the order of the procedure, every context and every session
belongs to the subscriber that was challenged last and passed. -/
theorem always_bindsSubscriber (phaseBUpf : Option (Octets 4)) (inputs : List Input)
    (horder : Mealy.Always (step P) (Amf.new phaseBUpf) inputs fun _ t => KeepsOrder P t) :
    Mealy.Always (step P) (Amf.new phaseBUpf) inputs (BindsSubscriber P) := by
  refine Mealy.always_of_invariant
    (fun past amf => ∀ e n, amf.world.get? e = some n → BindingInvariant P past e n)
    ?_ ?_ ?_ horder
  · intro e n hn
    simp [Amf.new] at hn
  · exact fun past amf input hinv horder => bindingInvariant_step hinv horder
  · intro past amf input hinv horder e
    have hconfirmed : ∀ ran n, request P amf input = .securityModeComplete e ran →
        amf.world.get? e = some n → Confirmed P past e n.identity.imsi := by
      intro ran n hrequest hn
      have hlive := World.isLive_of_some hn
      have hstate := horder.secures e ran hrequest hlive
      simp only [Mealy.transition, World.isAuthenticated, World.authState, hn, Option.map_some,
        Option.some.injEq, decide_eq_true_eq] at hstate
      exact (hinv e n hn).confirmed hstate
    refine ⟨?_, ?_⟩
    · intro ctx hinstalls
      obtain ⟨ran, n, hrequest, hn, -⟩ := request_of_installs P amf hinstalls
      refine ⟨n.identity, ?_, hconfirmed ran n hrequest hn⟩
      simp only [Mealy.transition, World.identity?, hn, Option.map_some]
    · intro ulTeid imsi pduSessionId qfi ueIp gnbAddr hmem
      simp only [Mealy.transition, step_eq_perform] at hmem
      obtain ⟨ran, n, hrequest, hn, rfl⟩ := createSession_mem_perform P _ hmem
      rw [get?_opened] at hn
      obtain ⟨old, hold, rfl⟩ := Option.map_eq_some_iff.mp hn
      refine ⟨old.identity, ?_, rfl, hconfirmed ran old hrequest hold⟩
      simp only [Mealy.transition, World.identity?, hold, Option.map_some]

variable (P) in
/-- A UE that answers its challenge before it completes security mode. -/
def answerFirst : List Input :=
  [provisionTest, registerTest, identifyTest,
    answerWith (xresStarOf P (testAuthInfo P) (Octets.zeros 3)), completeSecurity]

variable (P) in
theorem answerFirst_keepsOrder :
    Mealy.Always (step P) (Amf.new none) (answerFirst P) fun _ t => KeepsOrder P t := by
  obtain ⟨hss, hidentify⟩ := request_identifyTest P none
  have hregister := request_registerTest P (provisioned P none)
  have hanswer := request_answerWith P (step P (registered P none) identifyTest).1
    (xresStarOf P (testAuthInfo P) (Octets.zeros 3))
  have hchallenged := get?_identifyTest P none
  have hanswered := get?_answerWith P (step P (registered P none) identifyTest).1
    (xresStarOf P (testAuthInfo P) (Octets.zeros 3))
  rw [hchallenged, Option.map_some] at hanswered
  refine Mealy.always_cons.mpr ⟨⟨?_, ?_, ?_⟩, Mealy.always_cons.mpr ⟨⟨?_, ?_, ?_⟩,
    Mealy.always_cons.mpr ⟨⟨?_, ?_, ?_⟩, Mealy.always_cons.mpr ⟨⟨?_, ?_, ?_⟩,
    Mealy.always_cons.mpr ⟨⟨?_, ?_, ?_⟩, Mealy.always_nil⟩⟩⟩⟩⟩
  -- the provisioning
  · intro e ran hrequest
    cases hrequest
  · intro e ran hrequest
    cases hrequest
  · intro ran plmn hrequest
    cases hrequest
  -- the registration, of a fresh AMF
  · intro e ran hrequest
    cases hregister.symm.trans hrequest
  · intro e ran hrequest
    cases hregister.symm.trans hrequest
  · intro ran plmn _ hexhausted
    cases hexhausted.2
  -- the challenge
  · intro e ran hrequest
    cases hidentify.symm.trans hrequest
  · intro e ran hrequest
    cases hidentify.symm.trans hrequest
  · intro ran plmn hrequest
    cases hidentify.symm.trans hrequest
  -- the answer, to an issued challenge
  · intro e ran hrequest
    cases hanswer.symm.trans hrequest
  · intro e ran hrequest _
    have hentity : (0 : EntityId) = e :=
      (Request.authResponse.inj (hanswer.symm.trans hrequest)).1
    subst hentity
    exact congrArg (Option.map Entity.auth) hchallenged
  · intro ran plmn hrequest
    cases hanswer.symm.trans hrequest
  -- the SecurityModeComplete, of an authenticated entity
  · intro e ran hrequest _
    cases (request_completeSecurity P _).symm.trans hrequest
    rw [World.isAuthenticated, decide_eq_true_eq]
    have hmatch : (testSubscriber P).security5g.pendingXresStar =
        xresStarOf P (testAuthInfo P) (Octets.zeros 3) := rfl
    refine (congrArg (Option.map Entity.auth) hanswered).trans ?_
    simp only [Option.map_some, answered, hmatch, if_true]
  · intro e ran hrequest
    cases (request_completeSecurity P _).symm.trans hrequest
  · intro ran plmn hrequest
    cases (request_completeSecurity P _).symm.trans hrequest

/-- Its run keeps to the order of the procedure, and so binds the session to it. -/
theorem answerFirst_bindsSubscriber :
    (Mealy.Always (step .standard) (Amf.new none) (answerFirst .standard)
        fun _ t => KeepsOrder .standard t) ∧
      Mealy.Always (step .standard) (Amf.new none) (answerFirst .standard)
        (BindsSubscriber .standard) :=
  ⟨answerFirst_keepsOrder .standard,
    always_bindsSubscriber .standard none (answerFirst .standard)
      (answerFirst_keepsOrder .standard)⟩

/-- A UE that completes security mode without being asked who it is. -/
def secureUnasked : List Input := [registerTest, completeSecurity]

/-- Whatever the primitives, a context is installed for no subscriber at all. -/
theorem secureUnasked_binds_nobody :
    ¬ ∃ P : Primitives,
      Mealy.Always (step P) (Amf.new none) secureUnasked (BindsSubscriber P) := by
  intro hbinds
  obtain ⟨P, halways⟩ := hbinds
  have hregistered := get?_registerTest P (rfl : (Amf.new none).world = .new)
  have hsecured := get?_completeSecurity P (step P (Amf.new none) registerTest).1
  rw [hregistered, Option.map_some] at hsecured
  have hinstalls : Installs (Mealy.transition (step P) (step P (Amf.new none) registerTest).1
      completeSecurity) 0
        (registrationAcceptOf P 0 (registering 1 (Octets.zeros 3) .empty)).2 := by
    refine ⟨congrArg (Option.bind · Entity.nasSecurity5g) hsecured, ?_⟩
    intro old hold
    cases (congrArg (Option.bind · Entity.nasSecurity5g) hregistered).symm.trans hold
  obtain ⟨identity, -, xresStar, before, t, after, hpast, ⟨-, hpasses, -⟩, -⟩ :=
    (halways [_] _ [] rfl 0).1 _ hinstalls
  -- the only earlier step is the registration request
  have hmem : t ∈ before ++ t :: after := List.mem_append_right _ List.mem_cons_self
  rw [← hpast, List.mem_singleton] at hmem
  subst hmem
  obtain ⟨ran, aka, hrequest, -⟩ := hpasses
  cases (request_registerTest P (Amf.new none)).symm.trans hrequest

end Midn.Core.Amf
