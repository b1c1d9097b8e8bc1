import Midn.Core.Amf.Subscriber

/-!
# The life of one subscriber

Five kinds of step matter to the authentication of an entity: a registration request that spawns
it, a challenge, an answer to it, a SecurityModeComplete, and the release of the entity. Every
other step leaves its identity, authentication state and key material alone.
-/

namespace Midn.Core.Amf

open Ecs Nas5gs Ngap

variable (P : Primitives)

/-- The step spawns an entity under the id. -/
def Registers (e : EntityId) (t : Transition) : Prop :=
  ∃ ran plmn, request P t.pre t.input = .register ran plmn ∧ t.pre.world.spawn.1 = e

/-- The step challenges the live entity as the subscriber, expecting this XRES*. -/
def IssuesChallenge (e : EntityId) (imsi : UInt64) (xresStar : Octets 16) (t : Transition) :
    Prop :=
  ∃ ran authInfo hss aka, request P t.pre t.input = .challenge e ran imsi authInfo hss ∧
    t.pre.world.security5g? e = some aka ∧ xresStar = xresStarOf P authInfo aka.plmn

/-- The step issues a new challenge to the entity. -/
def Challenges (e : EntityId) (t : Transition) : Prop :=
  ∃ imsi xresStar, IssuesChallenge P e imsi xresStar t

/-- The step processes an AuthenticationResponse for the entity. -/
def Answers (e : EntityId) (t : Transition) : Prop :=
  ∃ ran resStar, request P t.pre t.input = .authResponse e ran resStar

/-- The step processes a SecurityModeComplete for the entity. -/
def Secures (e : EntityId) (t : Transition) : Prop :=
  ∃ ran, request P t.pre t.input = .securityModeComplete e ran

/-- The step ends the life of the entity. -/
def Releases (e : EntityId) (t : Transition) : Prop :=
  ∃ msg, request P t.pre t.input = .release msg ∧ msg.amfUeNgapId = e

variable {P} {amf : Amf} {input : Input} {e : EntityId}

/-- A registration comes from an initial message, whose PDU has no envelope. -/
theorem opened_of_register {ran : UInt32} {plmn : Octets 3}
    (hrequest : request P amf input = .register ran plmn) : opened P amf input = amf := by
  cases input with
  | hssMut hss => rfl
  | ngap rand msg =>
      cases msg with
      | uplinkNasTransport m =>
          simp only [request] at hrequest
          split at hrequest
          · cases hrequest
          · simp only [nasRequest] at hrequest
            split at hrequest
            · split at hrequest <;> cases hrequest
            · cases hrequest
            · cases hrequest
            · cases hrequest
            · cases hrequest
      | _ => rfl

variable (P amf input e) in
/-- How an entity came to hold the components it holds after a step. The step is of exactly one
kind, so each case also says which other kinds it is not. -/
inductive SubscriberStep (n : Entity) : Prop
  | register {ran : UInt32} {plmn : Octets 3}
      (hregisters : Registers P e (Mealy.transition (step P) amf input))
      (hchallenges : ¬ Challenges P e (Mealy.transition (step P) amf input))
      (hn : n = registering ran plmn (((amf.world.get? e).map (reopen P input e)).getD .empty))
  | challenge {old : Entity} {ran : UInt32} {imsi : UInt64} {authInfo : HssAuthInfo}
      (hissues : IssuesChallenge P e imsi (xresStarOf P authInfo old.security5g.plmn)
        (Mealy.transition (step P) amf input))
      (hold : amf.world.get? e = some old)
      (hn : n = challenged P ran imsi authInfo (reopen P input e old))
  | answer {old : Entity} {ran : UInt32} {resStar : Octets 16}
      (hrequest : request P amf input = .authResponse e ran resStar)
      (hregisters : ¬ Registers P e (Mealy.transition (step P) amf input))
      (hchallenges : ¬ Challenges P e (Mealy.transition (step P) amf input))
      (hreleases : ¬ Releases P e (Mealy.transition (step P) amf input))
      (hold : amf.world.get? e = some old) (hn : n = answered resStar (reopen P input e old))
  | secure {old : Entity} {ran : UInt32}
      (hrequest : request P amf input = .securityModeComplete e ran)
      (hregisters : ¬ Registers P e (Mealy.transition (step P) amf input))
      (hchallenges : ¬ Challenges P e (Mealy.transition (step P) amf input))
      (hanswers : ¬ Answers P e (Mealy.transition (step P) amf input))
      (hreleases : ¬ Releases P e (Mealy.transition (step P) amf input))
      (hold : amf.world.get? e = some old)
      (hn : n = secured P (opened P amf input) e (reopen P input e old))
  | other {old : Entity}
      (hregisters : ¬ Registers P e (Mealy.transition (step P) amf input))
      (hchallenges : ¬ Challenges P e (Mealy.transition (step P) amf input))
      (hanswers : ¬ Answers P e (Mealy.transition (step P) amf input))
      (hreleases : ¬ Releases P e (Mealy.transition (step P) amf input))
      (hold : amf.world.get? e = some old) (hidentity : n.identity = old.identity)
      (hauth : n.auth = old.auth) (hsecurity : n.security5g = old.security5g)

section Kinds

theorem not_registers_of_request {r : Request} (hrequest : request P amf input = r)
    (hkind : ∀ ran plmn, r ≠ .register ran plmn) :
    ¬ Registers P e (Mealy.transition (step P) amf input) := by
  rintro ⟨ran, plmn, h, _⟩
  exact hkind ran plmn (hrequest.symm.trans h)

theorem not_challenges_of_request {r : Request} (hrequest : request P amf input = r)
    (hkind : ∀ id ran imsi authInfo hss, r ≠ .challenge id ran imsi authInfo hss) :
    ¬ Challenges P e (Mealy.transition (step P) amf input) := by
  rintro ⟨imsi, xresStar, ran, authInfo, hss, aka, h, _⟩
  exact hkind _ _ _ _ _ (hrequest.symm.trans h)

theorem not_answers_of_request {r : Request} (hrequest : request P amf input = r)
    (hkind : ∀ id ran resStar, r ≠ .authResponse id ran resStar) :
    ¬ Answers P e (Mealy.transition (step P) amf input) := by
  rintro ⟨ran, resStar, h⟩
  exact hkind _ _ _ (hrequest.symm.trans h)

theorem not_releases_of_request {r : Request} (hrequest : request P amf input = r)
    (hkind : ∀ msg, r ≠ .release msg) :
    ¬ Releases P e (Mealy.transition (step P) amf input) := by
  rintro ⟨msg, h, _⟩
  exact hkind _ (hrequest.symm.trans h)

end Kinds

/-- Every step is accounted for. -/
theorem subscriberStep {n : Entity} (hn : (step P amf input).1.world.get? e = some n) :
    SubscriberStep P amf input e n := by
  rw [get?_step] at hn
  by_cases htarget : (request P amf input).target (opened P amf input) = some e
  · rw [if_pos htarget] at hn
    cases hrequest : request P amf input with
    | register ran plmn =>
        rw [opened_of_register hrequest, hrequest] at htarget
        rw [hrequest] at hn
        cases hn
        refine .register ⟨ran, plmn, hrequest, Option.some.inj htarget⟩ ?_ rfl
        exact not_challenges_of_request hrequest (by simp)
    | challenge id ran imsi authInfo hss =>
        rw [hrequest] at htarget hn
        cases htarget
        obtain ⟨reopened, hreopened, rfl⟩ := Option.map_eq_some_iff.mp hn
        obtain ⟨old, hold, rfl⟩ := Option.map_eq_some_iff.mp hreopened
        have haka := World.security5g?_of_some hold
        exact .challenge ⟨ran, authInfo, hss, _, hrequest, haka, rfl⟩ hold rfl
    | authResponse id ran resStar =>
        rw [hrequest] at htarget hn
        cases htarget
        obtain ⟨reopened, hreopened, rfl⟩ := Option.map_eq_some_iff.mp hn
        obtain ⟨old, hold, rfl⟩ := Option.map_eq_some_iff.mp hreopened
        exact .answer hrequest (not_registers_of_request hrequest (by simp))
          (not_challenges_of_request hrequest (by simp))
          (not_releases_of_request hrequest (by simp)) hold rfl
    | securityModeComplete id ran =>
        rw [hrequest] at htarget hn
        cases htarget
        obtain ⟨reopened, hreopened, rfl⟩ := Option.map_eq_some_iff.mp hn
        obtain ⟨old, hold, rfl⟩ := Option.map_eq_some_iff.mp hreopened
        exact .secure hrequest (not_registers_of_request hrequest (by simp))
          (not_challenges_of_request hrequest (by simp))
          (not_answers_of_request hrequest (by simp))
          (not_releases_of_request hrequest (by simp)) hold rfl
    | deregister id ran switchOff =>
        have hother : ∀ old, amf.world.get? e = some old → n.identity = old.identity →
            n.auth = old.auth → n.security5g = old.security5g →
            SubscriberStep P amf input e n := fun old =>
          .other (not_registers_of_request hrequest (by simp))
            (not_challenges_of_request hrequest (by simp))
            (not_answers_of_request hrequest (by simp))
            (not_releases_of_request hrequest (by simp))
        rw [hrequest] at hn
        obtain ⟨reopened, hreopened, rfl⟩ := Option.map_eq_some_iff.mp hn
        obtain ⟨old, hold, rfl⟩ := Option.map_eq_some_iff.mp hreopened
        cases switchOff with
        | true => exact hother old hold rfl rfl rfl
        | false => exact hother old hold rfl rfl rfl
    | contextSetup resp =>
        have hother : ∀ old, amf.world.get? e = some old → n.identity = old.identity →
            n.auth = old.auth → n.security5g = old.security5g →
            SubscriberStep P amf input e n := fun old =>
          .other (not_registers_of_request hrequest (by simp))
            (not_challenges_of_request hrequest (by simp))
            (not_answers_of_request hrequest (by simp))
            (not_releases_of_request hrequest (by simp))
        rw [hrequest] at hn
        obtain ⟨reopened, hreopened, rfl⟩ := Option.map_eq_some_iff.mp hn
        obtain ⟨old, hold, rfl⟩ := Option.map_eq_some_iff.mp hreopened
        refine hother old hold ?_ ?_ ?_
        · simp only [connected]
          split <;> rfl
        · simp only [connected]
          split <;> rfl
        · simp only [connected]
          split <;> rfl
    | release msg =>
        rw [hrequest] at hn
        cases hn
    | hssMut hss =>
        rw [hrequest] at htarget
        cases htarget
    | ignored =>
        rw [hrequest] at htarget
        cases htarget
  · rw [if_neg htarget] at hn
    -- nothing is asked of this entity, which stays as its envelope was opened
    obtain ⟨old, hold, rfl⟩ := Option.map_eq_some_iff.mp hn
    refine .other ?_ ?_ ?_ ?_ hold rfl rfl rfl
    · rintro ⟨ran, plmn, hrequest, hspawn⟩
      simp only [Mealy.transition] at hrequest hspawn
      rw [opened_of_register hrequest, hrequest] at htarget
      exact htarget (congrArg some hspawn)
    · rintro ⟨imsi, xresStar, ran, authInfo, hss, aka, hrequest, _⟩
      simp only [Mealy.transition] at hrequest
      rw [hrequest] at htarget
      exact htarget rfl
    · rintro ⟨ran, resStar, hrequest⟩
      simp only [Mealy.transition] at hrequest
      rw [hrequest] at htarget
      exact htarget rfl
    · rintro ⟨msg, hrequest, hentity⟩
      simp only [Mealy.transition] at hrequest
      rw [hrequest] at htarget
      exact htarget (congrArg some hentity)

end Midn.Core.Amf
