import Midn.Core.Mme.Subscriber

/-!
# The life of one subscriber

Three kinds of step matter to the authentication of an entity: a challenge issued on its id, an
answer to it, and a SecurityModeComplete. Every step is one of these or leaves the identity, the
authentication state and the key material of the entity alone.
-/

namespace Midn.Core.Mme

open Ecs Nas S1ap

variable (P : Primitives)

/-- The step challenges the subscriber on the entity id, with this vector. -/
def IssuesChallenge (e : EntityId) (plmn : Octets 3) (imsi : UInt64) (authInfo : HssAuthInfo)
    (t : Transition) : Prop :=
  ∃ enb hss, request P t.pre t.input = .challenge enb plmn imsi authInfo hss ∧
    t.pre.world.spawn.1 = e

/-- The step issues a new challenge on the entity id. -/
def Challenges (e : EntityId) (t : Transition) : Prop :=
  ∃ plmn imsi authInfo, IssuesChallenge P e plmn imsi authInfo t

/-- The step processes an AuthenticationResponse for the entity. -/
def Answers (e : EntityId) (t : Transition) : Prop :=
  ∃ enb res, request P t.pre t.input = .authResponse e enb res

/-- The step processes a SecurityModeComplete for the entity. -/
def Secures (e : EntityId) (t : Transition) : Prop :=
  ∃ enb, request P t.pre t.input = .securityModeComplete e enb

variable {P} {mme : Mme} {input : Input} {e : EntityId}

/-- A challenge comes from an initial message, whose PDU has no envelope. -/
theorem opened_of_challenge {enb : UInt32} {plmn : Octets 3} {imsi : UInt64}
    {authInfo : HssAuthInfo} {hss : Hss}
    (hrequest : request P mme input = .challenge enb plmn imsi authInfo hss) :
    opened P mme input = mme := by
  cases input with
  | hssMut hss => rfl
  | s1ap rand msg =>
      cases msg with
      | uplinkNasTransport m =>
          simp only [request] at hrequest
          split at hrequest
          · cases hrequest
          · simp only [nasRequest] at hrequest
            split at hrequest <;> cases hrequest
      | _ => rfl

theorem target_of_challenges (h : Challenges P e (Mealy.transition (step P) mme input)) :
    (request P mme input).target (opened P mme input) = some e := by
  obtain ⟨plmn, imsi, authInfo, enb, hss, hrequest, hspawn⟩ := h
  simp only [Mealy.transition] at hrequest hspawn
  rw [opened_of_challenge hrequest, hrequest, ← hspawn]
  rfl

theorem target_of_answers (h : Answers P e (Mealy.transition (step P) mme input)) :
    (request P mme input).target (opened P mme input) = some e := by
  obtain ⟨enb, res, hrequest⟩ := h
  simp only [Mealy.transition] at hrequest
  rw [hrequest]
  rfl

theorem target_of_secures (h : Secures P e (Mealy.transition (step P) mme input)) :
    (request P mme input).target (opened P mme input) = some e := by
  obtain ⟨enb, hrequest⟩ := h
  simp only [Mealy.transition] at hrequest
  rw [hrequest]
  rfl

variable (P mme input e) in
/-- How an entity came to hold the components it holds after a step. -/
inductive SubscriberStep (n : Entity) : Prop
  | challenge {plmn : Octets 3} {imsi : UInt64} {authInfo : HssAuthInfo}
      (hissues : IssuesChallenge P e plmn imsi authInfo (Mealy.transition (step P) mme input))
      (hanswers : ¬ Answers P e (Mealy.transition (step P) mme input))
      (hsecures : ¬ Secures P e (Mealy.transition (step P) mme input))
      (himsi : n.identity.imsi = imsi) (hauth : n.auth = .challengeIssued)
      (hsecurity : n.security = challengeContext authInfo plmn)
  | answer {old : Entity} {enb : UInt32} {res : Octets 8}
      (hrequest : request P mme input = .authResponse e enb res)
      (hchallenges : ¬ Challenges P e (Mealy.transition (step P) mme input))
      (hsecures : ¬ Secures P e (Mealy.transition (step P) mme input))
      (hold : mme.world.get? e = some old) (hn : n = answered res (reopen P input e old))
  | secure {old : Entity} {enb : UInt32}
      (hrequest : request P mme input = .securityModeComplete e enb)
      (hchallenges : ¬ Challenges P e (Mealy.transition (step P) mme input))
      (hanswers : ¬ Answers P e (Mealy.transition (step P) mme input))
      (hold : mme.world.get? e = some old)
      (hn : n = secured P (opened P mme input) (reopen P input e old))
  | other {old : Entity}
      (hchallenges : ¬ Challenges P e (Mealy.transition (step P) mme input))
      (hanswers : ¬ Answers P e (Mealy.transition (step P) mme input))
      (hsecures : ¬ Secures P e (Mealy.transition (step P) mme input))
      (hold : mme.world.get? e = some old) (hidentity : n.identity = old.identity)
      (hauth : n.auth = old.auth) (hsecurity : n.security = old.security)

/-- Every step is accounted for. -/
theorem subscriberStep {n : Entity} (hn : (step P mme input).1.world.get? e = some n) :
    SubscriberStep P mme input e n := by
  rw [get?_step] at hn
  by_cases htarget : (request P mme input).target (opened P mme input) = some e
  · rw [if_pos htarget] at hn
    -- the kinds of step exclude each other, for a step makes one request
    have hchallenges : ¬ (∃ enb plmn imsi authInfo hss,
        request P mme input = .challenge enb plmn imsi authInfo hss) →
        ¬ Challenges P e (Mealy.transition (step P) mme input) := by
      rintro hnot ⟨plmn, imsi, authInfo, enb, hss, hrequest, _⟩
      exact hnot ⟨enb, plmn, imsi, authInfo, hss, hrequest⟩
    cases hrequest : request P mme input with
    | challenge enb plmn imsi authInfo hss =>
        rw [opened_of_challenge hrequest, hrequest] at htarget
        rw [hrequest] at hn
        cases hn
        refine .challenge ⟨enb, hss, hrequest, Option.some.inj htarget⟩ ?_ ?_ rfl rfl rfl
        · rintro ⟨enb', res, hanswer⟩
          cases hrequest.symm.trans hanswer
        · rintro ⟨enb', hsecure⟩
          cases hrequest.symm.trans hsecure
    | authResponse id enb res =>
        rw [hrequest] at htarget hn hchallenges
        cases htarget
        obtain ⟨reopened, hreopened, rfl⟩ := Option.map_eq_some_iff.mp hn
        obtain ⟨old, hold, rfl⟩ := Option.map_eq_some_iff.mp hreopened
        refine .answer hrequest (hchallenges (by simp)) ?_ hold rfl
        rintro ⟨enb', hsecure⟩
        cases hrequest.symm.trans hsecure
    | securityModeComplete id enb =>
        rw [hrequest] at htarget hn hchallenges
        cases htarget
        obtain ⟨reopened, hreopened, rfl⟩ := Option.map_eq_some_iff.mp hn
        obtain ⟨old, hold, rfl⟩ := Option.map_eq_some_iff.mp hreopened
        refine .secure hrequest (hchallenges (by simp)) ?_ hold rfl
        rintro ⟨enb', res, hanswer⟩
        cases hrequest.symm.trans hanswer
    | detach id enb switchOff =>
        have hanswers : ¬ Answers P e (Mealy.transition (step P) mme input) := by
          rintro ⟨enb', res, hanswer⟩
          cases hrequest.symm.trans hanswer
        have hsecures : ¬ Secures P e (Mealy.transition (step P) mme input) := by
          rintro ⟨enb', hsecure⟩
          cases hrequest.symm.trans hsecure
        rw [hrequest] at hn hchallenges
        obtain ⟨reopened, hreopened, rfl⟩ := Option.map_eq_some_iff.mp hn
        obtain ⟨old, hold, rfl⟩ := Option.map_eq_some_iff.mp hreopened
        have hother := hchallenges (by simp)
        cases switchOff with
        | true => exact .other hother hanswers hsecures hold rfl rfl rfl
        | false => exact .other hother hanswers hsecures hold rfl rfl rfl
    | contextSetup resp =>
        have hanswers : ¬ Answers P e (Mealy.transition (step P) mme input) := by
          rintro ⟨enb', res, hanswer⟩
          cases hrequest.symm.trans hanswer
        have hsecures : ¬ Secures P e (Mealy.transition (step P) mme input) := by
          rintro ⟨enb', hsecure⟩
          cases hrequest.symm.trans hsecure
        rw [hrequest] at hn hchallenges
        obtain ⟨reopened, hreopened, rfl⟩ := Option.map_eq_some_iff.mp hn
        obtain ⟨old, hold, rfl⟩ := Option.map_eq_some_iff.mp hreopened
        have hother := hchallenges (by simp)
        simp only [connected]
        split
        · exact .other hother hanswers hsecures hold rfl rfl rfl
        · exact .other hother hanswers hsecures hold rfl rfl rfl
    | release msg =>
        rw [hrequest] at hn
        cases hn
    | hssMut hss =>
        rw [hrequest] at htarget
        cases htarget
    | ignored =>
        rw [hrequest] at htarget
        cases htarget
  · rw [if_neg htarget] at hn
    -- nothing is asked of this entity, which stays as its envelope was opened
    obtain ⟨old, hold, rfl⟩ := Option.map_eq_some_iff.mp hn
    exact .other (fun h => htarget (target_of_challenges h))
      (fun h => htarget (target_of_answers h)) (fun h => htarget (target_of_secures h)) hold
      rfl rfl rfl

end Midn.Core.Mme
