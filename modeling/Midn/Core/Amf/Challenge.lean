import Midn.Core.Amf.Lifecycle
import Midn.Core.Amf.Procedure

/-!
# Which answers the AMF accepts

An outstanding challenge is represented only by the bytes of the stored XRES*. They are zero in a
fresh entity and after every answer, so an all-zero RES* is accepted exactly where no challenge is
outstanding.
-/

namespace Midn.Core.Amf

open Ecs Nas5gs Ngap

variable (P : Primitives)

/-- The step ends what is outstanding: it answers, or begins or ends an incarnation. -/
def Closes (e : EntityId) (t : Transition) : Prop :=
  Answers P e t ∨ Registers P e t ∨ Releases P e t

/-- A challenge expecting this XRES* was issued to the present incarnation of the entity, and no
answer has consumed it. -/
def OutstandingFor (past : List Transition) (e : EntityId) (xresStar : Octets 16) : Prop :=
  Mealy.Since (fun t => ∃ imsi, IssuesChallenge P e imsi xresStar t) (Closes P e) past

def Outstanding (past : List Transition) (e : EntityId) : Prop :=
  ∃ xresStar, OutstandingFor P past e xresStar

/-- An answer authenticates only with the XRES* of an outstanding challenge. -/
def AcceptsOutstanding (past : List Transition) (t : Transition) : Prop :=
  ∀ e ran resStar, request P t.pre t.input = .authResponse e ran resStar →
    t.post.world.authState e = some .authenticated → OutstandingFor P past e resStar

/-- No all-zero RES* reaches a live entity without an outstanding challenge. -/
def ZeroResStarGuarded (past : List Transition) (t : Transition) : Prop :=
  ∀ e ran resStar, request P t.pre t.input = .authResponse e ran resStar →
    t.pre.world.isLive e = true → ¬ Outstanding P past e → resStar ≠ Octets.zeros 16

/-- What the stored XRES* says about the outstanding challenge. -/
structure ChallengeInvariant (past : List Transition) (e : EntityId) (n : Entity) : Prop where
  outstanding : Outstanding P past e → OutstandingFor P past e n.security5g.pendingXresStar
  wiped : ¬ Outstanding P past e → n.security5g.pendingXresStar = Octets.zeros 16

variable {P} {amf : Amf} {input : Input} {e : EntityId} {past : List Transition}

variable (past) in
/-- A step that closes without issuing leaves nothing outstanding. -/
theorem not_outstanding_append
    (hchallenges : ¬ Challenges P e (Mealy.transition (step P) amf input))
    (hcloses : Closes P e (Mealy.transition (step P) amf input)) :
    ¬ Outstanding P (past ++ [Mealy.transition (step P) amf input]) e := by
  rintro ⟨xresStar, hsince⟩
  refine Mealy.not_since_append_of_stop ?_ hcloses hsince
  rintro ⟨imsi, hissues⟩
  exact hchallenges ⟨imsi, xresStar, hissues⟩

theorem outstandingFor_append_of_other {xresStar : Octets 16}
    (hchallenges : ¬ Challenges P e (Mealy.transition (step P) amf input))
    (hcloses : ¬ Closes P e (Mealy.transition (step P) amf input)) :
    OutstandingFor P (past ++ [Mealy.transition (step P) amf input]) e xresStar ↔
      OutstandingFor P past e xresStar := by
  apply Mealy.since_append_of_neither
  · rintro ⟨imsi, hissues⟩
    exact hchallenges ⟨imsi, xresStar, hissues⟩
  · exact hcloses

/-- The invariant survives every step. -/
theorem challengeInvariant_step
    (hinv : ∀ e n, amf.world.get? e = some n → ChallengeInvariant P past e n) :
    ∀ e n, (step P amf input).1.world.get? e = some n →
      ChallengeInvariant P (past ++ [Mealy.transition (step P) amf input]) e n := by
  intro e n hn
  -- what neither issues nor closes leaves the stored XRES* to speak for the same challenge
  have hkept : ∀ old : Entity, amf.world.get? e = some old →
      ¬ Challenges P e (Mealy.transition (step P) amf input) →
      ¬ Closes P e (Mealy.transition (step P) amf input) →
      n.security5g.pendingXresStar = old.security5g.pendingXresStar →
      ChallengeInvariant P (past ++ [Mealy.transition (step P) amf input]) e n := by
    intro old hold hchallenges hcloses hpending
    have hpre := hinv e old hold
    have hsame : ∀ xresStar,
        OutstandingFor P (past ++ [Mealy.transition (step P) amf input]) e xresStar ↔
          OutstandingFor P past e xresStar :=
      fun xresStar => outstandingFor_append_of_other hchallenges hcloses
    refine ⟨?_, ?_⟩
    · rintro ⟨xresStar, hfor⟩
      rw [hpending]
      exact (hsame _).mpr (hpre.outstanding ⟨xresStar, (hsame _).mp hfor⟩)
    · intro hnot
      rw [hpending]
      apply hpre.wiped
      rintro ⟨xresStar, hfor⟩
      exact hnot ⟨xresStar, (hsame _).mpr hfor⟩
  cases subscriberStep hn with
  | register hregisters hchallenges hn' =>
      subst hn'
      have hnot := not_outstanding_append past hchallenges (Or.inr (Or.inl hregisters))
      exact ⟨fun h => absurd h hnot, fun _ => rfl⟩
  | challenge hissues _ hn' =>
      subst hn'
      have hfor : OutstandingFor P (past ++ [Mealy.transition (step P) amf input]) e _ :=
        Mealy.since_append_singleton.mpr (Or.inl ⟨_, hissues⟩)
      exact ⟨fun _ => hfor, fun hnot => absurd ⟨_, hfor⟩ hnot⟩
  | answer hrequest _ hchallenges _ _ hn' =>
      subst hn'
      have hnot := not_outstanding_append past hchallenges
        (Or.inl ⟨_, _, hrequest⟩)
      exact ⟨fun h => absurd h hnot, fun _ => rfl⟩
  | secure _ hregisters hchallenges hanswers hreleases hold hn' =>
      subst hn'
      refine hkept _ hold hchallenges ?_ rfl
      rintro (h | h | h)
      · exact hanswers h
      · exact hregisters h
      · exact hreleases h
  | other hregisters hchallenges hanswers hreleases hold _ _ hsecurity =>
      refine hkept _ hold hchallenges ?_ (by rw [hsecurity])
      rintro (h | h | h)
      · exact hanswers h
      · exact hregisters h
      · exact hreleases h

/-- After an answer, the entity is authenticated exactly when RES* equals its stored XRES*. -/
theorem authState_of_answer {ran : UInt32} {resStar : Octets 16} {n : Entity}
    (hrequest : request P amf input = .authResponse e ran resStar)
    (hn : amf.world.get? e = some n) :
    (step P amf input).1.world.authState e =
      some (if n.security5g.pendingXresStar = resStar then .authenticated
        else .failed .resMismatch) := by
  rw [World.authState, get?_step, hrequest, hn]
  simp [Request.target, Request.rewrite, answered, reopen]

variable (P) in
/-- In a run every accepted answer matches an outstanding challenge exactly when no all-zero RES*
reaches an entity without one: the empty XRES* is a value that the comparison accepts. -/
theorem always_acceptsOutstanding_iff (phaseBUpf : Option (Octets 4)) (inputs : List Input) :
    Mealy.Always (step P) (Amf.new phaseBUpf) inputs (AcceptsOutstanding P) ↔
      Mealy.Always (step P) (Amf.new phaseBUpf) inputs (ZeroResStarGuarded P) := by
  apply Mealy.always_iff_of_invariant
    (fun past amf => ∀ e n, amf.world.get? e = some n → ChallengeInvariant P past e n)
  · intro e n hn
    simp [Amf.new] at hn
  · exact fun past amf input hinv _ => challengeInvariant_step hinv
  · intro past amf input hinv
    constructor
    · intro hlaw e ran resStar hrequest hlive hnot hzero
      rw [World.isLive_eq_isSome, Option.isSome_iff_exists] at hlive
      obtain ⟨n, hn⟩ := hlive
      have haccepted := authState_of_answer hrequest hn
      rw [(hinv e n hn).wiped hnot, hzero, if_pos rfl] at haccepted
      exact hnot ⟨resStar, hlaw e ran resStar hrequest haccepted⟩
    · intro hguarded e ran resStar hrequest haccepted
      simp only [Mealy.transition] at hrequest haccepted
      cases hentity : amf.world.get? e with
      | none =>
          have hpost := get?_step P amf input e
          simp only [hrequest, hentity, Request.target, if_true, Option.map_none,
            Request.rewrite] at hpost
          rw [World.authState, hpost] at haccepted
          cases haccepted
      | some n =>
          have heffect := authState_of_answer hrequest hentity
          rw [haccepted] at heffect
          have hmatch : n.security5g.pendingXresStar = resStar := by
            by_contra hne
            rw [if_neg hne] at heffect
            cases heffect
          have hlive := World.isLive_of_some hentity
          have houtstanding : Outstanding P past e := by
            by_contra hnot
            refine hguarded e ran resStar hrequest hlive hnot ?_
            rw [← hmatch, (hinv e n hentity).wiped hnot]
          rw [← hmatch]
          exact (hinv e n hentity).outstanding houtstanding

/-- A UE that answers with zeros before it is challenged. -/
def answerUnasked : List Input := [registerTest, answerWith (Octets.zeros 16)]

/-- Whatever the primitives, it is authenticated. -/
theorem answerUnasked_accepted :
    ¬ ∃ P : Primitives,
      Mealy.Always (step P) (Amf.new none) answerUnasked (AcceptsOutstanding P) := by
  rintro ⟨P, halways⟩
  have hrequest := request_answerWith P (step P (Amf.new none) registerTest).1 (Octets.zeros 16)
  have hregistered := get?_registerTest P (rfl : (Amf.new none).world = .new)
  have haccepted := authState_of_answer hrequest hregistered
  obtain ⟨before, t, after, hpast, ⟨imsi, hissues⟩, -⟩ :=
    halways [_] _ [] rfl 0 1 (Octets.zeros 16) hrequest haccepted
  -- the only earlier step is the registration request
  obtain ⟨ran, authInfo, hss, aka, hchallenge, -⟩ := hissues
  have hmem : t ∈ before ++ t :: after := List.mem_append_right _ List.mem_cons_self
  rw [← hpast, List.mem_singleton] at hmem
  subst hmem
  cases (request_registerTest P (Amf.new none)).symm.trans hchallenge

end Midn.Core.Amf
