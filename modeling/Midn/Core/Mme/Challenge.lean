import Midn.Core.Mme.Lifecycle
import Midn.Core.Mme.Provisioning

/-!
# Challenges are consumed once

An answered challenge is remembered only by its wiped XRES and by the authentication state. The
handler of AuthenticationResponse compares with the former and never reads the latter, so what a
consumed challenge still accepts is the wiped value.
-/

namespace Midn.Core.Mme

open Ecs Nas S1ap

variable (P : Primitives)

/-- The latest challenge of the entity has been answered. -/
def Consumed (past : List Transition) (e : EntityId) : Prop :=
  Mealy.Since (Answers P e) (Challenges P e) past

/-- No answer to a consumed challenge authenticates the entity or draws a security mode command. -/
def AnswersOnce (past : List Transition) (t : Transition) : Prop :=
  ∀ e, Answers P e t → Consumed P past e →
    t.post.world.authState e ≠ some .authenticated ∧
      ∀ command, .securityModeCommand command ∉ delivered P t e

/-- No all-zero RES reaches a live entity that has no challenge issued. -/
def ZeroResGuarded (t : Transition) : Prop :=
  ∀ e enb res, request P t.pre t.input = .authResponse e enb res →
    t.pre.world.isLive e = true → t.pre.world.authState e ≠ some .challengeIssued →
    res ≠ Octets.zeros 8

/-- What the components of a live entity say about its latest challenge. -/
structure ChallengeInvariant (past : List Transition) (e : EntityId) (n : Entity) : Prop where
  consumed_iff : Consumed P past e ↔ n.auth ≠ .challengeIssued
  wiped : Consumed P past e → n.security.pendingXres = Octets.zeros 8

variable {P} {mme : Mme} {input : Input} {e : EntityId} {past : List Transition}

/-- The invariant survives every step. -/
theorem challengeInvariant_step
    (hinv : ∀ e n, mme.world.get? e = some n → ChallengeInvariant P past e n) :
    ∀ e n, (step P mme input).1.world.get? e = some n →
      ChallengeInvariant P (past ++ [Mealy.transition (step P) mme input]) e n := by
  intro e n hn
  cases subscriberStep hn with
  | challenge hissues hanswers _ _ hauth _ =>
      have hnot : ¬ Consumed P (past ++ [Mealy.transition (step P) mme input]) e :=
        Mealy.not_since_append_of_stop hanswers ⟨_, _, _, hissues⟩
      exact ⟨⟨fun h => absurd h hnot, fun h => absurd hauth h⟩, fun h => absurd h hnot⟩
  | answer hrequest _ _ _ hn' =>
      subst hn'
      have hconsumed : Consumed P (past ++ [Mealy.transition (step P) mme input]) e :=
        Mealy.since_append_singleton.mpr (Or.inl ⟨_, _, hrequest⟩)
      refine ⟨⟨fun _ => ?_, fun _ => hconsumed⟩, fun _ => rfl⟩
      simp only [answered]
      split <;> simp
  | secure _ hchallenges hanswers hold hn' =>
      subst hn'
      have hpre := hinv e _ hold
      have hsame : Consumed P (past ++ [Mealy.transition (step P) mme input]) e ↔
          Consumed P past e := Mealy.since_append_of_neither hanswers hchallenges
      exact ⟨hsame.trans hpre.consumed_iff, fun h => hpre.wiped (hsame.mp h)⟩
  | other hchallenges hanswers _ hold _ hauth hsecurity =>
      have hpre := hinv e _ hold
      have hsame : Consumed P (past ++ [Mealy.transition (step P) mme input]) e ↔
          Consumed P past e := Mealy.since_append_of_neither hanswers hchallenges
      refine ⟨?_, ?_⟩
      · rw [hauth]
        exact hsame.trans hpre.consumed_iff
      · rw [hsecurity]
        exact fun h => hpre.wiped (hsame.mp h)

/-- After an answer, the entity is authenticated and commanded into security mode exactly when
the RES equals its stored XRES. -/
theorem answer_effect {enb : UInt32} {res : Octets 8} {n : Entity}
    (hrequest : request P mme input = .authResponse e enb res) (hn : mme.world.get? e = some n) :
    (step P mme input).1.world.authState e =
        some (if n.security.pendingXres = res then .authenticated else .failed .resMismatch) ∧
      nasTo e (step P mme input).2 =
        if n.security.pendingXres = res then
          [encodeSecModeCmd selectedEea selectedEia 0 [0x20, 0x40]]
        else [] := by
  constructor
  · rw [World.authState, get?_step, hrequest, hn]
    simp [Request.target, Request.rewrite, answered, reopen, Auth.MilenageContext.verifyRes]
  · rw [nasTo_step, hrequest, hn]
    simp only [Request.target, if_true, Option.map_some, Request.nas, reopen,
      Auth.MilenageContext.verifyRes, decide_eq_true_eq]
    split <;> rfl

variable (P) in
/-- In a run every challenge is consumed at most once exactly when no all-zero RES reaches an
entity without an issued challenge: the wiped XRES is a value that the comparison accepts. -/
theorem always_answersOnce_iff (phase3Upf : Option (Octets 4)) (inputs : List Input) :
    Mealy.Always (step P) (Mme.new phase3Upf) inputs (AnswersOnce P) ↔
      Mealy.Always (step P) (Mme.new phase3Upf) inputs (fun _ t => ZeroResGuarded P t) := by
  apply Mealy.always_iff_of_invariant
    (fun past mme => ∀ e n, mme.world.get? e = some n → ChallengeInvariant P past e n)
  · intro e n hn
    simp [Mme.new] at hn
  · exact fun past mme input hinv _ => challengeInvariant_step hinv
  · intro past mme input hinv
    constructor
    · intro hlaw e enb res hrequest hlive hstate hzero
      rw [World.isLive_eq_isSome, Option.isSome_iff_exists] at hlive
      obtain ⟨n, hn⟩ := hlive
      have hauth : n.auth ≠ .challengeIssued := by
        intro hissued
        refine hstate ?_
        rw [World.authState, hn, Option.map_some, hissued]
      have hpre := hinv e n hn
      have hconsumed := hpre.consumed_iff.mpr hauth
      have haccepted := (answer_effect hrequest hn).1
      rw [hpre.wiped hconsumed, hzero, if_pos rfl] at haccepted
      exact (hlaw e ⟨enb, res, hrequest⟩ hconsumed).1 haccepted
    · intro hguarded e hanswer hconsumed
      obtain ⟨enb, res, hrequest⟩ := hanswer
      simp only [Mealy.transition] at hrequest
      cases hentity : mme.world.get? e with
      | none =>
          have hpost := get?_step P mme input e
          have hnas := nasTo_step P mme input e
          simp only [hrequest, hentity, Request.target, if_true, Option.map_none,
            Request.rewrite, Request.nas, Option.toList_none] at hpost hnas
          refine ⟨?_, ?_⟩
          · simp [Mealy.transition, World.authState, hpost]
          · simp [delivered, Mealy.transition, hnas]
      | some n =>
          have hpre := hinv e n hentity
          have hstate : mme.world.authState e ≠ some .challengeIssued := by
            rw [World.authState, hentity, Option.map_some]
            exact fun h => hpre.consumed_iff.mp hconsumed (Option.some.inj h)
          have hlive := World.isLive_of_some hentity
          have hnonzero := hguarded e enb res hrequest hlive hstate
          have hrejected : n.security.pendingXres ≠ res := by
            rw [hpre.wiped hconsumed]
            exact hnonzero.symm
          obtain ⟨hauth, hnas⟩ := answer_effect hrequest hentity
          rw [if_neg hrejected] at hauth hnas
          refine ⟨?_, ?_⟩
          · simp only [Mealy.transition, hauth]
            simp
          · simp [delivered, Mealy.transition, hnas]

/-- A UE that answers its challenge wrongly and then with zeros. -/
def answerTwice : List Input :=
  [provisionTest, attachTest, answerWith ⟨List.replicate 8 1, rfl⟩, answerWith (Octets.zeros 8)]

/-- Whatever the primitives, the second answer authenticates the entity. -/
theorem answerTwice_accepted :
    ¬ ∃ P : Primitives, Mealy.Always (step P) (Mme.new none) answerTwice (AnswersOnce P) := by
  rintro ⟨P, halways⟩
  have hlaw := halways [_, _, _] _ [] rfl 0
  have hfirst := request_answerWith P (step P (provisioned P none) attachTest).1
    ⟨List.replicate 8 1, rfl⟩
  have hwiped := get?_answerWith P (step P (provisioned P none) attachTest).1
    ⟨List.replicate 8 1, rfl⟩
  rw [get?_attachTest, Option.map_some] at hwiped
  have hsecond := request_answerWith P (step P (step P (provisioned P none) attachTest).1
    (answerWith ⟨List.replicate 8 1, rfl⟩)).1 (Octets.zeros 8)
  have hconsumed : Consumed P (Mealy.run (step P) (Mme.new none) (answerTwice.take 3)) 0 :=
    ⟨[_, _], _, [], rfl, ⟨_, _, hfirst⟩, fun _ h => absurd h List.not_mem_nil⟩
  exact (hlaw ⟨_, _, hsecond⟩ hconsumed).1 (answer_effect hsecond hwiped).1

end Midn.Core.Mme
