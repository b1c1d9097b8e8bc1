import Midn.Core.Mme.HonestUe
import Midn.Core.Mme.Isolation

/-!
# Attach among others

As for the AMF: the honest UE attaches while the MME goes on serving everybody else, between any
two messages of the UE and even under its IMSI.
-/

namespace Midn.Core.Mme

open Ecs Nas S1ap

variable (P : Primitives)

/-- An input of somebody else: it does not name the entity of the UE and finds a free id if it
needs one. -/
structure Foreign (e : EntityId) (mme : Mme) (input : Input) : Prop where
  unnamed : input.mmeUeS1apId? ≠ some e
  fresh : SpawnsFresh P (Mealy.transition (step P) mme input)

theorem Foreign.get?_step {P : Primitives} {e : EntityId} {mme : Mme} {input : Input}
    (hforeign : Foreign P e mme input) {n : Entity} (hlive : mme.world.get? e = some n) :
    (step P mme input).1.world.get? e = some n :=
  (isolates_step hforeign.fresh).get?_eq hforeign.unnamed hlive

/-! ## The phases of an attach -/

/-- A UE with an MME that serves others as well. -/
abbrev Conversation := Mealy.Conversation Mme UeState S1apMessage

abbrev Turn := Mealy.Turn Input (Octets 16)

/-- What the UE has to answer next. -/
inductive Phase where
  | challenge
  | securityMode
  | attached

/-- How many messages the UE has still to send. -/
def Phase.left : Phase → Nat
  | challenge => 2
  | securityMode => 1
  | attached => 0

/-- The UE and the entity it has been given share a context under the Kasme of the UE. -/
structure Enrolled (ue : Ue) (e : EntityId) (c : Conversation) : Prop where
  silent : c.pending = none
  shared : ∃ n kasme ctx accept, c.machine.world.get? e = some n ∧
    n.identity.imsi = ue.imsi ∧ n.auth = .authenticated ∧ n.nasSecurity = some ctx ∧
    ctx.SameKeys (.new P kasme selectedEea selectedEia) ∧
    c.peer = ⟨some kasme, some ctx, some accept⟩

/-- What holds while the message of the UE is under way. -/
def Phase.Holds (ue : Ue) (e : EntityId) (c : Conversation) : Phase → Prop
  | challenge =>
      ∃ n, c.machine.world.get? e = some n ∧ n.identity.imsi = ue.imsi ∧
        c.peer = ⟨some (kasmeOf P n.security), none, none⟩ ∧
        c.pending = some (ue.uplink e (encodeAuthResponse n.security.pendingXres))
  | securityMode =>
      ∃ n, c.machine.world.get? e = some n ∧ n.identity.imsi = ue.imsi ∧
        n.auth = .authenticated ∧
        c.peer = ⟨some (kasmeOf P n.security), some (initialContext P n), none⟩ ∧
        c.pending = some (ue.uplink e encodeSecModeComplete)
  | attached => Enrolled P ue e c

section Phases

variable {P} {ue : Ue} {e : EntityId} {c : Conversation}

/-- Nothing foreign takes the UE out of its phase. -/
theorem Phase.Holds.other {phase : Phase} (hphase : phase.Holds P ue e c) {input : Input}
    (hforeign : Foreign P e c.machine input) :
    phase.Holds P ue e (c.turn (step P) Input.s1ap (ue.react P) (.other input)) := by
  cases phase with
  | challenge =>
      obtain ⟨n, hentity, hrest⟩ := hphase
      exact ⟨n, hforeign.get?_step hentity, hrest⟩
  | securityMode =>
      obtain ⟨n, hentity, hrest⟩ := hphase
      exact ⟨n, hforeign.get?_step hentity, hrest⟩
  | attached =>
      obtain ⟨hsilent, n, kasme, ctx, accept, hentity, hrest⟩ := hphase
      exact ⟨hsilent, n, kasme, ctx, accept, hforeign.get?_step hentity, hrest⟩

/-- Each message of the UE takes it to the next phase. -/
theorem Phase.Holds.peer {phase : Phase} (hphase : phase.Holds P ue e c) (rand : Octets 16) :
    ∃ next : Phase,
      next.Holds P ue e (c.turn (step P) Input.s1ap (ue.react P) (.peer rand)) ∧
        next.left = phase.left - 1 := by
  cases phase with
  | challenge =>
      obtain ⟨n, hentity, himsi, hpeer, hpending⟩ := hphase
      have hkasme := congrArg UeState.kasme hpeer
      obtain ⟨-, hentity', hreact⟩ := ue.exchange_authResponse P c.peer rand hentity hkasme
      refine ⟨.securityMode, ?_, rfl⟩
      rw [Mealy.Conversation.turn_peer hpending hreact, hpeer]
      exact ⟨_, hentity', himsi, if_pos (decide_eq_true rfl), rfl, rfl⟩
  | securityMode =>
      obtain ⟨n, hentity, himsi, hauth, hpeer, hpending⟩ := hphase
      have hctx := congrArg UeState.nasSecurity hpeer
      obtain ⟨-, hentity', -, hreact, -⟩ := ue.exchange_secModeComplete P c.peer rand hentity hctx
      refine ⟨.attached, ?_, rfl⟩
      rw [Mealy.Conversation.turn_peer hpending hreact, hpeer]
      exact ⟨rfl, _, _, _, _, hentity', himsi, hauth, rfl, ⟨rfl, rfl, rfl, rfl⟩, rfl⟩
  | attached =>
      refine ⟨.attached, ?_, rfl⟩
      simp only [Mealy.Conversation.turn, hphase.silent]
      exact hphase

end Phases

/-- An honest UE whose first message an MME has just taken up, in whatever state the MME was. -/
def Ue.begun (ue : Ue) (mme : Mme) (rand : Octets 16) (epsAttachType nasKsi rrcCause : UInt8) :
    Conversation :=
  Mealy.Conversation.turn (step P) Input.s1ap (ue.react P)
    ⟨mme, ⟨none, none, none⟩, some (ue.initial epsAttachType nasKsi rrcCause)⟩
    (.peer rand : Turn)

/-- After two more of its messages an honest UE is attached, whatever others have done in between,
and whatever they do afterwards it stays attached. -/
theorem attached_among_others (mme : Mme) (ue : Ue) {sqn : UInt64}
    (hsub : mme.hss.subscribers ue.imsi = some ⟨ue.ctx, sqn⟩) (himsi : ue.imsi.toNat < 10 ^ 15)
    (rand : Octets 16) (epsAttachType nasKsi rrcCause : UInt8) (turns : List Turn)
    (hundisturbed : Mealy.Conversation.Undisturbed (step P) Input.s1ap (ue.react P)
      (Foreign P mme.world.spawn.1) (ue.begun P mme rand epsAttachType nasKsi rrcCause) turns)
    (hturns : 2 ≤ turns.countP Mealy.Turn.isPeer) :
    Enrolled P ue mme.world.spawn.1
      (Mealy.Conversation.after (step P) Input.s1ap (ue.react P)
        (ue.begun P mme rand epsAttachType nasKsi rrcCause) turns) := by
  have hbegun : Phase.challenge.Holds P ue mme.world.spawn.1
      (ue.begun P mme rand epsAttachType nasKsi rrcCause) := by
    obtain ⟨-, n, hentity, hreact⟩ :=
      ue.exchange_initial P ⟨none, none, none⟩ rand hsub himsi epsAttachType nasKsi rrcCause
    have hnamed : n.identity.imsi = ue.imsi := by
      rw [Ue.initial, step_attachRequest P mme hsub himsi rand epsAttachType nasKsi rfl,
        get?_issueChallenge, Function.update_self] at hentity
      rw [← Option.some.inj hentity]
      rfl
    simp only [Ue.begun, Mealy.Conversation.turn, hreact, Phase.Holds]
    exact ⟨n, hentity, hnamed, rfl, rfl⟩
  obtain ⟨phase, hphase, hleft⟩ := Mealy.Conversation.exists_phase_after
    (fun phase c => phase.Holds P ue mme.world.spawn.1 c) Phase.left
    (fun _ _ rand hphase => hphase.peer rand)
    (fun _ _ _ hphase hforeign => hphase.other hforeign) hbegun hundisturbed
  have hdone : phase.left = 0 := by
    rw [hleft]
    exact Nat.sub_eq_zero_of_le hturns
  cases phase with
  | attached => exact hphase
  | _ => cases hdone

/-- The test UE attaches while another UE attaches under the same IMSI. -/
theorem testUe_attaches_among_others :
    Enrolled .standard testUe 0
      (Mealy.Conversation.after (step .standard) Input.s1ap (testUe.react .standard)
        (testUe.begun .standard (provisioned .standard none) (Octets.zeros 16) 1 7 0)
        (.other attachTest :: List.replicate 2 (.peer (Octets.zeros 16)))) := by
  refine attached_among_others .standard (provisioned .standard none) testUe rfl (by decide)
    (Octets.zeros 16) 1 7 0 _ ⟨?_, nofun, nofun, trivial⟩ (by decide)
  rintro _ ⟨⟩
  exact
    { unnamed := nofun
      fresh := fun _ _ _ _ _ _ hexhausted => absurd hexhausted.2 (by decide) }

end Midn.Core.Mme
