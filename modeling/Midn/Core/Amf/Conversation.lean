import Midn.Core.Amf.HonestUe
import Midn.Core.Amf.Isolation

/-!
# Registration among others

The honest UE registers while the AMF goes on serving everybody else: other UEs register,
authenticate and leave, also under the same IMSI, in any order and between any two messages of the
UE. They do not disturb it, and once it has registered it stays so.
-/

namespace Midn

/-- The database holds the key of a subscriber, whatever its SQN. -/
def Hss.Holds (hss : Hss) (imsi : UInt64) (ctx : Auth.MilenageContext) : Prop :=
  ∃ sqn, hss.subscribers imsi = some ⟨ctx, sqn⟩

/-- A vector for anybody changes a SQN only. -/
theorem Hss.Holds.generateAuthVector {P : Primitives} {hss : Hss} {imsi : UInt64}
    {ctx : Auth.MilenageContext} (hholds : hss.Holds imsi ctx) (other : UInt64)
    (rand : Octets 16) : (hss.generateAuthVector P other rand).2.Holds imsi ctx := by
  obtain ⟨sqn, hsub⟩ := hholds
  cases hother : hss.subscribers other with
  | none =>
      simp only [Hss.generateAuthVector, hother]
      exact ⟨sqn, hsub⟩
  | some sub =>
      simp only [Hss.generateAuthVector, hother]
      rcases eq_or_ne imsi other with rfl | hne
      · cases hsub.symm.trans hother
        exact ⟨_, Function.update_self ..⟩
      · exact ⟨sqn, (Function.update_of_ne hne ..).trans hsub⟩

namespace Core.Amf

open Ecs Nas5gs Ngap

variable (P : Primitives)

/-! ## The others -/

/-- The entity an input names: neither a first message nor a change of the database names one. -/
def Input.amfUeNgapId? : Input → Option EntityId
  | .ngap _ msg => msg.amfUeNgapId?
  | .hssMut _ => none

/-- Isolation keeps every live entity that is not named. -/
theorem Isolates.get?_eq {t : Transition} (hisolates : Isolates t) {e : EntityId} {n : Entity}
    (hne : t.input.amfUeNgapId? ≠ some e) (hlive : t.pre.world.get? e = some n) :
    t.post.world.get? e = some n := by
  obtain ⟨pre, input, post, output⟩ := t
  cases input with
  | hssMut hss => exact (congrArg (World.get? · e) hisolates).trans hlive
  | ngap rand msg =>
      cases msg with
      | initialUeMessage m => exact hisolates e n hlive
      | _ => exact (hisolates e hne).trans hlive

/-- An input of somebody else: it does not name the entity of the UE, it finds a free id if it
needs one, and the operator does not take the UE out of the database. -/
structure Foreign (ue : Ue) (e : EntityId) (amf : Amf) (input : Input) : Prop where
  unnamed : input.amfUeNgapId? ≠ some e
  fresh : SpawnsFresh P (Mealy.transition (step P) amf input)
  holds : ∀ hss, input = .hssMut hss → hss.Holds ue.imsi ue.ctx

section Others

variable {P} {amf : Amf} {ue : Ue} {e : EntityId} {input : Input}

theorem Foreign.get?_step (hforeign : Foreign P ue e amf input) {n : Entity}
    (hlive : amf.world.get? e = some n) : (step P amf input).1.world.get? e = some n :=
  (isolates_step hforeign.fresh).get?_eq hforeign.unnamed hlive

/-- The database a request leaves behind. -/
def Request.hss (hss : Hss) : Request → Hss
  | .challenge _ _ _ _ hss => hss
  | .hssMut hss => hss
  | _ => hss

theorem hss_perform (amf : Amf) (r : Request) : (perform P amf r).1.hss = r.hss amf.hss := by
  cases r with
  | challenge e ran imsi authInfo hss =>
      simp only [perform, issueChallenge]
      split <;> rfl
  | authResponse e ran resStar =>
      simp only [perform, verifyResponse]
      split
      · rfl
      · split <;> rfl
  | securityModeComplete e ran =>
      simp only [perform, handleSecurityModeComplete]
      split
      · split <;> rfl
      · rfl
  | deregister e ran switchOff =>
      simp only [perform, acceptDeregistration]
      split
      · split
        · rfl
        · split <;> rfl
      · rfl
  | contextSetup resp =>
      simp only [perform, handleIcsResponse]
      repeat' split
      all_goals rfl
  | release msg =>
      simp only [perform, handleReleaseComplete]
      repeat' split
      all_goals rfl
  | register ran plmn => rfl
  | hssMut hss => rfl
  | ignored => rfl

/-- A vector for an identity response leaves every key in place. -/
theorem holds_of_identityVector {hss hss' : Hss} {imsi other : UInt64} {ctx : Auth.MilenageContext}
    (hholds : hss.Holds imsi ctx) {plainPdu : List UInt8} {rand : Octets 16}
    {authInfo : HssAuthInfo}
    (hvector : identityVector P hss plainPdu rand = some (other, authInfo, hss')) :
    hss'.Holds imsi ctx := by
  unfold identityVector at hvector
  split at hvector
  next inner _ =>
    split at hvector
    next suci _ =>
      split at hvector
      next named _ =>
        have hkept := hholds.generateAuthVector (P := P) named rand
        split at hvector
        next hgenerate =>
          cases hvector
          rw [hgenerate] at hkept
          exact hkept
        next => cases hvector
      next => cases hvector
    next => cases hvector
  next => cases hvector

/-- Only the operator takes a key out of the database. -/
theorem holds_step {imsi : UInt64} {ctx : Auth.MilenageContext} (hholds : amf.hss.Holds imsi ctx)
    (hmut : ∀ hss, input = .hssMut hss → hss.Holds imsi ctx) :
    (step P amf input).1.hss.Holds imsi ctx := by
  rw [step_eq_perform, hss_perform]
  cases input with
  | hssMut hss => exact hmut hss rfl
  | ngap rand msg =>
      cases msg with
      | initialUeMessage m =>
          simp only [request, initialRequest]
          split
          · split <;> exact hholds
          · exact hholds
      | uplinkNasTransport m =>
          simp only [request, opened, openUplink_hss]
          split
          · exact hholds
          next plainPdu _ =>
            simp only [nasRequest]
            split
            next =>
              cases hvector : identityVector P amf.hss plainPdu rand with
              | none => exact hholds
              | some vector => exact holds_of_identityVector hholds hvector
            all_goals exact hholds
      | _ => exact hholds

end Others

/-! ## The phases of a registration -/

/-- A UE with an AMF that serves others as well. -/
abbrev Conversation := Mealy.Conversation Amf UeState NgapMessage

abbrev Turn := Mealy.Turn Input (Octets 16)

/-- What the UE has to answer next. -/
inductive Phase where
  | identity
  | challenge
  | securityMode
  | registered

/-- How many messages the UE has still to send. -/
def Phase.left : Phase → Nat
  | identity => 3
  | challenge => 2
  | securityMode => 1
  | registered => 0

/-- The UE and the entity it has been given share a context under the KAMF of the UE. -/
structure Enrolled (ue : Ue) (e : EntityId) (c : Conversation) : Prop where
  silent : c.pending = none
  shared : ∃ n kamf ctx accept, c.machine.world.get? e = some n ∧
    n.identity.imsi = ue.imsi ∧ n.auth = .authenticated ∧ n.nasSecurity5g = some ctx ∧
    ctx.SameKeys (.new P kamf selectedNasCipherAlg selectedNasIntegrityAlg) ∧
    c.peer = ⟨some kamf, some ctx, some accept⟩

/-- What holds while the message of the UE is under way. -/
def Phase.Holds (ue : Ue) (e : EntityId) (c : Conversation) : Phase → Prop
  | identity =>
      c.machine.hss.Holds ue.imsi ue.ctx ∧ c.peer = ⟨none, none, none⟩ ∧
        c.pending = some (ue.uplink e (encodeIdentityResponseSuci (suciForImsi ue.imsi))) ∧
        ∃ n, c.machine.world.get? e = some n ∧ n.security5g.plmn = ue.plmn
  | challenge =>
      ∃ n, c.machine.world.get? e = some n ∧ n.identity.imsi = ue.imsi ∧
        c.peer = ⟨some (kamfOf P n.identity.imsi n.security5g), none, none⟩ ∧
        c.pending = some (ue.uplink e (encodeAuthResponse n.security5g.pendingXresStar))
  | securityMode =>
      ∃ n, c.machine.world.get? e = some n ∧ n.identity.imsi = ue.imsi ∧
        n.auth = .authenticated ∧
        c.peer = ⟨some (kamfOf P n.identity.imsi n.security5g), some (initialContext P n), none⟩ ∧
        c.pending = some (ue.uplink e encodeSecModeComplete)
  | registered => Enrolled P ue e c

section Phases

variable {P} {ue : Ue} {e : EntityId} {c : Conversation}

/-- Nothing foreign takes the UE out of its phase. -/
theorem Phase.Holds.other {phase : Phase} (hphase : phase.Holds P ue e c) {input : Input}
    (hforeign : Foreign P ue e c.machine input) :
    phase.Holds P ue e (c.turn (step P) Input.ngap (ue.react P) (.other input)) := by
  cases phase with
  | identity =>
      obtain ⟨hholds, hpeer, hpending, n, hentity, hplmn⟩ := hphase
      exact ⟨holds_step hholds hforeign.holds, hpeer, hpending, n, hforeign.get?_step hentity,
        hplmn⟩
  | challenge =>
      obtain ⟨n, hentity, hrest⟩ := hphase
      exact ⟨n, hforeign.get?_step hentity, hrest⟩
  | securityMode =>
      obtain ⟨n, hentity, hrest⟩ := hphase
      exact ⟨n, hforeign.get?_step hentity, hrest⟩
  | registered =>
      obtain ⟨hsilent, n, kamf, ctx, accept, hentity, hrest⟩ := hphase
      exact ⟨hsilent, n, kamf, ctx, accept, hforeign.get?_step hentity, hrest⟩

/-- Each message of the UE takes it to the next phase. -/
theorem Phase.Holds.peer (himsi : ue.imsi.toNat < 2 ^ 40) {phase : Phase}
    (hphase : phase.Holds P ue e c) (rand : Octets 16) :
    ∃ next : Phase,
      next.Holds P ue e (c.turn (step P) Input.ngap (ue.react P) (.peer rand)) ∧
        next.left = phase.left - 1 := by
  cases phase with
  | identity =>
      obtain ⟨⟨sqn, hsub⟩, hpeer, hpending, n, hentity, hplmn⟩ := hphase
      obtain ⟨n', hentity', hreact⟩ :=
        ue.exchange_identityResponse P c.peer rand hsub himsi hentity hplmn
      refine ⟨.challenge, ?_, rfl⟩
      rw [Mealy.Conversation.turn_peer hpending hreact, hpeer]
      have hnamed : n'.identity.imsi = ue.imsi := by
        rw [Ue.uplink, step_identityResponse P c.machine hsub himsi rand rfl,
          get?_issueChallenge, Function.update_self, hentity, Option.map_some] at hentity'
        rw [← Option.some.inj hentity']
        rfl
      exact ⟨n', hentity', hnamed, rfl, rfl⟩
  | challenge =>
      obtain ⟨n, hentity, himsi, hpeer, hpending⟩ := hphase
      have hkamf := congrArg UeState.kamf hpeer
      obtain ⟨hentity', hreact⟩ := ue.exchange_authResponse P c.peer rand hentity hkamf
      refine ⟨.securityMode, ?_, rfl⟩
      rw [Mealy.Conversation.turn_peer hpending hreact, hpeer]
      exact ⟨_, hentity', himsi, if_pos rfl, rfl, rfl⟩
  | securityMode =>
      obtain ⟨n, hentity, himsi, hauth, hpeer, hpending⟩ := hphase
      have hctx := congrArg UeState.nasSecurity hpeer
      obtain ⟨hentity', -, hreact, -⟩ := ue.exchange_secModeComplete P c.peer rand hentity hctx
      refine ⟨.registered, ?_, rfl⟩
      rw [Mealy.Conversation.turn_peer hpending hreact, hpeer]
      exact ⟨rfl, _, _, _, _, hentity', himsi, hauth, rfl, ⟨rfl, rfl, rfl, rfl⟩, rfl⟩
  | registered =>
      refine ⟨.registered, ?_, rfl⟩
      simp only [Mealy.Conversation.turn, hphase.silent]
      exact hphase

end Phases

/-- An honest UE whose first message an AMF has just taken up, in whatever state the AMF was. -/
def Ue.begun (ue : Ue) (amf : Amf) (rand : Octets 16) (registrationType ngKsi : UInt8)
    (ueSecurityCap : UInt16) (rrcEstablishmentCause : UInt8) : Conversation :=
  Mealy.Conversation.turn (step P) Input.ngap (ue.react P)
    ⟨amf, ⟨none, none, none⟩,
      some (ue.initial registrationType ngKsi ueSecurityCap rrcEstablishmentCause)⟩
    (.peer rand : Turn)

/-- After three more of its messages an honest UE is registered, whatever others have done in
between, and whatever they do afterwards it stays registered. -/
theorem registered_among_others (amf : Amf) (ue : Ue) (hholds : amf.hss.Holds ue.imsi ue.ctx)
    (himsi : ue.imsi.toNat < 2 ^ 40) (rand : Octets 16) (registrationType ngKsi : UInt8)
    (ueSecurityCap : UInt16) (rrcEstablishmentCause : UInt8) (turns : List Turn)
    (hundisturbed : Mealy.Conversation.Undisturbed (step P) Input.ngap (ue.react P)
      (Foreign P ue amf.world.spawn.1)
      (ue.begun P amf rand registrationType ngKsi ueSecurityCap rrcEstablishmentCause) turns)
    (hturns : 3 ≤ turns.countP Mealy.Turn.isPeer) :
    Enrolled P ue amf.world.spawn.1
      (Mealy.Conversation.after (step P) Input.ngap (ue.react P)
        (ue.begun P amf rand registrationType ngKsi ueSecurityCap rrcEstablishmentCause)
        turns) := by
  have hbegun : Phase.identity.Holds P ue amf.world.spawn.1
      (ue.begun P amf rand registrationType ngKsi ueSecurityCap rrcEstablishmentCause) := by
    obtain ⟨hhss, n, hentity, hplmn, hreact⟩ :=
      ue.exchange_initial P ⟨none, none, none⟩ rand amf registrationType ngKsi ueSecurityCap
        rrcEstablishmentCause
    rw [Ue.begun, Mealy.Conversation.turn_peer rfl hreact]
    exact ⟨hhss ▸ hholds, rfl, rfl, n, hentity, hplmn⟩
  obtain ⟨phase, hphase, hleft⟩ := Mealy.Conversation.exists_phase_after
    (fun phase c => phase.Holds P ue amf.world.spawn.1 c) Phase.left
    (fun _ _ rand hphase => hphase.peer himsi rand)
    (fun _ _ _ hphase hforeign => hphase.other hforeign) hbegun hundisturbed
  have hdone : phase.left = 0 := by
    rw [hleft]
    exact Nat.sub_eq_zero_of_le hturns
  cases phase with
  | registered => exact hphase
  | _ => cases hdone

/-- The test UE registers while another UE asks for an entity of its own. -/
theorem testUe_registers_among_others :
    Enrolled .standard testUe 0
      (Mealy.Conversation.after (step .standard) Input.ngap (testUe.react .standard)
        (testUe.begun .standard (provisioned .standard none) (Octets.zeros 16) 1 0 0x00C0 0)
        (.other registerOther :: List.replicate 3 (.peer (Octets.zeros 16)))) := by
  refine registered_among_others .standard (provisioned .standard none) testUe ⟨0, rfl⟩ (by decide)
    (Octets.zeros 16) 1 0 0x00C0 0 _ ⟨?_, nofun, nofun, nofun, trivial⟩ (by decide)
  rintro _ ⟨⟩
  exact
    { unnamed := nofun
      fresh := fun _ _ _ hexhausted => absurd hexhausted.2 (by decide)
      holds := nofun }

end Core.Amf

end Midn
