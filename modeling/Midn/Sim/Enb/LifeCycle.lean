import Midn.Sim.Activity
import Midn.Sim.Enb.System

/-!
# The life cycle of the LTE UE

What the simulator is for: the UE goes through the stages below. A stage says where its task stands,
what is under way between it and the MME in either direction, and what the MME and the user plane
hold about it, which is all they hold.
-/

namespace Midn.Sim.Enb

open Midn.Core Midn.Core.Mme Ecs Nas S1ap Userplane

/-! ## Stages -/

/-- The error of a task that has given up. -/
def UeError.ofGivenUp : GivenUp → UeError
  | .noEcho => .noEcho
  | .unsent => .gtpSocket

/-- Once the UE is challenged, everything depends on the RAND of the challenge. -/
inductive Stage where
  | idle
  | requesting
  | challenged (rand : Octets 16)
  | answering (rand : Octets 16)
  | commanded (rand : Octets 16)
  | completing (rand : Octets 16)
  | accepted (rand : Octets 16)
  | attached (rand : Octets 16) (confirmed : Confirmed) (activity : Activity)
  | dismissed (rand : Octets 16)
  | ordered (rand : Octets 16)
  | releasing (rand : Octets 16)
  | gone (rand : Octets 16)

/-- One step of the life cycle. -/
inductive Stage.Next : Stage → Stage → Prop
  | request : Next .idle .requesting
  | challenge (rand : Octets 16) : Next .requesting (.challenged rand)
  | answer (rand : Octets 16) : Next (.challenged rand) (.answering rand)
  | command (rand : Octets 16) : Next (.answering rand) (.commanded rand)
  | complete (rand : Octets 16) : Next (.commanded rand) (.completing rand)
  | accept (rand : Octets 16) : Next (.completing rand) (.accepted rand)
  | attach (rand : Octets 16) :
      Next (.accepted rand) (.attached rand .nothing (.sending firstAttempt))
  | confirm (rand : Octets 16) {confirmed confirmed' : Confirmed} (activity : Activity)
      (hnext : confirmed.Next confirmed') :
      Next (.attached rand confirmed activity) (.attached rand confirmed' activity)
  | act (rand : Octets 16) (confirmed : Confirmed) {activity activity' : Activity}
      (hnext : activity.Next activity') :
      Next (.attached rand confirmed activity) (.attached rand confirmed activity')
  | dismiss (rand : Octets 16) : Next (.attached rand .registration .leaving) (.dismissed rand)
  | order (rand : Octets 16) : Next (.dismissed rand) (.ordered rand)
  | release (rand : Octets 16) : Next (.ordered rand) (.releasing rand)
  | go (rand : Octets 16) : Next (.releasing rand) (.gone rand)

/-- An upper bound on the steps to the end of the life cycle. -/
def Stage.rank : Stage → Nat
  | idle => 23
  | requesting => 22
  | challenged _ => 21
  | answering _ => 20
  | commanded _ => 19
  | completing _ => 18
  | accepted _ => 17
  | attached _ confirmed activity => activity.rank + confirmed.rank
  | dismissed _ => 3
  | ordered _ => 2
  | releasing _ => 1
  | gone _ => 0

/-- Every step comes closer to the end. -/
theorem Stage.rank_lt_of_next {st st' : Stage} (hnext : Next st st') : st'.rank < st.rank := by
  cases hnext with
  | confirm rand activity hnext => exact Nat.add_lt_add_left (Confirmed.rank_lt_of_next hnext) _
  | act rand confirmed hnext => exact Nat.add_lt_add_right (Activity.rank_lt_of_next hnext) _
  | _ => exact Nat.lt_succ_self _

/-! ## What the node holds -/

/-- The first entity and the first TEID of an MME. -/
def entity : EntityId := 0

def teidBase : UInt32 := 0x00010000

section Views

variable (P : Primitives) (setup : Setup)

/-- The vector that the challenge of the fresh subscriber is made from. -/
def authInfo (rand : Octets 16) : HssAuthInfo :=
  ⟨rand, setup.ctx.compute P rand sqnUsed milenageAmfField, sqnUsed⟩

def challengedUe (rand : Octets 16) : Entity :=
  challenged enbUeS1apId testPlmn testImsi (authInfo P setup rand) .empty

def answeredUe (rand : Octets 16) : Entity :=
  answered (challengedUe P setup rand).security.pendingXres (challengedUe P setup rand)

def securedUe (rand : Octets 16) : Entity :=
  { answeredUe P setup rand with
    security := (answeredUe P setup rand).security.clearPostKasme
    nasSecurity := some (attachAcceptOf P (answeredUe P setup rand)).2
    tunnel := some ⟨teidBase, 0, Octets.zeros 4⟩ }

def connectedUe (rand : Octets 16) : Entity :=
  { securedUe P setup rand with tunnel := some ⟨teidBase, mockDlTeid, setup.myIp⟩ }

def detachingUe (rand : Octets 16) : Entity := detaching P false (connectedUe P setup rand)

namespace Stage

/-- The components of the entity, while the MME has one. -/
def components : Stage → Option Entity
  | challenged rand => some (challengedUe P setup rand)
  | answering rand => some (challengedUe P setup rand)
  | commanded rand => some (answeredUe P setup rand)
  | completing rand => some (answeredUe P setup rand)
  | accepted rand => some (securedUe P setup rand)
  | attached rand .nothing _ => some (securedUe P setup rand)
  | attached rand _ _ => some (connectedUe P setup rand)
  | dismissed rand => some (detachingUe P setup rand)
  | ordered rand => some (detachingUe P setup rand)
  | releasing rand => some (detachingUe P setup rand)
  | _ => none

/-- Whether the MME has not heard of the UE yet. -/
def fresh : Stage → Bool
  | idle => true
  | requesting => true
  | _ => false

/-- Both ends of the tunnel; the far end is not known until the bearer is confirmed. -/
def tunnel? : Stage → Option TunnelComponent
  | accepted _ => some ⟨teidBase, 0, Octets.zeros 4⟩
  | attached _ .nothing _ => some ⟨teidBase, 0, Octets.zeros 4⟩
  | attached _ _ _ => some ⟨teidBase, mockDlTeid, setup.myIp⟩
  | dismissed _ => some ⟨teidBase, mockDlTeid, setup.myIp⟩
  | ordered _ => some ⟨teidBase, mockDlTeid, setup.myIp⟩
  | releasing _ => some ⟨teidBase, mockDlTeid, setup.myIp⟩
  | _ => none

/-- The TEIDs that are left. -/
def teids : Stage → TeidAllocator
  | accepted _ => ⟨teidBase + 1, []⟩
  | attached _ _ _ => ⟨teidBase + 1, []⟩
  | dismissed _ => ⟨teidBase + 1, []⟩
  | ordered _ => ⟨teidBase + 1, []⟩
  | releasing _ => ⟨teidBase + 1, []⟩
  | gone _ => ⟨teidBase + 1, [teidBase]⟩
  | _ => ⟨teidBase, []⟩

/-! ## What is under way -/

/-- The message to the eNodeB with the accept in it. -/
def setupRequest (rand : Octets 16) : S1apMessage :=
  .initialContextSetupRequest
    { mmeUeS1apId := entity
      enbUeS1apId := enbUeS1apId
      eRabs := [⟨5, 9, teidBase.toBeBytes, setup.upfIp⟩]
      nasPdu := some (attachAcceptOf P (answeredUe P setup rand)).1
      ueAmbr := (50000000, 50000000)
      securityKey := kasmeFor P setup.ctx rand }

def releaseCommand : S1apMessage := .ueContextReleaseCommand entity enbUeS1apId .nasDetach

/-- The confirmations still to come. -/
def confirmations : Confirmed → List S1apMessage
  | .nothing =>
      [setupResponse setup.myIp entity enbUeS1apId 5, uplinkMessage entity encodeAttachComplete]
  | .session => [uplinkMessage entity encodeAttachComplete]
  | .registration => []

def detachRequest : S1apMessage :=
  uplinkMessage entity (encodeDetachRequest 1 false 0 (Octets.zeros 10))

/-- What the UE has sent and the MME has not received, in order. -/
def up : Stage → List S1apMessage
  | requesting => [initialMessage]
  | answering rand =>
      [uplinkMessage entity (encodeAuthResponse (vectorFor P setup.ctx rand).res)]
  | completing _ => [uplinkMessage entity encodeSecModeComplete]
  | attached _ confirmed .leaving => confirmations setup confirmed ++ [detachRequest]
  | attached _ confirmed _ => confirmations setup confirmed
  | releasing _ => [.ueContextReleaseComplete ⟨entity, enbUeS1apId⟩]
  | _ => []

/-- What the MME has sent and the UE has not received, in order. -/
def down : Stage → List S1apMessage
  | challenged rand =>
      [.downlinkNasTransport ⟨entity, enbUeS1apId,
        encodeAuthRequest 0 rand ((authInfo P setup rand).vector.autn sqnUsed amfField)⟩]
  | commanded _ =>
      [.downlinkNasTransport ⟨entity, enbUeS1apId,
        encodeSecModeCmd Mme.selectedEea Mme.selectedEia 0 [0x20, 0x40]⟩]
  | accepted rand => [setupRequest P setup rand]
  | dismissed rand =>
      [.downlinkNasTransport ⟨entity, enbUeS1apId, detachAcceptOf P (connectedUe P setup rand)⟩,
        releaseCommand]
  | ordered _ => [releaseCommand]
  | _ => []

/-! ## Where the task stands -/

def bearer : Bearer := ⟨entity, setup.upfIp, teidBase⟩

def progress : Stage → Progress
  | idle => .connecting
  | attached _ _ (.sending attempt) => .transmitting attempt.val (bearer setup)
  | attached _ _ (.waiting attempt) => .awaitingEcho (attempt.val + 1) (bearer setup)
  | attached _ _ (.stranded why) => .failed (.ofGivenUp why)
  | releasing _ => .finished
  | gone _ => .finished
  | _ => .receiving

/-- The id on the side of the MME, from the first message that the UE has received. -/
def mmeUeS1apId : Stage → Option UInt32
  | idle => none
  | requesting => none
  | challenged _ => none
  | _ => some entity

/-- The RAND of the challenge that the UE has answered. -/
def answeredRand : Stage → Option (Octets 16)
  | answering rand => some rand
  | commanded rand => some rand
  | completing rand => some rand
  | accepted rand => some rand
  | attached rand _ _ => some rand
  | dismissed rand => some rand
  | ordered rand => some rand
  | releasing rand => some rand
  | gone rand => some rand
  | _ => none

def kasme (st : Stage) : Option (Octets 32) := st.answeredRand.map (kasmeFor P setup.ctx)

end Stage

end Views

/-! ## The node at a stage -/

def sessionOf (t : TunnelComponent) : UserPlaneSession where
  entityId := entity
  imsi := testImsi
  ulTeid := t.ulTeid
  dlTeid := t.dlTeid
  ueIp := Octets.zeros 4
  enbAddr := t.enbAddr
  active := true
  bytesUl := 0
  bytesDl := 0

/-- A table that has at most the one entry. -/
def only {κ α : Type} [DecidableEq κ] (k : κ) (entry : Option α) : κ → Option α :=
  Function.update (fun _ => none) k entry

section Only

variable {κ α : Type} [DecidableEq κ] (k : κ) (entry new : Option α)

@[simp] theorem only_self : only k entry k = entry := Function.update_self ..

@[simp] theorem update_only : Function.update (only k entry) k new = only k new :=
  Function.update_idem ..

theorem only_none : only k (none : Option α) = fun _ => none := Function.update_eq_self k _

end Only

/-- The user plane has the session of the tunnel and its routes, and no others. -/
structure PlaneAt {τ υ : Type} (tunnel : Option TunnelComponent) (upf : SessionManager τ υ) :
    Prop where
  sessions : upf.sessions = only teidBase (tunnel.map sessionOf)
  uplink : upf.routing.ulMap = only teidBase (tunnel.map S1u.placeholderRoute)
  downlink : upf.routing.dlMap = only (Octets.zeros 4) (tunnel.map S1u.placeholderRoute)

/-- The MME and the user plane hold what the stage says and nothing else. -/
structure NodeAt {τ υ : Type} (P : Primitives) (setup : Setup) (st : Stage)
    (node : S1u.Node τ υ) : Prop where
  phase : node.1.phase3Upf = some setup.upfIp
  world : node.1.world.get? = only entity (st.components P setup)
  registry : node.1.registry.lookup = only testImsi ((st.components P setup).map fun _ => entity)
  teids : node.1.teidAllocator = st.teids
  fresh : st.fresh = true → node.1.world = .new ∧ node.1.hss = setup.subscribers
  plane : PlaneAt (st.tunnel? setup) node.2

end Midn.Sim.Enb
