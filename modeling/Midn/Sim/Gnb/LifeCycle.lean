import Midn.Sim.Activity
import Midn.Sim.Gnb.System

/-!
# The life cycle of a logical UE

What the simulator is for: each UE goes through the stages below on its own, whatever the others
do. A stage says where the task of the UE stands, what is under way between it and the core in
either direction, and what the core holds about it.
-/

namespace Midn.Sim.Gnb

open Midn.Core Midn.Core.Amf Ecs Nas5gs Ngap

/-! ## Stages -/

/-- The error of a task that has given up. -/
def UeError.ofGivenUp : GivenUp → UeError
  | .noEcho => .noEcho
  | .unsent => .gtpSocket

/-- What UE and core have in common once the accept is under way. -/
structure Admission where
  entity : EntityId
  rand : Octets 16
  ulTeid : UInt32

inductive Stage where
  | idle
  | requesting
  | asked (e : EntityId)
  | identifying (e : EntityId)
  | challenged (e : EntityId) (rand : Octets 16)
  | answering (e : EntityId) (rand : Octets 16)
  | commanded (e : EntityId) (rand : Octets 16)
  | completing (e : EntityId) (rand : Octets 16)
  | accepted (a : Admission)
  | attached (a : Admission) (confirmed : Confirmed) (activity : Activity)
  | dismissed (a : Admission)
  | ordered (a : Admission)
  | releasing (a : Admission)
  | gone (a : Admission)

/-- One step of a life cycle. -/
inductive Stage.Next : Stage → Stage → Prop
  | request : Next .idle .requesting
  | ask (e : EntityId) : Next .requesting (.asked e)
  | identify (e : EntityId) : Next (.asked e) (.identifying e)
  | challenge (e : EntityId) (rand : Octets 16) : Next (.identifying e) (.challenged e rand)
  | answer (e : EntityId) (rand : Octets 16) : Next (.challenged e rand) (.answering e rand)
  | command (e : EntityId) (rand : Octets 16) : Next (.answering e rand) (.commanded e rand)
  | complete (e : EntityId) (rand : Octets 16) : Next (.commanded e rand) (.completing e rand)
  | accept (a : Admission) : Next (.completing a.entity a.rand) (.accepted a)
  | attach (a : Admission) : Next (.accepted a) (.attached a .nothing (.sending firstAttempt))
  | confirm (a : Admission) {confirmed confirmed' : Confirmed} (activity : Activity)
      (hnext : confirmed.Next confirmed') :
      Next (.attached a confirmed activity) (.attached a confirmed' activity)
  | act (a : Admission) (confirmed : Confirmed) {activity activity' : Activity}
      (hnext : activity.Next activity') :
      Next (.attached a confirmed activity) (.attached a confirmed activity')
  | dismiss (a : Admission) : Next (.attached a .registration .leaving) (.dismissed a)
  | order (a : Admission) : Next (.dismissed a) (.ordered a)
  | release (a : Admission) : Next (.ordered a) (.releasing a)
  | go (a : Admission) : Next (.releasing a) (.gone a)

/-! ## How much is left -/

/-- An upper bound on the steps to the end of the life cycle. -/
def Stage.rank : Stage → Nat
  | idle => 25
  | requesting => 24
  | asked _ => 23
  | identifying _ => 22
  | challenged _ _ => 21
  | answering _ _ => 20
  | commanded _ _ => 19
  | completing _ _ => 18
  | accepted _ => 17
  | attached _ confirmed activity => activity.rank + confirmed.rank
  | dismissed _ => 3
  | ordered _ => 2
  | releasing _ => 1
  | gone _ => 0

/-- Every step comes closer to the end. -/
theorem Stage.rank_lt_of_next {st st' : Stage} (hnext : Next st st') : st'.rank < st.rank := by
  cases hnext with
  | confirm a activity hnext => exact Nat.add_lt_add_left (Confirmed.rank_lt_of_next hnext) _
  | act a confirmed hnext => exact Nat.add_lt_add_right (Activity.rank_lt_of_next hnext) _
  | _ => exact Nat.lt_succ_self _

/-- Whether the core has made an entity for the UE. -/
def Stage.enrolled : Stage → Nat
  | idle => 0
  | requesting => 0
  | _ => 1

/-- Whether the UE has given up. -/
def Stage.stranded : Stage → Bool
  | attached _ _ (.stranded _) => true
  | _ => false

/-- What a UE that waits for an echo has been admitted with. -/
def Stage.awaited : Stage → Option Admission
  | attached a _ (.waiting _) => some a
  | _ => none

/-- Whether the core has given the UE a tunnel. -/
def Stage.admitted : Stage → Nat
  | accepted _ => 1
  | attached _ _ _ => 1
  | dismissed _ => 1
  | ordered _ => 1
  | releasing _ => 1
  | gone _ => 1
  | _ => 0

/-! ## What the core holds -/

section Views

variable (P : Primitives) (setup : Setup) (i : Fin setup.nUes)

/-- The vector that a challenge of a fresh subscriber is made from. -/
def authInfo (rand : Octets 16) : HssAuthInfo :=
  ⟨rand, setup.ctx.compute P rand sqnUsed milenageAmfField, sqnUsed⟩

def registeringUe : Entity := registering (setup.ranUeNgapId i) testPlmn .empty

def challengedUe (rand : Octets 16) : Entity :=
  challenged P (setup.ranUeNgapId i) (setup.imsi i) (authInfo P setup rand)
    (registeringUe setup i)

def answeredUe (rand : Octets 16) : Entity :=
  answered (challengedUe P setup i rand).security5g.pendingXresStar (challengedUe P setup i rand)

def securedUe (a : Admission) : Entity :=
  { answeredUe P setup i a.rand with
    security5g := (answeredUe P setup i a.rand).security5g.clearPostKamf
    nasSecurity5g := some (registrationAcceptOf P a.entity (answeredUe P setup i a.rand)).2
    tunnel := some ⟨a.ulTeid, 0, Octets.zeros 4⟩ }

def connectedUe (a : Admission) : Entity :=
  { securedUe P setup i a with tunnel := some ⟨a.ulTeid, setup.dlTeid i, setup.myIp⟩ }

def deregisteredUe (a : Admission) : Entity := deregistering P false (connectedUe P setup i a)

namespace Stage

/-- The entity of the UE, while the core has one for it. -/
def entity? : Stage → Option EntityId
  | asked e => some e
  | identifying e => some e
  | challenged e _ => some e
  | answering e _ => some e
  | commanded e _ => some e
  | completing e _ => some e
  | accepted a => some a.entity
  | attached a _ _ => some a.entity
  | dismissed a => some a.entity
  | ordered a => some a.entity
  | releasing a => some a.entity
  | _ => none

/-- The components of the entity. -/
def components : Stage → Option Entity
  | asked _ => some (registeringUe setup i)
  | identifying _ => some (registeringUe setup i)
  | challenged _ rand => some (challengedUe P setup i rand)
  | answering _ rand => some (challengedUe P setup i rand)
  | commanded _ rand => some (answeredUe P setup i rand)
  | completing _ rand => some (answeredUe P setup i rand)
  | accepted a => some (securedUe P setup i a)
  | attached a .nothing _ => some (securedUe P setup i a)
  | attached a _ _ => some (connectedUe P setup i a)
  | dismissed a => some (deregisteredUe P setup i a)
  | ordered a => some (deregisteredUe P setup i a)
  | releasing a => some (deregisteredUe P setup i a)
  | _ => none

/-- Whether the subscriber still has its first sequence number. -/
def unchallenged : Stage → Bool
  | idle => true
  | requesting => true
  | asked _ => true
  | identifying _ => true
  | _ => false

/-! ## What is under way -/

/-- The message to the gNodeB with the accept in it. -/
def setupRequest (a : Admission) : NgapMessage :=
  .initialContextSetupRequest
    { amfUeNgapId := a.entity
      ranUeNgapId := setup.ranUeNgapId i
      pduSessions := [⟨defaultPduSessionId, defaultQfi, a.ulTeid.toBeBytes, setup.upfIp⟩]
      nasPdu := some (registrationAcceptOf P a.entity (answeredUe P setup i a.rand)).1
      ueAmbr := (50000000, 50000000)
      securityKey := kamfFor P setup.ctx (setup.ueArgs i) a.rand }

def releaseCommand (a : Admission) : NgapMessage :=
  .ueContextReleaseCommand a.entity (setup.ranUeNgapId i) .nasDeregister

/-- The confirmations still to come. -/
def confirmations (a : Admission) : Confirmed → List NgapMessage
  | .nothing =>
      [setupResponse (setup.ueArgs i) a.entity defaultPduSessionId,
        uplinkMessage (setup.ueArgs i) a.entity encodeRegistrationComplete]
  | .session => [uplinkMessage (setup.ueArgs i) a.entity encodeRegistrationComplete]
  | .registration => []

/-- What the UE has sent and the core has not received, in order. -/
def up : Stage → List NgapMessage
  | requesting => [initialMessage (setup.ueArgs i)]
  | identifying e =>
      [uplinkMessage (setup.ueArgs i) e
        (encodeIdentityResponseSuci (suciForImsi (setup.imsi i)))]
  | answering e rand =>
      [uplinkMessage (setup.ueArgs i) e (encodeAuthResponse (resStarFor P setup.ctx rand))]
  | completing e _ => [uplinkMessage (setup.ueArgs i) e encodeSecModeComplete]
  | attached a confirmed .leaving =>
      confirmations setup i a confirmed ++
        [uplinkMessage (setup.ueArgs i) a.entity (encodeDeregistrationRequest false)]
  | attached a confirmed _ => confirmations setup i a confirmed
  | releasing a => [.ueContextReleaseComplete ⟨a.entity, setup.ranUeNgapId i⟩]
  | _ => []

/-- What the core has sent and the UE has not received, in order. -/
def down : Stage → List NgapMessage
  | asked e =>
      [.downlinkNasTransport ⟨e, setup.ranUeNgapId i, encodeIdentityRequest idtypeSuci⟩]
  | challenged e rand =>
      [.downlinkNasTransport ⟨e, setup.ranUeNgapId i,
        encodeAuthRequest 0 rand ((authInfo P setup rand).vector.autn sqnUsed milenageAmfField)⟩]
  | commanded e _ =>
      [.downlinkNasTransport ⟨e, setup.ranUeNgapId i,
        encodeSecModeCmd selectedNasCipherAlg selectedNasIntegrityAlg 0x2040⟩]
  | accepted a => [setupRequest P setup i a]
  | dismissed a =>
      [.downlinkNasTransport ⟨a.entity, setup.ranUeNgapId i,
          deregistrationAcceptOf P (connectedUe P setup i a)⟩,
        releaseCommand setup i a]
  | ordered a => [releaseCommand setup i a]
  | _ => []

/-- What the user plane is told when the core has taken a UE to a stage. -/
def events : Stage → List N3Event
  | accepted a =>
      [.createSession a.ulTeid a.entity (setup.imsi i) defaultPduSessionId defaultQfi
        (sessionUeIp a.entity) (Octets.zeros 4)]
  | attached a .session _ => [.updateBearer a.ulTeid (setup.dlTeid i) setup.myIp]
  | gone a => [.removeSession a.ulTeid]
  | _ => []

/-! ## Where the task stands -/

def progress : Stage → Progress
  | idle => .spawned
  | attached a _ (.sending attempt) => .transmitting attempt.val setup.upfIp a.ulTeid
  | attached a _ (.waiting attempt) => .awaitingEcho (attempt.val + 1) setup.upfIp a.ulTeid
  | attached _ _ (.stranded why) => .failed (.ofGivenUp why)
  | releasing _ => .finished
  | gone _ => .finished
  | _ => .receiving

/-- The core-side id, from the first message that the UE has received. -/
def amfUeNgapId : Stage → Option UInt32
  | idle => none
  | requesting => none
  | asked _ => none
  | identifying e => some e
  | challenged e _ => some e
  | answering e _ => some e
  | commanded e _ => some e
  | completing e _ => some e
  | accepted a => some a.entity
  | attached a _ _ => some a.entity
  | dismissed a => some a.entity
  | ordered a => some a.entity
  | releasing a => some a.entity
  | gone a => some a.entity

/-- The RAND of the challenge that the UE has answered. -/
def answeredRand : Stage → Option (Octets 16)
  | answering _ rand => some rand
  | commanded _ rand => some rand
  | completing _ rand => some rand
  | accepted a => some a.rand
  | attached a _ _ => some a.rand
  | dismissed a => some a.rand
  | ordered a => some a.rand
  | releasing a => some a.rand
  | gone a => some a.rand
  | _ => none

def kamf (st : Stage) : Option (Octets 32) :=
  st.answeredRand.map (kamfFor P setup.ctx (setup.ueArgs i))

end Stage

end Views

end Midn.Sim.Gnb
