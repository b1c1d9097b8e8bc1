import Midn.Core.Amf.Procedure
import Midn.Proto.Ngap.Codec
import Midn.Sim.Link
import Midn.Sim.Traffic

/-!
# A logical UE of the simulator

The task that registers one UE, sends a packet through its tunnel and deregisters again. It reacts
to the messages that the gNodeB sorts out for it, and what it does between two of them is a list of
messages still to be put into the channel it shares with the other UEs.
-/

namespace Midn.Sim.Gnb

open Midn.Core Midn.Core.Amf Ecs Nas5gs Ngap

/-! ## The test subscribers -/

def testImsi : UInt64 := 901700000001

theorem length_testPlmn : ([0x00, 0x11, 0x22] : List UInt8).length = 3 := rfl

def testPlmn : Octets 3 := ⟨[0x00, 0x11, 0x22], length_testPlmn⟩

def testTai : Octets 6 := ⟨[0x00, 0x11, 0x22, 0x00, 0x00, 0x01], rfl⟩

def ranUeNgapIdBase : UInt32 := 7

def mockDlTeidBase : UInt32 := 0xAABBCCDD

/-- What distinguishes one logical UE from the others. -/
structure UeArgs where
  ranUeNgapId : UInt32
  dlTeid : UInt32
  imsi : UInt64
  myIp : Octets 4

/-! ## The task -/

/-- Why a task ends with an error. -/
inductive UeError where
  /-- The dispatcher has handed over a message for another UE. -/
  | misrouted (ranUeNgapId : UInt32)
  | codec (error : ProtoError)
  /-- An assertion of an encoder does not hold. -/
  | panicked
  | protectedBeforeKamf
  | deregistrationAcceptNotOpened
  | expectedDeregistrationAccept
  | unexpectedPlain
  | setupBeforeKamf
  | setupWithoutNasPdu
  | registrationAcceptNotOpened
  | expectedRegistrationAccept
  | setupWithoutSession
  | payloadMismatch
  | noEcho
  | unexpectedMessage
  /-- The channel from the dispatcher is closed. -/
  | channelClosed
  /-- The channel to the dispatcher is closed. -/
  | dispatcherGone
  /-- The GTP-U socket does not take a packet. -/
  | gtpSocket
deriving DecidableEq

/-- Whether it is the dispatcher that the task has lost. -/
def UeError.ofDispatcher : UeError → Bool
  | channelClosed => true
  | dispatcherGone => true
  | _ => false

/-- Where a task stands; the number of packets sent so far goes with the wait for an echo. -/
inductive Progress where
  | spawned
  | receiving
  | transmitting (sent : Nat) (upfAddr : Octets 4) (ulTeid : UInt32)
  | awaitingEcho (sent : Nat) (upfAddr : Octets 4) (ulTeid : UInt32)
  | finished
  | failed (error : UeError)
deriving DecidableEq

structure UeTask where
  progress : Progress
  amfUeNgapId : Option UInt32
  kamf : Option (Octets 32)
  ngapRx : List NgapMessage
  gtpRx : List (List UInt8)
  /-- What the task sends before it goes on. -/
  outbox : List (List UInt8)

namespace UeTask

def new : UeTask := ⟨.spawned, none, none, [], [], []⟩

def fail (u : UeTask) (error : UeError) : UeTask := { u with progress := .failed error }

/-- The task ends before it has sent what it was about to send. -/
def cutOff (u : UeTask) (error : UeError) : UeTask := { u.fail error with outbox := [] }

/-- Encode a message, send it and go on, unless the message cannot be encoded. -/
def send (u : UeTask) (msg : NgapMessage) (andThen : UeTask → UeTask) : UeTask :=
  match encodeNgapPdu msg with
  | some (.ok octets) => andThen { u with outbox := u.outbox ++ [octets] }
  | some (.error error) => u.fail (.codec error)
  | none => u.fail .panicked

end UeTask

section Task

variable (P : Primitives) (ctx : Auth.MilenageContext) (ue : UeArgs)

/-- The first message: a registration request without a GUTI. -/
def initialMessage : NgapMessage :=
  .initialUeMessage
    { ranUeNgapId := ue.ranUeNgapId
      nasPdu := encodeRegistrationRequest 1 0 none 0x00C0
      tai := testTai
      nrCgi := Octets.zeros 9
      rrcEstablishmentCause := 0 }

def uplinkMessage (amfUeNgapId : UInt32) (nasPdu : List UInt8) : NgapMessage :=
  .uplinkNasTransport
    { amfUeNgapId := amfUeNgapId
      ranUeNgapId := ue.ranUeNgapId
      nasPdu := nasPdu
      tai := testTai
      nrCgi := Octets.zeros 9 }

/-- The gNodeB confirms the session with the tunnel end of the UE. -/
def setupResponse (amfUeNgapId : UInt32) (pduSessionId : UInt8) : NgapMessage :=
  .initialContextSetupResponse
    { amfUeNgapId := amfUeNgapId
      ranUeNgapId := ue.ranUeNgapId
      pduSessionsSetup := [⟨pduSessionId, ue.myIp, ue.dlTeid.toBeBytes⟩]
      pduSessionsFailed := [] }

/-- The UE takes the first sequence number for granted. -/
def sqnUsed : Octets 6 := Octets.zeros 6

def vectorFor (rand : Octets 16) : Auth.AuthVector :=
  ctx.compute P rand (Auth.Sqn.fromBytes sqnUsed).toBytes milenageAmf

def resStarFor (rand : Octets 16) : Octets 16 :=
  let vector := vectorFor P ctx rand
  deriveResStar P vector.ck vector.ik (servingNetworkName testPlmn) rand vector.res

/-- KAMF at the end of the chain that the AMF goes through on its side. -/
def kamfFor (rand : Octets 16) : Octets 32 :=
  let vector := vectorFor P ctx rand
  let snn := servingNetworkName testPlmn
  let kausf := deriveKausf P vector.ck vector.ik snn (Octets.xor sqnUsed vector.ak)
  let kseaf := deriveKseaf P kausf snn
  deriveKamf P kseaf (supiOf ue.imsi) (Octets.zeros 2)

/-- The NAS PDU in a protected envelope; every envelope is opened with a fresh context. -/
def openProtected (kamf : Octets 32) (nasPdu : List UInt8) : Option (List UInt8) :=
  (decodeProtectedDownlink P (.new P kamf 2 2) nasPdu).1

/-- A protected PDU outside of a context setup is the end of the deregistration. -/
def onProtectedNas (u : UeTask) (nasPdu : List UInt8) : UeTask :=
  match u.kamf with
  | none => u.fail .protectedBeforeKamf
  | some kamf =>
      match openProtected P kamf nasPdu with
      | none => u.fail .deregistrationAcceptNotOpened
      | some plain =>
          match decodeNas5gs plain with
          | .ok .deregistrationAccept => u
          | .ok _ => u.fail .expectedDeregistrationAccept
          | .error error => u.fail (.codec error)

def onPlainNas (u : UeTask) (amfUeNgapId : UInt32) (nasPdu : List UInt8) : UeTask :=
  match decodeNas5gs nasPdu with
  | .ok (.identityRequest _) =>
      u.send (uplinkMessage ue amfUeNgapId (encodeIdentityResponseSuci (suciForImsi ue.imsi))) id
  | .ok (.authenticationRequest req) =>
      let u := { u with kamf := some (kamfFor P ctx ue req.rand) }
      u.send (uplinkMessage ue amfUeNgapId (encodeAuthResponse (resStarFor P ctx req.rand))) id
  | .ok (.securityModeCommand _) =>
      u.send (uplinkMessage ue amfUeNgapId encodeSecModeComplete) id
  | .ok _ => u.fail .unexpectedPlain
  | .error error => u.fail (.codec error)

def onDownlinkNas (u : UeTask) (dl : NgapDownlinkNasTransport) : UeTask :=
  let amfUeNgapId := u.amfUeNgapId.getD dl.amfUeNgapId
  let u := { u with amfUeNgapId := some amfUeNgapId }
  if securityHeaderType dl.nasPdu ≠ nas5gsShtPlain then onProtectedNas P u dl.nasPdu
  else onPlainNas P ctx ue u amfUeNgapId dl.nasPdu

/-- Open the accept that comes with a context setup, confirm the session, complete the registration
and begin to send. -/
def onSetupRequest (u : UeTask) (icsr : NgapInitialContextSetupRequest) : UeTask :=
  let amfUeNgapId := u.amfUeNgapId.getD icsr.amfUeNgapId
  let u := { u with amfUeNgapId := some amfUeNgapId }
  match u.kamf with
  | none => u.fail .setupBeforeKamf
  | some kamf =>
      match icsr.nasPdu with
      | none => u.fail .setupWithoutNasPdu
      | some nasPdu =>
          match openProtected P kamf nasPdu with
          | none => u.fail .registrationAcceptNotOpened
          | some plain =>
              match decodeNas5gs plain with
              | .ok (.registrationAccept _) =>
                  match icsr.pduSessions with
                  | [] => u.fail .setupWithoutSession
                  | session :: _ =>
                      let upfAddr := session.transportLayerAddr
                      let ulTeid := UInt32.fromBeBytes session.gtpTeid
                      u.send (setupResponse ue amfUeNgapId session.pduSessionId) fun u =>
                      u.send (uplinkMessage ue amfUeNgapId encodeRegistrationComplete) fun u =>
                      { u with progress := .transmitting 0 upfAddr ulTeid }
              | .ok _ => u.fail .expectedRegistrationAccept
              | .error error => u.fail (.codec error)

/-- The release is confirmed under the ids of the command. -/
def onReleaseCommand (u : UeTask) (amfUeNgapId ranUeNgapId : UInt32) : UeTask :=
  u.send (.ueContextReleaseComplete ⟨amfUeNgapId, ranUeNgapId⟩) fun u =>
    { u with progress := .finished }

/-- The RAN-side id of a message from the AMF. -/
def ranUeNgapIdOf : NgapMessage → Option UInt32
  | .downlinkNasTransport dl => some dl.ranUeNgapId
  | .initialContextSetupRequest icsr => some icsr.ranUeNgapId
  | .ueContextReleaseCommand _ ranUeNgapId _ => some ranUeNgapId
  | _ => none

/-- React to one message, after checking that it is for this UE. -/
def onMessage (u : UeTask) (msg : NgapMessage) : UeTask :=
  match ranUeNgapIdOf msg with
  | some got => if got ≠ ue.ranUeNgapId then u.fail (.misrouted got) else react u msg
  | none => react u msg
where
  react (u : UeTask) : NgapMessage → UeTask
    | .downlinkNasTransport dl => onDownlinkNas P ctx ue u dl
    | .initialContextSetupRequest icsr => onSetupRequest P ue u icsr
    | .ueContextReleaseCommand amfUeNgapId ranUeNgapId _ =>
        onReleaseCommand u amfUeNgapId ranUeNgapId
    | _ => u.fail .unexpectedMessage

/-- The first step of the task. -/
def start (u : UeTask) : UeTask :=
  u.send (initialMessage ue) fun u => { u with progress := .receiving }

/-- A payload has come down: the echo of what was sent leads on to the deregistration. -/
def onEcho (u : UeTask) (dlPayload : List UInt8) : UeTask :=
  if dlPayload ≠ payload then u.fail .payloadMismatch
  else
    match u.amfUeNgapId with
    | none => u
    | some amfUeNgapId =>
        u.send (uplinkMessage ue amfUeNgapId (encodeDeregistrationRequest false)) fun u =>
          { u with progress := .receiving }

end Task

end Midn.Sim.Gnb
