import Midn.Core.Mme.HonestUe
import Midn.Proto.S1ap.Codec
import Midn.Sim.Link
import Midn.Sim.Traffic

/-!
# The UE of the LTE simulator

The task that plays a UE and its eNodeB: it attaches, sends a packet through its bearer and detaches
again. There is no dispatcher in between, so the messages of the MME and the datagrams of the user
plane reach the task as they come.
-/

namespace Midn.Sim.Enb

open Midn.Core Midn.Core.Mme Ecs Gtp Nas S1ap

/-! ## The test subscriber -/

def testImsi : UInt64 := 901700000002

theorem length_testPlmn : ([0x00, 0x11, 0x22] : List UInt8).length = 3 := rfl

def testPlmn : Octets 3 := ⟨[0x00, 0x11, 0x22], length_testPlmn⟩

def testTai : Octets 5 := ⟨[0x00, 0x11, 0x22, 0x00, 0x01], rfl⟩

def testEutranCgi : Octets 7 := Octets.zeros 7

def enbUeS1apId : UInt32 := 7

/-- The pair that the MME always selects. -/
def selectedEea : NasEeaAlgorithm := .eea2
def selectedEia : NasEiaAlgorithm := .eia2

def mockDlTeid : UInt32 := 0xAABBCCDD

/-! ## The task -/

/-- Why the task ends with an error. -/
inductive UeError where
  | codec (error : ProtoError)
  /-- An assertion of an encoder does not hold. -/
  | panicked
  | protectedBeforeKasme
  | detachAcceptNotOpened
  | expectedDetachAccept
  | unexpectedPlain
  | setupBeforeKasme
  | setupWithoutNasPdu
  | attachAcceptNotOpened
  | expectedAttachAccept
  | setupWithoutErab
  | payloadMismatch
  | noEcho
  | unexpectedMessage
  | linkLost
  | linkClosed
  /-- The association does not take a message. -/
  | sendFailed
  /-- The GTP-U socket does not take a packet. -/
  | gtpSocket
deriving DecidableEq

namespace UeError

def ofEnding : LinkEnding → UeError
  | .lost => .linkLost
  | .closed => .linkClosed

/-- Whether it is the association that has failed. -/
def ofLink : UeError → Bool
  | linkLost => true
  | linkClosed => true
  | sendFailed => true
  | _ => false

end UeError

/-- What the task knows about its bearer while it sends user data. -/
structure Bearer where
  mmeUeS1apId : UInt32
  upfAddr : Octets 4
  ulTeid : UInt32
deriving DecidableEq

/-- Where the task stands; the number of packets sent so far goes with the wait for an echo. -/
inductive Progress where
  | connecting
  | receiving
  | transmitting (sent : Nat) (bearer : Bearer)
  | awaitingEcho (sent : Nat) (bearer : Bearer)
  | finished
  | failed (error : UeError)
deriving DecidableEq

structure UeTask where
  progress : Progress
  mmeUeS1apId : Option UInt32
  kasme : Option (Octets 32)
  /-- What the task sends before it goes on. -/
  outbox : List (List UInt8)

namespace UeTask

def new : UeTask := ⟨.connecting, none, none, []⟩

def fail (u : UeTask) (error : UeError) : UeTask := { u with progress := .failed error }

/-- The task ends before it has sent what it was about to send. -/
def cutOff (u : UeTask) (error : UeError) : UeTask := { u.fail error with outbox := [] }

/-- Encode a message, send it and go on, unless the message cannot be encoded. -/
def send (u : UeTask) (msg : S1apMessage) (andThen : UeTask → UeTask) : UeTask :=
  match encodeS1apPdu msg with
  | some (.ok octets) => andThen { u with outbox := u.outbox ++ [octets] }
  | some (.error error) => u.fail (.codec error)
  | none => u.fail .panicked

end UeTask

section Task

variable (P : Primitives) (ctx : Auth.MilenageContext) (myIp : Octets 4)

/-- The first message, an attach request with the IMSI. -/
def initialMessage : S1apMessage :=
  .initialUeMessage
    { enbUeS1apId := enbUeS1apId
      nasPdu := encodeAttachRequest testImsi 1 0
      tai := testTai
      eutranCgi := testEutranCgi
      rrcCause := 0 }

def uplinkMessage (mmeUeS1apId : UInt32) (nasPdu : List UInt8) : S1apMessage :=
  .uplinkNasTransport
    { mmeUeS1apId := mmeUeS1apId
      enbUeS1apId := enbUeS1apId
      nasPdu := nasPdu
      tai := testTai
      eutranCgi := testEutranCgi }

/-- The eNodeB confirms the bearer with its own end of it. -/
def setupResponse (mmeUeS1apId enbUeS1apId : UInt32) (erabId : UInt8) : S1apMessage :=
  .initialContextSetupResponse
    { mmeUeS1apId := mmeUeS1apId
      enbUeS1apId := enbUeS1apId
      eRabsSetup := [⟨erabId, myIp, mockDlTeid.toBeBytes⟩]
      eRabsFailed := [] }

/-- The UE takes the first sequence number for granted. -/
def sqnUsed : Octets 6 := Octets.zeros 6

def milenageAmf : Octets 2 := ⟨[0x80, 0x00], length_milenageAmfField⟩

def vectorFor (rand : Octets 16) : Auth.AuthVector :=
  ctx.compute P rand (Auth.Sqn.fromBytes sqnUsed).toBytes milenageAmf

def kasmeFor (rand : Octets 16) : Octets 32 :=
  let vector := vectorFor P ctx rand
  deriveKasme P vector.ck vector.ik testPlmn (Octets.xor sqnUsed vector.ak)

/-- The NAS PDU in a protected envelope; every envelope is opened with a fresh context. -/
def openProtected (kasme : Octets 32) (nasPdu : List UInt8) : Option (List UInt8) :=
  (decodeProtectedDownlink P (.new P kasme selectedEea selectedEia) nasPdu nasBearer).1

/-- A protected PDU outside of a context setup is the end of the detach. -/
def onProtectedNas (u : UeTask) (nasPdu : List UInt8) : UeTask :=
  match u.kasme with
  | none => u.fail .protectedBeforeKasme
  | some kasme =>
      match openProtected P kasme nasPdu with
      | none => u.fail .detachAcceptNotOpened
      | some plain =>
          match decodeNas plain with
          | .ok .detachAccept => u
          | .ok _ => u.fail .expectedDetachAccept
          | .error error => u.fail (.codec error)

def onPlainNas (u : UeTask) (mmeUeS1apId : UInt32) (nasPdu : List UInt8) : UeTask :=
  match decodeNas nasPdu with
  | .ok (.authenticationRequest req) =>
      let u := { u with kasme := some (kasmeFor P ctx req.rand) }
      u.send (uplinkMessage mmeUeS1apId (encodeAuthResponse (vectorFor P ctx req.rand).res)) id
  | .ok (.securityModeCommand _) => u.send (uplinkMessage mmeUeS1apId encodeSecModeComplete) id
  | .ok _ => u.fail .unexpectedPlain
  | .error error => u.fail (.codec error)

def onDownlinkNas (u : UeTask) (dl : DownlinkNasTransport) : UeTask :=
  let mmeUeS1apId := u.mmeUeS1apId.getD dl.mmeUeS1apId
  let u := { u with mmeUeS1apId := some mmeUeS1apId }
  if securityHeaderType dl.nasPdu ≠ shtPlain then onProtectedNas P u dl.nasPdu
  else onPlainNas P ctx u mmeUeS1apId dl.nasPdu

/-- Open the accept that comes with a context setup, confirm the bearer, complete the attach and
begin to send. -/
def onSetupRequest (u : UeTask) (icsr : InitialContextSetupRequest) : UeTask :=
  let mmeUeS1apId := u.mmeUeS1apId.getD icsr.mmeUeS1apId
  let u := { u with mmeUeS1apId := some mmeUeS1apId }
  match u.kasme with
  | none => u.fail .setupBeforeKasme
  | some kasme =>
      match icsr.nasPdu with
      | none => u.fail .setupWithoutNasPdu
      | some nasPdu =>
          match openProtected P kasme nasPdu with
          | none => u.fail .attachAcceptNotOpened
          | some plain =>
              match decodeNas plain with
              | .ok (.attachAccept _) =>
                  match icsr.eRabs with
                  | [] => u.fail .setupWithoutErab
                  | erab :: _ =>
                      let bearer : Bearer :=
                        ⟨mmeUeS1apId, erab.transportLayerAddr, UInt32.fromBeBytes erab.gtpTeid⟩
                      u.send (setupResponse myIp mmeUeS1apId icsr.enbUeS1apId erab.erabId) fun u =>
                      u.send (uplinkMessage mmeUeS1apId encodeAttachComplete) fun u =>
                      { u with progress := .transmitting 0 bearer }
              | .ok _ => u.fail .expectedAttachAccept
              | .error error => u.fail (.codec error)

/-- The release is confirmed under the ids of the command. -/
def onReleaseCommand (u : UeTask) (mmeUeS1apId enbUeS1apId : UInt32) : UeTask :=
  u.send (.ueContextReleaseComplete ⟨mmeUeS1apId, enbUeS1apId⟩) fun u =>
    { u with progress := .finished }

/-- React to the octets of one message of the MME. -/
def onMessage (u : UeTask) (octets : List UInt8) : UeTask :=
  match decodeS1apPdu octets with
  | .error error => u.fail (.codec error)
  | .ok (.downlinkNasTransport dl) => onDownlinkNas P ctx u dl
  | .ok (.initialContextSetupRequest icsr) => onSetupRequest P myIp u icsr
  | .ok (.ueContextReleaseCommand mmeUeS1apId enbUeS1apId _) =>
      onReleaseCommand u mmeUeS1apId enbUeS1apId
  | .ok _ => u.fail .unexpectedMessage

/-- The association is established. -/
def start (u : UeTask) : UeTask :=
  u.send initialMessage fun u => { u with progress := .receiving }

/-- An attempt has failed: try again or give up. -/
def retry (u : UeTask) (sent : Nat) (bearer : Bearer) : UeTask :=
  if sent < maxAttempts then { u with progress := .transmitting sent bearer }
  else u.fail .noEcho

/-- A datagram ends the attempt: without a GTP-U header it has failed, and the echo of what was sent
leads on to the detach. -/
def onDatagram (u : UeTask) (sent : Nat) (bearer : Bearer) (octets : List UInt8) : UeTask :=
  match GtpuHeader.parse (octets.take gtpBufferSize) with
  | none => retry u sent bearer
  | some (_, dlPayload) =>
      if dlPayload ≠ payload then u.fail .payloadMismatch
      else
        u.send (uplinkMessage bearer.mmeUeS1apId
          (encodeDetachRequest 1 false 0 (Octets.zeros 10))) fun u =>
        { u with progress := .receiving }

end Task

end Midn.Sim.Enb
