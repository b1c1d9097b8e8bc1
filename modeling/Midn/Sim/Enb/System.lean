import Midn.Lib.Family
import Midn.Sim.Enb.Ue
import Midn.Sim.S1u

/-!
# The LTE simulator as one system

The process that plays MME and UPF, and the process that plays a UE and its eNodeB. They share an
association, which keeps the order of what is sent until it is lost, and a network for user data,
which keeps nothing. A run is any schedule of the events below; an event that is not enabled leaves
the system as it is.
-/

namespace Midn.Sim.Enb

open Midn.Core Midn.Core.Mme Gtp S1ap Userplane

/-! ## Setup -/

/-- What both processes are started with. Both bind the GTP-U port, each under an address of its
own. -/
structure Setup where
  ctx : Auth.MilenageContext
  upfIp : Octets 4
  myIp : Octets 4
  distinct : upfIp ≠ myIp

namespace Setup

variable (setup : Setup)

/-- The one subscriber. -/
def subscribers : Hss := Hss.new.provision testImsi setup.ctx.k setup.ctx.opc

/-- The GTP-U sockets. -/
def upfSocket : SocketAddr := ⟨setup.upfIp, gtpPort⟩

def enbSocket : SocketAddr := ⟨setup.myIp, gtpPort⟩

end Setup

/-! ## State -/

structure System (τ υ : Type) where
  node : S1u.Node τ υ
  mmeRunning : Bool
  linkUp : Bool
  /-- The two directions of the association. -/
  toMme : List (List UInt8)
  toEnb : List (List UInt8)
  ue : UeTask
  /-- The datagrams that have arrived at the socket of the eNodeB. -/
  gtpSock : List (List UInt8)
  traffic : Traffic

/-- One thing that can happen. -/
inductive Event where
  | start
  | send
  | mme (rand : Octets 16)
  | receive
  | transmit
  | transmitFails
  | deliver (k : Nat)
  | echo
  | encapsulate
  | takeDatagram
  | timeout
  /-- The association is lost; so much of what is under way has arrived. -/
  | cut (atMme atEnb : Nat)
  | mmeLinkEnds
  | mmeSendFails (rand : Octets 16)
  | linkEnds (ending : LinkEnding)
  | sendFails

namespace System

variable {τ υ : Type}

/-! ## The MME and the UPF -/

/-- Send the responses in order, up to the first that cannot be encoded; that one ends the task of
the MME. -/
def sendResponses : List S1apMessage → List (List UInt8) × Bool
  | [] => ([], true)
  | msg :: msgs =>
      match encodeS1apPdu msg with
      | some (.ok octets) => (octets :: (sendResponses msgs).1, (sendResponses msgs).2)
      | _ => ([], false)

section Mme

variable (K : RouteMaps τ υ) (P : Primitives) (s : System τ υ) (rand : Octets 16)

/-- The MME and the UPF take the next message that has arrived, which leaves its responses to be
sent. -/
def process : Option (List S1apMessage × System τ υ) :=
  match s.mmeRunning, s.toMme with
  | true, octets :: toMme =>
      let s := { s with toMme := toMme }
      match decodeS1apPdu octets with
      | .error _ => some ([], s)
      | .ok msg =>
          let (node, responses, _) := S1u.step K P s.node (.s1ap rand msg)
          some (responses, { s with node := node })
  | _, _ => none

/-- One round of the loop of the MME. -/
def onMme : Option (System τ υ) :=
  (s.process K P rand).map fun (responses, s) =>
    let (sent, running) := sendResponses responses
    { s with toEnb := Link.put s.linkUp s.toEnb sent, mmeRunning := running }

/-- The round in which the MME cannot send a response, which ends its task. -/
def onMmeUnsent : Option (System τ υ) :=
  (s.process K P rand).bind fun (responses, s) =>
    match s.linkUp, responses with
    | false, _ :: _ => some { s with mmeRunning := false }
    | _, _ => none

/-- The last round: whether the association is reported lost or closed, the task ends. -/
def onMmeLinkEnds : Option (System τ υ) :=
  match s.mmeRunning, s.linkUp, s.toMme with
  | true, false, [] => some { s with mmeRunning := false }
  | _, _, _ => none

end Mme

def echo (s : System τ υ) : Option (System τ υ) :=
  s.traffic.echo.map fun traffic => { s with traffic := traffic }

def encapsulate (setup : Setup) (s : System τ υ) : Option (System τ υ) :=
  (s.traffic.encapsulate s.node.2.routing setup.upfSocket).map fun traffic =>
    { s with traffic := traffic }

/-- The network hands one of the datagrams ever sent to the socket it is for. -/
def deliver (setup : Setup) (s : System τ υ) (k : Nat) : Option (System τ υ) :=
  match s.traffic.air[k]? with
  | none => none
  | some d =>
      if d.dst = setup.upfSocket then
        some { s with traffic := s.traffic.receive s.node.2.routing setup.upfSocket d }
      else if d.dst = setup.enbSocket then some { s with gtpSock := s.gtpSock ++ [d.octets] }
      else none

/-! ## The association -/

/-- What has not arrived when the association is lost never does. -/
def cut (s : System τ υ) (atMme atEnb : Nat) : Option (System τ υ) :=
  if s.linkUp then
    some { s with linkUp := false, toMme := s.toMme.take atMme, toEnb := s.toEnb.take atEnb }
  else none

/-! ## The UE -/

/-- The task puts the next of its messages on the association. -/
def send (s : System τ υ) : Option (System τ υ) :=
  match s.ue.outbox with
  | [] => none
  | octets :: outbox =>
      some { s with
        ue := { s.ue with outbox := outbox }
        toMme := Link.put s.linkUp s.toMme [octets] }

def sendFails (s : System τ υ) : Option (System τ υ) :=
  match s.linkUp, s.ue.outbox with
  | false, _ :: _ => some { s with ue := s.ue.cutOff .sendFailed }
  | _, _ => none

/-- Once everything is sent, the task goes on from where it stands. -/
def resume (s : System τ υ) (next : UeTask → Option (System τ υ)) : Option (System τ υ) :=
  match s.ue.outbox with
  | [] => next s.ue
  | _ :: _ => none

def startUe (s : System τ υ) : Option (System τ υ) :=
  s.resume fun u => if u.progress = .connecting then some { s with ue := start u } else none

def receive (P : Primitives) (setup : Setup) (s : System τ υ) : Option (System τ υ) :=
  s.resume fun u =>
    match u.progress, s.toEnb with
    | .receiving, octets :: toEnb =>
        some { s with ue := onMessage P setup.ctx setup.myIp u octets, toEnb := toEnb }
    | _, _ => none

/-- What has arrived is taken before the task is told that the association is gone. -/
def linkEnds (s : System τ υ) (ending : LinkEnding) : Option (System τ υ) :=
  s.resume fun u =>
    match s.linkUp, u.progress, s.toEnb with
    | false, .receiving, [] => some { s with ue := u.cutOff (.ofEnding ending) }
    | _, _, _ => none

def uplinkDatagram (setup : Setup) (bearer : Bearer) : Datagram :=
  ⟨setup.enbSocket, ⟨bearer.upfAddr, gtpPort⟩, uplinkGpdu bearer.ulTeid⟩

/-- One attempt to get an echo. -/
def transmit (setup : Setup) (s : System τ υ) : Option (System τ υ) :=
  s.resume fun u =>
    match u.progress with
    | .transmitting sent bearer =>
        some { s with
          ue := { u with progress := .awaitingEcho (sent + 1) bearer }
          traffic := s.traffic.send (uplinkDatagram setup bearer) }
    | _ => none

def transmitFails (s : System τ υ) : Option (System τ υ) :=
  s.resume fun u =>
    match u.progress with
    | .transmitting _ _ => some { s with ue := u.fail .gtpSocket }
    | _ => none

def takeDatagram (s : System τ υ) : Option (System τ υ) :=
  s.resume fun u =>
    match u.progress, s.gtpSock with
    | .awaitingEcho sent bearer, octets :: gtpSock =>
        some { s with ue := onDatagram u sent bearer octets, gtpSock := gtpSock }
    | _, _ => none

/-- Half a second without a datagram, or an error of the socket. -/
def timeOut (s : System τ υ) : Option (System τ υ) :=
  s.resume fun u =>
    match u.progress with
    | .awaitingEcho sent bearer => some { s with ue := retry u sent bearer }
    | _ => none

end System

/-! ## Runs -/

section Runs

variable {τ υ : Type} (K : RouteMaps τ υ) (P : Primitives) (setup : Setup)

/-- The node before the first message. -/
def node : S1u.Node τ υ :=
  ({ Mme.new (some setup.upfIp) with hss := setup.subscribers }, .new)

/-- Both processes when the association is established. -/
def init : System τ υ where
  node := node setup
  mmeRunning := true
  linkUp := true
  toMme := []
  toEnb := []
  ue := .new
  gtpSock := []
  traffic := .quiet

/-- The system after an event, if it is enabled. -/
def step? (s : System τ υ) : Event → Option (System τ υ)
  | .start => s.startUe
  | .send => s.send
  | .mme rand => s.onMme K P rand
  | .receive => s.receive P setup
  | .transmit => s.transmit setup
  | .transmitFails => s.transmitFails
  | .deliver k => s.deliver setup k
  | .echo => s.echo
  | .encapsulate => s.encapsulate setup
  | .takeDatagram => s.takeDatagram
  | .timeout => s.timeOut
  | .cut atMme atEnb => s.cut atMme atEnb
  | .mmeLinkEnds => s.onMmeLinkEnds
  | .mmeSendFails rand => s.onMmeUnsent K P rand
  | .linkEnds ending => s.linkEnds ending
  | .sendFails => s.sendFails

def step (s : System τ υ) (event : Event) : System τ υ := (step? K P setup s event).getD s

/-- The system after a schedule. -/
def after (schedule : List Event) : System τ υ :=
  Family.run (step K P setup) (init setup) schedule

end Runs

end Midn.Sim.Enb
