import Mathlib.Data.List.FinRange
import Midn.Sim.Gnb.Ue
import Midn.Lib.Family
import Midn.Sim.N3

/-!
# The simulator as one system

The process that plays AMF and UPF, and the process that plays a gNodeB with its logical UEs. They
share an association, which keeps the order of what is sent until it is lost, and a network that may
lose, delay, repeat and reorder datagrams. Tasks and channels make progress in any order, so a run
is any schedule of the events below; an event that is not enabled leaves the system as it is.
-/

namespace Midn.Sim.Gnb

open Midn.Core Midn.Core.Amf Ecs Gtp Ngap Userplane

/-! ## Setup -/

/-- What both processes are started with. Both bind the GTP-U port, each under an address of its
own, and no number given to a UE leaves its range. -/
structure Setup where
  nUes : Nat
  ctx : Auth.MilenageContext
  upfIp : Octets 4
  myIp : Octets 4
  distinct : upfIp ≠ myIp
  room : mockDlTeidBase.toNat + nUes ≤ 2 ^ 32

namespace Setup

variable (setup : Setup)

def ranUeNgapId (i : Fin setup.nUes) : UInt32 := ranUeNgapIdBase + UInt32.ofNat i

def dlTeid (i : Fin setup.nUes) : UInt32 := mockDlTeidBase + UInt32.ofNat i

def imsi (i : Fin setup.nUes) : UInt64 := testImsi + UInt64.ofNat i

def ueArgs (i : Fin setup.nUes) : UeArgs :=
  ⟨setup.ranUeNgapId i, setup.dlTeid i, setup.imsi i, setup.myIp⟩

/-- The channels of the UEs under the keys they are sorted out by, filled in order. -/
def routesBy {κ : Type} [DecidableEq κ] (key : Fin setup.nUes → κ) :
    κ → Option (Fin setup.nUes) :=
  Family.fill key some (List.finRange setup.nUes) fun _ => none

def ngapRoutes : UInt32 → Option (Fin setup.nUes) := setup.routesBy setup.ranUeNgapId

def dlRoutes : UInt32 → Option (Fin setup.nUes) := setup.routesBy setup.dlTeid

/-- One subscriber for each UE. -/
def subscribers : Hss :=
  (List.finRange setup.nUes).foldl
    (fun hss i => hss.provision (setup.imsi i) setup.ctx.k setup.ctx.opc) .new

/-- The GTP-U sockets. -/
def upfSocket : SocketAddr := ⟨setup.upfIp, gtpPort⟩

def gnbSocket : SocketAddr := ⟨setup.myIp, gtpPort⟩

/-! ### Numbers of the UEs -/

variable {setup} {i j : Fin setup.nUes}

theorem nUes_lt : setup.nUes < 2 ^ 32 := by
  have hroom := setup.room
  have hbase : mockDlTeidBase.toNat = 0xAABBCCDD := rfl
  omega

theorem ofNat_inj (hnumber : UInt32.ofNat i = UInt32.ofNat j) : i = j := by
  have hlt := setup.nUes_lt
  have hnat := congrArg UInt32.toNat hnumber
  rw [UInt32.toNat_ofNat', UInt32.toNat_ofNat', Nat.mod_eq_of_lt (i.isLt.trans hlt),
    Nat.mod_eq_of_lt (j.isLt.trans hlt)] at hnat
  exact Fin.ext hnat

theorem ranUeNgapId_injective : Function.Injective setup.ranUeNgapId :=
  fun _ _ hsame => ofNat_inj ((UInt32.add_right_inj _).mp hsame)

theorem toNat_imsi (i : Fin setup.nUes) : (setup.imsi i).toNat = testImsi.toNat + i.val := by
  have hlt := i.isLt.trans setup.nUes_lt
  have hbase : testImsi.toNat = 901700000001 := rfl
  rw [imsi, UInt64.toNat_add, UInt64.toNat_ofNat']
  omega

theorem imsi_injective : Function.Injective setup.imsi := by
  intro i j hsame
  have hnat := congrArg UInt64.toNat hsame
  rw [toNat_imsi, toNat_imsi] at hnat
  exact Fin.ext (Nat.add_left_cancel hnat)

theorem imsi_ne_zero (i : Fin setup.nUes) : setup.imsi i ≠ 0 := by
  intro hzero
  have hnat := congrArg UInt64.toNat hzero
  have hbase : testImsi.toNat = 901700000001 := rfl
  rw [toNat_imsi, UInt64.toNat_zero] at hnat
  omega

/-- Every IMSI fits into the MSIN of a SUCI. -/
theorem imsi_lt (i : Fin setup.nUes) : (setup.imsi i).toNat < 2 ^ 40 := by
  have hlt := i.isLt.trans setup.nUes_lt
  have hbase : testImsi.toNat = 901700000001 := rfl
  rw [toNat_imsi]
  omega

section Routes

variable {κ : Type} [DecidableEq κ] {key : Fin setup.nUes → κ}

/-- Every UE is found under a key of its own. -/
theorem routesBy_key (hinjective : Function.Injective key) (i : Fin setup.nUes) :
    setup.routesBy key (key i) = some i :=
  Family.fill_of_mem (List.mem_finRange i) (fun _ hkey => congrArg some (hinjective hkey)) _

end Routes

/-- Every UE has a fresh subscription. -/
theorem subscribers_imsi (i : Fin setup.nUes) :
    setup.subscribers.subscribers (setup.imsi i) = some ⟨setup.ctx, 0⟩ := by
  have hfill : ∀ (parties : List (Fin setup.nUes)) (hss : Hss),
      (parties.foldl (fun hss i => hss.provision (setup.imsi i) setup.ctx.k setup.ctx.opc)
        hss).subscribers =
      Family.fill setup.imsi (fun _ => some ⟨setup.ctx, 0⟩) parties hss.subscribers := by
    intro parties
    induction parties with
    | nil => exact fun _ => rfl
    | cons j parties ih => exact fun hss => ih _
  rw [subscribers, hfill]
  exact Family.fill_of_mem (List.mem_finRange i) (fun _ _ => rfl) _

end Setup

/-- Two UEs, and both processes on one host. -/
def twoUes : Setup where
  nUes := 2
  ctx := ⟨Octets.zeros 16, Octets.zeros 16⟩
  upfIp := loopback 1
  myIp := loopback 2
  distinct := loopback_one_ne_two
  room := by decide

/-! ## State -/

structure System (n : Nat) (τ υ : Type) where
  node : N3.Node τ υ
  amfRunning : Bool
  linkUp : Bool
  /-- The two directions of the association. -/
  toAmf : List (List UInt8)
  toGnb : List (List UInt8)
  /-- Whether the task of the dispatcher runs, which has the other ends of the channels below. -/
  dispatching : Bool
  ues : Fin n → UeTask
  /-- What the UEs have sent and the dispatcher has not. -/
  outQueue : List (List UInt8)
  /-- The outcome of the gNodeB once it has joined its tasks, with the first error of a UE. -/
  joined : Option (Option UeError)
  traffic : Traffic

def Progress.ended : Progress → Bool
  | .finished => true
  | .failed _ => true
  | _ => false

/-- A task has returned once it has nothing left to send. -/
def UeTask.ended (u : UeTask) : Bool := u.progress.ended && u.outbox.isEmpty

/-- One thing that can happen. -/
inductive Event (n : Nat) where
  | start (i : Fin n)
  | send (i : Fin n)
  | uplink
  | amf (rand : Octets 16)
  | downlink
  | receive (i : Fin n)
  | transmit (i : Fin n)
  | transmitFails (i : Fin n)
  | deliver (k : Nat)
  | echo
  | encapsulate
  | takeEcho (i : Fin n)
  | timeout (i : Fin n)
  | join
  /-- The association is lost; so much of what is under way has arrived. -/
  | cut (atAmf atGnb : Nat)
  | amfLinkEnds
  | amfSendFails (rand : Octets 16)
  | dispatcherEnds
  | channelCloses (i : Fin n)
  | sendFails (i : Fin n)

namespace System

variable {n : Nat} {τ υ : Type}

def setUe (s : System n τ υ) (i : Fin n) (u : UeTask) : System n τ υ :=
  { s with ues := Function.update s.ues i u }

section SetUe

variable (s : System n τ υ) (i : Fin n) (u : UeTask)

@[simp] theorem setUe_node : (s.setUe i u).node = s.node := rfl

@[simp] theorem setUe_toAmf : (s.setUe i u).toAmf = s.toAmf := rfl

@[simp] theorem setUe_toGnb : (s.setUe i u).toGnb = s.toGnb := rfl

@[simp] theorem setUe_outQueue : (s.setUe i u).outQueue = s.outQueue := rfl

@[simp] theorem setUe_ues_self : (s.setUe i u).ues i = u := Function.update_self ..

@[simp] theorem setUe_ues_of_ne {j : Fin n} (hne : j ≠ i) : (s.setUe i u).ues j = s.ues j :=
  Function.update_of_ne hne ..

end SetUe

/-! ## The AMF and the UPF -/

/-- Send the responses in order, up to the first that cannot be encoded; that one ends the task of
the AMF. -/
def sendResponses : List NgapMessage → List (List UInt8) × Bool
  | [] => ([], true)
  | msg :: msgs =>
      match encodeNgapPdu msg with
      | some (.ok octets) => (octets :: (sendResponses msgs).1, (sendResponses msgs).2)
      | _ => ([], false)

section Amf

variable (K : RouteMaps τ υ) (P : Primitives) (s : System n τ υ) (rand : Octets 16)

/-- The AMF and the UPF take the next message that has arrived, which leaves its responses to be
sent. -/
def process : Option (List NgapMessage × System n τ υ) :=
  match s.amfRunning, s.toAmf with
  | true, octets :: toAmf =>
      let s := { s with toAmf := toAmf }
      match decodeNgapPdu octets with
      | .error _ => some ([], s)
      | .ok msg =>
          let (node, responses, _) := N3.step K P s.node (.ngap rand msg)
          some (responses, { s with node := node })
  | _, _ => none

/-- One round of the loop of the AMF. -/
def onAmf : Option (System n τ υ) :=
  (s.process K P rand).map fun (responses, s) =>
    let (sent, running) := sendResponses responses
    { s with toGnb := Link.put s.linkUp s.toGnb sent, amfRunning := running }

/-- The round in which the AMF cannot send a response, which ends its task. -/
def onAmfUnsent : Option (System n τ υ) :=
  (s.process K P rand).bind fun (responses, s) =>
    match s.linkUp, responses with
    | false, _ :: _ => some { s with amfRunning := false }
    | _, _ => none

/-- The last round: whether the association is reported lost or closed, the task ends. -/
def onAmfLinkEnds : Option (System n τ υ) :=
  match s.amfRunning, s.linkUp, s.toAmf with
  | true, false, [] => some { s with amfRunning := false }
  | _, _, _ => none

end Amf

def echo (s : System n τ υ) : Option (System n τ υ) :=
  s.traffic.echo.map fun traffic => { s with traffic := traffic }

def encapsulate (setup : Setup) (s : System n τ υ) : Option (System n τ υ) :=
  (s.traffic.encapsulate s.node.2.routing setup.upfSocket).map fun traffic =>
    { s with traffic := traffic }

/-! ## The association -/

/-- What has not arrived when the association is lost never does. -/
def cut (s : System n τ υ) (atAmf atGnb : Nat) : Option (System n τ υ) :=
  if s.linkUp then
    some { s with linkUp := false, toAmf := s.toAmf.take atAmf, toGnb := s.toGnb.take atGnb }
  else none

/-! ## The gNodeB -/

/-- The dispatcher takes a message from the channel of the UEs and puts it on the association; that
it is not taken there is no reason to stop. -/
def dispatchUplink (s : System n τ υ) : Option (System n τ υ) :=
  match s.dispatching, s.outQueue with
  | true, octets :: outQueue =>
      some { s with outQueue := outQueue, toAmf := Link.put s.linkUp s.toAmf [octets] }
  | _, _ => none

/-- A message in the channel of a UE; the channel of a task that has ended is closed. -/
def handOver (s : System n τ υ) (i : Fin n) (msg : NgapMessage) : System n τ υ :=
  let u := s.ues i
  if u.ended then s else s.setUe i { u with ngapRx := u.ngapRx ++ [msg] }

/-- The dispatcher sorts out a message from the association by its RAN-side id. -/
def dispatchDownlink (routes : UInt32 → Option (Fin n)) (s : System n τ υ) :
    Option (System n τ υ) :=
  match s.dispatching, s.toGnb with
  | true, octets :: toGnb =>
      let s := { s with toGnb := toGnb }
      match decodeNgapPdu octets with
      | .error _ => some s
      | .ok msg =>
          match (ranUeNgapIdOf msg).bind routes with
          | none => some s
          | some i => some (s.handOver i msg)
  | _, _ => none

/-- Whether the association is reported lost or closed, the dispatcher returns, and the channels
between it and the UEs are closed. -/
def dispatcherEnds (s : System n τ υ) : Option (System n τ υ) :=
  match s.dispatching, s.linkUp, s.toGnb with
  | true, false, [] => some { s with dispatching := false }
  | _, _, _ => none

/-- Datagrams are sorted out by their downlink TEID. -/
def gtpDemux (routes : UInt32 → Option (Fin n)) (s : System n τ υ) (d : Datagram) :
    System n τ υ :=
  match GtpuHeader.parse (d.octets.take gtpBufferSize) with
  | none => s
  | some (hdr, dlPayload) =>
      match routes hdr.teid with
      | none => s
      | some i =>
          let u := s.ues i
          if u.ended then s else s.setUe i { u with gtpRx := u.gtpRx ++ [dlPayload] }

/-- The network hands one of the datagrams ever sent to the socket it is for. -/
def deliver (setup : Setup) (routes : UInt32 → Option (Fin n)) (s : System n τ υ) (k : Nat) :
    Option (System n τ υ) :=
  match s.traffic.air[k]? with
  | none => none
  | some d =>
      if d.dst = setup.upfSocket then
        some { s with traffic := s.traffic.receive s.node.2.routing setup.upfSocket d }
      else if d.dst = setup.gnbSocket then some (s.gtpDemux routes d)
      else none

/-- The first error in the order of the UEs. -/
def firstError (s : System n τ υ) : Option UeError :=
  (List.finRange n).findSome? fun i =>
    match (s.ues i).progress with
    | .failed error => some error
    | _ => none

/-- When all tasks have ended, the dispatcher is stopped. -/
def join (s : System n τ υ) : Option (System n τ υ) :=
  if s.joined = none ∧ ∀ i, (s.ues i).ended = true then
    some { s with joined := some s.firstError, dispatching := false }
  else none

/-! ## The tasks of the UEs -/

/-- A task puts the next of its messages into the channel that all share. -/
def send (s : System n τ υ) (i : Fin n) : Option (System n τ υ) :=
  match s.dispatching, (s.ues i).outbox with
  | true, octets :: outbox =>
      some { s.setUe i { s.ues i with outbox := outbox } with outQueue := s.outQueue ++ [octets] }
  | _, _ => none

def sendFails (s : System n τ υ) (i : Fin n) : Option (System n τ υ) :=
  match s.dispatching, (s.ues i).outbox with
  | false, _ :: _ => some (s.setUe i ((s.ues i).cutOff .dispatcherGone))
  | _, _ => none

/-- Once everything is sent, a task goes on from where it stands. -/
def resume (s : System n τ υ) (i : Fin n) (next : UeTask → Option UeTask) :
    Option (System n τ υ) :=
  match (s.ues i).outbox with
  | [] => (next (s.ues i)).map (s.setUe i)
  | _ :: _ => none

def startUe (setup : Setup) (s : System setup.nUes τ υ) (i : Fin setup.nUes) :
    Option (System setup.nUes τ υ) :=
  s.resume i fun u =>
    if u.progress = .spawned then some (start (setup.ueArgs i) u) else none

def receive (P : Primitives) (setup : Setup) (s : System setup.nUes τ υ) (i : Fin setup.nUes) :
    Option (System setup.nUes τ υ) :=
  s.resume i fun u =>
    match u.progress, u.ngapRx with
    | .receiving, msg :: ngapRx =>
        some (onMessage P setup.ctx (setup.ueArgs i) { u with ngapRx := ngapRx } msg)
    | _, _ => none

/-- What is in the channel is taken before the task is told that it is closed. -/
def channelCloses (s : System n τ υ) (i : Fin n) : Option (System n τ υ) :=
  s.resume i fun u =>
    match s.dispatching, u.progress, u.ngapRx with
    | false, .receiving, [] => some (u.cutOff .channelClosed)
    | _, _, _ => none

def uplinkDatagram (setup : Setup) (upfAddr : Octets 4) (ulTeid : UInt32) : Datagram :=
  ⟨setup.gnbSocket, ⟨upfAddr, gtpPort⟩, uplinkGpdu ulTeid⟩

/-- One attempt to get an echo. -/
def transmit (setup : Setup) (s : System n τ υ) (i : Fin n) : Option (System n τ υ) :=
  match (s.ues i).outbox, (s.ues i).progress with
  | [], .transmitting sent upfAddr ulTeid =>
      let d := uplinkDatagram setup upfAddr ulTeid
      let u := { s.ues i with progress := .awaitingEcho (sent + 1) upfAddr ulTeid }
      some { s.setUe i u with traffic := s.traffic.send d }
  | _, _ => none

def transmitFails (s : System n τ υ) (i : Fin n) : Option (System n τ υ) :=
  s.resume i fun u =>
    match u.progress with
    | .transmitting _ _ _ => some (u.fail .gtpSocket)
    | _ => none

def takeEcho (setup : Setup) (s : System setup.nUes τ υ) (i : Fin setup.nUes) :
    Option (System setup.nUes τ υ) :=
  s.resume i fun u =>
    match u.progress, u.gtpRx with
    | .awaitingEcho _ _ _, dlPayload :: gtpRx =>
        some (onEcho (setup.ueArgs i) { u with gtpRx := gtpRx } dlPayload)
    | _, _ => none

/-- Half a second without an echo: try again or give up. -/
def timeOut (s : System n τ υ) (i : Fin n) : Option (System n τ υ) :=
  s.resume i fun u =>
    match u.progress with
    | .awaitingEcho sent upfAddr ulTeid =>
        some (if sent < maxAttempts then { u with progress := .transmitting sent upfAddr ulTeid }
          else u.fail .noEcho)
    | _ => none

end System

/-! ## Runs -/

section Runs

variable {τ υ : Type} (K : RouteMaps τ υ) (P : Primitives) (setup : Setup)

/-- Both processes when the association is established. -/
def init : System setup.nUes τ υ where
  node := ({ Amf.new (some setup.upfIp) with hss := setup.subscribers }, .new)
  amfRunning := true
  linkUp := true
  toAmf := []
  toGnb := []
  dispatching := true
  ues := fun _ => .new
  outQueue := []
  joined := none
  traffic := .quiet

/-- The system after an event, if it is enabled. -/
def step? (s : System setup.nUes τ υ) : Event setup.nUes → Option (System setup.nUes τ υ)
  | .start i => s.startUe setup i
  | .send i => s.send i
  | .uplink => s.dispatchUplink
  | .amf rand => s.onAmf K P rand
  | .downlink => s.dispatchDownlink setup.ngapRoutes
  | .receive i => s.receive P setup i
  | .transmit i => s.transmit setup i
  | .transmitFails i => s.transmitFails i
  | .deliver k => s.deliver setup setup.dlRoutes k
  | .echo => s.echo
  | .encapsulate => s.encapsulate setup
  | .takeEcho i => s.takeEcho setup i
  | .timeout i => s.timeOut i
  | .join => s.join
  | .cut atAmf atGnb => s.cut atAmf atGnb
  | .amfLinkEnds => s.onAmfLinkEnds
  | .amfSendFails rand => s.onAmfUnsent K P rand
  | .dispatcherEnds => s.dispatcherEnds
  | .channelCloses i => s.channelCloses i
  | .sendFails i => s.sendFails i

def step (s : System setup.nUes τ υ) (event : Event setup.nUes) : System setup.nUes τ υ :=
  (step? K P setup s event).getD s

/-- The system after a schedule. -/
def after (schedule : List (Event setup.nUes)) : System setup.nUes τ υ :=
  Family.run (step K P setup) (init setup) schedule

end Runs

end Midn.Sim.Gnb
