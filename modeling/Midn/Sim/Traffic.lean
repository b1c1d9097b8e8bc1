import Midn.Proto.GtpExtension
import Midn.Userplane.Forwarder

/-!
# User data of the simulators

Both simulators test the user plane in the same way: a UE sends one payload through its tunnel, and
the UPF, which has no network behind it, sends every uplink packet back to where it came from. The
network in between may lose, delay, repeat and reorder datagrams. Whatever it does, the user data in
all datagrams and channels is that payload.
-/

namespace Midn.Sim

open Gtp Userplane

/-! ## Datagrams -/

/-- The GTP-U port, the same on both sides. -/
def gtpPort : UInt16 := 2152

/-- The user data that a UE sends and expects back. -/
def payload : List UInt8 := "real user data over a real GTP-U tunnel".toUTF8.toList

/-- The user data in a tunnel. -/
def uplinkGpdu (ulTeid : UInt32) : List UInt8 :=
  (GtpuHeader.newGpdu ulTeid (UInt16.ofNat payload.length)).toBytes ++ payload

/-- How often a UE sends it before it gives up. -/
def maxAttempts : Nat := 5

/-- The buffer for datagrams on the side of the UE. -/
def gtpBufferSize : Nat := 512

/-- An address on the own host. -/
def loopback (last : UInt8) : Octets 4 := ⟨[127, 0, 0, last], rfl⟩

theorem loopback_one_ne_two : loopback 1 ≠ loopback 2 := by decide

structure Datagram where
  src : SocketAddr
  dst : SocketAddr
  octets : List UInt8
deriving DecidableEq

theorem length_payload : payload.length = 39 := by decide +kernel

/-- A datagram fits into the buffer, and its payload is found there. -/
theorem parse_uplinkGpdu {teid : UInt32} :
    GtpuHeader.parse ((uplinkGpdu teid).take gtpBufferSize) =
      some (GtpuHeader.newGpdu teid (UInt16.ofNat payload.length), payload) := by
  have hfits : (uplinkGpdu teid).length ≤ gtpBufferSize := by
    simp only [uplinkGpdu, GtpuHeader.toBytes, List.length_append, length_payload,
      List.Vector.toList_length]
    show 2 + 2 + 4 + 39 ≤ 512
    decide
  rw [List.take_of_length_le hfits]
  exact GtpuHeader.parse_toBytes ..

/-- The UPF takes the payload out of a datagram if there is a route, and does nothing else. -/
theorem processUplink_uplinkGpdu (teid : UInt32) (routing : RoutingTable) (src : SocketAddr) :
    processUplink (uplinkGpdu teid) routing src =
      match routing.lookupUl teid with
      | some route => .forwardUl ⟨payload, route⟩
      | none => .unknownSession teid := by
  have hecho : GtpuHeader.msgGpdu ≠ GtpuHeader.msgEchoReq := by decide
  have hgpdu : (GtpuHeader.newGpdu teid (UInt16.ofNat payload.length)).isGpdu = true := rfl
  rw [processUplink, uplinkGpdu, parse_newGpdu]
  simp only [GtpuHeader.newGpdu, hecho, if_false] at hgpdu ⊢
  cases routing.lookupUl teid with
  | none => simp only [hgpdu, Bool.not_true, Bool.false_eq_true, if_false]
  | some route => simp only [hgpdu, Bool.not_true, Bool.false_eq_true, if_false]

/-! ## The UPF -/

/-- The channels of the UPF, and everything ever sent between the GTP-U sockets. -/
structure Traffic where
  ulChannel : List UlPacket
  dlChannel : List DlPacket
  air : List Datagram

namespace Traffic

def quiet : Traffic := ⟨[], [], []⟩

def send (t : Traffic) (d : Datagram) : Traffic := { t with air := t.air ++ [d] }

section Upf

variable (routing : RoutingTable) (upfSocket : SocketAddr)

/-- What the UPF does with a datagram. -/
def receive (t : Traffic) (d : Datagram) : Traffic :=
  match processUplink d.octets routing d.src with
  | .forwardUl pkt => { t with ulChannel := t.ulChannel ++ [pkt] }
  | .echoRequest src teid => t.send ⟨upfSocket, src, buildEchoResponse teid⟩
  | _ => t

/-- Every uplink packet goes back to the UE it came from. -/
def echo (t : Traffic) : Option Traffic :=
  match t.ulChannel with
  | [] => none
  | pkt :: ulChannel =>
      let back : DlPacket := ⟨pkt.innerIp, pkt.route.ueIp⟩
      some { t with ulChannel := ulChannel, dlChannel := t.dlChannel ++ [back] }

/-- A downlink packet without a route is dropped. -/
def encapsulate (t : Traffic) : Option Traffic :=
  match t.dlChannel with
  | [] => none
  | pkt :: dlChannel =>
      let t := { t with dlChannel := dlChannel }
      match encapsulateDownlink pkt routing with
      | none => some t
      | some (octets, dst) => some (t.send ⟨upfSocket, dst, octets⟩)

end Upf

/-! ## The payload -/

/-- All user data is the payload, and every datagram carries it. -/
structure Echoing (t : Traffic) : Prop where
  air : ∀ d ∈ t.air, ∃ teid, d.octets = uplinkGpdu teid
  ulChannel : ∀ pkt ∈ t.ulChannel, pkt.innerIp = payload
  dlChannel : ∀ pkt ∈ t.dlChannel, pkt.innerIp = payload

theorem echoing_quiet : quiet.Echoing :=
  ⟨List.forall_mem_nil _, List.forall_mem_nil _, List.forall_mem_nil _⟩

section Echoing

variable {t t' : Traffic} {d : Datagram} {routing : RoutingTable} {upfSocket : SocketAddr}

theorem Echoing.send (hechoing : t.Echoing) (teid : UInt32) (hoctets : d.octets = uplinkGpdu teid) :
    (t.send d).Echoing :=
  ⟨List.forall_mem_append.mpr ⟨hechoing.air, List.forall_mem_singleton.mpr ⟨teid, hoctets⟩⟩,
    hechoing.ulChannel, hechoing.dlChannel⟩

/-- The UPF forwards a payload or nothing, and answers nothing itself. -/
theorem Echoing.receive (hechoing : t.Echoing) {teid : UInt32}
    (hoctets : d.octets = uplinkGpdu teid) :
    (t.receive routing upfSocket d).Echoing ∧ (t.receive routing upfSocket d).air = t.air := by
  rw [Traffic.receive, hoctets, processUplink_uplinkGpdu]
  cases routing.lookupUl teid with
  | none => exact ⟨hechoing, rfl⟩
  | some route =>
      exact ⟨⟨hechoing.air, List.forall_mem_append.mpr
        ⟨hechoing.ulChannel, List.forall_mem_singleton.mpr rfl⟩, hechoing.dlChannel⟩, rfl⟩

theorem Echoing.echo (hechoing : t.Echoing) (hecho : t.echo = some t') :
    t'.Echoing ∧ t'.air = t.air := by
  rw [Traffic.echo] at hecho
  split at hecho
  · cases hecho
  next pkt ulChannel hchannel =>
    cases hecho
    obtain ⟨hfirst, hrest⟩ := List.forall_mem_cons.mp (hchannel ▸ hechoing.ulChannel)
    exact ⟨⟨hechoing.air, hrest, List.forall_mem_append.mpr
      ⟨hechoing.dlChannel, List.forall_mem_singleton.mpr hfirst⟩⟩, rfl⟩

theorem Echoing.encapsulate (hechoing : t.Echoing)
    (hencapsulate : t.encapsulate routing upfSocket = some t') :
    t'.Echoing ∧ t.air ⊆ t'.air := by
  rw [Traffic.encapsulate] at hencapsulate
  split at hencapsulate
  · cases hencapsulate
  next pkt dlChannel hchannel =>
    obtain ⟨hfirst, hrest⟩ := List.forall_mem_cons.mp (hchannel ▸ hechoing.dlChannel)
    have hdropped : Echoing { t with dlChannel := dlChannel } :=
      ⟨hechoing.air, hechoing.ulChannel, hrest⟩
    cases hroute : routing.lookupDl pkt.ueIp with
    | none =>
        rw [encapsulateDownlink, hroute] at hencapsulate
        cases hencapsulate
        exact ⟨hdropped, List.Subset.refl _⟩
    | some route =>
        simp only [encapsulateDownlink_of_some hroute, Option.some.injEq] at hencapsulate
        subst hencapsulate
        refine ⟨hdropped.send route.dlTeid ?_, List.subset_append_left ..⟩
        rw [hfirst]
        rfl

/-- What the UPF adds to the air comes from its own socket. -/
theorem exists_air_encapsulate (hencapsulate : t.encapsulate routing upfSocket = some t') :
    ∃ more, t'.air = t.air ++ more ∧ ∀ d ∈ more, d.src = upfSocket := by
  rw [Traffic.encapsulate] at hencapsulate
  split at hencapsulate
  · cases hencapsulate
  next pkt dlChannel hchannel =>
    cases hroute : routing.lookupDl pkt.ueIp with
    | none =>
        rw [encapsulateDownlink, hroute] at hencapsulate
        cases hencapsulate
        exact ⟨[], (List.append_nil _).symm, List.forall_mem_nil _⟩
    | some route =>
        simp only [encapsulateDownlink_of_some hroute, Option.some.injEq] at hencapsulate
        subst hencapsulate
        exact ⟨[_], rfl, List.forall_mem_singleton.mpr rfl⟩

end Echoing

/-! ## An echo -/

section Echo

variable {t : Traffic} {routing : RoutingTable} {upfSocket : SocketAddr}

end Echo

end Traffic

end Midn.Sim
