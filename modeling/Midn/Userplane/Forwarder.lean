import Midn.Proto.Gtp
import Midn.Userplane.Routing

/-!
# GTP-U forwarder

The userspace paths: uplink on one received datagram, downlink on one packet for a UE.
-/

namespace Midn.Userplane

open Gtp

/-- An IPv4 socket address. -/
structure SocketAddr where
  ip : Octets 4
  port : UInt16
deriving DecidableEq

/-- A decapsulated uplink packet with the route of its subscriber. -/
structure UlPacket where
  innerIp : List UInt8
  route : RouteEntry
deriving DecidableEq

/-- A downlink packet with the address of its UE. -/
structure DlPacket where
  innerIp : List UInt8
  ueIp : Octets 4
deriving DecidableEq

/-- What to do with one datagram. -/
inductive ForwardAction where
  | forwardUl (pkt : UlPacket)
  | echoRequest (src : SocketAddr) (teid : UInt32)
  | controlMessage (msgType : UInt8)
  | discard
  | unknownSession (teid : UInt32)
deriving DecidableEq

/-- Classify a datagram; a G-PDU of a known session is forwarded without its tunnel headers. -/
def processUplink (buf : List UInt8) (routing : RoutingTable) (src : SocketAddr) :
    ForwardAction :=
  match GtpuParser.parse buf with
  | none => .discard
  | some pkt =>
      if pkt.header.msgType = GtpuHeader.msgEchoReq then .echoRequest src pkt.header.teid
      else if !pkt.header.isGpdu then .controlMessage pkt.header.msgType
      else
        match routing.lookupUl pkt.header.teid with
        | some route => .forwardUl ⟨pkt.payload, route⟩
        | none => .unknownSession pkt.header.teid

/-- The datagram of a G-PDU of a known session is forwarded exactly as the parser opens it. -/
theorem processUplink_gpdu {buf : List UInt8} {hdr : GtpuHeader} {rest : List UInt8}
    (hheader : GtpuHeader.parse buf = some (hdr, rest)) (hgpdu : hdr.msgType = GtpuHeader.msgGpdu)
    {routing : RoutingTable} {route : RouteEntry} (hroute : routing.lookupUl hdr.teid = some route)
    (src : SocketAddr) (innerIp : List UInt8) :
    processUplink buf routing src = .forwardUl ⟨innerIp, route⟩ ↔
      GtpuParser.parse buf = some ⟨hdr, innerIp⟩ := by
  have hecho : GtpuHeader.msgGpdu ≠ GtpuHeader.msgEchoReq := by decide
  have hforward : ∀ payload, GtpuParser.parse buf = some ⟨hdr, payload⟩ →
      processUplink buf routing src = .forwardUl ⟨payload, route⟩ := by
    intro payload hparse
    simp [processUplink, hparse, GtpuHeader.isGpdu, hgpdu, hecho, hroute]
  constructor
  · intro haction
    cases hparse : GtpuParser.parse buf with
    | none => simp [processUplink, hparse] at haction
    | some pkt =>
        have hkeep : pkt.header = hdr := by
          simp only [GtpuParser.parse, hheader] at hparse
          obtain ⟨payload, -, rfl⟩ := Option.map_eq_some_iff.mp hparse
          rfl
        obtain ⟨header, payload⟩ := pkt
        subst hkeep
        rw [hforward payload hparse] at haction
        cases haction
        rfl
  · exact hforward innerIp

/-- The datagram that tunnels a downlink packet and the address it is sent to, if there is a
route. -/
def encapsulateDownlink (pkt : DlPacket) (routing : RoutingTable) :
    Option (List UInt8 × SocketAddr) := do
  let route ← routing.lookupDl pkt.ueIp
  let hdr := GtpuHeader.newGpdu route.dlTeid (UInt16.ofNat pkt.innerIp.length)
  return (hdr.toBytes ++ pkt.innerIp, ⟨route.enbAddr, route.enbPort⟩)

/-- An echo response with the optional fields, all zero. -/
def buildEchoResponse (teid : UInt32) : List UInt8 :=
  [0x22, GtpuHeader.msgEchoRsp, 0x00, 0x04] ++ teid.toBeBytes.toList ++ [0, 0, 0, 0]

theorem encapsulateDownlink_of_some {pkt : DlPacket} {routing : RoutingTable} {route : RouteEntry}
    (hroute : routing.lookupDl pkt.ueIp = some route) :
    encapsulateDownlink pkt routing =
      some ((GtpuHeader.newGpdu route.dlTeid (UInt16.ofNat pkt.innerIp.length)).toBytes ++
        pkt.innerIp, ⟨route.enbAddr, route.enbPort⟩) := by
  rw [encapsulateDownlink, hroute]
  rfl

end Midn.Userplane
