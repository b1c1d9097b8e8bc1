import Midn.Lib.Mealy
import Midn.Userplane.FailSafe
import Midn.Userplane.SessionManager

/-!
# Two paths for a packet

A user plane with both programs loaded carries a packet in the kernel where it can and leaves it to
the forwarder where it cannot. Over whole runs nobody outside can tell it from a user plane that
has the forwarder alone, as long as the host brings every frame to the forwarder as it is and no
frame meets a known defect of the programs.
-/

namespace Midn.Userplane

open Gtp GtpXdp

namespace TwoPaths

/-- A call of the core, or a frame on one of the two interfaces. -/
inductive Input where
  | core (op : SessionManager.Operation)
  | uplink (frame : List UInt8)
  | downlink (frame : List UInt8)

/-- What leaves the user plane: an inner packet to the packet network, or a datagram to a base
station. -/
inductive Sent where
  | nothing
  | toPdn (innerIp : List UInt8)
  | toRan (dst : SocketAddr) (datagram : List UInt8)
deriving DecidableEq

/-! ## The host -/

/-- What the host brings to the forwarder of a frame: a datagram that its socket receives, with the
address it comes from, and a packet that is injected for a UE. -/
structure Stack where
  recvFrom : List UInt8 → Option (List UInt8 × SocketAddr)
  inject : List UInt8 → Option DlPacket

/-- Where the outer UDP header of an IPv4 frame begins. -/
def udpStart (frame : List UInt8) : Nat :=
  ethHdrLen + (frame.getD ethHdrLen 0 &&& 0x0F).toNat * 4

/-- The frame carries something to the GTP-U port of a host. -/
def isForGtpPort (frame : List UInt8) : Bool :=
  match readU16Be frame ethEthertypeOff, readU8 frame (ethHdrLen + ipProtocolOff),
    readU16Be frame (udpStart frame + udpDstPortOff) with
  | .ok etherType, .ok protocol, .ok port =>
      etherType = ethPIp && protocol = ipprotoUdp && port = gtpPort
  | _, _, _ => false

/-- Of a frame for the GTP-U port the socket receives all that follows the UDP header: it is for
this host, neither a fragment nor padded, and nothing on the way drops it. -/
def Stack.Receives (stack : Stack) (frame : List UInt8) : Prop :=
  isForGtpPort frame = true → ∃ src, stack.recvFrom frame = some (udpPayload frame, src)

/-- Of an IPv4 frame the packet is injected, for the UE it is addressed to. -/
def Stack.Injects (stack : Stack) (frame : List UInt8) : Prop :=
  readU16Be frame ethEthertypeOff = .ok ethPIp →
    ∀ ueIp, GtpDlXdp.readIp4 frame (ethHdrLen + GtpDlXdp.ipDstOff) = .ok ueIp →
      stack.inject frame = some ⟨frame.drop ethHdrLen, ueIp⟩

section Paths

variable {τ υ : Type} (stack : Stack)

/-! ## The forwarder alone -/

/-- One round of the receive loop of the forwarder. -/
def forwardUplink (manager : SessionManager τ υ) (frame : List UInt8) : Sent :=
  match stack.recvFrom frame with
  | some (buf, src) =>
      match processUplink buf manager.routing src with
      | .forwardUl pkt => .toPdn pkt.innerIp
      | .echoRequest src teid => .toRan src (buildEchoResponse teid)
      | _ => .nothing
  | none => .nothing

/-- One round of the send loop. -/
def forwardDownlink (manager : SessionManager τ υ) (frame : List UInt8) : Sent :=
  match stack.inject frame with
  | some pkt =>
      match encapsulateDownlink pkt manager.routing with
      | some (datagram, dst) => .toRan dst datagram
      | none => .nothing
  | none => .nothing

variable (K : RouteMaps τ υ)

/-- A user plane without a program. -/
def forwarderStep (manager : SessionManager τ υ) : Input → SessionManager τ υ × Sent
  | .core op => (manager.apply K op, .nothing)
  | .uplink frame => (manager, forwardUplink stack manager frame)
  | .downlink frame => (manager, forwardDownlink stack manager frame)

/-! ## The programs before the forwarder -/

/-- A frame cut at the ends of its headers, without options. -/
def layersOf (frame : List UInt8) : GtpDlXdp.Layers where
  eth := frame.take ethHdrLen
  ip := (frame.drop ethHdrLen).take GtpDlXdp.ipOuterLen
  udp := (frame.drop (ethHdrLen + GtpDlXdp.ipOuterLen)).take udpHdrLen
  payload := frame.drop (ethHdrLen + GtpDlXdp.ipOuterLen + udpHdrLen)

/-- An IPv4 packet with a valid checksum, and a UDP datagram that fills it. -/
structure Whole (layers : GtpDlXdp.Layers) : Prop where
  ethType : GtpDlXdp.field layers.eth ethEthertypeOff 2 = ethPIp.toBeBytes.toList
  ipVersionIhl : GtpDlXdp.field layers.ip ipVersionIhlOff 1 = [0x45]
  ipTotalLength : Octets.beValue (GtpDlXdp.field layers.ip 2 2) =
    (layers.ip ++ layers.udp ++ layers.payload).length
  ipProtocol : GtpDlXdp.field layers.ip ipProtocolOff 1 = [ipprotoUdp]
  ipChecksum : OnesComplement.Verifies 65535 (OnesComplement.words layers.ip)
  udpLength : Octets.beValue (GtpDlXdp.field layers.udp 4 2) =
    (layers.udp ++ layers.payload).length

instance (layers : GtpDlXdp.Layers) : Decidable (Whole layers) :=
  decidable_of_iff (_ ∧ _ ∧ _ ∧ _ ∧ OnesComplement.sum 65535 (OnesComplement.words layers.ip) =
      65535 ∧ _) ⟨fun h => ⟨h.1, h.2.1, h.2.2.1, h.2.2.2.1, h.2.2.2.2.1, h.2.2.2.2.2⟩,
    fun h => ⟨h.ethType, h.ipVersionIhl, h.ipTotalLength, h.ipProtocol, h.ipChecksum, h.udpLength⟩⟩

/-- What the host that a frame is for receives of it. -/
def received (out : List UInt8) : Sent :=
  match GtpDlXdp.readIp4 out (ethHdrLen + GtpDlXdp.ipDstOff),
    readU16Be out (ethHdrLen + GtpDlXdp.ipOuterLen + udpDstPortOff) with
  | .ok ip, .ok port =>
      if Whole (layersOf out) then .toRan ⟨ip, port⟩ (layersOf out).payload else .nothing
  | _, _ => .nothing

/-- The helpers of the kernel, and the configurations that both programs have been given. -/
structure Kernel where
  adjustHead : List UInt8 → Int → Option (List UInt8)
  redirect : UInt32 → Bool
  pdnGw : PdnGwConfig
  dlTunnel : GtpDlXdp.DlTunnelConfig

variable (kernel : Kernel)

/-- The maps the uplink program finds. -/
def ulMaps (manager : SessionManager τ υ) : GtpXdp.Maps where
  teidToRoute := fun teid => manager.bpf.bind fun handle => handle.teidRoute K teid
  pdnGwConfig := some kernel.pdnGw

/-- The maps the downlink program finds. -/
def dlMaps (manager : SessionManager τ υ) : GtpDlXdp.Maps where
  ueIpToRoute := fun ueIp => manager.bpf.bind fun handle => handle.ueRoute K ueIp
  dlTunnelConfig := some kernel.dlTunnel

/-- A frame the program passes on reaches the forwarder. -/
def carryUplink (manager : SessionManager τ υ) (frame : List UInt8) : Sent :=
  match midnGtpXdp kernel.adjustHead (ulMaps K kernel manager) frame with
  | (.xdpTx, out) => .toPdn (out.drop ethHdrLen)
  | (.xdpPass, frame) => forwardUplink stack manager frame

def carryDownlink (manager : SessionManager τ υ) (frame : List UInt8) : Sent :=
  match GtpDlXdp.midnGtpDlXdp kernel.adjustHead kernel.redirect (dlMaps K kernel manager) frame with
  | (.xdpRedirect, out) => received out
  | (.xdpPass, frame) => forwardDownlink stack manager frame
  | (.xdpAborted, _) => .nothing

/-- A user plane with both programs. -/
def programsStep (manager : SessionManager τ υ) : Input → SessionManager τ υ × Sent
  | .core op => (manager.apply K op, .nothing)
  | .uplink frame => (manager, carryUplink stack K kernel manager frame)
  | .downlink frame => (manager, carryDownlink stack K kernel manager frame)

end Paths

/-! ## Uplink -/

theorem getD_of_readU8 {data : List UInt8} (offset : Nat) {b : UInt8}
    (hread : readU8 data offset = .ok b) : data.getD offset 0 = b := by
  obtain ⟨rest, hdrop⟩ := drop_of_readU8 hread
  have hhead := congrArg List.head? hdrop
  rw [List.head?_drop] at hhead
  rw [List.getD_eq_getElem?_getD]
  exact congrArg (Option.getD · 0) hhead

section Uplink

variable {maps : GtpXdp.Maps} {frame : List UInt8} {cfg : PdnGwConfig} {strip : Nat}

/-- A frame the program takes is one for the GTP-U port. -/
theorem isForGtpPort_of_classify (hclassify : classify maps frame = .ok (some (cfg, strip))) :
    isForGtpPort frame = true := by
  obtain ⟨htype, versionIhl, gtpFlags, teid, hihl, -, hprotocol, hport, -⟩ :=
    classify_eq_some_iff.mp hclassify
  have hstart : udpStart frame = ethHdrLen + (versionIhl &&& 0x0F).toNat * 4 := by
    rw [udpStart, getD_of_readU8 ethHdrLen hihl]
  rw [isForGtpPort, htype, hprotocol, hstart, hport]
  rfl

/-- The program looks up the TEID that the parser reads. -/
theorem isSome_teidToRoute_of_classify
    (hclassify : classify maps frame = .ok (some (cfg, strip))) {hdr : GtpuHeader}
    {rest : List UInt8} (hheader : GtpuHeader.parse (udpPayload frame) = some (hdr, rest)) :
    (maps.teidToRoute hdr.teid).isSome = true := by
  obtain ⟨-, versionIhl, gtpFlags, teid, hihl, -, -, -, -, -, hteid, hroute, -⟩ :=
    classify_eq_some_iff.mp hclassify
  have hstart : ethHdrLen + (versionIhl &&& 0x0F).toNat * 4 + udpHdrLen = gtpStart frame := by
    rw [gtpStart, getD_of_readU8 ethHdrLen hihl]
  obtain ⟨t0, t1, t2, t3, more, hdrop, rfl⟩ := drop_of_readU32Be hteid
  rw [hstart, ← List.drop_drop, ← udpPayload] at hdrop
  have hsame : hdr.teid = UInt32.fromBeBytes ⟨[t0, t1, t2, t3], rfl⟩ := by
    unfold GtpuHeader.parse at hheader
    split at hheader
    next hbytes =>
      rw [hbytes] at hdrop
      cases hheader
      cases hdrop
      rfl
    next => cases hheader
  rw [hsame]
  exact hroute

/-- What the program sends on it has cut out of the frame. -/
theorem process_of_midnGtpXdp {adjustHead : List UInt8 → Int → Option (List UInt8)}
    {out : List UInt8} (htx : midnGtpXdp adjustHead maps frame = (.xdpTx, out)) :
    process adjustHead maps frame = (.ok .xdpTx, out) := by
  unfold midnGtpXdp at htx
  split at htx
  next action out' hprocess =>
    cases htx
    exact hprocess
  next => cases htx

end Uplink

section Agreement

variable {τ υ : Type} {stack : Stack} {K : RouteMaps τ υ} {kernel : Kernel}
  {manager : SessionManager τ υ}

/-- The programs find the routes of the forwarder. -/
theorem teidToRoute_ulMaps (hmirrors : manager.KernelMirrors K) (teid : UInt32) :
    (ulMaps K kernel manager).teidToRoute teid =
      (manager.routing.ulMap teid).map SessionManager.xdpEntry := by
  obtain ⟨handle, hhandle, hul, -⟩ := hmirrors
  simp only [ulMaps, hhandle, Option.bind_some, hul]

theorem ueIpToRoute_dlMaps (hmirrors : manager.KernelMirrors K) (ueIp : Octets 4) :
    (dlMaps K kernel manager).ueIpToRoute ueIp =
      (manager.routing.dlMap ueIp).map SessionManager.xdpEntry := by
  obtain ⟨handle, hhandle, -, hdl⟩ := hmirrors
  simp only [dlMaps, hhandle, Option.bind_some, hdl]

/-- A frame that announces no extension header leaves the user plane alike on both paths. -/
theorem carryUplink_eq (hshift : ShiftsHead kernel.adjustHead)
    (hmirrors : manager.KernelMirrors K) {frame : List UInt8} (hreceives : stack.Receives frame)
    (hextension : NoExtension (udpPayload frame)) :
    carryUplink stack K kernel manager frame = forwardUplink stack manager frame := by
  rw [carryUplink]
  rcases midnGtpXdp_failSafe hshift (ulMaps K kernel manager) frame with hpass | hsent
  · rw [hpass]
  · obtain ⟨cfg, strip, hclassify, htx⟩ := hsent
    obtain ⟨hdr, rest, hheader, hgpdu, hflags, hrest, hlong, hinner⟩ :=
      inner_of_process hshift.drops (process_of_midnGtpXdp htx)
    have hknown := isSome_teidToRoute_of_classify hclassify hheader
    rw [teidToRoute_ulMaps hmirrors, Option.isSome_map] at hknown
    obtain ⟨route, hroute⟩ := Option.isSome_iff_exists.mp hknown
    have hparse := (parse_eq_drop_iff hheader hflags hrest hlong).mpr hextension
    obtain ⟨src, hrecv⟩ := hreceives (isForGtpPort_of_classify hclassify)
    have hforward := (processUplink_gpdu hheader hgpdu hroute src _).mpr hparse
    simp only [forwardUplink, hrecv, hforward, htx]
    exact congrArg Sent.toPdn hinner

/-! ## Downlink -/

theorem readIp4_of_drop {data rest : List UInt8} {offset : Nat} {ip : Octets 4}
    (hdrop : data.drop offset = ip.toList ++ rest) :
    GtpDlXdp.readIp4 data offset = .ok ip := by
  obtain ⟨a, b, c, d, hip⟩ := GtpDlXdp.exists_octets_four ip
  have hlength := congrArg List.length hdrop
  rw [List.length_drop, List.length_append, Octets.length_toList] at hlength
  rw [GtpDlXdp.readIp4, boundsCheck, if_neg (by omega), hdrop, hip]
  exact congrArg Except.ok (List.Vector.eq _ _ hip.symm)

theorem readU16Be_of_drop {data rest : List UInt8} {offset : Nat} {x : UInt16}
    (hdrop : data.drop offset = x.toBeBytes.toList ++ rest) : readU16Be data offset = .ok x := by
  obtain ⟨a, b, hx⟩ := GtpDlXdp.exists_octets_two x
  have hlength := congrArg List.length hdrop
  rw [List.length_drop, List.length_append, Octets.length_toList] at hlength
  have hbytes : (⟨[a, b], Octets.length_two a b⟩ : Octets 2) = x.toBeBytes :=
    List.Vector.eq _ _ hx.symm
  rw [readU16Be, boundsCheck, if_neg (by omega), hdrop, hx]
  exact congrArg Except.ok ((congrArg UInt16.fromBeBytes hbytes).trans
    (UInt16.fromBeBytes_toBeBytes x))

/-- A field of a header begins what follows its offset. -/
theorem drop_of_field {header value : List UInt8} {offset size : Nat}
    (hfield : GtpDlXdp.field header offset size = value) :
    header.drop offset = value ++ header.drop (offset + size) := by
  rw [← hfield, GtpDlXdp.field, ← List.drop_drop, List.take_append_drop]

/-- The layers of a frame that is made of them. -/
theorem layersOf_frame {layers : GtpDlXdp.Layers} (heth : layers.eth.length = ethHdrLen)
    (hip : layers.ip.length = GtpDlXdp.ipOuterLen) (hudp : layers.udp.length = udpHdrLen) :
    layersOf layers.frame = layers := by
  obtain ⟨eth, ip, udp, payload⟩ := layers
  have hframe : GtpDlXdp.Layers.frame ⟨eth, ip, udp, payload⟩ =
      eth ++ (ip ++ (udp ++ payload)) := by
    simp only [GtpDlXdp.Layers.frame, List.append_assoc]
  have hafterEth : (eth ++ (ip ++ (udp ++ payload))).drop ethHdrLen = ip ++ (udp ++ payload) :=
    List.drop_left' heth
  have hafterIp : (eth ++ (ip ++ (udp ++ payload))).drop (ethHdrLen + GtpDlXdp.ipOuterLen) =
      udp ++ payload := by
    rw [← List.drop_drop, hafterEth, List.drop_left' hip]
  have hafterUdp : (eth ++ (ip ++ (udp ++ payload))).drop
      (ethHdrLen + GtpDlXdp.ipOuterLen + udpHdrLen) = payload := by
    rw [← List.drop_drop, hafterIp, List.drop_left' hudp]
  rw [layersOf, hframe, hafterEth, hafterIp, hafterUdp, List.take_left' heth,
    List.take_left' hip, List.take_left' hudp]

theorem whole_of_tunnel {layers : GtpDlXdp.Layers} {route : XdpRouteEntry}
    {cfg : GtpDlXdp.DlTunnelConfig} {inner : List UInt8} (htunnel : layers.Tunnel route cfg inner) :
    Whole layers :=
  ⟨htunnel.ethType, htunnel.ipVersionIhl, htunnel.ipTotalLength, htunnel.ipProtocol,
    htunnel.ipChecksum, htunnel.udpLength⟩

/-- A base station receives the datagram of the forwarder. -/
theorem received_frame {layers : GtpDlXdp.Layers} {route : XdpRouteEntry}
    {cfg : GtpDlXdp.DlTunnelConfig} {inner : List UInt8} (htunnel : layers.Tunnel route cfg inner) :
    received layers.frame = .toRan ⟨route.enbIp, route.enbPort⟩ layers.payload := by
  have hlayers := layersOf_frame htunnel.ethLength htunnel.ipLength htunnel.udpHdrLength
  have hwhole := whole_of_tunnel htunnel
  obtain ⟨eth, ip, udp, payload⟩ := layers
  have heth : eth.length = ethHdrLen := htunnel.ethLength
  have hip : ip.length = GtpDlXdp.ipOuterLen := htunnel.ipLength
  have hudp : udp.length = udpHdrLen := htunnel.udpHdrLength
  have hheaders : ((eth ++ ip) ++ (udp ++ payload)) =
      GtpDlXdp.Layers.frame ⟨eth, ip, udp, payload⟩ := by
    simp only [GtpDlXdp.Layers.frame, List.append_assoc]
  have hboth : (eth ++ ip).length = ethHdrLen + GtpDlXdp.ipOuterLen := by
    rw [List.length_append, heth, hip]
  have hdst : (GtpDlXdp.Layers.frame ⟨eth, ip, udp, payload⟩).drop
      (ethHdrLen + GtpDlXdp.ipDstOff) =
        route.enbIp.toList ++ (ip.drop (GtpDlXdp.ipDstOff + 4) ++ (udp ++ payload)) := by
    have hfield := drop_of_field htunnel.ipDst
    rw [← hheaders, List.append_assoc, ← heth, List.drop_length_add_append,
      List.drop_append_of_le_length (by rw [hip]; decide), hfield, List.append_assoc]
  have hport : (GtpDlXdp.Layers.frame ⟨eth, ip, udp, payload⟩).drop
      (ethHdrLen + GtpDlXdp.ipOuterLen + udpDstPortOff) =
        route.enbPort.toBeBytes.toList ++ (udp.drop (udpDstPortOff + 2) ++ payload) := by
    have hfield := drop_of_field htunnel.udpDstPort
    rw [← hheaders, ← hboth, List.drop_length_add_append,
      List.drop_append_of_le_length (by rw [hudp]; decide), hfield, List.append_assoc]
  rw [received, readIp4_of_drop hdst, readU16Be_of_drop hport, hlayers]
  exact if_pos hwhole

/-- The routes of a table are for the GTP-U port. -/
def StandardPorts (manager : SessionManager τ υ) : Prop :=
  ∀ ueIp entry, manager.routing.dlMap ueIp = some entry → entry.enbPort = 2152

/-- A packet that leaves room for the outer headers leaves the user plane alike on both paths, as
long as the redirection succeeds. -/
theorem carryDownlink_eq (hgrow : GtpDlXdp.GrowsHead kernel.adjustHead)
    (hredirect : kernel.redirect kernel.dlTunnel.redirectIfindex = true)
    (hmirrors : manager.KernelMirrors K) (hports : StandardPorts manager) {frame : List UInt8}
    (hinjects : stack.Injects frame)
    (hroom : (frame.drop ethHdrLen).length ≤ GtpDlXdp.maxInnerLen) :
    carryDownlink stack K kernel manager frame = forwardDownlink stack manager frame := by
  have hdeliverable : GtpDlXdp.Deliverable kernel.adjustHead kernel.redirect
      (dlMaps K kernel manager) frame := by
    intro _ _ cfg _ _ _ _ hcfg _
    cases hcfg
    exact ⟨hroom, hredirect⟩
  have hsafe := (GtpDlXdp.midnGtpDlXdp_failSafe_iff hgrow _ frame).mpr hdeliverable
  rw [carryDownlink]
  rcases hsafe with hpass | ⟨route, cfg, layers, hclassify, htunnel, hsent⟩
  · rw [hpass]
  · obtain ⟨htype, ⟨dstIp, hdst, hroute⟩, -, -⟩ :=
      GtpDlXdp.classify_eq_some_iff.mp hclassify
    rw [ueIpToRoute_dlMaps hmirrors] at hroute
    obtain ⟨entry, hentry, rfl⟩ := Option.map_eq_some_iff.mp hroute
    have hdatagram := htunnel.datagram manager.routing dstIp entry hentry rfl rfl
      (hports dstIp entry hentry)
    simp only [hsent, forwardDownlink, hinjects htype dstIp hdst, hdatagram]
    exact received_frame htunnel

end Agreement

/-! ## Runs -/

section Runs

variable {τ υ : Type} {stack : Stack} {K : RouteMaps τ υ} {kernel : Kernel}

/-- The same sessions and routes, without the programs. -/
def withoutBpf (manager : SessionManager τ υ) : SessionManager τ υ := { manager with bpf := none }

/-- A core does not see whether the programs are loaded. -/
theorem apply_withoutBpf (manager : SessionManager τ υ) (op : SessionManager.Operation) :
    (withoutBpf manager).apply K op = withoutBpf (manager.apply K op) := by
  have hupdate : ∀ ulTeid dlTeid enbAddr,
      ((withoutBpf manager).updateBearerInfo K ulTeid dlTeid enbAddr).2 =
        withoutBpf (manager.updateBearerInfo K ulTeid dlTeid enbAddr).2 := by
    intro ulTeid dlTeid enbAddr
    have hsame : (withoutBpf manager).routing.ulMap ulTeid = manager.routing.ulMap ulTeid := rfl
    cases hcurrent : manager.routing.ulMap ulTeid with
    | none =>
        rw [SessionManager.updateBearerInfo_of_none hcurrent,
          SessionManager.updateBearerInfo_of_none (hsame.trans hcurrent)]
    | some current =>
        rw [SessionManager.updateBearerInfo_of_some hcurrent,
          SessionManager.updateBearerInfo_of_some (hsame.trans hcurrent)]
        rfl
  cases op with
  | createSessionWithTeid ulTeid entityId imsi ueIp enbAddr qci => rfl
  | updateBearerInfo ulTeid dlTeid enbAddr => exact hupdate ulTeid dlTeid enbAddr
  | updateDlTeid ulTeid dlTeid =>
      simp only [SessionManager.apply, SessionManager.updateDlTeid]
      have hrouting : (withoutBpf manager).routing = manager.routing := rfl
      rw [hrouting]
      split
      next enbAddr _ => exact hupdate ulTeid dlTeid enbAddr
      next => rfl
  | removeSession ulTeid => rfl

theorem standardPorts_install {manager manager' : SessionManager τ υ} {ulTeid : UInt32}
    (hports : StandardPorts manager) {ueIp : Octets 4} {dlTeid : UInt32} {enbAddr : Octets 4}
    {qci : UInt8}
    (hrouting : manager'.routing = manager.routing.install ulTeid (.new ueIp dlTeid enbAddr qci)) :
    StandardPorts manager' := by
  intro ueIp' entry hentry
  rw [hrouting, RoutingTable.install] at hentry
  rcases eq_or_ne ueIp' ueIp with rfl | hne
  · cases (Function.update_self ..).symm.trans hentry
    rfl
  · exact hports ueIp' entry ((Function.update_of_ne hne ..).symm.trans hentry)

theorem standardPorts_apply {manager : SessionManager τ υ} (hports : StandardPorts manager)
    (op : SessionManager.Operation) : StandardPorts (manager.apply K op) := by
  have hupdate : ∀ ulTeid dlTeid enbAddr,
      StandardPorts (manager.updateBearerInfo K ulTeid dlTeid enbAddr).2 := by
    intro ulTeid dlTeid enbAddr
    cases hcurrent : manager.routing.ulMap ulTeid with
    | none =>
        rw [SessionManager.updateBearerInfo_of_none hcurrent]
        exact hports
    | some current =>
        rw [SessionManager.updateBearerInfo_of_some hcurrent]
        exact standardPorts_install hports rfl
  cases op with
  | createSessionWithTeid ulTeid entityId imsi ueIp enbAddr qci =>
      exact standardPorts_install hports rfl
  | updateBearerInfo ulTeid dlTeid enbAddr => exact hupdate ulTeid dlTeid enbAddr
  | updateDlTeid ulTeid dlTeid =>
      exact SessionManager.updateDlTeid_of_updateBearerInfo hports (hupdate ulTeid dlTeid)
  | removeSession ulTeid =>
      intro ueIp entry hentry
      simp only [SessionManager.apply, SessionManager.removeSession, RoutingTable.remove] at hentry
      split at hentry
      next removed _ =>
        rcases eq_or_ne ueIp removed.ueIp with rfl | hne
        · cases (Function.update_self ..).symm.trans hentry
        · exact hports ueIp entry ((Function.update_of_ne hne ..).symm.trans hentry)
      next => exact hports ueIp entry hentry

variable (K) in
/-- A user plane with programs and its twin without them. -/
structure Twins (manager twin : SessionManager τ υ) : Prop where
  coherent : manager.Coherent
  mirrors : manager.KernelMirrors K
  ports : StandardPorts manager
  twin_eq : twin = withoutBpf manager

/-- An input that the host brings to the forwarder as it is and that meets no known defect of the
programs: a datagram that announces no extension header, and a packet that leaves room for the
outer headers. -/
def Input.Sound (stack : Stack) : Input → Prop
  | core _ => True
  | uplink frame => stack.Receives frame ∧ NoExtension (udpPayload frame)
  | downlink frame => stack.Injects frame ∧
      (frame.drop ethHdrLen).length ≤ GtpDlXdp.maxInnerLen

theorem Twins.step {manager twin : SessionManager τ υ} (htwins : Twins K manager twin)
    (hteid : K.teidToRoute.Reliable) (hueIp : K.ueIpToRoute.Reliable)
    (hshift : ShiftsHead kernel.adjustHead)
    (hredirect : kernel.redirect kernel.dlTunnel.redirectIfindex = true) {input : Input}
    (hsound : input.Sound stack) :
    (programsStep stack K kernel manager input).2 = (forwarderStep stack K twin input).2 ∧
      Twins K (programsStep stack K kernel manager input).1
        (forwarderStep stack K twin input).1 := by
  obtain ⟨hcoherent, hmirrors, hports, rfl⟩ := htwins
  cases input with
  | core op =>
      exact ⟨rfl, SessionManager.coherent_apply hcoherent op,
        SessionManager.kernelMirrors_apply hteid hueIp hcoherent hmirrors op,
        standardPorts_apply hports op, apply_withoutBpf manager op⟩
  | uplink frame =>
      exact ⟨carryUplink_eq hshift hmirrors hsound.1 hsound.2, hcoherent, hmirrors, hports, rfl⟩
  | downlink frame =>
      exact ⟨carryDownlink_eq hshift.grows hredirect hmirrors hports hsound.1 hsound.2, hcoherent,
        hmirrors, hports, rfl⟩

/-- Whatever a core does and whatever frames come in, nobody outside can tell a user plane with
both programs from one that has the forwarder alone. -/
theorem outputs_programsStep (stack : Stack) (K : RouteMaps τ υ) (hteid : K.teidToRoute.Reliable)
    (hueIp : K.ueIpToRoute.Reliable) (kernel : Kernel) (hshift : ShiftsHead kernel.adjustHead)
    (hredirect : kernel.redirect kernel.dlTunnel.redirectIfindex = true)
    (handle : BpfHandle τ υ) (hemptyTeid : ∀ ulTeid, handle.teidRoute K ulTeid = none)
    (hemptyUeIp : ∀ ueIp, handle.ueRoute K ueIp = none) (inputs : List Input)
    (hsound : ∀ input ∈ inputs, input.Sound stack) :
    (Mealy.run (programsStep stack K kernel) (SessionManager.new.setBpfHandle handle) inputs).map
        Mealy.Transition.output =
      (Mealy.run (forwarderStep stack K) SessionManager.new inputs).map
        Mealy.Transition.output := by
  have hnew : Twins K (SessionManager.new.setBpfHandle handle) SessionManager.new :=
    { coherent := fun _ => rfl
      mirrors := ⟨handle, rfl, funext hemptyTeid, funext hemptyUeIp⟩
      ports := nofun
      twin_eq := rfl }
  refine Mealy.outputs_run_eq (Twins K) (Input.Sound stack) ?_ hnew hsound
  intro manager twin input htwins hmet
  exact htwins.step hteid hueIp hshift hredirect hmet

/-- A kernel whose helpers succeed. -/
def testKernel : Kernel where
  adjustHead := kernelAdjustHead
  redirect := fun _ => true
  pdnGw := ⟨Octets.zeros 6, Octets.zeros 6⟩
  dlTunnel := ⟨Octets.zeros 6, Octets.zeros 6, Octets.zeros 4, 0⟩

/-- A host under the address of zeros, which receives whole datagrams for its GTP-U port only, and
injects IPv4 packets that fill their frames. -/
def testStack : Stack where
  recvFrom := fun frame =>
    match received frame, GtpDlXdp.readIp4 frame (ethHdrLen + 12),
      readU16Be frame (ethHdrLen + GtpDlXdp.ipOuterLen) with
    | .toRan dst buf, .ok srcIp, .ok srcPort =>
        if dst = ⟨Octets.zeros 4, gtpPort⟩ then some (buf, ⟨srcIp, srcPort⟩) else none
    | _, _, _ => none
  inject := fun frame =>
    match readU16Be frame ethEthertypeOff, readU16Be frame (ethHdrLen + 2),
      GtpDlXdp.readIp4 frame (ethHdrLen + GtpDlXdp.ipDstOff) with
    | .ok etherType, .ok totalLength, .ok ueIp =>
        if etherType = ethPIp ∧ totalLength.toNat = (frame.drop ethHdrLen).length then
          some ⟨frame.drop ethHdrLen, ueIp⟩
        else none
    | _, _, _ => none

/-- A GTP-U packet behind the headers of a datagram for the GTP-U port of that host. -/
def uplinkTestFrame : List UInt8 :=
  List.replicate 12 0 ++ [0x08, 0x00] ++
    [0x45, 0, 0, 40, 0, 0, 0, 0, 64, 17, 0x70, 0xBD, 10, 0, 0, 9, 0, 0, 0, 0] ++
    [0x08, 0x68, 0x08, 0x68, 0, 20, 0, 0] ++ plainGpdu

/-- An IPv4 packet without a payload, for the address of zeros. -/
def downlinkTestFrame : List UInt8 :=
  List.replicate 12 0 ++ [0x08, 0x00] ++
    [0x45, 0, 0, 20, 0, 0, 0, 0, 64, 253, 0x69, 0xDE, 8, 8, 8, 8, 0, 0, 0, 0]

/-- A bearer comes up, and each program sees a frame it can carry. -/
def testInputs : List Input :=
  [.core (.createSessionWithTeid 1 0 1 (Octets.zeros 4) (Octets.zeros 4) 9),
    .core (.updateBearerInfo 1 2 (Octets.zeros 4)), .uplink uplinkTestFrame,
    .downlink downlinkTestFrame]

theorem testInputs_sound : ∀ input ∈ testInputs, input.Sound testStack := by
  have hreceives : testStack.Receives uplinkTestFrame := by
    intro _
    exact ⟨⟨⟨[10, 0, 0, 9], rfl⟩, 2152⟩, by decide⟩
  have hinjects : testStack.Injects downlinkTestFrame := by
    intro _ ueIp hueIp
    cases hueIp
    decide
  simp only [testInputs, List.forall_mem_cons, Input.Sound, true_and]
  exact ⟨⟨hreceives, by decide⟩, ⟨hinjects, by decide⟩, List.forall_mem_nil _⟩

/-- Both frames leave the user plane. -/
example :
    (Mealy.run (forwarderStep testStack .unbounded) SessionManager.new testInputs).map
        Mealy.Transition.output =
      [.nothing, .nothing, .toPdn testInner,
        .toRan ⟨Octets.zeros 4, 2152⟩
          ([0x30, 0xFF, 0, 20, 0, 0, 0, 2] ++ downlinkTestFrame.drop ethHdrLen)] := by
  decide

theorem outputs_testInputs :
    (Mealy.run (programsStep testStack .unbounded testKernel)
        (SessionManager.new.setBpfHandle ⟨fun _ => none, fun _ => none⟩) testInputs).map
        Mealy.Transition.output =
      (Mealy.run (forwarderStep testStack .unbounded) SessionManager.new testInputs).map
        Mealy.Transition.output :=
  outputs_programsStep testStack .unbounded (BpfMap.unbounded_reliable _ _)
    (BpfMap.unbounded_reliable _ _) testKernel kernelAdjustHead_shiftsHead rfl
    ⟨fun _ => none, fun _ => none⟩ (fun _ => rfl) (fun _ => rfl) testInputs testInputs_sound

end Runs

end TwoPaths

end Midn.Userplane
