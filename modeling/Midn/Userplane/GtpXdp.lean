import Midn.Proto.Error
import Midn.Userplane.Forwarder

/-!
# GTP-U XDP fast path

The uplink XDP program on one Ethernet frame, and its agreement with the userspace path. The
program measures the tunnel headers on its own; it counts the optional fields of the GTP-U header
but not the extension headers they announce.
-/

namespace Midn.Userplane

open Gtp

namespace GtpXdp

/-! ## Constants -/

def ethPIp : UInt16 := 0x0800
def ipprotoUdp : UInt8 := 17
def gtpPort : UInt16 := 2152
def gtpMsgGpdu : UInt8 := 0xFF

def ethEthertypeOff : Nat := 12
def ethHdrLen : Nat := 14
def ipVersionIhlOff : Nat := 0
def ipProtocolOff : Nat := 9
def ipv4MinHdrLen : Nat := 20
def udpDstPortOff : Nat := 2
def udpHdrLen : Nat := 8
def gtpFlagsOff : Nat := 0
def gtpMsgtypeOff : Nat := 1
def gtpTeidOff : Nat := 4
def gtpMandatoryLen : Nat := 8

/-- Any of the low three flags announces four optional bytes. -/
def gtpOptFlagsMask : UInt8 := 0x07

/-! ## Maps -/

structure XdpRouteEntry where
  dlTeid : UInt32
  enbIp : Octets 4
  enbPort : UInt16
deriving DecidableEq

/-- MAC addresses for the rewritten Ethernet header. -/
structure PdnGwConfig where
  gwMac : Octets 6
  nicMac : Octets 6
deriving DecidableEq

/-- The contents of the BPF maps the program reads. -/
structure Maps where
  teidToRoute : UInt32 → Option XdpRouteEntry
  pdnGwConfig : Option PdnGwConfig

inductive XdpAction where
  | xdpPass
  | xdpTx
deriving DecidableEq, Repr

/-! ## Packet readers -/

/-- The packet from an offset on, if it has the given number of bytes there. -/
def boundsCheck (data : List UInt8) (offset size : Nat) : Except Unit (List UInt8) :=
  if data.length < offset + size then .error () else .ok (data.drop offset)

def readU8 (data : List UInt8) (offset : Nat) : Except Unit UInt8 :=
  match boundsCheck data offset 1 with
  | .ok (b :: _) => .ok b
  | _ => .error ()

def readU16Be (data : List UInt8) (offset : Nat) : Except Unit UInt16 :=
  match boundsCheck data offset 2 with
  | .ok (a :: b :: _) => .ok (UInt16.fromBeBytes ⟨[a, b], Octets.length_two a b⟩)
  | _ => .error ()

def readU32Be (data : List UInt8) (offset : Nat) : Except Unit UInt32 :=
  match boundsCheck data offset 4 with
  | .ok (a :: b :: c :: d :: _) =>
      .ok (UInt32.fromBeBytes ⟨[a, b, c, d], Octets.length_four a b c d⟩)
  | _ => .error ()

/-! ## The program -/

/-- The GTP-U header length: the mandatory bytes, and four more under any of the optional flags. -/
def gtpTotal (gtpFlags : UInt8) : Nat :=
  gtpMandatoryLen + if gtpFlags &&& gtpOptFlagsMask ≠ 0 then 4 else 0

/-- Steps 1 to 6 and the length to strip: nothing for a frame that is passed on, else the gateway
configuration and the number of bytes to drop so that 14 are left before the inner packet. -/
def classify (maps : Maps) (data : List UInt8) : Except Unit (Option (PdnGwConfig × Nat)) := do
  -- step 1: Ethernet, require IPv4
  let etherType ← readU16Be data ethEthertypeOff
  if etherType ≠ ethPIp then return none
  -- step 2: IPv4, require UDP
  let ipStart := ethHdrLen
  let versionIhl ← readU8 data (ipStart + ipVersionIhlOff)
  let ihl := (versionIhl &&& 0x0F).toNat * 4
  if ihl < ipv4MinHdrLen then return none
  let protocol ← readU8 data (ipStart + ipProtocolOff)
  if protocol ≠ ipprotoUdp then return none
  -- step 3: UDP, require the GTP-U port
  let udpStart := ipStart + ihl
  let dstPort ← readU16Be data (udpStart + udpDstPortOff)
  if dstPort ≠ gtpPort then return none
  -- step 4: the mandatory GTP-U header
  let gtpStart := udpStart + udpHdrLen
  let gtpFlags ← readU8 data (gtpStart + gtpFlagsOff)
  let msgType ← readU8 data (gtpStart + gtpMsgtypeOff)
  let teid ← readU32Be data (gtpStart + gtpTeidOff)
  -- step 5: require a G-PDU
  if msgType ≠ gtpMsgGpdu then return none
  -- step 6: require a known session, and a configured gateway
  match maps.teidToRoute teid, maps.pdnGwConfig with
  | some _, some cfg =>
      let outerLen := ethHdrLen + ihl + udpHdrLen + gtpTotal gtpFlags
      return some (cfg, outerLen - ethHdrLen)
  | _, _ => return none

/-- Overwrite the first 14 bytes with a header towards the gateway. -/
def writeEthernet (cfg : PdnGwConfig) (data : List UInt8) : List UInt8 :=
  cfg.gwMac.toList ++ cfg.nicMac.toList ++ [0x08, 0x00] ++ data.drop ethHdrLen

theorem drop_writeEthernet (cfg : PdnGwConfig) (data : List UInt8) :
    (writeEthernet cfg data).drop ethHdrLen = data.drop ethHdrLen := by
  apply List.drop_left'
  simp only [List.length_append, Octets.length_toList, List.length_cons, List.length_nil,
    ethHdrLen]

variable (adjustHead : List UInt8 → Int → Option (List UInt8))

/-- Process one frame; the helper that moves the start of the packet is the kernel's. -/
def process (maps : Maps) (data : List UInt8) : Except Unit XdpAction × List UInt8 :=
  match classify maps data with
  | .error () => (.error (), data)
  | .ok none => (.ok .xdpPass, data)
  | .ok (some (cfg, strip)) =>
      match adjustHead data strip with
      | none => (.ok .xdpPass, data)
      | some data =>
          if data.length < ethHdrLen then (.ok .xdpPass, data)
          else (.ok .xdpTx, writeEthernet cfg data)

/-- A positive adjustment that succeeds drops exactly that many bytes. -/
def DropsHead : Prop :=
  ∀ (data : List UInt8) (n : Nat) (rest : List UInt8),
    adjustHead data n = some rest → rest = data.drop n

/-! ## Views of a frame -/

/-- Where the outer UDP header of an IPv4 frame ends. -/
def gtpStart (frame : List UInt8) : Nat :=
  ethHdrLen + (frame.getD ethHdrLen 0 &&& 0x0F).toNat * 4 + udpHdrLen

/-- The bytes after the outer UDP header. -/
def udpPayload (frame : List UInt8) : List UInt8 := frame.drop (gtpStart frame)

/-- The TEID of the GTP-U header. -/
def frameTeid (frame : List UInt8) : Option UInt32 :=
  (GtpuHeader.parse (udpPayload frame)).map fun (hdr, _) => hdr.teid

/-- The GTP-U header has no optional fields, or they announce no extension header. -/
def NoExtension (payload : List UInt8) : Prop :=
  payload.getD 0 0 &&& gtpOptFlagsMask = 0 ∨ payload.getD 11 0 = 0

instance (payload : List UInt8) : Decidable (NoExtension payload) :=
  inferInstanceAs (Decidable (_ ∨ _))

/-! ## Agreement with the userspace path -/

theorem boundsCheck_eq_ok {data window : List UInt8} {offset size : Nat}
    (hcheck : boundsCheck data offset size = .ok window) : window = data.drop offset := by
  unfold boundsCheck at hcheck
  split at hcheck
  · cases hcheck
  · exact (Except.ok.inj hcheck).symm

theorem drop_of_readU8 {data : List UInt8} {offset : Nat} {b : UInt8}
    (hread : readU8 data offset = .ok b) : ∃ rest, data.drop offset = b :: rest := by
  unfold readU8 at hread
  split at hread
  next c rest hcheck =>
    cases hread
    exact ⟨rest, (boundsCheck_eq_ok hcheck).symm⟩
  next => cases hread

theorem drop_of_readU32Be {data : List UInt8} {offset : Nat} {w : UInt32}
    (hread : readU32Be data offset = .ok w) :
    ∃ a b c d rest, data.drop offset = a :: b :: c :: d :: rest ∧
      w = UInt32.fromBeBytes ⟨[a, b, c, d], rfl⟩ := by
  unfold readU32Be at hread
  split at hread
  next a b c d rest hcheck =>
    cases hread
    exact ⟨a, b, c, d, rest, (boundsCheck_eq_ok hcheck).symm, rfl⟩
  next => cases hread

theorem guard_eq_some_iff {α : Type} {c : Prop} [Decidable c] {rest : Except Unit (Option α)}
    {r : α} : (if c then pure none else rest) = .ok (some r) ↔ ¬ c ∧ rest = .ok (some r) := by
  by_cases hc : c
  · rw [if_pos hc]
    exact iff_of_false (fun hguard => by cases hguard) fun hguard => hguard.1 hc
  · rw [if_neg hc]
    exact (and_iff_right hc).symm

/-- A frame reaches the rewrite exactly if it is a G-PDU to the GTP-U port, of a known session, and
a gateway is configured. -/
theorem classify_eq_some_iff {maps : Maps} {data : List UInt8} {cfg : PdnGwConfig} {strip : Nat} :
    classify maps data = .ok (some (cfg, strip)) ↔
      readU16Be data ethEthertypeOff = .ok ethPIp ∧
      ∃ versionIhl gtpFlags teid,
        let ihl := (versionIhl &&& 0x0F).toNat * 4
        let gtpStart := ethHdrLen + ihl + udpHdrLen
        readU8 data (ethHdrLen + ipVersionIhlOff) = .ok versionIhl ∧ ipv4MinHdrLen ≤ ihl ∧
        readU8 data (ethHdrLen + ipProtocolOff) = .ok ipprotoUdp ∧
        readU16Be data (ethHdrLen + ihl + udpDstPortOff) = .ok gtpPort ∧
        readU8 data (gtpStart + gtpFlagsOff) = .ok gtpFlags ∧
        readU8 data (gtpStart + gtpMsgtypeOff) = .ok gtpMsgGpdu ∧
        readU32Be data (gtpStart + gtpTeidOff) = .ok teid ∧
        (maps.teidToRoute teid).isSome = true ∧
        maps.pdnGwConfig = some cfg ∧ strip + ethHdrLen = gtpStart + gtpTotal gtpFlags := by
  have hlast : ∀ (teid : UInt32) (n : Nat),
      (match maps.teidToRoute teid, maps.pdnGwConfig with
        | some _, some cfg => (pure (some (cfg, n)) : Except Unit (Option (PdnGwConfig × Nat)))
        | _, _ => pure none) = .ok (some (cfg, strip)) ↔
        (maps.teidToRoute teid).isSome = true ∧ maps.pdnGwConfig = some cfg ∧ n = strip := by
    intro teid n
    cases maps.teidToRoute teid <;> cases maps.pdnGwConfig <;> simp [pure, Except.pure]
  simp only [classify, bind_eq_ok_iff, guard_eq_some_iff, hlast, ne_eq, not_not, not_lt]
  constructor
  · rintro ⟨_, htype, rfl, versionIhl, hihl, hmin, _, hprotocol, rfl, _, hport, rfl, gtpFlags,
      hflags, _, hgpdu, teid, hteid, rfl, hroute, hcfg, hstrip⟩
    refine ⟨htype, versionIhl, gtpFlags, teid, hihl, hmin, hprotocol, hport, hflags, hgpdu, hteid,
      hroute, hcfg, ?_⟩
    omega
  · rintro ⟨htype, versionIhl, gtpFlags, teid, hihl, hmin, hprotocol, hport, hflags, hgpdu, hteid,
      hroute, hcfg, hstrip⟩
    refine ⟨_, htype, rfl, versionIhl, hihl, hmin, _, hprotocol, rfl, _, hport, rfl, gtpFlags,
      hflags, _, hgpdu, teid, hteid, rfl, hroute, hcfg, ?_⟩
    omega

/-- A frame that reaches the rewrite carries a G-PDU of a known session behind its UDP header, and
is stripped up to the end of the fixed GTP-U fields. -/
theorem parse_of_classify {maps : Maps} {data : List UInt8} {cfg : PdnGwConfig} {strip : Nat}
    (hclassify : classify maps data = .ok (some (cfg, strip))) :
    ∃ hdr rest, GtpuHeader.parse (udpPayload data) = some (hdr, rest) ∧
      hdr.msgType = GtpuHeader.msgGpdu ∧ hdr.flags = (udpPayload data).getD 0 0 ∧
      rest = (udpPayload data).drop gtpMandatoryLen ∧
      strip + ethHdrLen = gtpStart data + gtpTotal hdr.flags := by
  obtain ⟨-, versionIhl, gtpFlags, teid, hihl, -, -, -, hflags, hmsgType, hteid, -, -, hstrip⟩ :=
    classify_eq_some_iff.mp hclassify
  obtain ⟨tail, hdropIhl⟩ := drop_of_readU8 hihl
  have hoctet : data.getD ethHdrLen 0 = versionIhl := by
    have hhead := congrArg List.head? hdropIhl
    rw [List.head?_drop] at hhead
    rw [List.getD_eq_getElem?_getD]
    exact congrArg (Option.getD · 0) hhead
  have hstart : ethHdrLen + (versionIhl &&& 0x0F).toNat * 4 + udpHdrLen = gtpStart data := by
    rw [gtpStart, hoctet]
  -- the reads see one stretch of bytes
  obtain ⟨tail0, hdrop0⟩ := drop_of_readU8 hflags
  obtain ⟨tail1, hdrop1⟩ := drop_of_readU8 hmsgType
  obtain ⟨t0, t1, t2, t3, rest, hdrop4, -⟩ := drop_of_readU32Be hteid
  rw [hstart] at hstrip
  rw [hstart, ← List.drop_drop, ← udpPayload] at hdrop0 hdrop1 hdrop4
  generalize udpPayload data = bytes at hdrop0 hdrop1 hdrop4
  rcases bytes with _ | ⟨b0, _ | ⟨b1, _ | ⟨l0, _ | ⟨l1, more⟩⟩⟩⟩
  · cases hdrop0
  · cases hdrop1
  · cases hdrop4
  · cases hdrop4
  · simp only [gtpFlagsOff, gtpMsgtypeOff, gtpTeidOff, List.drop_zero, List.drop_succ_cons,
      List.cons.injEq] at hdrop0 hdrop1 hdrop4
    obtain ⟨rfl, -⟩ := hdrop0
    obtain ⟨rfl, -⟩ := hdrop1
    subst hdrop4
    exact ⟨_, rest, rfl, rfl, rfl, rfl, hstrip⟩

/-! ## Agreement with the userspace path -/

/-- Both paths look at the same three flags. -/
theorem hasOptionalFields_eq (hdr : GtpuHeader) :
    hdr.hasOptionalFields = decide (hdr.flags &&& gtpOptFlagsMask ≠ 0) := rfl

/-- The userspace parser finds the payload where the program cuts the frame, exactly if no
extension header is in between. -/
theorem parse_eq_drop_iff {bytes rest : List UInt8} {hdr : GtpuHeader}
    (hheader : GtpuHeader.parse bytes = some (hdr, rest))
    (hflags : hdr.flags = bytes.getD 0 0) (hrest : rest = bytes.drop gtpMandatoryLen)
    (hlong : gtpTotal hdr.flags ≤ bytes.length) :
    GtpuParser.parse bytes = some ⟨hdr, bytes.drop (gtpTotal hdr.flags)⟩ ↔ NoExtension bytes := by
  have hoptional := hasOptionalFields_eq hdr
  by_cases hmask : hdr.flags &&& gtpOptFlagsMask = 0
  · -- no optional fields: the payload is what follows the header
    have htotal : gtpTotal hdr.flags = gtpMandatoryLen := by
      rw [gtpTotal, if_neg (not_not.mpr hmask), Nat.add_zero]
    rw [decide_eq_false (not_not.mpr hmask)] at hoptional
    simp only [GtpuParser.parse, hheader, hoptional, Bool.false_eq_true, if_false, Option.map_some,
      htotal, ← hrest, true_iff]
    exact Or.inl (hflags ▸ hmask)
  · have htotal : gtpTotal hdr.flags = gtpMandatoryLen + 4 := by
      rw [gtpTotal, if_pos hmask]
    rw [decide_eq_true hmask] at hoptional
    rw [htotal] at hlong ⊢
    have hmore : bytes.drop (gtpMandatoryLen + 4) = rest.drop 4 := by
      rw [hrest, List.drop_drop]
    have hoctet : bytes.getD 11 0 = rest.getD 3 0 := by
      simp only [hrest, List.getD_eq_getElem?_getD, List.getElem?_drop, gtpMandatoryLen]
    have hlength : 4 ≤ rest.length := by
      rw [hrest, List.length_drop]
      omega
    rw [hmore, NoExtension, hoctet, ← hflags]
    rcases rest with _ | ⟨s0, _ | ⟨s1, _ | ⟨npdu, _ | ⟨nextExt, more⟩⟩⟩⟩
    · simp at hlength
    · simp at hlength
    · simp at hlength
    · simp at hlength
    · have hparse : GtpuParser.parse bytes =
          (if nextExt ≠ 0 then skipExtHeaders more else some more).map (⟨hdr, ·⟩) := by
        simp only [GtpuParser.parse, hheader, hoptional, if_true]
      have hdrop : (s0 :: s1 :: npdu :: nextExt :: more).drop 4 = more := rfl
      have hget : (s0 :: s1 :: npdu :: nextExt :: more).getD 3 0 = nextExt := rfl
      rw [hparse, hdrop, hget]
      by_cases hnext : nextExt = 0
      · rw [if_neg (not_not.mpr hnext), Option.map_some]
        exact ⟨fun _ => Or.inr hnext, fun _ => rfl⟩
      · rw [if_pos hnext]
        constructor
        · -- a chain takes up some bytes
          intro hskip
          obtain ⟨payload, hskip, hpacket⟩ := Option.map_eq_some_iff.mp hskip
          have hshorter := length_lt_of_skipExtHeaders hskip
          rw [(GtpuPacket.mk.inj hpacket).2] at hshorter
          exact absurd hshorter (Nat.lt_irrefl _)
        · intro hno
          rcases hno with hzero | hzero
          · exact absurd hzero hmask
          · exact absurd hzero hnext

variable {adjustHead}

/-- What the rewrite leaves behind the new Ethernet header. -/
theorem inner_of_process (hadjust : DropsHead adjustHead) {maps : Maps} {frame out : List UInt8}
    (htx : process adjustHead maps frame = (.ok .xdpTx, out)) :
    ∃ hdr rest, GtpuHeader.parse (udpPayload frame) = some (hdr, rest) ∧
      hdr.msgType = GtpuHeader.msgGpdu ∧ hdr.flags = (udpPayload frame).getD 0 0 ∧
      rest = (udpPayload frame).drop gtpMandatoryLen ∧
      gtpTotal hdr.flags ≤ (udpPayload frame).length ∧
      out.drop ethHdrLen = (udpPayload frame).drop (gtpTotal hdr.flags) := by
  unfold process at htx
  split at htx
  next => cases htx
  next => cases htx
  next cfg strip hclassify =>
    obtain ⟨hdr, rest, hheader, hgpdu, hflags, hrest, hstrip⟩ := parse_of_classify hclassify
    split at htx
    next => cases htx
    next data hadjusted =>
      have hdata := hadjust frame strip data hadjusted
      split at htx
      next => cases htx
      next hroom =>
        cases htx
        rw [hdata, List.length_drop] at hroom
        refine ⟨hdr, rest, hheader, hgpdu, hflags, hrest, ?_, ?_⟩
        · rw [udpPayload, List.length_drop]
          simp only [ethHdrLen] at hroom hstrip
          omega
        · rw [drop_writeEthernet, hdata, List.drop_drop, hstrip, udpPayload, List.drop_drop]

/-- On a frame the program retransmits, it agrees with the userspace path exactly if the GTP-U
header announces no extension header. -/
theorem forwards_innerIp_iff (hadjust : DropsHead adjustHead) (maps : Maps)
    (routing : RoutingTable) (src : SocketAddr) {frame out : List UInt8} {route : RouteEntry}
    (hroute : (frameTeid frame).bind routing.lookupUl = some route)
    (htx : process adjustHead maps frame = (.ok .xdpTx, out)) :
    processUplink (udpPayload frame) routing src = .forwardUl ⟨out.drop ethHdrLen, route⟩ ↔
      NoExtension (udpPayload frame) := by
  obtain ⟨hdr, rest, hheader, hgpdu, hflags, hrest, hlong, hinner⟩ :=
    inner_of_process hadjust htx
  rw [frameTeid, hheader, Option.map_some, Option.bind_some] at hroute
  rw [processUplink_gpdu hheader hgpdu hroute, hinner]
  exact parse_eq_drop_iff hheader hflags hrest hlong

/-! ## Two frames of one session -/

/-- The kernel's helper: it shrinks a packet only while an Ethernet header is left. -/
def kernelAdjustHead (data : List UInt8) (delta : Int) : Option (List UInt8) :=
  if delta < 0 then some (List.replicate delta.natAbs 0 ++ data)
  else if data.length < delta.toNat + ethHdrLen then none
  else some (data.drop delta.toNat)

theorem kernelAdjustHead_dropsHead : DropsHead kernelAdjustHead := by
  intro data n rest hadjust
  rw [kernelAdjustHead, if_neg (by omega), Int.toNat_natCast] at hadjust
  split at hadjust
  · cases hadjust
  · exact (Option.some.inj hadjust).symm

def testMaps : Maps where
  teidToRoute teid := if teid = 1 then some ⟨2, Octets.zeros 4, 2152⟩ else none
  pdnGwConfig := some ⟨Octets.zeros 6, Octets.zeros 6⟩

def testRoute : RouteEntry := .new (Octets.zeros 4) 2 (Octets.zeros 4) 9

def testRouting : RoutingTable := RoutingTable.new.install 1 testRoute

/-- A GTP-U packet behind Ethernet, IPv4 and UDP headers. -/
def testFrame (gtp : List UInt8) : List UInt8 :=
  List.replicate 12 0 ++ [0x08, 0x00] ++ 0x45 :: List.replicate 8 0 ++ 17 :: List.replicate 10 0 ++
    [0x08, 0x68, 0x08, 0x68, 0, 0, 0, 0] ++ gtp

def testInner : List UInt8 := [0x45, 0x00, 0x00, 0x04]

/-- The inner packet behind the mandatory header alone. -/
def plainGpdu : List UInt8 := [0x30, 0xFF, 0, 4, 0, 0, 0, 1] ++ testInner

/-- The same behind a PDU session container, as user data travels in 5G. -/
def containerGpdu : List UInt8 :=
  [0x34, 0xFF, 0, 12, 0, 0, 0, 1, 0, 0, 0, 0x85, 1, 0x10, 9, 0] ++ testInner

def testSrc : SocketAddr := ⟨Octets.zeros 4, 2152⟩

/-- What the program sends on: a new Ethernet header and the bytes behind it. -/
def testOut (rest : List UInt8) : List UInt8 := List.replicate 12 0 ++ [0x08, 0x00] ++ rest

theorem plainGpdu_forwards :
    process kernelAdjustHead testMaps (testFrame plainGpdu) = (.ok .xdpTx, testOut testInner) ∧
      (processUplink (udpPayload (testFrame plainGpdu)) testRouting testSrc =
          .forwardUl ⟨(testOut testInner).drop ethHdrLen, testRoute⟩ ↔
        NoExtension (udpPayload (testFrame plainGpdu))) :=
  ⟨rfl, forwards_innerIp_iff kernelAdjustHead_dropsHead testMaps testRouting testSrc rfl rfl⟩

/-- The program sends the container along as if it were the inner packet, which the userspace path
forwards alone. -/
theorem containerGpdu_disagrees :
    ∃ out innerIp,
      process kernelAdjustHead testMaps (testFrame containerGpdu) = (.ok .xdpTx, out) ∧
      processUplink (udpPayload (testFrame containerGpdu)) testRouting testSrc =
        .forwardUl ⟨innerIp, testRoute⟩ ∧
      out.drop ethHdrLen ≠ innerIp := by
  refine ⟨testOut ([1, 0x10, 9, 0] ++ testInner), testInner, rfl, ?_, by decide⟩
  have hskip : skipExtHeaders ([1, 0x10, 9, 0] ++ testInner) = some testInner := by
    simp [skipExtHeaders, testInner]
  have hparse : GtpuParser.parse (udpPayload (testFrame containerGpdu)) =
      (skipExtHeaders ([1, 0x10, 9, 0] ++ testInner)).map (⟨⟨0x34, 0xFF, 12, 1⟩, ·⟩) := rfl
  rw [processUplink, hparse, hskip]
  rfl

end GtpXdp

end Midn.Userplane
