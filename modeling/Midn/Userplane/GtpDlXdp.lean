import Midn.Userplane.GtpXdp

/-!
# GTP-U XDP fast path, downlink

The program on the PDN-facing interface: it wraps a packet for a known subscriber in a GTP-U tunnel
and redirects it to the interface of the base stations. The helper that moves the start of a packet
is the kernel's, and so is the one that redirects.
-/

namespace Midn.Userplane

open GtpXdp

namespace GtpDlXdp

/-- The flags of a header without optional fields. -/
def gtpFlagsStandard : UInt8 := 0x30

def ipDstOff : Nat := 16
def ipOuterLen : Nat := 20
def gtpHdrLen : Nat := 8

/-- All headers that are written: Ethernet, IP, UDP and GTP-U. -/
def newHdrsLen : Nat := ethHdrLen + ipOuterLen + udpHdrLen + gtpHdrLen

/-- The old Ethernet header is overwritten, so the packet grows by the rest of the headers only. -/
def adjustHeadGrow : Int := -Int.ofNat (newHdrsLen - ethHdrLen)

/-- The most an inner packet may have for the outer lengths to fit in 16 bits. -/
def maxInnerLen : Nat := 65535 - (ipOuterLen + udpHdrLen + gtpHdrLen)

structure DlTunnelConfig where
  ethDstMac : Octets 6
  ethSrcMac : Octets 6
  upfIp : Octets 4
  redirectIfindex : UInt32
deriving DecidableEq

/-- The contents of the BPF maps the program reads. -/
structure Maps where
  ueIpToRoute : Octets 4 → Option XdpRouteEntry
  dlTunnelConfig : Option DlTunnelConfig

inductive XdpAction where
  | xdpAborted
  | xdpPass
  | xdpRedirect
deriving DecidableEq, Repr

def readIp4 (data : List UInt8) (offset : Nat) : Except Unit (Octets 4) :=
  match boundsCheck data offset 4 with
  | .ok (a :: b :: c :: d :: _) => .ok ⟨[a, b, c, d], Octets.length_four a b c d⟩
  | _ => .error ()

/-- The big-endian words of a header, summed. -/
def wordSum : List UInt8 → UInt32
  | a :: b :: rest =>
      (UInt16.fromBeBytes ⟨[a, b], Octets.length_two a b⟩).toUInt32 + wordSum rest
  | _ => 0

/-- Add the carries back in. -/
def foldCarry (sum : UInt32) : UInt32 := (sum &&& (0xFFFF : UInt32)) + (sum >>> 16)

/-- The checksum of a header whose checksum field is zero. -/
def ipHeaderChecksum (header : List UInt8) : UInt16 :=
  ~~~ (foldCarry (foldCarry (wordSum header))).toUInt16

/-- The outer IP header with a given checksum field. -/
def ipHeader (route : XdpRouteEntry) (cfg : DlTunnelConfig) (outerLen csum : UInt16) :
    List UInt8 :=
  [0x45, 0x00] ++ outerLen.toBeBytes.toList ++ (0 : UInt16).toBeBytes.toList ++
    (0x4000 : UInt16).toBeBytes.toList ++ [64, 17] ++ csum.toBeBytes.toList ++ cfg.upfIp.toList ++
    route.enbIp.toList

/-- The block of new headers around an inner packet of the given length. -/
def newHdrs (route : XdpRouteEntry) (cfg : DlTunnelConfig) (innerLen : UInt16) : List UInt8 :=
  let udpLen := UInt16.ofNat udpHdrLen + UInt16.ofNat gtpHdrLen + innerLen
  let outerLen := UInt16.ofNat ipOuterLen + udpLen
  let csum := ipHeaderChecksum (ipHeader route cfg outerLen 0)
  cfg.ethDstMac.toList ++ cfg.ethSrcMac.toList ++ [0x08, 0x00] ++
    ipHeader route cfg outerLen csum ++
    gtpPort.toBeBytes.toList ++ route.enbPort.toBeBytes.toList ++ udpLen.toBeBytes.toList ++
    (0 : UInt16).toBeBytes.toList ++
    [gtpFlagsStandard, gtpMsgGpdu] ++ innerLen.toBeBytes.toList ++ route.dlTeid.toBeBytes.toList

/-- Steps 1 to 5: nothing for a frame that is passed on, else its route and the configuration. -/
def classify (maps : Maps) (data : List UInt8) :
    Except Unit (Option (XdpRouteEntry × DlTunnelConfig)) := do
  -- step 1: Ethernet, require IPv4
  let etherType ← readU16Be data ethEthertypeOff
  if etherType ≠ ethPIp then return none
  -- step 2: the destination address, at a fixed offset
  let dstIp ← readIp4 data (ethHdrLen + ipDstOff)
  -- steps 3 to 5: require a route, with a confirmed bearer, and a configuration
  match maps.ueIpToRoute dstIp with
  | none => return none
  | some route =>
      if route.dlTeid = 0 then return none
      match maps.dlTunnelConfig with
      | none => return none
      | some cfg => return some (route, cfg)

section Program

variable (adjustHead : List UInt8 → Int → Option (List UInt8)) (redirect : UInt32 → Bool)

/-- Process one frame; a redirection that fails aborts. -/
def processDl (maps : Maps) (data : List UInt8) : Except Unit XdpAction × List UInt8 :=
  match classify maps data with
  | .error () => (.error (), data)
  | .ok none => (.ok .xdpPass, data)
  | .ok (some (route, cfg)) =>
      match adjustHead data adjustHeadGrow with
      | none => (.ok .xdpPass, data)
      | some data =>
          if data.length < newHdrsLen then (.ok .xdpPass, data)
          else if maxInnerLen < data.length - newHdrsLen then (.ok .xdpPass, data)
          else
            let innerLen := UInt16.ofNat (data.length - newHdrsLen)
            (.ok (if redirect cfg.redirectIfindex then .xdpRedirect else .xdpAborted),
              newHdrs route cfg innerLen ++ data.drop newHdrsLen)

end Program

/-! ## Frames that are tunnelled -/

/-- The program has read all of a frame that it goes on to tunnel. -/
theorem classify_eq_some_iff {maps : Maps} {data : List UInt8} {route : XdpRouteEntry}
    {cfg : DlTunnelConfig} :
    classify maps data = .ok (some (route, cfg)) ↔
      readU16Be data ethEthertypeOff = .ok ethPIp ∧
        (∃ dstIp, readIp4 data (ethHdrLen + ipDstOff) = .ok dstIp ∧
          maps.ueIpToRoute dstIp = some route) ∧
        route.dlTeid ≠ 0 ∧ maps.dlTunnelConfig = some cfg := by
  have hlast : ∀ dstIp,
      (match maps.ueIpToRoute dstIp with
        | none => (pure none : Except Unit (Option (XdpRouteEntry × DlTunnelConfig)))
        | some route =>
            if route.dlTeid = 0 then pure none
            else
              match maps.dlTunnelConfig with
              | none => pure none
              | some cfg => pure (some (route, cfg))) = .ok (some (route, cfg)) ↔
        maps.ueIpToRoute dstIp = some route ∧ route.dlTeid ≠ 0 ∧
          maps.dlTunnelConfig = some cfg := by
    intro dstIp
    cases maps.ueIpToRoute dstIp with
    | none => simp [pure, Except.pure]
    | some found =>
        cases maps.dlTunnelConfig with
        | none => simp [pure, Except.pure]
        | some config =>
            simp only [guard_eq_some_iff, Option.some.injEq]
            simp only [pure, Except.pure, Except.ok.injEq, Option.some.injEq, Prod.mk.injEq]
            constructor
            · rintro ⟨hteid, rfl, rfl⟩
              exact ⟨rfl, hteid, rfl⟩
            · rintro ⟨rfl, hteid, rfl⟩
              exact ⟨hteid, rfl, rfl⟩
  simp only [classify, bind_eq_ok_iff, guard_eq_some_iff, hlast, ne_eq, not_not]
  constructor
  · rintro ⟨_, htype, rfl, dstIp, hdst, hroute, hteid, hcfg⟩
    exact ⟨htype, ⟨dstIp, hdst, hroute⟩, hteid, hcfg⟩
  · rintro ⟨htype, ⟨dstIp, hdst, hroute⟩, hteid, hcfg⟩
    exact ⟨_, htype, rfl, dstIp, hdst, hroute, hteid, hcfg⟩

end GtpDlXdp

end Midn.Userplane
