import Midn.Lib.Checksum
import Midn.Userplane.GtpDlXdp

/-!
# Tunnelled frames

The kernel program and the forwarder wrap a downlink packet on their own: the forwarder writes the
GTP-U header and leaves the rest to a socket, the program writes every header itself. What the
program puts on the wire is the datagram of the forwarder in a UDP, an IPv4 and an Ethernet header
that are well formed for every length and address.
-/

namespace Midn.Userplane

open Gtp GtpXdp

namespace GtpDlXdp

/-! ## The header checksum -/

/-- Words of a header add up without overflow. -/
theorem toNat_wordSum {n : Nat} {header : List UInt8} (hlength : header.length = 2 * n)
    (hn : n ≤ 65536) :
    (wordSum header).toNat = (OnesComplement.words header).sum ∧
      (wordSum header).toNat ≤ 65535 * n := by
  induction n generalizing header with
  | zero =>
      rw [List.length_eq_zero_iff.mp hlength]
      exact ⟨rfl, Nat.le_refl 0⟩
  | succ n ih =>
      rcases header with _ | ⟨a, _ | ⟨b, rest⟩⟩
      · cases hlength
      · rw [List.length_singleton] at hlength
        omega
      · have hrest : rest.length = 2 * n := by
          rw [List.length_cons, List.length_cons] at hlength
          omega
        obtain ⟨hsum, hbound⟩ := ih hrest (by omega)
        have hword := OnesComplement.beValue_pair_le a b
        have hvalue : (UInt16.fromBeBytes ⟨[a, b], Octets.length_two a b⟩).toUInt32.toNat =
            Octets.beValue [a, b] := by
          simp only [UInt16.toNat_toUInt32, UInt16.fromBeBytes, List.Vector.toList_mk]
          exact UInt16.toNat_ofNat_of_lt' (Nat.lt_succ_of_le hword)
        rw [wordSum, UInt32.toNat_add, hvalue, Nat.mod_eq_of_lt (by omega),
          OnesComplement.words, List.sum_cons, hsum]
        exact ⟨rfl, by omega⟩

theorem toNat_foldCarry (sum : UInt32) :
    (foldCarry sum).toNat = OnesComplement.fold 65535 sum.toNat := by
  have hsum := sum.toNat_lt
  have hlow : (sum &&& (0xFFFF : UInt32)).toNat = sum.toNat % 65536 :=
    Nat.and_two_pow_sub_one_eq_mod sum.toNat 16
  have hhigh : (sum >>> 16).toNat = sum.toNat / 65536 := by
    rw [UInt32.toNat_shiftRight]
    exact Nat.shiftRight_eq_div_pow sum.toNat 16
  rw [foldCarry, UInt32.toNat_add, hlow, hhigh, OnesComplement.fold]
  exact Nat.mod_eq_of_lt (by omega)

/-- The checksum of a header is the complement of the sum of its words. -/
theorem toNat_ipHeaderChecksum {header : List UInt8} (hlength : header.length = ipOuterLen) :
    (ipHeaderChecksum header).toNat =
      65535 - OnesComplement.fold 65535
        (OnesComplement.fold 65535 (OnesComplement.words header).sum) := by
  obtain ⟨hsum, hbound⟩ := toNat_wordSum (n := 10) hlength (by decide)
  have hfolded : OnesComplement.fold 65535
      (OnesComplement.fold 65535 (OnesComplement.words header).sum) ≤ 65535 :=
    OnesComplement.fold_fold_le (by omega)
  rw [ipHeaderChecksum, UInt16.toNat_not, UInt32.toNat_toUInt16, toNat_foldCarry, toNat_foldCarry,
    hsum, Nat.mod_eq_of_lt (Nat.lt_succ_of_le hfolded)]
  rfl

/-- The words of the outer IP header around its checksum. -/
theorem words_ipHeader (route : XdpRouteEntry) (cfg : DlTunnelConfig) (outerLen csum : UInt16) :
    OnesComplement.words (ipHeader route cfg outerLen csum) =
      [0x4500, outerLen.toNat, 0, 0x4000, 0x4011] ++ csum.toNat ::
        OnesComplement.words (cfg.upfIp.toList ++ route.enbIp.toList) := by
  simp only [ipHeader, List.append_assoc]
  rw [OnesComplement.words_append _ (by decide), OnesComplement.words_append _ (by simp),
    OnesComplement.words_append _ (by simp), OnesComplement.words_append _ (by simp),
    OnesComplement.words_append _ (by decide), OnesComplement.words_append _ (by simp),
    OnesComplement.words_word, OnesComplement.words_word, OnesComplement.words_word,
    OnesComplement.words_word]
  rfl

theorem length_ipHeader (route : XdpRouteEntry) (cfg : DlTunnelConfig) (outerLen csum : UInt16) :
    (ipHeader route cfg outerLen csum).length = ipOuterLen := by
  simp only [ipHeader, List.length_append, Octets.length_toList, List.length_cons, List.length_nil]
  rfl

/-- The outer IP header verifies, whatever its length field and its addresses. -/
theorem ipHeader_verifies (route : XdpRouteEntry) (cfg : DlTunnelConfig) (outerLen : UInt16) :
    OnesComplement.Verifies 65535 (OnesComplement.words
      (ipHeader route cfg outerLen (ipHeaderChecksum (ipHeader route cfg outerLen 0)))) := by
  have hlength := length_ipHeader route cfg outerLen 0
  have hchecksum := toNat_ipHeaderChecksum hlength
  obtain ⟨hsum, hbound⟩ := toNat_wordSum (n := 10) hlength (by decide)
  have hsmall := OnesComplement.words_le (ipHeader route cfg outerLen 0)
  rw [hsum] at hbound
  rw [words_ipHeader] at hchecksum hbound hsmall
  rw [words_ipHeader, hchecksum]
  generalize OnesComplement.words (cfg.upfIp.toList ++ route.enbIp.toList) = addresses at *
  -- the zero in the place of the checksum does not count
  have hzero : ([0x4500, outerLen.toNat, 0, 0x4000, 0x4011] ++
      (0 : UInt16).toNat :: addresses).sum =
        ([0x4500, outerLen.toNat, 0, 0x4000, 0x4011] ++ addresses).sum := by
    simp only [List.sum_append, List.sum_cons, UInt16.toNat_zero, Nat.zero_add]
  rw [hzero] at hbound ⊢
  apply OnesComplement.verifies_complement
  · intro a ha
    rcases List.mem_append.mp ha with ha | ha
    · exact hsmall a (List.mem_append_left _ ha)
    · exact hsmall a (List.mem_append_right _ (List.mem_cons_of_mem _ ha))
  · rw [List.sum_append, List.sum_cons]
    omega
  · omega

/-! ## Layers of a frame -/

/-- The bytes of a field of a header. -/
def field (header : List UInt8) (offset size : Nat) : List UInt8 := (header.drop offset).take size

theorem field_append (before : List UInt8) {value : List UInt8} (after : List UInt8)
    {offset size : Nat} (hbefore : before.length = offset) (hvalue : value.length = size) :
    field (before ++ value ++ after) offset size = value := by
  rw [field, List.append_assoc, List.drop_left' hbefore, List.take_left' hvalue]

/-- A frame cut into its headers and the payload of its UDP header. -/
structure Layers where
  eth : List UInt8
  ip : List UInt8
  udp : List UInt8
  payload : List UInt8

def Layers.frame (layers : Layers) : List UInt8 :=
  layers.eth ++ layers.ip ++ layers.udp ++ layers.payload

/-- The layers take an inner packet to the base station of a route: each header is well formed, and
the payload is the datagram of the forwarder for every table that has the route. -/
structure Layers.Tunnel (layers : Layers) (route : XdpRouteEntry) (cfg : DlTunnelConfig)
    (inner : List UInt8) : Prop where
  ethLength : layers.eth.length = ethHdrLen
  ethDst : field layers.eth 0 6 = cfg.ethDstMac.toList
  ethSrc : field layers.eth 6 6 = cfg.ethSrcMac.toList
  ethType : field layers.eth ethEthertypeOff 2 = ethPIp.toBeBytes.toList
  ipLength : layers.ip.length = ipOuterLen
  ipVersionIhl : field layers.ip ipVersionIhlOff 1 = [0x45]
  ipTotalLength : Octets.beValue (field layers.ip 2 2) =
    (layers.ip ++ layers.udp ++ layers.payload).length
  ipProtocol : field layers.ip ipProtocolOff 1 = [ipprotoUdp]
  ipChecksum : OnesComplement.Verifies 65535 (OnesComplement.words layers.ip)
  ipSrc : field layers.ip 12 4 = cfg.upfIp.toList
  ipDst : field layers.ip ipDstOff 4 = route.enbIp.toList
  udpHdrLength : layers.udp.length = udpHdrLen
  udpDstPort : field layers.udp udpDstPortOff 2 = route.enbPort.toBeBytes.toList
  udpLength : Octets.beValue (field layers.udp 4 2) = (layers.udp ++ layers.payload).length
  datagram : ∀ (routing : RoutingTable) (ueIp : Octets 4) (entry : RouteEntry),
    routing.lookupDl ueIp = some entry → entry.dlTeid = route.dlTeid →
    entry.enbAddr = route.enbIp → entry.enbPort = route.enbPort →
    encapsulateDownlink ⟨inner, ueIp⟩ routing =
      some (layers.payload, ⟨route.enbIp, route.enbPort⟩)
  parsed : ∃ hdr, GtpuParser.parse layers.payload = some ⟨hdr, inner⟩ ∧ hdr.teid = route.dlTeid

/-- The length of the UDP header and what follows it, in 16 bits. -/
def udpLen (inner : List UInt8) : UInt16 :=
  UInt16.ofNat udpHdrLen + UInt16.ofNat gtpHdrLen + UInt16.ofNat inner.length

/-- The length of the outer IP packet, in 16 bits. -/
def outerLen (inner : List UInt8) : UInt16 := UInt16.ofNat ipOuterLen + udpLen inner

/-- What the program writes around an inner packet. -/
def layers (route : XdpRouteEntry) (cfg : DlTunnelConfig) (inner : List UInt8) : Layers where
  eth := cfg.ethDstMac.toList ++ cfg.ethSrcMac.toList ++ [0x08, 0x00]
  ip := ipHeader route cfg (outerLen inner)
    (ipHeaderChecksum (ipHeader route cfg (outerLen inner) 0))
  udp := gtpPort.toBeBytes.toList ++ route.enbPort.toBeBytes.toList ++
    (udpLen inner).toBeBytes.toList ++ (0 : UInt16).toBeBytes.toList
  payload := (GtpuHeader.newGpdu route.dlTeid (UInt16.ofNat inner.length)).toBytes ++ inner

/-- The block of headers is written in one piece. -/
theorem newHdrs_append (route : XdpRouteEntry) (cfg : DlTunnelConfig) (inner : List UInt8) :
    newHdrs route cfg (UInt16.ofNat inner.length) ++ inner = (layers route cfg inner).frame := by
  have hgtp : (GtpuHeader.newGpdu route.dlTeid (UInt16.ofNat inner.length)).toBytes =
      [gtpFlagsStandard, gtpMsgGpdu] ++ (UInt16.ofNat inner.length).toBeBytes.toList ++
        route.dlTeid.toBeBytes.toList := rfl
  simp only [newHdrs, layers, Layers.frame, outerLen, udpLen, hgtp, List.append_assoc]

theorem exists_octets_two (x : UInt16) : ∃ a b, x.toBeBytes.toList = [a, b] :=
  List.length_eq_two.mp x.toBeBytes.2

theorem exists_octets_four (a : Octets 4) : ∃ b c d e, a.toList = [b, c, d, e] :=
  List.length_eq_four.mp a.2

/-- The fields of the outer IP header that depend on the packet and its route. -/
theorem field_ipHeader (route : XdpRouteEntry) (cfg : DlTunnelConfig) (outerLen csum : UInt16) :
    field (ipHeader route cfg outerLen csum) 2 2 = outerLen.toBeBytes.toList ∧
      field (ipHeader route cfg outerLen csum) ipProtocolOff 1 = [ipprotoUdp] ∧
      field (ipHeader route cfg outerLen csum) 12 4 = cfg.upfIp.toList ∧
      field (ipHeader route cfg outerLen csum) ipDstOff 4 = route.enbIp.toList := by
  obtain ⟨l0, l1, hlen⟩ := exists_octets_two outerLen
  obtain ⟨c0, c1, hcsum⟩ := exists_octets_two csum
  obtain ⟨u0, u1, u2, u3, hupf⟩ := exists_octets_four cfg.upfIp
  obtain ⟨e0, e1, e2, e3, henb⟩ := exists_octets_four route.enbIp
  rw [ipHeader, hlen, hcsum, hupf, henb]
  exact ⟨rfl, rfl, rfl, rfl⟩

/-- The fields of the outer UDP header that depend on the packet and its route. -/
theorem field_udp (route : XdpRouteEntry) (cfg : DlTunnelConfig) (inner : List UInt8) :
    field (layers route cfg inner).udp udpDstPortOff 2 = route.enbPort.toBeBytes.toList ∧
      field (layers route cfg inner).udp 4 2 = (udpLen inner).toBeBytes.toList := by
  obtain ⟨p0, p1, hport⟩ := exists_octets_two route.enbPort
  obtain ⟨l0, l1, hlen⟩ := exists_octets_two (udpLen inner)
  rw [layers, hport, hlen]
  exact ⟨rfl, rfl⟩

theorem field_eth (route : XdpRouteEntry) (cfg : DlTunnelConfig) (inner : List UInt8) :
    field (layers route cfg inner).eth 0 6 = cfg.ethDstMac.toList ∧
      field (layers route cfg inner).eth 6 6 = cfg.ethSrcMac.toList ∧
      field (layers route cfg inner).eth ethEthertypeOff 2 = ethPIp.toBeBytes.toList := by
  have hdst := field_append [] (cfg.ethSrcMac.toList ++ [0x08, 0x00]) rfl
    (Octets.length_toList cfg.ethDstMac)
  have hmacs : (cfg.ethDstMac.toList ++ cfg.ethSrcMac.toList).length = ethEthertypeOff := by
    rw [List.length_append, Octets.length_toList, Octets.length_toList]
    rfl
  have htype := field_append (cfg.ethDstMac.toList ++ cfg.ethSrcMac.toList) [] hmacs
    (Octets.length_two 0x08 0x00)
  refine ⟨?_, ?_, ?_⟩
  · rw [List.nil_append, ← List.append_assoc] at hdst
    exact hdst
  · exact field_append _ _ (Octets.length_toList _) (Octets.length_toList _)
  · rw [List.append_nil] at htype
    exact htype

/-- None of the 16-bit lengths wraps when there is room for the headers. -/
theorem toNat_lengths {inner : List UInt8}
    (hfits : ipOuterLen + udpHdrLen + gtpHdrLen + inner.length < 2 ^ 16) :
    (udpLen inner).toNat = udpHdrLen + gtpHdrLen + inner.length ∧
      (outerLen inner).toNat = ipOuterLen + udpHdrLen + gtpHdrLen + inner.length := by
  simp only [outerLen, udpLen, UInt16.toNat_add, UInt16.toNat_ofNat', udpHdrLen, gtpHdrLen,
    ipOuterLen] at hfits ⊢
  omega

/-- The bound of the program leaves room for the headers. -/
theorem fits_of_not_lt {n : Nat} (hroom : ¬ maxInnerLen < n) :
    ipOuterLen + udpHdrLen + gtpHdrLen + n < 2 ^ 16 := by
  simp only [maxInnerLen, ipOuterLen, udpHdrLen, gtpHdrLen] at hroom ⊢
  omega

/-- A packet that leaves room for the headers in 16 bits is tunnelled. -/
theorem layers_tunnel (route : XdpRouteEntry) (cfg : DlTunnelConfig) {inner : List UInt8}
    (hfits : ipOuterLen + udpHdrLen + gtpHdrLen + inner.length < 2 ^ 16) :
    (layers route cfg inner).Tunnel route cfg inner := by
  obtain ⟨hudp, houter⟩ := toNat_lengths hfits
  obtain ⟨hdst, hsrc, htype⟩ := field_eth route cfg inner
  obtain ⟨hlen, hprotocol, hipSrc, hipDst⟩ := field_ipHeader route cfg (outerLen inner)
    (ipHeaderChecksum (ipHeader route cfg (outerLen inner) 0))
  obtain ⟨hport, hudpLen⟩ := field_udp route cfg inner
  have hip : (layers route cfg inner).ip.length = ipOuterLen := length_ipHeader ..
  have hudpHdr : (layers route cfg inner).udp.length = udpHdrLen := by
    simp only [layers, List.length_append, Octets.length_toList]
    rfl
  have hgtp : (layers route cfg inner).payload.length = gtpHdrLen + inner.length := by
    simp only [layers, GtpuHeader.toBytes, List.length_append, Octets.length_toList,
      List.length_cons, List.length_nil]
    rfl
  exact
    { ethLength := by
        simp only [layers, List.length_append, Octets.length_toList]
        rfl
      ethDst := hdst
      ethSrc := hsrc
      ethType := htype
      ipLength := hip
      ipVersionIhl := rfl
      ipTotalLength := by
        rw [List.length_append, List.length_append, hip, hudpHdr, hgtp]
        rw [layers, hlen, UInt16.beValue_toBeBytes, houter, Nat.add_assoc _ gtpHdrLen]
      ipProtocol := hprotocol
      ipChecksum := ipHeader_verifies ..
      ipSrc := hipSrc
      ipDst := hipDst
      udpHdrLength := hudpHdr
      udpDstPort := hport
      udpLength := by
        rw [hudpLen, UInt16.beValue_toBeBytes, hudp, List.length_append, hudpHdr, hgtp,
          Nat.add_assoc]
      datagram := by
        intro routing ueIp entry hentry hteid hip hport
        rw [encapsulateDownlink_of_some hentry, hteid, hip, hport]
        rfl
      parsed := ⟨_, parse_newGpdu .., rfl⟩ }

/-! ## The program -/

section Program

variable {adjustHead : List UInt8 → Int → Option (List UInt8)} {redirect : UInt32 → Bool}

variable (adjustHead) in
/-- A negative adjustment that succeeds puts that many bytes before the frame. -/
def GrowsHead : Prop :=
  ∀ (data : List UInt8) (n : Nat) (grown : List UInt8),
    adjustHead data (-n) = some grown → ∃ room, room.length = n ∧ grown = room ++ data

/-- A frame whose head has grown holds its inner packet where the headers end. -/
theorem grown_adjustHeadGrow (hgrow : GrowsHead adjustHead) {data grown : List UInt8}
    (hadjust : adjustHead data adjustHeadGrow = some grown) :
    grown.length = newHdrsLen - ethHdrLen + data.length ∧
      grown.drop newHdrsLen = data.drop ethHdrLen := by
  obtain ⟨room, hroom, rfl⟩ := hgrow data (newHdrsLen - ethHdrLen) grown hadjust
  refine ⟨by rw [List.length_append, hroom], ?_⟩
  have hsplit : newHdrsLen = room.length + ethHdrLen := by
    rw [hroom]
    rfl
  rw [hsplit, List.drop_length_add_append]

theorem le_length_of_readIp4 {data : List UInt8} {offset : Nat} {ip : Octets 4}
    (hread : readIp4 data offset = .ok ip) : offset + 4 ≤ data.length := by
  by_contra hshort
  have hcheck : boundsCheck data offset 4 = .error () := if_pos (Nat.lt_of_not_le hshort)
  rw [readIp4, hcheck] at hread
  cases hread

/-- The program on a frame that it takes for one of a subscriber and whose head has grown. -/
theorem processDl_of_grown (hgrow : GrowsHead adjustHead) {maps : Maps} {data grown : List UInt8}
    {route : XdpRouteEntry} {cfg : DlTunnelConfig}
    (hclassify : classify maps data = .ok (some (route, cfg)))
    (hadjust : adjustHead data adjustHeadGrow = some grown) :
    processDl adjustHead redirect maps data =
      if maxInnerLen < (data.drop ethHdrLen).length then (.ok .xdpPass, grown)
      else (.ok (if redirect cfg.redirectIfindex then .xdpRedirect else .xdpAborted),
        (layers route cfg (data.drop ethHdrLen)).frame) := by
  obtain ⟨-, ⟨dstIp, hdst, -⟩, -⟩ := classify_eq_some_iff.mp hclassify
  obtain ⟨hlength, hinner⟩ := grown_adjustHeadGrow hgrow hadjust
  have hread := le_length_of_readIp4 hdst
  have hroom : ¬ grown.length < newHdrsLen := by
    rw [hlength]
    simp only [newHdrsLen, ethHdrLen, ipDstOff] at hread ⊢
    omega
  have hrest : grown.length - newHdrsLen = (data.drop ethHdrLen).length := by
    rw [← hinner, List.length_drop]
  simp only [processDl, hclassify, hadjust, if_neg hroom, hrest, hinner, newHdrs_append]

/-- Every frame that reaches the redirection leaves as its inner packet in the tunnel of its
route, with lengths that fit in 16 bits. -/
theorem processDl_tunnel (hgrow : GrowsHead adjustHead) {maps : Maps} {frame out : List UInt8}
    {action : XdpAction} (hprocess : processDl adjustHead redirect maps frame = (.ok action, out))
    (hreached : action ≠ .xdpPass) :
    ∃ route cfg, classify maps frame = .ok (some (route, cfg)) ∧
      ipOuterLen + udpHdrLen + gtpHdrLen + (frame.drop ethHdrLen).length < 2 ^ 16 ∧
      ∃ layers : Layers, out = layers.frame ∧
        layers.Tunnel route cfg (frame.drop ethHdrLen) := by
  cases hclassify : classify maps frame with
  | error e =>
      simp only [processDl, hclassify] at hprocess
      cases hprocess
  | ok found =>
      cases found with
      | none =>
          simp only [processDl, hclassify] at hprocess
          cases hprocess
          exact absurd rfl hreached
      | some pair =>
          obtain ⟨route, cfg⟩ := pair
          cases hadjust : adjustHead frame adjustHeadGrow with
          | none =>
              simp only [processDl, hclassify, hadjust] at hprocess
              cases hprocess
              exact absurd rfl hreached
          | some grown =>
              rw [processDl_of_grown hgrow hclassify hadjust] at hprocess
              by_cases hlong : maxInnerLen < (frame.drop ethHdrLen).length
              · rw [if_pos hlong] at hprocess
                cases hprocess
                exact absurd rfl hreached
              · rw [if_neg hlong] at hprocess
                have hfits := fits_of_not_lt hlong
                refine ⟨route, cfg, rfl, hfits, _, (Prod.mk.inj hprocess).2.symm, ?_⟩
                exact layers_tunnel route cfg hfits

end Program

theorem kernelAdjustHead_growsHead : GrowsHead kernelAdjustHead := by
  intro data n grown hadjust
  rw [kernelAdjustHead] at hadjust
  split at hadjust
  next =>
    refine ⟨List.replicate n 0, List.length_replicate, ?_⟩
    rw [Int.natAbs_neg, Int.natAbs_natCast] at hadjust
    exact (Option.some.inj hadjust).symm
  next hzero =>
    obtain rfl : n = 0 := by omega
    split at hadjust
    · cases hadjust
    · exact ⟨[], rfl, (Option.some.inj hadjust).symm⟩

def testMaps : Maps where
  ueIpToRoute ueIp := if ueIp = Octets.zeros 4 then some ⟨2, Octets.zeros 4, 2152⟩ else none
  dlTunnelConfig := some ⟨Octets.zeros 6, Octets.zeros 6, Octets.zeros 4, 0⟩

/-- An IPv4 packet without a payload, for the address of zeros. -/
def testFrame : List UInt8 := List.replicate 12 0 ++ [0x08, 0x00] ++ 0x45 :: List.replicate 19 0

theorem testFrame_tunnel :
    ∃ route cfg, classify testMaps testFrame = .ok (some (route, cfg)) ∧
      ipOuterLen + udpHdrLen + gtpHdrLen + (testFrame.drop ethHdrLen).length < 2 ^ 16 ∧
      ∃ layers : Layers,
        (processDl kernelAdjustHead (fun _ => true) testMaps testFrame).2 = layers.frame ∧
          layers.Tunnel route cfg (testFrame.drop ethHdrLen) :=
  have hprocess : processDl kernelAdjustHead (fun _ => true) testMaps testFrame =
      (.ok .xdpRedirect, (processDl kernelAdjustHead (fun _ => true) testMaps testFrame).2) := rfl
  processDl_tunnel kernelAdjustHead_growsHead hprocess (by decide)

end GtpDlXdp

end Midn.Userplane
