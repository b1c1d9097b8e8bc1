import Midn.Userplane.Encapsulation

/-!
# Verdicts of the kernel programs

The entry points turn a fault into the verdict that leaves a frame to the kernel. Both programs move
the start of the frame before their last checks. Uplink, a frame that is left to the kernel is the
frame as it came; downlink there are two exits after the head has grown that are not: one for a
packet that is too long for the outer headers, and one for a redirection that fails.
-/

namespace Midn.Userplane

/-- The helper that moves the start of a frame: it fails, or drops bytes but not the last 14, or
puts bytes before the frame. -/
structure ShiftsHead (adjustHead : List UInt8 → Int → Option (List UInt8)) : Prop where
  drops : GtpXdp.DropsHead adjustHead
  keeps : ∀ (data : List UInt8) (n : Nat) (rest : List UInt8),
    adjustHead data n = some rest → GtpXdp.ethHdrLen ≤ rest.length
  grows : GtpDlXdp.GrowsHead adjustHead

theorem kernelAdjustHead_shiftsHead : ShiftsHead GtpXdp.kernelAdjustHead where
  drops := GtpXdp.kernelAdjustHead_dropsHead
  keeps := by
    intro data n rest hadjust
    rw [GtpXdp.kernelAdjustHead, if_neg (by omega), Int.toNat_natCast] at hadjust
    split at hadjust
    next => cases hadjust
    next hroom =>
      rw [← Option.some.inj hadjust, List.length_drop]
      omega
  grows := GtpDlXdp.kernelAdjustHead_growsHead

variable {adjustHead : List UInt8 → Int → Option (List UInt8)} {redirect : UInt32 → Bool}
  {frame : List UInt8}

/-! ## Uplink -/

namespace GtpXdp

variable (adjustHead) in
/-- The uplink entry point. -/
def midnGtpXdp (maps : Maps) (frame : List UInt8) : XdpAction × List UInt8 :=
  match process adjustHead maps frame with
  | (.ok action, out) => (action, out)
  | (.error _, out) => (.xdpPass, out)

/-- The frame is left as it came, or goes out as its inner part behind a complete Ethernet
header. -/
def FailSafe (maps : Maps) (frame : List UInt8) (verdict : XdpAction × List UInt8) : Prop :=
  verdict = (.xdpPass, frame) ∨
    ∃ cfg strip, classify maps frame = .ok (some (cfg, strip)) ∧
      verdict = (.xdpTx, cfg.gwMac.toList ++ cfg.nicMac.toList ++ ethPIp.toBeBytes.toList ++
        frame.drop (strip + ethHdrLen))

theorem midnGtpXdp_failSafe (hshift : ShiftsHead adjustHead) (maps : Maps) (frame : List UInt8) :
    FailSafe maps frame (midnGtpXdp adjustHead maps frame) := by
  unfold midnGtpXdp process
  cases hclassify : classify maps frame with
  | error e => exact Or.inl rfl
  | ok found =>
      cases found with
      | none => exact Or.inl rfl
      | some pair =>
          obtain ⟨cfg, strip⟩ := pair
          cases hadjust : adjustHead frame strip with
          | none =>
              left
              simp only [hadjust]
          | some rest =>
              have hroom := hshift.keeps frame strip rest hadjust
              obtain rfl := hshift.drops frame strip rest hadjust
              refine Or.inr ⟨cfg, strip, hclassify, ?_⟩
              simp only [hadjust, if_neg (Nat.not_lt.mpr hroom), writeEthernet, List.drop_drop]
              rfl

end GtpXdp

/-! ## Downlink -/

namespace GtpDlXdp

open GtpXdp

variable (adjustHead redirect) in
/-- The downlink entry point. -/
def midnGtpDlXdp (maps : Maps) (frame : List UInt8) : XdpAction × List UInt8 :=
  match processDl adjustHead redirect maps frame with
  | (.ok action, out) => (action, out)
  | (.error _, out) => (.xdpPass, out)

/-- The frame is left as it came, or goes out as its inner packet in the tunnel of its route. -/
def FailSafe (maps : Maps) (frame : List UInt8) (verdict : XdpAction × List UInt8) : Prop :=
  verdict = (.xdpPass, frame) ∨
    ∃ (route : XdpRouteEntry) (cfg : DlTunnelConfig) (layers : Layers),
      classify maps frame = .ok (some (route, cfg)) ∧
        layers.Tunnel route cfg (frame.drop ethHdrLen) ∧ verdict = (.xdpRedirect, layers.frame)

variable (adjustHead redirect) in
/-- A frame for a subscriber with a confirmed bearer, whose head grows, leaves room for the outer
headers and is redirected. -/
def Deliverable (maps : Maps) (frame : List UInt8) : Prop :=
  ∀ dstIp route cfg, readU16Be frame ethEthertypeOff = .ok ethPIp →
    readIp4 frame (ethHdrLen + ipDstOff) = .ok dstIp → maps.ueIpToRoute dstIp = some route →
    route.dlTeid ≠ 0 → maps.dlTunnelConfig = some cfg →
    (adjustHead frame adjustHeadGrow).isSome = true →
    (frame.drop ethHdrLen).length ≤ maxInnerLen ∧ redirect cfg.redirectIfindex = true

variable {maps : Maps}

/-- A frame that is not classified for the tunnel, or whose head does not grow, is left as it
came. -/
theorem midnGtpDlXdp_pass
    (hpass : ∀ route cfg grown, classify maps frame = .ok (some (route, cfg)) →
      adjustHead frame adjustHeadGrow ≠ some grown) :
    midnGtpDlXdp adjustHead redirect maps frame = (.xdpPass, frame) := by
  unfold midnGtpDlXdp processDl
  cases hclassify : classify maps frame with
  | error e => rfl
  | ok found =>
      cases found with
      | none => rfl
      | some pair =>
          cases hadjust : adjustHead frame adjustHeadGrow with
          | none => simp only
          | some grown => exact absurd hadjust (hpass pair.1 pair.2 grown hclassify)

/-- On a frame for the tunnel whose head has grown the verdict is fail-safe exactly if the packet
leaves room for the headers and the redirection succeeds. -/
theorem failSafe_of_grown_iff (hgrow : GrowsHead adjustHead) {route : XdpRouteEntry}
    {cfg : DlTunnelConfig} {grown : List UInt8}
    (hclassify : classify maps frame = .ok (some (route, cfg)))
    (hadjust : adjustHead frame adjustHeadGrow = some grown) :
    FailSafe maps frame (midnGtpDlXdp adjustHead redirect maps frame) ↔
      (frame.drop ethHdrLen).length ≤ maxInnerLen ∧ redirect cfg.redirectIfindex = true := by
  have hlength := (grown_adjustHeadGrow hgrow hadjust).1
  rw [midnGtpDlXdp, processDl_of_grown hgrow hclassify hadjust]
  by_cases hlong : maxInnerLen < (frame.drop ethHdrLen).length
  · -- the head has grown, but the frame is passed on
    rw [if_pos hlong]
    refine iff_of_false ?_ fun hmet => Nat.not_lt.mpr hmet.1 hlong
    rintro (hpass | ⟨_, _, _, _, _, hredirect⟩)
    · have hsame : grown = frame := (Prod.mk.inj hpass).2
      rw [hsame] at hlength
      simp only [newHdrsLen, ethHdrLen, ipOuterLen, udpHdrLen, gtpHdrLen] at hlength
      omega
    · cases (Prod.mk.inj hredirect).1
  · rw [if_neg hlong]
    cases hredirected : redirect cfg.redirectIfindex with
    | false =>
        refine iff_of_false ?_ fun hmet => Bool.false_ne_true hmet.2
        rintro (hpass | ⟨_, _, _, _, _, hredirect⟩)
        · cases (Prod.mk.inj hpass).1
        · cases (Prod.mk.inj hredirect).1
    | true =>
        have htunnel := layers_tunnel route cfg (fits_of_not_lt hlong)
        refine iff_of_true (Or.inr ⟨route, cfg, _, hclassify, htunnel, rfl⟩) ?_
        exact ⟨Nat.not_lt.mp hlong, rfl⟩

theorem midnGtpDlXdp_failSafe_iff (hgrow : GrowsHead adjustHead) (maps : Maps)
    (frame : List UInt8) :
    FailSafe maps frame (midnGtpDlXdp adjustHead redirect maps frame) ↔
      Deliverable adjustHead redirect maps frame := by
  by_cases htunnel : ∃ route cfg grown, classify maps frame = .ok (some (route, cfg)) ∧
      adjustHead frame adjustHeadGrow = some grown
  · obtain ⟨route, cfg, grown, hclassify, hadjust⟩ := htunnel
    obtain ⟨htype, ⟨dstIp, hdst, hroute⟩, hteid, hcfg⟩ := classify_eq_some_iff.mp hclassify
    rw [failSafe_of_grown_iff hgrow hclassify hadjust]
    constructor
    · intro hmet dstIp' route' cfg' _ _ _ _ hcfg' _
      rw [hcfg] at hcfg'
      rw [← Option.some.inj hcfg']
      exact hmet
    · intro hdeliverable
      apply hdeliverable dstIp route cfg htype hdst hroute hteid hcfg
      rw [hadjust, Option.isSome_some]
  · have hpass : midnGtpDlXdp adjustHead redirect maps frame = (.xdpPass, frame) := by
      apply midnGtpDlXdp_pass
      intro route cfg grown hclassify hadjust
      exact htunnel ⟨route, cfg, grown, hclassify, hadjust⟩
    refine iff_of_true (Or.inl hpass) ?_
    intro dstIp route cfg htype hdst hroute hteid hcfg hgrown
    obtain ⟨grown, hadjust⟩ := Option.isSome_iff_exists.mp hgrown
    have hclassify := classify_eq_some_iff.mpr ⟨htype, ⟨dstIp, hdst, hroute⟩, hteid, hcfg⟩
    exact absurd ⟨route, cfg, grown, hclassify, hadjust⟩ htunnel

end GtpDlXdp

/-- The verdicts of both programs on a frame are fail-safe, uplink always and downlink exactly if a
frame that would be tunnelled leaves room for the outer headers and is redirected. -/
theorem failSafe_iff_deliverable (hshift : ShiftsHead adjustHead) (redirect : UInt32 → Bool)
    (ulMaps : GtpXdp.Maps) (dlMaps : GtpDlXdp.Maps) (frame : List UInt8) :
    (GtpXdp.FailSafe ulMaps frame (GtpXdp.midnGtpXdp adjustHead ulMaps frame) ∧
      GtpDlXdp.FailSafe dlMaps frame
        (GtpDlXdp.midnGtpDlXdp adjustHead redirect dlMaps frame)) ↔
      GtpDlXdp.Deliverable adjustHead redirect dlMaps frame := by
  rw [GtpDlXdp.midnGtpDlXdp_failSafe_iff hshift.grows]
  exact and_iff_right (GtpXdp.midnGtpXdp_failSafe hshift ulMaps frame)

/-- A redirection that fails aborts: the packet is dropped, though nothing is wrong with it. -/
theorem redirect_failed_not_failSafe :
    ¬ GtpDlXdp.FailSafe GtpDlXdp.testMaps GtpDlXdp.testFrame
      (GtpDlXdp.midnGtpDlXdp GtpXdp.kernelAdjustHead (fun _ => false) GtpDlXdp.testMaps
        GtpDlXdp.testFrame) := by
  have haction : (GtpDlXdp.midnGtpDlXdp GtpXdp.kernelAdjustHead (fun _ => false)
      GtpDlXdp.testMaps GtpDlXdp.testFrame).1 = .xdpAborted := rfl
  rintro (hpass | ⟨_, _, _, _, _, hredirect⟩)
  · rw [hpass] at haction
    cases haction
  · rw [hredirect] at haction
    cases haction

theorem testFrame_failSafe_iff :
    (GtpXdp.FailSafe GtpXdp.testMaps GtpDlXdp.testFrame
        (GtpXdp.midnGtpXdp GtpXdp.kernelAdjustHead GtpXdp.testMaps GtpDlXdp.testFrame) ∧
      GtpDlXdp.FailSafe GtpDlXdp.testMaps GtpDlXdp.testFrame
        (GtpDlXdp.midnGtpDlXdp GtpXdp.kernelAdjustHead (fun _ => true) GtpDlXdp.testMaps
          GtpDlXdp.testFrame)) ↔
      GtpDlXdp.Deliverable GtpXdp.kernelAdjustHead (fun _ => true) GtpDlXdp.testMaps
        GtpDlXdp.testFrame :=
  failSafe_iff_deliverable kernelAdjustHead_shiftsHead (fun _ => true) GtpXdp.testMaps
    GtpDlXdp.testMaps GtpDlXdp.testFrame

end Midn.Userplane
