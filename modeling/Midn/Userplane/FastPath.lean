import Midn.Lib.Mealy
import Midn.Userplane.GtpDlXdp

/-!
# Start-up of the fast path

Both XDP programs on the maps they are loaded with. The configurations lie in arrays whose only
slot exists from the start and holds zeros, so a program finds a configuration before userspace has
written one. A program leaves every frame to the kernel until it is configured exactly if no frame
comes before that it could have carried.
-/

namespace Midn.Userplane

open GtpXdp

/-- A BPF array: all slots exist from the start. -/
structure BpfArray (ν : Type) where
  slots : List ν

namespace BpfArray

variable {ν : Type}

/-- An array as the kernel loads it. -/
def withMaxEntries (n : Nat) (zero : ν) : BpfArray ν := ⟨List.replicate n zero⟩

def get (a : BpfArray ν) (i : Nat) : Option ν := a.slots[i]?

def set (a : BpfArray ν) (i : Nat) (v : ν) : BpfArray ν := ⟨a.slots.set i v⟩

/-- Writing makes no slots and takes none away. -/
theorem get_set_isSome (a : BpfArray ν) (i j : Nat) (v : ν) :
    ((a.set i v).get j).isSome = (a.get j).isSome := by
  rw [Bool.eq_iff_iff, get, get, isSome_getElem?, isSome_getElem?, set, List.length_set]

end BpfArray

def GtpXdp.PdnGwConfig.zeroed : PdnGwConfig := ⟨Octets.zeros 6, Octets.zeros 6⟩

def GtpDlXdp.DlTunnelConfig.zeroed : GtpDlXdp.DlTunnelConfig :=
  ⟨Octets.zeros 6, Octets.zeros 6, Octets.zeros 4, 0⟩

/-! ## Frames that are carried -/

/-- The verdict leaves a frame to the kernel. -/
def Inert {α : Type} (pass : α) (verdict : Except Unit α) : Prop :=
  verdict = .error () ∨ verdict = .ok pass

/-- An uplink frame is a G-PDU to the GTP-U port, of a known session, and its tunnel headers come
off. -/
def Decapsulable (teidToRoute : UInt32 → Option XdpRouteEntry)
    (adjustHead : List UInt8 → Int → Option (List UInt8)) (frame : List UInt8) : Prop :=
  readU16Be frame ethEthertypeOff = .ok ethPIp ∧
  ∃ versionIhl gtpFlags teid,
    let ihl := (versionIhl &&& 0x0F).toNat * 4
    let gtpStart := ethHdrLen + ihl + udpHdrLen
    readU8 frame (ethHdrLen + ipVersionIhlOff) = .ok versionIhl ∧ ipv4MinHdrLen ≤ ihl ∧
    readU8 frame (ethHdrLen + ipProtocolOff) = .ok ipprotoUdp ∧
    readU16Be frame (ethHdrLen + ihl + udpDstPortOff) = .ok gtpPort ∧
    readU8 frame (gtpStart + gtpFlagsOff) = .ok gtpFlags ∧
    readU8 frame (gtpStart + gtpMsgtypeOff) = .ok gtpMsgGpdu ∧
    readU32Be frame (gtpStart + gtpTeidOff) = .ok teid ∧
    (teidToRoute teid).isSome = true ∧
    ∃ rest, adjustHead frame (ihl + udpHdrLen + gtpTotal gtpFlags : Nat) = some rest ∧
      ethHdrLen ≤ rest.length

/-- A downlink frame is an IPv4 packet for a subscriber with a confirmed bearer, and there is room
for tunnel headers. -/
def Encapsulable (ueIpToRoute : Octets 4 → Option XdpRouteEntry)
    (adjustHead : List UInt8 → Int → Option (List UInt8)) (frame : List UInt8) : Prop :=
  readU16Be frame ethEthertypeOff = .ok ethPIp ∧
  ∃ dstIp route grown,
    GtpDlXdp.readIp4 frame (ethHdrLen + GtpDlXdp.ipDstOff) = .ok dstIp ∧
    ueIpToRoute dstIp = some route ∧ route.dlTeid ≠ 0 ∧
    adjustHead frame GtpDlXdp.adjustHeadGrow = some grown ∧
    GtpDlXdp.newHdrsLen ≤ grown.length ∧
    grown.length - GtpDlXdp.newHdrsLen ≤ GtpDlXdp.maxInnerLen

variable {adjustHead : List UInt8 → Int → Option (List UInt8)} {frame : List UInt8}

/-- A frame that is left to the kernel is not classified for the rewrite, or cannot be cut. -/
theorem inert_process_iff {maps : GtpXdp.Maps} {cfg : PdnGwConfig}
    (hcfg : maps.pdnGwConfig = some cfg) :
    Inert .xdpPass (process adjustHead maps frame).1 ↔
      ¬ Decapsulable maps.teidToRoute adjustHead frame := by
  have hclassified : Decapsulable maps.teidToRoute adjustHead frame ↔
      ∃ strip rest, classify maps frame = .ok (some (cfg, strip)) ∧
        adjustHead frame (strip : Nat) = some rest ∧ ethHdrLen ≤ rest.length := by
    simp only [classify_eq_some_iff]
    constructor
    · rintro ⟨htype, versionIhl, gtpFlags, teid, hihl, hmin, hprotocol, hport, hflags, hgpdu,
        hteid, hroute, rest, hadjust, hroom⟩
      refine ⟨_, rest, ⟨htype, versionIhl, gtpFlags, teid, hihl, hmin, hprotocol, hport, hflags,
        hgpdu, hteid, hroute, hcfg, ?_⟩, hadjust, hroom⟩
      omega
    · rintro ⟨strip, rest, ⟨htype, versionIhl, gtpFlags, teid, hihl, hmin, hprotocol, hport, hflags,
        hgpdu, hteid, hroute, _, hstrip⟩, hadjust, hroom⟩
      have hcut : strip = (versionIhl &&& 0x0F).toNat * 4 + udpHdrLen + gtpTotal gtpFlags := by
        omega
      exact ⟨htype, versionIhl, gtpFlags, teid, hihl, hmin, hprotocol, hport, hflags, hgpdu, hteid,
        hroute, rest, hcut ▸ hadjust, hroom⟩
  rw [hclassified]
  unfold process
  split
  next herror => simp [Inert, herror]
  next hpass => simp [Inert, hpass]
  next cfg' strip hclassify =>
    have hsame : cfg' = cfg := by
      obtain ⟨_, _, _, _, _, _, _, _, _, _, _, _, hcfg', _⟩ := classify_eq_some_iff.mp hclassify
      exact Option.some.inj (hcfg'.symm.trans hcfg)
    subst hsame
    split
    next hadjust => simp [Inert, hclassify, hadjust]
    next rest hadjust =>
      split
      next hshort => simp [Inert, hclassify, hadjust, hshort]
      next hroom => simp [Inert, hclassify, hadjust, Nat.le_of_not_lt hroom]

theorem inert_processDl_iff {redirect : UInt32 → Bool} {maps : GtpDlXdp.Maps}
    {cfg : GtpDlXdp.DlTunnelConfig} (hcfg : maps.dlTunnelConfig = some cfg) :
    Inert .xdpPass (GtpDlXdp.processDl adjustHead redirect maps frame).1 ↔
      ¬ Encapsulable maps.ueIpToRoute adjustHead frame := by
  have hclassified : Encapsulable maps.ueIpToRoute adjustHead frame ↔
      ∃ route grown, GtpDlXdp.classify maps frame = .ok (some (route, cfg)) ∧
        adjustHead frame GtpDlXdp.adjustHeadGrow = some grown ∧
        GtpDlXdp.newHdrsLen ≤ grown.length ∧
        grown.length - GtpDlXdp.newHdrsLen ≤ GtpDlXdp.maxInnerLen := by
    simp only [GtpDlXdp.classify_eq_some_iff]
    constructor
    · rintro ⟨htype, dstIp, route, grown, hdst, hroute, hteid, hroom⟩
      exact ⟨route, grown, ⟨htype, ⟨dstIp, hdst, hroute⟩, hteid, hcfg⟩, hroom⟩
    · rintro ⟨route, grown, ⟨htype, ⟨dstIp, hdst, hroute⟩, hteid, _⟩, hroom⟩
      exact ⟨htype, dstIp, route, grown, hdst, hroute, hteid, hroom⟩
  rw [hclassified]
  unfold GtpDlXdp.processDl
  split
  next herror => simp [Inert, herror]
  next hpass => simp [Inert, hpass]
  next route cfg' hclassify =>
    have hsame : cfg' = cfg := by
      have hcfg' := (GtpDlXdp.classify_eq_some_iff.mp hclassify).2.2.2
      exact Option.some.inj (hcfg'.symm.trans hcfg)
    subst hsame
    split
    next hadjust => simp [Inert, hclassify, hadjust]
    next grown hadjust =>
      split
      next hshort => simp [Inert, hclassify, hadjust, hshort]
      next hroom =>
        split
        next hlong =>
          -- too long for the outer header: passed on, but with the room already made
          refine iff_of_true (Or.inr rfl) ?_
          rintro ⟨_, grown', _, hadjust', _, hfits⟩
          cases hadjust.symm.trans hadjust'
          exact absurd hlong (not_lt_of_ge hfits)
        next hfits =>
          have hcarried : ¬ Inert GtpDlXdp.XdpAction.xdpPass
              (.ok (if redirect cfg'.redirectIfindex then .xdpRedirect else .xdpAborted)) := by
            cases redirect cfg'.redirectIfindex <;> simp [Inert]
          refine iff_of_false hcarried (not_not.mpr ?_)
          exact ⟨route, grown, hclassify, hadjust, Nat.le_of_not_lt hroom, Nat.le_of_not_lt hfits⟩

/-! ## Runs -/

/-- The maps of both programs. -/
structure KernelMaps where
  teidToRoute : UInt32 → Option XdpRouteEntry
  ueIpToRoute : Octets 4 → Option XdpRouteEntry
  pdnGwConfig : BpfArray PdnGwConfig
  dlTunnelConfig : BpfArray GtpDlXdp.DlTunnelConfig

namespace KernelMaps

/-- The maps as both programs are loaded with them. -/
def loaded : KernelMaps where
  teidToRoute := fun _ => none
  ueIpToRoute := fun _ => none
  pdnGwConfig := .withMaxEntries 1 .zeroed
  dlTunnelConfig := .withMaxEntries 1 .zeroed

/-- What the uplink program finds in its maps. -/
def uplink (maps : KernelMaps) : GtpXdp.Maps := ⟨maps.teidToRoute, maps.pdnGwConfig.get 0⟩

/-- What the downlink program finds in its maps. -/
def downlink (maps : KernelMaps) : GtpDlXdp.Maps := ⟨maps.ueIpToRoute, maps.dlTunnelConfig.get 0⟩

/-- Userspace writes a map, or a frame comes in with what the kernel's helpers do for it. -/
inductive Event where
  | setTeidRoutes (routes : UInt32 → Option XdpRouteEntry)
  | setUeRoutes (routes : Octets 4 → Option XdpRouteEntry)
  | setPdnGwConfig (config : PdnGwConfig)
  | setDlTunnelConfig (config : GtpDlXdp.DlTunnelConfig)
  | uplinkFrame (adjustHead : List UInt8 → Int → Option (List UInt8)) (frame : List UInt8)
  | downlinkFrame (adjustHead : List UInt8 → Int → Option (List UInt8))
      (redirect : UInt32 → Bool) (frame : List UInt8)

inductive Verdict where
  | none
  | uplink (verdict : Except Unit GtpXdp.XdpAction)
  | downlink (verdict : Except Unit GtpDlXdp.XdpAction)

def step (maps : KernelMaps) : Event → KernelMaps × Verdict
  | .setTeidRoutes routes => ({ maps with teidToRoute := routes }, .none)
  | .setUeRoutes routes => ({ maps with ueIpToRoute := routes }, .none)
  | .setPdnGwConfig config => ({ maps with pdnGwConfig := maps.pdnGwConfig.set 0 config }, .none)
  | .setDlTunnelConfig config =>
      ({ maps with dlTunnelConfig := maps.dlTunnelConfig.set 0 config }, .none)
  | .uplinkFrame adjustHead frame => (maps, .uplink (process adjustHead maps.uplink frame).1)
  | .downlinkFrame adjustHead redirect frame =>
      (maps, .downlink (GtpDlXdp.processDl adjustHead redirect maps.downlink frame).1)

abbrev Transition := Mealy.Transition KernelMaps Event Verdict

/-- `set_pdn_gw_config` has been called. -/
def UplinkConfigured (past : List Transition) : Prop :=
  ∃ t ∈ past, ∃ config, t.input = .setPdnGwConfig config

/-- `set_dl_tunnel_config` has been called. -/
def DownlinkConfigured (past : List Transition) : Prop :=
  ∃ t ∈ past, ∃ config, t.input = .setDlTunnelConfig config

/-- A program that has not been configured leaves the frame to the kernel. -/
def InertUntilConfigured (past : List Transition) (t : Transition) : Prop :=
  match t.output with
  | .none => True
  | .uplink verdict => ¬ UplinkConfigured past → Inert .xdpPass verdict
  | .downlink verdict => ¬ DownlinkConfigured past → Inert .xdpPass verdict

/-- A program that has not been configured is not shown a frame it could carry. -/
def QuietUntilConfigured (past : List Transition) (t : Transition) : Prop :=
  match t.input with
  | .uplinkFrame adjustHead frame =>
      ¬ UplinkConfigured past → ¬ Decapsulable t.pre.teidToRoute adjustHead frame
  | .downlinkFrame adjustHead _ frame =>
      ¬ DownlinkConfigured past → ¬ Encapsulable t.pre.ueIpToRoute adjustHead frame
  | _ => True

/-- Both configurations are there, written or not. -/
def Preallocated (maps : KernelMaps) : Prop :=
  (maps.pdnGwConfig.get 0).isSome = true ∧ (maps.dlTunnelConfig.get 0).isSome = true

theorem preallocated_step {maps : KernelMaps} (hpre : maps.Preallocated) (event : Event) :
    (maps.step event).1.Preallocated := by
  cases event with
  | setPdnGwConfig config => exact ⟨(BpfArray.get_set_isSome ..).trans hpre.1, hpre.2⟩
  | setDlTunnelConfig config => exact ⟨hpre.1, (BpfArray.get_set_isSome ..).trans hpre.2⟩
  | setTeidRoutes | setUeRoutes | uplinkFrame | downlinkFrame => exact hpre

theorem inert_iff_quiet {maps : KernelMaps} (hpre : maps.Preallocated) (past : List Transition)
    (event : Event) :
    InertUntilConfigured past (Mealy.transition step maps event) ↔
      QuietUntilConfigured past (Mealy.transition step maps event) := by
  cases event with
  | setTeidRoutes | setUeRoutes | setPdnGwConfig | setDlTunnelConfig => exact Iff.rfl
  | uplinkFrame adjustHead frame =>
      obtain ⟨cfg, hcfg⟩ : ∃ cfg, maps.uplink.pdnGwConfig = some cfg :=
        Option.isSome_iff_exists.mp hpre.1
      exact imp_congr_right fun _ => inert_process_iff hcfg
  | downlinkFrame adjustHead redirect frame =>
      obtain ⟨cfg, hcfg⟩ : ∃ cfg, maps.downlink.dlTunnelConfig = some cfg :=
        Option.isSome_iff_exists.mp hpre.2
      exact imp_congr_right fun _ => inert_processDl_iff hcfg

/-- The programs leave every frame to the kernel until they are configured, exactly if no frame
they could carry comes before. -/
theorem always_inert_iff_always_quiet (events : List Event) :
    Mealy.Always step loaded events InertUntilConfigured ↔
      Mealy.Always step loaded events QuietUntilConfigured := by
  apply Mealy.always_iff_of_invariant fun _ maps => maps.Preallocated
  · exact ⟨rfl, rfl⟩
  · exact fun _ _ event hpre _ => preallocated_step hpre event
  · exact fun past _ event hpre => inert_iff_quiet hpre past event

/-- The route of a session is written first, and a packet of the session comes in: it is sent on to
the address of zeros. -/
theorem routedFrame_not_inert :
    ¬ Mealy.Always step loaded
      [.setTeidRoutes testMaps.teidToRoute, .uplinkFrame kernelAdjustHead (testFrame plainGpdu)]
      InertUntilConfigured := by
  intro halways
  have hlast := (Mealy.always_cons.mp (Mealy.always_cons.mp halways).2).1
  have hunconfigured : ¬ UplinkConfigured
      [Mealy.transition step loaded (.setTeidRoutes testMaps.teidToRoute)] := by
    rintro ⟨t, hmem, config, hinput⟩
    rw [List.mem_singleton.mp hmem] at hinput
    cases hinput
  rcases hlast hunconfigured with herror | hpass
  · cases herror
  · cases hpass

end KernelMaps

end Midn.Userplane
