import Midn.Lib.Octets

/-!
# GTP-U

The mandatory header and the parser that finds the inner packet behind the optional fields and the
chain of extension headers.
-/

namespace Midn.Gtp

/-- The mandatory header of eight bytes. -/
structure GtpuHeader where
  flags : UInt8
  msgType : UInt8
  length : UInt16
  teid : UInt32
deriving DecidableEq, Repr

namespace GtpuHeader

def msgGpdu : UInt8 := 0xFF
def msgEchoReq : UInt8 := 0x01
def msgEchoRsp : UInt8 := 0x02

def version1 : UInt8 := 0b00100000
def ptGtp : UInt8 := 0b00010000

/-- Extension header, sequence number and N-PDU number flag. -/
def flagE : UInt8 := 0b00000100
def flagS : UInt8 := 0b00000010
def flagPn : UInt8 := 0b00000001

/-- The flags of a header without optional fields. -/
def flagsStandard : UInt8 := version1 ||| ptGtp

/-- The header and the bytes after it. -/
def parse : List UInt8 → Option (GtpuHeader × List UInt8)
  | flags :: msgType :: l0 :: l1 :: t0 :: t1 :: t2 :: t3 :: rest =>
      some (⟨flags, msgType, UInt16.fromBeBytes ⟨[l0, l1], Octets.length_two l0 l1⟩,
        UInt32.fromBeBytes ⟨[t0, t1, t2, t3], Octets.length_four t0 t1 t2 t3⟩⟩, rest)
  | _ => none

def isGpdu (hdr : GtpuHeader) : Bool := hdr.msgType = msgGpdu

def hasExtHdr (hdr : GtpuHeader) : Bool := hdr.flags &&& flagE ≠ 0

/-- Whether four more bytes follow the mandatory header. -/
def hasOptionalFields (hdr : GtpuHeader) : Bool := hdr.flags &&& (flagE ||| flagS ||| flagPn) ≠ 0

def toBytes (hdr : GtpuHeader) : List UInt8 :=
  [hdr.flags, hdr.msgType] ++ hdr.length.toBeBytes.toList ++ hdr.teid.toBeBytes.toList

/-- The header of a packet of user data. -/
def newGpdu (teid : UInt32) (payloadLen : UInt16) : GtpuHeader :=
  ⟨flagsStandard, msgGpdu, payloadLen, teid⟩

/-- A header is read back as it was written. -/
theorem parse_toBytes (hdr : GtpuHeader) (rest : List UInt8) :
    parse (hdr.toBytes ++ rest) = some (hdr, rest) := by
  obtain ⟨flags, msgType, length, teid⟩ := hdr
  have hlength := UInt16.fromBeBytes_toBeBytes length
  have hteid := UInt32.fromBeBytes_toBeBytes teid
  simp only [toBytes]
  generalize length.toBeBytes = l at hlength ⊢
  generalize teid.toBeBytes = t at hteid ⊢
  obtain ⟨l, hl⟩ := l
  obtain ⟨t, ht⟩ := t
  obtain ⟨l0, l1, rfl⟩ := List.length_eq_two.mp hl
  obtain ⟨t0, t1, t2, t3, rfl⟩ := List.length_eq_four.mp ht
  rw [← hlength, ← hteid]
  rfl

end GtpuHeader

structure GtpuPacket where
  header : GtpuHeader
  payload : List UInt8

/-- The bytes after a chain of extension headers. Each header gives its length in units of four
bytes in its first octet and the type of the next one in its last, zero at the end. -/
def skipExtHeaders (buf : List UInt8) : Option (List UInt8) :=
  match hbuf : buf with
  | [] => none
  | lenUnits :: _ =>
      if hzero : lenUnits = 0 then none
      else
        let totalBytes := lenUnits.toNat * 4
        if buf.length < totalBytes then none
        else
          let nextType := buf.getD (totalBytes - 1) 0
          if nextType = 0 then some (buf.drop totalBytes)
          else skipExtHeaders (buf.drop totalBytes)
termination_by buf.length
decreasing_by
  have hunits : lenUnits.toNat ≠ 0 := fun h => hzero (UInt8.toNat_inj.mp h)
  rw [List.length_drop, hbuf, List.length_cons]
  omega

/-- Parse a UDP payload as a GTP-U packet. -/
def GtpuParser.parse (udpPayload : List UInt8) : Option GtpuPacket :=
  match GtpuHeader.parse udpPayload with
  | none => none
  | some (hdr, rest) =>
      let payload :=
        if hdr.hasOptionalFields then
          -- sequence number, N-PDU number and the type of the next extension header
          match rest with
          | _ :: _ :: _ :: nextExt :: more =>
              if nextExt ≠ 0 then skipExtHeaders more else some more
          | _ => none
        else some rest
      payload.map fun payload => ⟨hdr, payload⟩

/-- Without optional fields the payload is all that follows the header. -/
theorem parse_newGpdu (teid : UInt32) (payloadLen : UInt16) (inner : List UInt8) :
    GtpuParser.parse ((GtpuHeader.newGpdu teid payloadLen).toBytes ++ inner) =
      some ⟨GtpuHeader.newGpdu teid payloadLen, inner⟩ := by
  have hflags : GtpuHeader.flagsStandard &&&
      (GtpuHeader.flagE ||| GtpuHeader.flagS ||| GtpuHeader.flagPn) = 0 := by decide
  have hplain : (GtpuHeader.newGpdu teid payloadLen).hasOptionalFields = false :=
    decide_eq_false (not_not.mpr hflags)
  simp only [GtpuParser.parse, GtpuHeader.parse_toBytes, hplain, Bool.false_eq_true, if_false,
    Option.map_some]

/-- A chain of extension headers takes up some bytes. -/
theorem length_lt_of_skipExtHeaders {buf payload : List UInt8}
    (hskip : skipExtHeaders buf = some payload) : payload.length < buf.length := by
  induction buf using skipExtHeaders.induct with
  | case1 =>
      rw [skipExtHeaders] at hskip
      cases hskip
  | case2 tail =>
      rw [skipExtHeaders, dif_pos rfl] at hskip
      cases hskip
  | case3 lenUnits tail hne totalBytes hshort =>
      rw [skipExtHeaders, dif_neg hne, if_pos hshort] at hskip
      cases hskip
  | case4 lenUnits tail hne totalBytes hfits nextType hlast =>
      rw [skipExtHeaders, dif_neg hne, if_neg hfits, if_pos hlast] at hskip
      cases hskip
      have hunits : lenUnits.toNat ≠ 0 := fun h => hne (UInt8.toNat_inj.mp h)
      rw [List.length_drop]
      omega
  | case5 lenUnits tail hne totalBytes hfits nextType hnext ih =>
      rw [skipExtHeaders, dif_neg hne, if_neg hfits, if_neg hnext] at hskip
      have hrest := ih hskip
      rw [List.length_drop] at hrest
      omega

end Midn.Gtp
