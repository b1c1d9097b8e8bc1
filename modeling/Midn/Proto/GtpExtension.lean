import Mathlib.Data.List.GetD
import Mathlib.Data.List.Infix
import Midn.Lib.Checked
import Midn.Proto.Gtp

/-!
# GTP-U extension headers

The parser skips a chain of extension headers of any length, every access in bounds, and finds what
follows it. It starts on a chain whenever the optional octets name a type for it, although that
octet has a meaning under the E flag only.
-/

namespace Midn.Gtp

/-! ## Chains -/

/-- An extension header: its length in units of four bytes, its content, and the type of the next
one. -/
structure ExtHeader where
  units : UInt8
  content : List UInt8
  nextType : UInt8
  units_ne_zero : units ≠ 0
  length_content : content.length + 2 = 4 * units.toNat

namespace ExtHeader

def toBytes (h : ExtHeader) : List UInt8 := h.units :: (h.content ++ [h.nextType])

theorem length_toBytes (h : ExtHeader) : h.toBytes.length = h.units.toNat * 4 := by
  have hcontent := h.length_content
  rw [toBytes, List.length_cons, List.length_append, List.length_singleton]
  omega

/-- The bytes of extension headers, one after the other. -/
def chainBytes (chain : List ExtHeader) : List UInt8 := chain.flatMap toBytes

/-- The chain is the one a type announces: each type but the last is that of a next header. -/
inductive Chained : UInt8 → List ExtHeader → Prop
  | nil : Chained 0 []
  | cons {extType : UInt8} {h : ExtHeader} {rest : List ExtHeader} (htype : extType ≠ 0)
      (hrest : Chained h.nextType rest) : Chained extType (h :: rest)

end ExtHeader

/-- The bytes do not start with a complete extension header. -/
def Truncated : List UInt8 → Prop
  | [] => True
  | lenUnits :: tail => lenUnits = 0 ∨ (lenUnits :: tail).length < lenUnits.toNat * 4

theorem skipExtHeaders_of_truncated {buf : List UInt8} (htruncated : Truncated buf) :
    skipExtHeaders buf = none := by
  cases buf with
  | nil => rw [skipExtHeaders]
  | cons lenUnits tail =>
      rw [skipExtHeaders]
      by_cases hzero : lenUnits = 0
      · rw [dif_pos hzero]
      · rw [dif_neg hzero, if_pos (htruncated.resolve_left hzero)]

/-- A complete header is skipped, and its last octet says whether another one follows. -/
theorem skipExtHeaders_append (h : ExtHeader) (rest : List UInt8) :
    skipExtHeaders (h.toBytes ++ rest) =
      if h.nextType = 0 then some rest else skipExtHeaders rest := by
  have hlength := h.length_toBytes
  have hdrop : (h.toBytes ++ rest).drop (h.units.toNat * 4) = rest := List.drop_left' hlength
  have hfits : ¬ (h.toBytes ++ rest).length < h.units.toNat * 4 := by
    rw [List.length_append]
    omega
  have hlast : (h.toBytes ++ rest).getD (h.units.toNat * 4 - 1) 0 = h.nextType := by
    have hbefore : (h.units :: h.content).length = h.units.toNat * 4 - 1 := by
      have hcontent := h.length_content
      rw [List.length_cons]
      omega
    have hsplit : h.toBytes ++ rest = (h.units :: h.content) ++ h.nextType :: rest := by
      rw [ExtHeader.toBytes, List.cons_append, List.append_assoc, List.singleton_append,
        List.cons_append]
    rw [hsplit, List.getD_eq_getElem?_getD, ← hbefore, List.getElem?_append_right (Nat.le_refl _),
      Nat.sub_self]
    rfl
  have hcons : h.toBytes ++ rest = h.units :: (h.content ++ [h.nextType] ++ rest) := rfl
  rw [hcons] at hdrop hfits hlast ⊢
  rw [skipExtHeaders, dif_neg h.units_ne_zero]
  simp only [if_neg hfits, hlast, hdrop]

namespace ExtHeader

/-- Headers that each announce another one are skipped. -/
theorem skipExtHeaders_chainBytes {chain : List ExtHeader} (hmore : ∀ h ∈ chain, h.nextType ≠ 0)
    (rest : List UInt8) : skipExtHeaders (chainBytes chain ++ rest) = skipExtHeaders rest := by
  induction chain with
  | nil => rfl
  | cons h chain ih =>
      obtain ⟨hnext, hmore⟩ := List.forall_mem_cons.mp hmore
      rw [chainBytes, List.flatMap_cons, List.append_assoc, skipExtHeaders_append, if_neg hnext]
      exact ih hmore

/-- A chain is skipped up to its end. -/
theorem Chained.skipExtHeaders {extType : UInt8} {chain : List ExtHeader}
    (hchained : Chained extType chain) (htype : extType ≠ 0) (payload : List UInt8) :
    skipExtHeaders (chainBytes chain ++ payload) = some payload := by
  induction hchained with
  | nil => exact absurd rfl htype
  | @cons extType h rest _ hrest ih =>
      rw [chainBytes, List.flatMap_cons, List.append_assoc, skipExtHeaders_append]
      by_cases hnext : h.nextType = 0
      · rw [if_pos hnext]
        rw [hnext] at hrest
        cases hrest with
        | nil => rfl
        | cons hne _ => exact absurd rfl hne
      · rw [if_neg hnext]
        exact ih hnext

end ExtHeader

/-- Bytes that are not truncated start with an extension header. -/
theorem exists_extHeader {lenUnits : UInt8} {tail : List UInt8} (hne : lenUnits ≠ 0)
    (hfits : ¬ (lenUnits :: tail).length < lenUnits.toNat * 4) :
    ∃ h : ExtHeader, h.nextType = (lenUnits :: tail).getD (lenUnits.toNat * 4 - 1) 0 ∧
      lenUnits :: tail = h.toBytes ++ (lenUnits :: tail).drop (lenUnits.toNat * 4) := by
  have hunits : lenUnits.toNat ≠ 0 := fun hzero => hne (UInt8.toNat_inj.mp hzero)
  obtain ⟨k, hk⟩ : ∃ k, lenUnits.toNat * 4 = k + 2 := ⟨lenUnits.toNat * 4 - 2, by omega⟩
  rw [List.length_cons] at hfits
  have hlt : k < tail.length := by omega
  have hcontent : (tail.take k).length + 2 = 4 * lenUnits.toNat := by
    rw [List.length_take]
    omega
  refine ⟨⟨lenUnits, tail.take k, tail[k], hne, hcontent⟩, ?_, ?_⟩
  · have hindex : lenUnits.toNat * 4 - 1 = k + 1 := by omega
    rw [hindex, List.getD_cons_succ, List.getD_eq_getElem _ _ hlt]
  · rw [hk, List.drop_succ_cons, ExtHeader.toBytes, List.cons_append, List.append_assoc,
      List.singleton_append, ← List.drop_eq_getElem_cons hlt, List.take_append_drop]

/-- What is skipped is a chain of extension headers. -/
theorem exists_chain_of_skipExtHeaders {buf payload : List UInt8}
    (hskip : skipExtHeaders buf = some payload) :
    ∀ extType : UInt8, extType ≠ 0 →
      ∃ chain, ExtHeader.Chained extType chain ∧ buf = ExtHeader.chainBytes chain ++ payload := by
  induction buf using skipExtHeaders.induct with
  | case1 =>
      rw [skipExtHeaders] at hskip
      cases hskip
  | case2 tail =>
      rw [skipExtHeaders, dif_pos rfl] at hskip
      cases hskip
  | case3 lenUnits tail hne totalBytes hshort =>
      rw [skipExtHeaders, dif_neg hne, if_pos hshort] at hskip
      cases hskip
  | case4 lenUnits tail hne totalBytes hfits nextType hlast =>
      obtain ⟨h, hnext, hbytes⟩ := exists_extHeader hne hfits
      rw [skipExtHeaders, dif_neg hne, if_neg hfits, if_pos hlast] at hskip
      have hlast' : h.nextType = 0 := hnext.trans hlast
      intro extType htype
      refine ⟨[h], .cons htype (hlast' ▸ .nil), ?_⟩
      rw [ExtHeader.chainBytes, List.flatMap_singleton, ← Option.some.inj hskip]
      exact hbytes
  | case5 lenUnits tail hne totalBytes hfits nextType hmore ih =>
      obtain ⟨h, hnext, hbytes⟩ := exists_extHeader hne hfits
      rw [skipExtHeaders, dif_neg hne, if_neg hfits, if_neg hmore] at hskip
      obtain ⟨chain, hchained, hrest⟩ := ih hskip _ hmore
      intro extType htype
      refine ⟨h :: chain, .cons htype (hnext ▸ hchained), ?_⟩
      rw [ExtHeader.chainBytes, List.flatMap_cons, List.append_assoc, ← ExtHeader.chainBytes,
        ← hrest]
      exact hbytes

/-! ## The loop with checked accesses -/

section Loop

open Checked

/-- One round of the loop over extension headers. -/
def skipExtHeadersRound (buf : List UInt8) :
    Checked (Round (List UInt8) (Option (List UInt8))) :=
  if buf.isEmpty then pure (.done none)
  else do
    let lenUnits ← index buf 0
    if lenUnits = 0 then pure (.done none)
    else do
      let totalBytes ← mul 64 lenUnits.toNat 4
      if buf.length < totalBytes then pure (.done none)
      else do
        let last ← sub totalBytes 1
        let nextType ← index buf last
        let buf ← sliceFrom buf totalBytes
        pure (if nextType = 0 then .done (some buf) else .more buf)

def skipExtHeadersLoop (buf : List UInt8) : Checked (Option (List UInt8)) :=
  whileLoop List.length skipExtHeadersRound buf

/-- A round behind a complete header. -/
theorem skipExtHeadersRound_of_fits {lenUnits : UInt8} {tail : List UInt8} (hne : lenUnits ≠ 0)
    (hfits : ¬ (lenUnits :: tail).length < lenUnits.toNat * 4) :
    skipExtHeadersRound (lenUnits :: tail) =
      .ok (if (lenUnits :: tail).getD (lenUnits.toNat * 4 - 1) 0 = 0
        then .done (some ((lenUnits :: tail).drop (lenUnits.toNat * 4)))
        else .more ((lenUnits :: tail).drop (lenUnits.toNat * 4))) := by
  have hunits : lenUnits.toNat ≠ 0 := fun hzero => hne (UInt8.toNat_inj.mp hzero)
  have hsmall := lenUnits.toNat_lt
  have hlast : lenUnits.toNat * 4 - 1 < (lenUnits :: tail).length := by omega
  have htotal : mul 64 lenUnits.toNat 4 = .ok (lenUnits.toNat * 4) := mul_eq_ok (by omega)
  have hsub : sub (lenUnits.toNat * 4) 1 = .ok (lenUnits.toNat * 4 - 1) := sub_eq_ok (by omega)
  have hrest : sliceFrom (lenUnits :: tail) (lenUnits.toNat * 4) = _ :=
    sliceFrom_eq_ok (Nat.le_of_not_lt hfits)
  rw [skipExtHeadersRound, List.isEmpty_cons, if_neg Bool.false_ne_true, index_cons_zero, ok_bind,
    if_neg hne, htotal, ok_bind, if_neg hfits, hsub, ok_bind, index_eq_ok hlast, ok_bind, hrest,
    ok_bind, ← List.getD_eq_getElem _ 0 hlast]
  rfl

/-- Every round but the last moves behind a header, which has four octets at least, and none makes
an access outside the buffer. -/
theorem skipExtHeadersLoop_eq_ok (buf : List UInt8) :
    skipExtHeadersLoop buf = .ok (skipExtHeaders buf) := by
  apply whileLoop_eq_ok skipExtHeaders
  intro buf
  cases buf with
  | nil => exact Or.inl (by rw [skipExtHeaders]; rfl)
  | cons lenUnits tail =>
      rw [skipExtHeaders]
      by_cases hzero : lenUnits = 0
      · rw [dif_pos hzero, hzero]
        exact Or.inl rfl
      · rw [dif_neg hzero]
        have htotal : mul 64 lenUnits.toNat 4 = .ok (lenUnits.toNat * 4) := by
          have hsmall := lenUnits.toNat_lt
          exact mul_eq_ok (by omega)
        by_cases hshort : (lenUnits :: tail).length < lenUnits.toNat * 4
        · rw [if_pos hshort, skipExtHeadersRound, List.isEmpty_cons, if_neg Bool.false_ne_true,
            index_cons_zero, ok_bind, if_neg hzero, htotal, ok_bind, if_pos hshort]
          exact Or.inl rfl
        · rw [skipExtHeadersRound_of_fits hzero hshort, if_neg hshort]
          simp only
          split
          next => exact Or.inl rfl
          next =>
            refine Or.inr ⟨_, rfl, ?_, rfl⟩
            have hunits : lenUnits.toNat ≠ 0 := fun h => hzero (UInt8.toNat_inj.mp h)
            rw [List.length_drop, List.length_cons]
            omega

end Loop

/-! ## The parser -/

/-- The four optional octets, when one of the three flags announces them. -/
theorem parse_of_hasOptionalFields {bytes : List UInt8} {hdr : GtpuHeader}
    {s0 s1 npdu nextExt : UInt8} {more : List UInt8}
    (hheader : GtpuHeader.parse bytes = some (hdr, s0 :: s1 :: npdu :: nextExt :: more))
    (hoptional : hdr.hasOptionalFields = true) :
    GtpuParser.parse bytes =
      (if nextExt ≠ 0 then skipExtHeaders more else some more).map (⟨hdr, ·⟩) := by
  simp only [GtpuParser.parse, hheader, hoptional, if_true]

/-- Optional octets follow under E, or under one of the two other flags. -/
theorem hasOptionalFields_iff {hdr : GtpuHeader} :
    hdr.hasOptionalFields = true ↔
      hdr.hasExtHdr = true ∨ hdr.flags &&& (GtpuHeader.flagS ||| GtpuHeader.flagPn) ≠ 0 := by
  have hmask : hdr.flags &&& (GtpuHeader.flagE ||| GtpuHeader.flagS ||| GtpuHeader.flagPn) =
      hdr.flags &&& GtpuHeader.flagE |||
        hdr.flags &&& (GtpuHeader.flagS ||| GtpuHeader.flagPn) := by
    rw [UInt8.or_assoc]
    exact UInt8.toBitVec_inj.mp (BitVec.and_or_distrib_left ..)
  rw [GtpuHeader.hasOptionalFields, GtpuHeader.hasExtHdr, decide_eq_true_iff, decide_eq_true_iff,
    hmask, ne_eq, UInt8.or_eq_zero_iff, not_and_or]

/-- The payload behind a chain of extension headers is found. -/
theorem parse_chainBytes {hdr : GtpuHeader} (hext : hdr.hasExtHdr = true)
    {nextExt : UInt8} {chain : List ExtHeader} (hchained : ExtHeader.Chained nextExt chain)
    (s0 s1 npdu : UInt8) (payload : List UInt8) :
    GtpuParser.parse (hdr.toBytes ++
        (s0 :: s1 :: npdu :: nextExt :: (ExtHeader.chainBytes chain ++ payload))) =
      some ⟨hdr, payload⟩ := by
  rw [parse_of_hasOptionalFields (GtpuHeader.parse_toBytes hdr _)
    (hasOptionalFields_iff.mpr (Or.inl hext))]
  by_cases hnext : nextExt = 0
  · subst hnext
    cases hchained with
    | nil => rfl
    | cons hne _ => exact absurd rfl hne
  · rw [if_pos hnext, hchained.skipExtHeaders hnext, Option.map_some]

/-- A chain of extension headers is skipped exactly, and on any bytes the loop ends without an
access outside them, finds nothing behind a truncated header, and otherwise a suffix. -/
theorem extension_chains_skipped :
    (∀ (hdr : GtpuHeader) (s0 s1 npdu nextExt : UInt8) (chain : List ExtHeader)
        (payload : List UInt8), hdr.hasExtHdr = true → ExtHeader.Chained nextExt chain →
      GtpuParser.parse (hdr.toBytes ++
          (s0 :: s1 :: npdu :: nextExt :: (ExtHeader.chainBytes chain ++ payload))) =
        some ⟨hdr, payload⟩) ∧
    ∀ buf : List UInt8,
      skipExtHeadersLoop buf = .ok (skipExtHeaders buf) ∧
      (∀ chain tail, (∀ h ∈ chain, h.nextType ≠ 0) → buf = ExtHeader.chainBytes chain ++ tail →
        Truncated tail → skipExtHeaders buf = none) ∧
      ∀ payload, skipExtHeaders buf = some payload → payload <:+ buf := by
  constructor
  · intro hdr s0 s1 npdu nextExt chain payload hext hchained
    exact parse_chainBytes hext hchained s0 s1 npdu payload
  · intro buf
    refine ⟨skipExtHeadersLoop_eq_ok buf, ?_, ?_⟩
    · rintro chain tail hmore rfl htruncated
      rw [ExtHeader.skipExtHeaders_chainBytes hmore, skipExtHeaders_of_truncated htruncated]
    · intro payload hskip
      obtain ⟨chain, -, hbuf⟩ := exists_chain_of_skipExtHeaders hskip 1 (by decide)
      exact ⟨ExtHeader.chainBytes chain, hbuf.symm⟩

/-- A PDU session container, as user data carries it in 5G, before another header. -/
def pduSessionContainer : ExtHeader := ⟨1, [0x10, 9], 0x82, by decide, rfl⟩

def longPdcpPduNumber : ExtHeader := ⟨2, [0, 0, 7, 0, 0, 0], 0, by decide, rfl⟩

theorem pduSessionContainer_skipped :
    GtpuParser.parse ((⟨0x34, 0xFF, 20, 1⟩ : GtpuHeader).toBytes ++
        (0 :: 0 :: 0 :: 0x85 ::
          (ExtHeader.chainBytes [pduSessionContainer, longPdcpPduNumber] ++ [0x45, 0, 0, 4]))) =
      some ⟨⟨0x34, 0xFF, 20, 1⟩, [0x45, 0, 0, 4]⟩ :=
  extension_chains_skipped.1 ⟨0x34, 0xFF, 20, 1⟩ 0 0 0 0x85
    [pduSessionContainer, longPdcpPduNumber] [0x45, 0, 0, 4] (by decide)
    (.cons (by decide) (.cons (by decide) .nil))

/-! ## The flags -/

/-- The parse the flags ask for: extension headers under E alone, four optional octets under any of
the three flags. -/
def parseByFlags (udpPayload : List UInt8) : Option GtpuPacket :=
  match GtpuHeader.parse udpPayload with
  | none => none
  | some (hdr, rest) =>
      let payload :=
        if hdr.hasExtHdr then
          match rest with
          | _ :: _ :: _ :: nextExt :: more =>
              if nextExt ≠ 0 then skipExtHeaders more else some more
          | _ => none
        else if hdr.flags &&& (GtpuHeader.flagS ||| GtpuHeader.flagPn) ≠ 0 then
          if rest.length < 4 then none else some (rest.drop 4)
        else some rest
      payload.map fun payload => ⟨hdr, payload⟩

/-- The octet that names an extension header under E is zero, is not there, or is read under E. -/
def NoStrayType (udpPayload : List UInt8) : Prop :=
  udpPayload.getD 0 0 &&& GtpuHeader.flagE ≠ 0 ∨
    udpPayload.getD 0 0 &&& (GtpuHeader.flagS ||| GtpuHeader.flagPn) = 0 ∨
      udpPayload.length < 12 ∨ udpPayload.getD 11 0 = 0

theorem length_lt_of_parse_eq_none {bytes : List UInt8}
    (hheader : GtpuHeader.parse bytes = none) : bytes.length < 8 := by
  rcases bytes with _ | ⟨b0, _ | ⟨b1, _ | ⟨b2, _ | ⟨b3, _ | ⟨b4, _ | ⟨b5, _ | ⟨b6, _ |
    ⟨b7, rest⟩⟩⟩⟩⟩⟩⟩⟩
  case cons.cons.cons.cons.cons.cons.cons.cons => cases hheader
  all_goals simp only [List.length_cons, List.length_nil, Nat.reduceAdd, Nat.reduceLT]

/-- The header is read off the first eight bytes. -/
theorem of_parse_eq_some {bytes rest : List UInt8} {hdr : GtpuHeader}
    (hheader : GtpuHeader.parse bytes = some (hdr, rest)) :
    hdr.flags = bytes.getD 0 0 ∧ bytes.length = rest.length + 8 ∧
      bytes.getD 11 0 = rest.getD 3 0 := by
  unfold GtpuHeader.parse at hheader
  split at hheader
  next =>
    cases hheader
    exact ⟨rfl, rfl, rfl⟩
  next => cases hheader

/-- Under S or PN alone, the optional octets are followed by the payload exactly if the last of
them is zero: a chain of extension headers would take up some bytes. -/
theorem parse_optional_iff {bytes rest : List UInt8} {hdr : GtpuHeader}
    (hheader : GtpuHeader.parse bytes = some (hdr, rest))
    (hoptional : hdr.hasOptionalFields = true) :
    GtpuParser.parse bytes =
        (if rest.length < 4 then none else some (rest.drop 4)).map (⟨hdr, ·⟩) ↔
      rest.length < 4 ∨ rest.getD 3 0 = 0 := by
  rcases rest with _ | ⟨s0, _ | ⟨s1, _ | ⟨npdu, _ | ⟨nextExt, more⟩⟩⟩⟩
  case cons.cons.cons.cons =>
    have hlong : ¬ (s0 :: s1 :: npdu :: nextExt :: more).length < 4 := by
      simp only [List.length_cons]
      omega
    have hdrop : (s0 :: s1 :: npdu :: nextExt :: more).drop 4 = more := rfl
    have hget : (s0 :: s1 :: npdu :: nextExt :: more).getD 3 0 = nextExt := rfl
    rw [parse_of_hasOptionalFields hheader hoptional, if_neg hlong, hdrop, hget]
    by_cases hnext : nextExt = 0
    · rw [if_neg (not_not.mpr hnext)]
      exact iff_of_true rfl (Or.inr hnext)
    · rw [if_pos hnext]
      refine iff_of_false ?_ fun hor => hor.elim hlong hnext
      intro hsame
      obtain ⟨payload, hskip, hpacket⟩ := Option.map_eq_some_iff.mp hsame
      have hshorter := length_lt_of_skipExtHeaders hskip
      rw [(GtpuPacket.mk.inj hpacket).2] at hshorter
      exact absurd hshorter (Nat.lt_irrefl _)
  all_goals
    simp [GtpuParser.parse, hheader, hoptional]

/-- The parser follows the flags exactly on the payloads without a stray type. -/
theorem parse_eq_parseByFlags_iff (udpPayload : List UInt8) :
    GtpuParser.parse udpPayload = parseByFlags udpPayload ↔ NoStrayType udpPayload := by
  cases hheader : GtpuHeader.parse udpPayload with
  | none =>
      have hshort := length_lt_of_parse_eq_none hheader
      refine iff_of_true ?_ (Or.inr (Or.inr (Or.inl (by omega))))
      simp only [GtpuParser.parse, parseByFlags, hheader]
  | some pair =>
      obtain ⟨hdr, rest⟩ := pair
      obtain ⟨hflags, hlength, hoctet⟩ := of_parse_eq_some hheader
      rw [NoStrayType, ← hflags, hlength, hoctet]
      have hoptional : hdr.hasOptionalFields = true ↔ _ := hasOptionalFields_iff
      have hext : hdr.hasExtHdr = decide (hdr.flags &&& GtpuHeader.flagE ≠ 0) := rfl
      by_cases he : hdr.flags &&& GtpuHeader.flagE = 0
      · rw [decide_eq_false (not_not.mpr he)] at hext
        rw [hext, Bool.false_eq_true, false_or] at hoptional
        by_cases hs : hdr.flags &&& (GtpuHeader.flagS ||| GtpuHeader.flagPn) = 0
        · -- no flag at all
          refine iff_of_true ?_ (Or.inr (Or.inl hs))
          have hno : hdr.hasOptionalFields = false :=
            Bool.eq_false_iff.mpr fun hyes => hoptional.mp hyes hs
          simp only [GtpuParser.parse, parseByFlags, hheader, hno, hext, hs, ne_eq,
            not_true_eq_false, Bool.false_eq_true, if_false]
        · have hspec : parseByFlags udpPayload =
              (if rest.length < 4 then none else some (rest.drop 4)).map (⟨hdr, ·⟩) := by
            simp only [parseByFlags, hheader, hext, if_pos hs, Bool.false_eq_true, if_false]
          rw [hspec, parse_optional_iff hheader (hoptional.mpr hs)]
          constructor
          · intro hor
            exact Or.inr (Or.inr (hor.imp_left (by omega)))
          · rintro (he' | hs' | hshort | hzero)
            · exact absurd he he'
            · exact absurd hs' hs
            · exact Or.inl (by omega)
            · exact Or.inr hzero
      · -- under E the parser does as the flags say
        refine iff_of_true ?_ (Or.inl he)
        rw [decide_eq_true he] at hext
        have hyes := hoptional.mpr (Or.inl hext)
        rcases rest with _ | ⟨_, _ | ⟨_, _ | ⟨_, _ | ⟨nextExt, more⟩⟩⟩⟩
        all_goals simp only [GtpuParser.parse, parseByFlags, hheader, hyes, hext, if_true]

/-- A sequence number is announced, no extension header, and the octet for its type is not zero:
the payload is taken for a chain. -/
theorem strayType_not_parseByFlags :
    GtpuParser.parse [0x32, 0xFF, 0, 8, 0, 0, 0, 1, 0, 5, 0, 0x85, 0x45, 0, 0, 4] ≠
      parseByFlags [0x32, 0xFF, 0, 8, 0, 0, 0, 1, 0, 5, 0, 0x85, 0x45, 0, 0, 4] := by
  have hskip : skipExtHeaders [0x45, 0, 0, 4] = none :=
    skipExtHeaders_of_truncated (Or.inr (by decide))
  have hparse :
      GtpuParser.parse [0x32, 0xFF, 0, 8, 0, 0, 0, 1, 0, 5, 0, 0x85, 0x45, 0, 0, 4] =
        (skipExtHeaders [0x45, 0, 0, 4]).map (⟨⟨0x32, 0xFF, 8, 1⟩, ·⟩) := rfl
  have hflags : parseByFlags [0x32, 0xFF, 0, 8, 0, 0, 0, 1, 0, 5, 0, 0x85, 0x45, 0, 0, 4] =
      some ⟨⟨0x32, 0xFF, 8, 1⟩, [0x45, 0, 0, 4]⟩ := rfl
  rw [hparse, hskip, hflags, Option.map_none]
  intro hsame
  cases hsame

end Midn.Gtp
