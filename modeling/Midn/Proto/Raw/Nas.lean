import Midn.Proto.Nas.Codec
import Midn.Proto.Raw.NasIe
import Midn.Proto.Raw.NasSecurity

/-!
# NAS codec with checked accesses

The decoders of the plain EPS messages and of the protected envelope, with every access, copy and
conversion checked. What a message says about its own lengths is read in the fields, so the scan of
the optional fields of an Attach Accept is a loop with rounds of its own.
-/

namespace Midn.Nas.Raw

open Checked

/-! ## Message decoders -/

def decodeAttachRequest (body : List UInt8) : Checked (Except ProtoError NasPdu) :=
  if body.isEmpty then pure (.error (.tooShort 3 0))
  else do
    let octet ← index body 0
    let rest ← sliceFrom body 1
    match ← readLv rest with
    | none => pure (.error (.malformedNas "missing mobile identity"))
    | some (identityBytes, rest) => do
        let imsi ← decodeImsi identityBytes
        let cap ← readLv rest
        pure (.ok (.attachRequest
          { epsAttachType := octet &&& 0x07
            nasKsi := (octet >>> 4) &&& 0x07
            imsi := imsi
            ueNetworkCap := match cap with
              | some (cap, _) => cap
              | none => [] }))

def decodeAuthRequest (body : List UInt8) : Checked (Except ProtoError NasPdu) :=
  if body.length < 1 then pure (.error (.tooShort 35 body.length))
  else do
    let octet ← index body 0
    let rest ← sliceFrom body 1
    match ← readLv rest with
    | none => pure (.error (.malformedNas "missing RAND"))
    | some (randBytes, rest) =>
        if randBytes.length ≠ 16 then
          pure (.error (.malformedNas "RAND must be exactly 16 bytes"))
        else do
          let rand ← unwrap (Octets.ofSlice? 16 randBytes)
          match ← readLv rest with
          | none => pure (.error (.malformedNas "missing AUTN"))
          | some (autnBytes, _) =>
              if autnBytes.length ≠ 16 then
                pure (.error (.malformedNas "AUTN must be exactly 16 bytes"))
              else do
                let autn ← unwrap (Octets.ofSlice? 16 autnBytes)
                pure (.ok (.authenticationRequest ⟨(octet >>> 4) &&& 0x07, rand, autn⟩))

def decodeAuthResponse (body : List UInt8) : Checked (Except ProtoError NasPdu) := do
  match ← readLv body with
  | none => pure (.error (.malformedNas "missing RES"))
  | some (resBytes, _) =>
      if resBytes.length ≠ 8 then pure (.error (.malformedNas "RES must be exactly 8 bytes"))
      else do
        let res ← unwrap (Octets.ofSlice? 8 resBytes)
        pure (.ok (.authenticationResponse ⟨res⟩))

def decodeSecModeCmd (body : List UInt8) : Checked (Except ProtoError NasPdu) :=
  if body.length < 2 then pure (.error (.tooShort 2 body.length))
  else do
    let algorithms ← index body 0
    let (eea, eia) := decodeSecurityAlgorithms algorithms
    let ksi ← index body 1
    pure (.ok (.securityModeCommand ⟨eea, eia, (ksi >>> 4) &&& 0x07⟩))

def decodeDetachRequest (body : List UInt8) : Checked (Except ProtoError NasPdu) :=
  if body.isEmpty then pure (.error (.tooShort 1 0))
  else do
    let byte ← index body 0
    pure (.ok (.detachRequest
      { detachType := byte &&& 0x07
        switchOff := (byte >>> 3) &&& 0x01 ≠ 0
        nasKsi := (byte >>> 4) &&& 0x07 }))

/-! ## The optional fields of an Attach Accept -/

/-- The bytes still to be scanned, and the message so far. -/
abbrev Scan := List UInt8 × DecodedAttachAccept

/-- The GUTI is looked for from the field at hand on. -/
def gutiRound (remaining : List UInt8) (accept : DecodedAttachAccept) :
    Checked (Round Scan DecodedAttachAccept) := do
  let found ← findTlv remaining ieiGuti
  let field ← match found with
    | some suffix => readTlv suffix
    | none => pure none
  match field with
  | none => pure (.done accept)
  | some (_, val, r) =>
      if val.length = 10 then do
        let guti ← copyFromSlice 10 val
        pure (.more (r, { accept with guti := some guti }))
      else pure (.more (r, accept))

/-- The address type is read only if the address is there. -/
def pdnAddrRound (remaining : List UInt8) (accept : DecodedAttachAccept) :
    Checked (Round Scan DecodedAttachAccept) := do
  match ← readTlv remaining with
  | none => pure (.done accept)
  | some (_, val, r) => do
      let ipv4 ←
        if val.length ≥ 5 then do
          let kind ← index val 0
          pure (decide (kind = 0x01))
        else pure false
      if ipv4 then do
        let address ← slice val 1 5
        let ip ← copyFromSlice 4 address
        pure (.more (r, { accept with ipAddress := some ip }))
      else pure (.more (r, accept))

def apnRound (remaining : List UInt8) (accept : DecodedAttachAccept) :
    Checked (Round Scan DecodedAttachAccept) := do
  match ← readTlv remaining with
  | none => pure (.done accept)
  | some (_, val, r) => pure (.more (r, { accept with apn := String.fromUTF8? ⟨val.toArray⟩ }))

/-- Skip an unknown field. -/
def skipRound (remaining : List UInt8) (accept : DecodedAttachAccept) :
    Checked (Round Scan DecodedAttachAccept) :=
  if remaining.length < 2 then pure (.done accept)
  else do
    let len ← index remaining 1
    let skip ← add 64 len.toNat 2
    if remaining.length < skip then pure (.done accept)
    else do
      let rest ← sliceFrom remaining skip
      pure (.more (rest, accept))

def attachAcceptRound : Scan → Checked (Round Scan DecodedAttachAccept)
  | (remaining, accept) =>
      if remaining.length < 2 then pure (.done accept)
      else do
        let iei ← index remaining 0
        if iei = ieiGuti then gutiRound remaining accept
        else if iei = ieiPdnAddr then pdnAddrRound remaining accept
        else if iei = ieiApn then apnRound remaining accept
        else skipRound remaining accept

def attachAcceptIes (remaining : List UInt8) (accept : DecodedAttachAccept) :
    Checked DecodedAttachAccept :=
  whileLoop (fun scan => scan.1.length) attachAcceptRound (remaining, accept)

def decodeAttachAccept (body : List UInt8) : Checked (Except ProtoError NasPdu) :=
  if body.length < 2 then pure (.error (.tooShort 2 body.length))
  else do
    let result ← index body 0
    let t3412Value ← index body 1
    let rest ← sliceFrom body 2
    let tai ← readLv rest
    let rest := match tai with
      | some (_, r) => r
      | none => rest
    let accept ← attachAcceptIes rest ⟨result &&& 0x07, t3412Value, none, none, none⟩
    pure (.ok (.attachAccept accept))

/-! ## The decoder -/

def decodeMessage (msgType : UInt8) (body : List UInt8) : Checked (Except ProtoError NasPdu) :=
  if msgType = mtAttachRequest then decodeAttachRequest body
  else if msgType = mtAuthenticationRequest then decodeAuthRequest body
  else if msgType = mtAuthenticationResponse then decodeAuthResponse body
  else if msgType = mtSecurityModeCommand then decodeSecModeCmd body
  else if msgType = mtSecurityModeComplete then pure (.ok .securityModeComplete)
  else if msgType = mtAttachAccept then decodeAttachAccept body
  else if msgType = mtAttachComplete then pure (.ok .attachComplete)
  else if msgType = mtDetachRequest then decodeDetachRequest body
  else if msgType = mtDetachAccept then pure (.ok .detachAccept)
  else pure (.error (.unknownGtpMsgType msgType))

def decodeNas (buf : List UInt8) : Checked (Except ProtoError NasPdu) :=
  if buf.length < 2 then pure (.error (.tooShort 2 buf.length))
  else do
    let first ← index buf 0
    if first &&& 0x0F ≠ nasEpsMmPd &&& 0x0F then
      pure (.error (.malformedNas "expected EPS-MM protocol discriminator 0x7"))
    else if (first >>> 4) &&& 0x0F ≠ 0 then
      pure (.error (.malformedNas "protected NAS not supported in Phase 2"))
    else do
      let msgType ← index buf 1
      let body ← sliceFrom buf 2
      decodeMessage msgType body

/-! ## Protected envelope -/

def decodeEnvelope (buf : List UInt8) : Checked (Option (Octets 4 × UInt8 × List UInt8)) :=
  if buf.length < 6 then pure none
  else do
    let first ← index buf 0
    if (first >>> 4) &&& 0x0F = shtPlain then pure none
    else do
      let mac ← slice buf 1 5
      let macI ← copyFromSlice 4 mac
      let seqByte ← index buf 5
      let ciphertext ← sliceFrom buf 6
      pure (some (macI, seqByte, ciphertext))

variable (P : Primitives)

def decodeProtected (ctx : NasSecurityContext) (buf : List UInt8) (bearer : UInt8) :
    Checked (Option (List UInt8) × NasSecurityContext) := do
  match ← decodeEnvelope buf with
  | none => pure (none, ctx)
  | some (macI, seqByte, ciphertext) =>
      NasSecurityContext.unprotectUplink P ctx bearer seqByte macI ciphertext

def decodeProtectedDownlink (ctx : NasSecurityContext) (buf : List UInt8) (bearer : UInt8) :
    Checked (Option (List UInt8) × NasSecurityContext) := do
  match ← decodeEnvelope buf with
  | none => pure (none, ctx)
  | some (macI, seqByte, ciphertext) =>
      NasSecurityContext.unprotectDownlink P ctx bearer seqByte macI ciphertext

/-! ## Without faults -/

theorem decodeAttachRequest_eq_ok (body : List UInt8) :
    decodeAttachRequest body = .ok (Nas.decodeAttachRequest body) := by
  cases body with
  | nil => rfl
  | cons octet rest =>
      rw [decodeAttachRequest, Nas.decodeAttachRequest, List.isEmpty_cons,
        if_neg Bool.false_ne_true, head_bind_rest, readLv_eq_ok, ok_bind]
      cases Nas.readLv rest with
      | none => rfl
      | some found =>
          cases hcap : Nas.readLv found.2 with
          | none => simp only [decodeImsi_eq_ok, readLv_eq_ok, hcap, ok_bind, pure_eq_ok]
          | some cap => simp only [decodeImsi_eq_ok, readLv_eq_ok, hcap, ok_bind, pure_eq_ok]

theorem decodeAuthRequest_eq_ok (body : List UInt8) :
    decodeAuthRequest body = .ok (Nas.decodeAuthRequest body) := by
  cases body with
  | nil => rfl
  | cons octet rest =>
      have hlong : ¬ (octet :: rest).length < 1 := by
        rw [List.length_cons]
        omega
      rw [decodeAuthRequest, Nas.decodeAuthRequest, if_neg hlong, head_bind_rest, readLv_eq_ok,
        ok_bind]
      cases Nas.readLv rest with
      | none => rfl
      | some found =>
          simp only [unwrap_of_length, readLv_eq_ok, ok_bind]
          cases Octets.ofSlice? 16 found.1 with
          | none => rfl
          | some rand =>
              rw [Option.elim_some]
              cases Nas.readLv found.2 with
              | none => rfl
              | some found =>
                  simp only
                  cases Octets.ofSlice? 16 found.1 <;> rfl

theorem decodeAuthResponse_eq_ok (body : List UInt8) :
    decodeAuthResponse body = .ok (Nas.decodeAuthResponse body) := by
  rw [decodeAuthResponse, Nas.decodeAuthResponse, readLv_eq_ok, ok_bind]
  cases Nas.readLv body with
  | none => rfl
  | some found =>
      simp only [unwrap_of_length]
      cases Octets.ofSlice? 8 found.1 <;> rfl

theorem decodeSecModeCmd_eq_ok (body : List UInt8) :
    decodeSecModeCmd body = .ok (Nas.decodeSecModeCmd body) := by
  rcases body with _ | ⟨algorithms, _ | ⟨ksi, rest⟩⟩
  · rfl
  · rfl
  · have hlong := not_length_lt_two algorithms ksi rest
    rw [decodeSecModeCmd, if_neg hlong]
    rfl

theorem decodeDetachRequest_eq_ok (body : List UInt8) :
    decodeDetachRequest body = .ok (Nas.decodeDetachRequest body) := by
  cases body <;> rfl

/-! ## The scan uses fields up -/

def withGuti (accept : DecodedAttachAccept) (value : List UInt8) : DecodedAttachAccept :=
  match Octets.ofSlice? 10 value with
  | some guti => { accept with guti := some guti }
  | none => accept

def withIpAddress (accept : DecodedAttachAccept) : List UInt8 → DecodedAttachAccept
  | kind :: a :: b :: c :: d :: _ =>
      if kind = 0x01 then
        { accept with ipAddress := some ⟨[a, b, c, d], Octets.length_four a b c d⟩ }
      else accept
  | _ => accept

/-- What one field adds to the message. -/
def withField (accept : DecodedAttachAccept) (iei : UInt8) (value : List UInt8) :
    DecodedAttachAccept :=
  if iei = ieiGuti then withGuti accept value
  else if iei = ieiPdnAddr then withIpAddress accept value
  else if iei = ieiApn then { accept with apn := String.fromUTF8? ⟨value.toArray⟩ }
  else accept

theorem attachAcceptIes_cons (iei len : UInt8) (buf : List UInt8) (accept : DecodedAttachAccept) :
    Nas.attachAcceptIes (iei :: len :: buf) accept =
      if buf.length < len.toNat then accept
      else Nas.attachAcceptIes (buf.drop len.toNat)
        (withField accept iei (buf.take len.toNat)) := by
  rw [Nas.attachAcceptIes]
  rfl

/-- The end of the scan at a field that is cut short, or what is left behind a whole one. -/
def afterField (len : UInt8) (buf : List UInt8) (accept accept' : DecodedAttachAccept) :
    Round Scan DecodedAttachAccept :=
  if buf.length < len.toNat then .done accept else .more (buf.drop len.toNat, accept')

theorem readTlv_cons (iei len : UInt8) (buf : List UInt8) :
    Nas.readTlv (iei :: len :: buf) =
      if buf.length < len.toNat then none
      else some (iei, buf.take len.toNat, buf.drop len.toNat) := by
  rw [Nas.readTlv, Nas.readLv]
  by_cases hshort : buf.length < len.toNat
  · rw [if_pos hshort, if_pos hshort]
  · rw [if_neg hshort, if_neg hshort]

section Field

variable (iei len : UInt8) (buf : List UInt8) (accept : DecodedAttachAccept)

/-- The GUTI that is looked for is the field at hand. -/
theorem gutiRound_eq_ok :
    gutiRound (ieiGuti :: len :: buf) accept =
      .ok (afterField len buf accept (withGuti accept (buf.take len.toNat))) := by
  have hfound : Nas.findTlv ieiGuti (ieiGuti :: len :: buf) = some (ieiGuti :: len :: buf) := by
    rw [Nas.findTlv, if_pos rfl]
  rw [gutiRound, findTlv_eq_ok, ok_bind, hfound]
  simp only [readTlv_eq_ok, ok_bind, readTlv_cons, afterField]
  by_cases hshort : buf.length < len.toNat
  · rw [if_pos hshort, if_pos hshort, pure_eq_ok]
  · rw [if_neg hshort, if_neg hshort]
    simp only [copy_of_length, withGuti]
    cases Octets.ofSlice? 10 (buf.take len.toNat) <;> rfl

theorem pdnAddrRound_eq_ok :
    pdnAddrRound (iei :: len :: buf) accept =
      .ok (afterField len buf accept (withIpAddress accept (buf.take len.toNat))) := by
  rw [pdnAddrRound, readTlv_eq_ok, ok_bind, readTlv_cons, afterField]
  by_cases hshort : buf.length < len.toNat
  · rw [if_pos hshort, if_pos hshort, pure_eq_ok]
  · rw [if_neg hshort, if_neg hshort]
    generalize buf.take len.toNat = value
    rcases value with _ | ⟨kind, _ | ⟨a, _ | ⟨b, _ | ⟨c, _ | ⟨d, rest⟩⟩⟩⟩⟩
    · rfl
    · rfl
    · rfl
    · rfl
    · rfl
    · have hlong : (kind :: a :: b :: c :: d :: rest).length ≥ 5 := by
        simp only [List.length_cons]
        omega
      simp only [if_pos hlong, index_cons_zero, ok_bind, pure_eq_ok, decide_eq_true_eq,
        withIpAddress]
      by_cases hkind : kind = 0x01
      · have haddress : slice (kind :: a :: b :: c :: d :: rest) 1 5 = .ok [a, b, c, d] := by
          rw [slice_eq_ok (by omega) hlong]
          rfl
        rw [if_pos hkind, if_pos hkind, haddress]
        rfl
      · rw [if_neg hkind, if_neg hkind]

theorem apnRound_eq_ok :
    apnRound (iei :: len :: buf) accept = .ok (afterField len buf accept
      { accept with apn := String.fromUTF8? ⟨(buf.take len.toNat).toArray⟩ }) := by
  rw [apnRound, readTlv_eq_ok, ok_bind, readTlv_cons, afterField]
  by_cases hshort : buf.length < len.toNat
  · rw [if_pos hshort, if_pos hshort, pure_eq_ok]
  · rw [if_neg hshort, if_neg hshort]
    rfl

theorem skipRound_eq_ok :
    skipRound (iei :: len :: buf) accept = .ok (afterField len buf accept accept) := by
  have hlen : len.toNat < 256 := len.toNat_lt
  have hlong := not_length_lt_two iei len buf
  rw [skipRound, if_neg hlong, index_cons_succ, index_cons_zero, ok_bind, add_eq_ok (by omega),
    ok_bind, List.length_cons, List.length_cons, afterField]
  by_cases hshort : buf.length < len.toNat
  · rw [if_pos (by omega), if_pos hshort, pure_eq_ok]
  · rw [if_neg (by omega), if_neg hshort, sliceFrom_cons_succ, sliceFrom_cons_succ,
      sliceFrom_eq_ok (by omega), ok_bind, pure_eq_ok]

theorem attachAcceptRound_eq_ok :
    attachAcceptRound (iei :: len :: buf, accept) =
      .ok (afterField len buf accept (withField accept iei (buf.take len.toNat))) := by
  have hlong := not_length_lt_two iei len buf
  rw [attachAcceptRound, if_neg hlong, index_cons_zero, ok_bind, withField]
  by_cases hguti : iei = ieiGuti
  · rw [if_pos hguti, if_pos hguti, hguti, gutiRound_eq_ok]
  · rw [if_neg hguti, if_neg hguti]
    by_cases haddr : iei = ieiPdnAddr
    · rw [if_pos haddr, if_pos haddr, pdnAddrRound_eq_ok]
    · rw [if_neg haddr, if_neg haddr]
      by_cases hapn : iei = ieiApn
      · rw [if_pos hapn, if_pos hapn, apnRound_eq_ok]
      · rw [if_neg hapn, if_neg hapn, skipRound_eq_ok]

end Field

/-- Every round but the last moves behind a field, which has two octets at least. -/
theorem attachAcceptIes_eq_ok (remaining : List UInt8) (accept : DecodedAttachAccept) :
    attachAcceptIes remaining accept = .ok (Nas.attachAcceptIes remaining accept) := by
  apply whileLoop_eq_ok fun scan : Scan => Nas.attachAcceptIes scan.1 scan.2
  rintro ⟨remaining, accept⟩
  rcases remaining with _ | ⟨iei, _ | ⟨len, buf⟩⟩
  · exact Or.inl (by rw [Nas.attachAcceptIes.eq_def]; rfl)
  · exact Or.inl (by rw [Nas.attachAcceptIes.eq_def]; rfl)
  · rw [attachAcceptRound_eq_ok, afterField, attachAcceptIes_cons]
    by_cases hshort : buf.length < len.toNat
    · rw [if_pos hshort, if_pos hshort]
      exact Or.inl rfl
    · rw [if_neg hshort, if_neg hshort]
      refine Or.inr ⟨_, rfl, ?_, rfl⟩
      simp only [List.length_drop, List.length_cons]
      omega

theorem decodeAttachAccept_eq_ok (body : List UInt8) :
    decodeAttachAccept body = .ok (Nas.decodeAttachAccept body) := by
  rcases body with _ | ⟨result, _ | ⟨t3412Value, rest⟩⟩
  · rfl
  · rfl
  · have hlong := not_length_lt_two result t3412Value rest
    rw [decodeAttachAccept, if_neg hlong, index_cons_zero, ok_bind, index_cons_succ,
      index_cons_zero, ok_bind, sliceFrom_cons_succ, sliceFrom_cons_succ, sliceFrom_zero, ok_bind,
      readLv_eq_ok, ok_bind, Nas.decodeAttachAccept]
    cases Nas.readLv rest with
    | none => simp only [attachAcceptIes_eq_ok, ok_bind, pure_eq_ok]
    | some tai => simp only [attachAcceptIes_eq_ok, ok_bind, pure_eq_ok]

/-! ## Whole messages -/

theorem decodeMessage_eq_ok (msgType : UInt8) (body : List UInt8) :
    decodeMessage msgType body = .ok (Nas.decodeMessage msgType body) := by
  simp only [decodeMessage, Nas.decodeMessage, decodeAttachRequest_eq_ok, decodeAuthRequest_eq_ok,
    decodeAuthResponse_eq_ok, decodeSecModeCmd_eq_ok, decodeAttachAccept_eq_ok,
    decodeDetachRequest_eq_ok, pure_eq_ok, apply_ite Except.ok]

theorem decodeNas_eq_ok (buf : List UInt8) : decodeNas buf = .ok (Nas.decodeNas buf) := by
  rcases buf with _ | ⟨first, _ | ⟨msgType, body⟩⟩
  · rfl
  · rfl
  · have hlong := not_length_lt_two first msgType body
    rw [decodeNas, if_neg hlong, index_cons_zero, ok_bind, index_cons_succ, index_cons_zero,
      ok_bind, sliceFrom_cons_succ, sliceFrom_cons_succ, sliceFrom_zero, ok_bind,
      decodeMessage_eq_ok, Nas.decodeNas]
    simp only [pure_eq_ok, apply_ite Except.ok]

theorem decodeEnvelope_eq_ok (buf : List UInt8) :
    decodeEnvelope buf = .ok (Nas.decodeEnvelope buf) := by
  rcases buf with _ | ⟨first, _ | ⟨a, _ | ⟨b, _ | ⟨c, _ | ⟨d, _ | ⟨seqByte, ciphertext⟩⟩⟩⟩⟩⟩
  · rfl
  · rfl
  · rfl
  · rfl
  · rfl
  · rfl
  · have hlong : 6 ≤ (first :: a :: b :: c :: d :: seqByte :: ciphertext).length := by
      simp only [List.length_cons]
      omega
    have hmac : slice (first :: a :: b :: c :: d :: seqByte :: ciphertext) 1 5 =
        .ok [a, b, c, d] := by
      rw [slice_eq_ok (by omega) (by omega)]
      rfl
    rw [decodeEnvelope, if_neg (Nat.not_lt.mpr hlong), index_cons_zero, ok_bind, hmac, ok_bind,
      Nas.decodeEnvelope]
    by_cases hplain : (first >>> 4) &&& 0x0F = shtPlain
    · rw [if_pos hplain, if_pos hplain, pure_eq_ok]
    · rw [if_neg hplain, if_neg hplain]
      rfl

/-- The ciphertext is a part of the buffer. -/
theorem decodeEnvelope_length {buf : List UInt8} {macI : Octets 4} {seqByte : UInt8}
    {ciphertext : List UInt8}
    (henvelope : Nas.decodeEnvelope buf = some (macI, seqByte, ciphertext)) :
    ciphertext.length ≤ buf.length := by
  unfold Nas.decodeEnvelope at henvelope
  split at henvelope
  next first a b c d seqByte' ciphertext' =>
    by_cases hplain : (first >>> 4) &&& 0x0F = shtPlain
    · rw [if_pos hplain] at henvelope
      cases henvelope
    · rw [if_neg hplain] at henvelope
      cases henvelope
      simp only [List.length_cons]
      omega
  next => cases henvelope

section Protected

variable (ctx : NasSecurityContext) (buf : Checked.ByteSlice) (bearer : UInt8)

theorem decodeProtected_eq_ok :
    decodeProtected P ctx buf.bytes bearer = .ok (Nas.decodeProtected P ctx buf.bytes bearer) := by
  rw [decodeProtected, decodeEnvelope_eq_ok, ok_bind, Nas.decodeProtected]
  cases henvelope : Nas.decodeEnvelope buf.bytes with
  | none => rfl
  | some fields =>
      have hciphertext := Nat.lt_of_le_of_lt (decodeEnvelope_length henvelope) buf.length_lt
      exact NasSecurityContext.unprotectUplink_eq_ok P ctx bearer _ _ hciphertext

theorem decodeProtectedDownlink_eq_ok :
    decodeProtectedDownlink P ctx buf.bytes bearer =
      .ok (Nas.decodeProtectedDownlink P ctx buf.bytes bearer) := by
  rw [decodeProtectedDownlink, decodeEnvelope_eq_ok, ok_bind, Nas.decodeProtectedDownlink]
  cases henvelope : Nas.decodeEnvelope buf.bytes with
  | none => rfl
  | some fields =>
      have hciphertext := Nat.lt_of_le_of_lt (decodeEnvelope_length henvelope) buf.length_lt
      exact NasSecurityContext.unprotectDownlink_eq_ok P ctx bearer _ _ hciphertext

end Protected

end Midn.Nas.Raw
