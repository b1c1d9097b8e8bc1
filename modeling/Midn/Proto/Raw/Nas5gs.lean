import Midn.Proto.Nas5gs.Codec
import Midn.Proto.Raw.NasIe
import Midn.Proto.Raw.NasSecurity

/-!
# NAS-5GS codec with checked accesses

The decoders of the plain 5GS messages and of the protected envelope, with every access, copy and
conversion checked. The tracking areas of a Registration Accept are read in a loop of their own.
-/

namespace Midn.Nas5gs.Raw

open Checked
open Midn.Nas (Direction nasBearer reconstructCount)
open Midn.Nas.Raw (readLv readLv_eq_ok unprotectWith unprotectWith_eq_ok)

/-! ## Message decoders -/

def readCapability (rest : List UInt8) : Checked UInt16 := do
  match ← readLv rest with
  | some (cap, _) =>
      if cap.length ≥ 2 then do
        let hi ← index cap 0
        let lo ← index cap 1
        pure (UInt16.fromBeBytes ⟨[hi, lo], Octets.length_two hi lo⟩)
      else pure 0
  | none => pure 0

def decodeRegistrationRequest (body : List UInt8) : Checked (Except ProtoError Nas5gsPdu) :=
  if body.isEmpty then pure (.error (.tooShort 1 0))
  else do
    let octet ← index body 0
    let rest ← sliceFrom body 1
    match ← readLv rest with
    | none => pure (.error (.malformedNas5gs "missing 5GS mobile identity"))
    | some (identityBytes, rest) => do
        let guti ←
          if identityBytes.length = 11 then do
            let g ← copyFromSlice 11 identityBytes
            pure (some g)
          else pure none
        let ueSecurityCap ← readCapability rest
        pure (.ok (.registrationRequest
          { registrationType := octet &&& 0x07
            ngKsi := (octet >>> 4) &&& 0x07
            guti := guti
            ueSecurityCap := ueSecurityCap }))

def decodeIdentityRequest (body : List UInt8) : Checked (Except ProtoError Nas5gsPdu) :=
  if body.isEmpty then pure (.error (.tooShort 1 0))
  else do
    let octet ← index body 0
    pure (.ok (.identityRequest (octet &&& 0x0F)))

/-- The fields of a SUCI at their places in the flat payload. -/
def readSuci (v : List UInt8) : Checked Suci := do
  let v0 ← index v 0
  let v1 ← index v 1
  let v2 ← index v 2
  let v3 ← index v 3
  let v4 ← index v 4
  let v5 ← index v 5
  let v6 ← index v 6
  let v7 ← index v 7
  let v8 ← index v 8
  let v9 ← index v 9
  let v10 ← index v 10
  let v11 ← index v 11
  let v12 ← index v 12
  let v13 ← index v 13
  let v14 ← index v 14
  pure
    { mcc := ⟨[v0, v1, v2], Octets.length_three v0 v1 v2⟩
      mnc := ⟨[v3, v4, v5], Octets.length_three v3 v4 v5⟩
      routingIndicator := UInt16.fromBeBytes ⟨[v6, v7], Octets.length_two v6 v7⟩
      protectionScheme := v8
      homeNetworkPki := v9
      msin := ⟨[v10, v11, v12, v13, v14], Octets.length_five v10 v11 v12 v13 v14⟩ }

def decodeIdentityResponse (body : List UInt8) : Checked (Except ProtoError Nas5gsPdu) := do
  match ← readLv body with
  | none => pure (.error (.malformedNas5gs "missing 5GS mobile identity"))
  | some (identityBytes, _) =>
      if identityBytes.isEmpty then pure (.error (.malformedNas5gs "empty 5GS mobile identity"))
      else do
        let tag ← index identityBytes 0
        let idType := tag &&& 0x07
        if idType = idtypeSuci then
          if identityBytes.length < 16 then
            pure (.error (.malformedNas5gs "SUCI payload too short"))
          else do
            let v ← slice identityBytes 1 16
            let suci ← readSuci v
            pure (.ok (.identityResponse ⟨some suci, none, none⟩))
        else if idType = idtype5gGuti then
          if identityBytes.length ≠ 11 then
            pure (.error (.malformedNas5gs "5G-GUTI must be exactly 11 bytes"))
          else do
            let guti ← copyFromSlice 11 identityBytes
            pure (.ok (.identityResponse ⟨none, some guti, none⟩))
        else do
          let payload ← sliceFrom identityBytes 1
          pure (.ok (.identityResponse ⟨none, none, some payload⟩))

def decodeAuthRequest (body : List UInt8) : Checked (Except ProtoError Nas5gsPdu) :=
  if body.isEmpty then pure (.error (.tooShort 33 0))
  else do
    let octet ← index body 0
    let rest ← sliceFrom body 1
    match ← readLv rest with
    | none => pure (.error (.malformedNas5gs "missing RAND"))
    | some (randBytes, rest) =>
        if randBytes.length ≠ 16 then
          pure (.error (.malformedNas5gs "RAND must be exactly 16 bytes"))
        else do
          let rand ← unwrap (Octets.ofSlice? 16 randBytes)
          match ← readLv rest with
          | none => pure (.error (.malformedNas5gs "missing AUTN"))
          | some (autnBytes, _) =>
              if autnBytes.length ≠ 16 then
                pure (.error (.malformedNas5gs "AUTN must be exactly 16 bytes"))
              else do
                let autn ← unwrap (Octets.ofSlice? 16 autnBytes)
                pure (.ok (.authenticationRequest ⟨(octet >>> 4) &&& 0x07, rand, autn⟩))

def decodeAuthResponse (body : List UInt8) : Checked (Except ProtoError Nas5gsPdu) := do
  match ← readLv body with
  | none => pure (.error (.malformedNas5gs "missing RES*"))
  | some (resBytes, _) =>
      if resBytes.length ≠ 16 then
        pure (.error (.malformedNas5gs "RES* must be exactly 16 bytes"))
      else do
        let resStar ← unwrap (Octets.ofSlice? 16 resBytes)
        pure (.ok (.authenticationResponse ⟨resStar⟩))

def decodeSecModeCmd (body : List UInt8) : Checked (Except ProtoError Nas5gsPdu) :=
  if body.isEmpty then pure (.error (.tooShort 1 0))
  else do
    let algorithms ← index body 0
    let rest ← sliceFrom body 1
    let replayedUeSecCap ← readCapability rest
    pure (.ok (.securityModeCommand
      { nasCipherAlg := (algorithms >>> 4) &&& 0x0F
        nasIntegrityAlg := algorithms &&& 0x0F
        replayedUeSecCap := replayedUeSecCap }))

/-- Push one tracking area, if there are bytes for another. -/
def taiRound : List UInt8 × List (Octets 6) →
    Checked (Round (List UInt8 × List (Octets 6)) (List (Octets 6)))
  | (rest, taiList) =>
      if rest.length ≥ 6 then do
        let entry ← slice rest 0 6
        let tai ← copyFromSlice 6 entry
        let rest ← sliceFrom rest 6
        pure (.more (rest, taiList ++ [tai]))
      else pure (.done taiList)

/-- Everything behind the first octet of a nonempty list. -/
def readTaiList (taiBytes : List UInt8) : Checked (List (Octets 6)) :=
  if !taiBytes.isEmpty then do
    let rest ← sliceFrom taiBytes 1
    whileLoop (fun scan => scan.1.length) taiRound (rest, [])
  else pure []

def decodeRegistrationAccept (body : List UInt8) : Checked (Except ProtoError Nas5gsPdu) :=
  if body.isEmpty then pure (.error (.tooShort 1 0))
  else do
    let result ← index body 0
    let rest ← sliceFrom body 1
    match ← readLv rest with
    | none => pure (.error (.malformedNas5gs "missing 5G-GUTI"))
    | some (gutiBytes, rest) =>
        if gutiBytes.length ≠ 11 then
          pure (.error (.malformedNas5gs "5G-GUTI must be exactly 11 bytes"))
        else do
          let guti ← copyFromSlice 11 gutiBytes
          match ← readLv rest with
          | none => pure (.error (.malformedNas5gs "missing TAI list"))
          | some (taiBytes, _) => do
              let taiList ← readTaiList taiBytes
              pure (.ok (.registrationAccept ⟨result &&& 0x07, guti, taiList⟩))

def decodeRegistrationReject (body : List UInt8) : Checked (Except ProtoError Nas5gsPdu) :=
  if body.isEmpty then pure (.error (.tooShort 1 0))
  else do
    let cause ← index body 0
    pure (.ok (.registrationReject cause))

def decodeDeregistrationRequest (body : List UInt8) : Checked (Except ProtoError Nas5gsPdu) :=
  if body.isEmpty then pure (.error (.tooShort 1 0))
  else do
    let octet ← index body 0
    pure (.ok (.deregistrationRequest (octet &&& 0x01 ≠ 0)))

/-! ## The decoder -/

def decodeMessage (msgType : UInt8) (body : List UInt8) : Checked (Except ProtoError Nas5gsPdu) :=
  if msgType = mtRegistrationRequest then decodeRegistrationRequest body
  else if msgType = mtIdentityRequest then decodeIdentityRequest body
  else if msgType = mtIdentityResponse then decodeIdentityResponse body
  else if msgType = mtAuthenticationRequest then decodeAuthRequest body
  else if msgType = mtAuthenticationResponse then decodeAuthResponse body
  else if msgType = mtAuthenticationReject then pure (.ok .authenticationReject)
  else if msgType = mtSecurityModeCommand then decodeSecModeCmd body
  else if msgType = mtSecurityModeComplete then pure (.ok .securityModeComplete)
  else if msgType = mtRegistrationAccept then decodeRegistrationAccept body
  else if msgType = mtRegistrationComplete then pure (.ok .registrationComplete)
  else if msgType = mtRegistrationReject then decodeRegistrationReject body
  else if msgType = mtDeregistrationRequest then decodeDeregistrationRequest body
  else if msgType = mtDeregistrationAccept then pure (.ok .deregistrationAccept)
  else pure (.error (.unknownGtpMsgType msgType))

def decodeNas5gs (buf : List UInt8) : Checked (Except ProtoError Nas5gsPdu) :=
  if buf.length < 3 then pure (.error (.tooShort 3 buf.length))
  else do
    let epd ← index buf 0
    if epd ≠ nas5gsMmEpd then
      pure (.error (.malformedNas5gs
        "expected 5GS Mobility Management extended protocol discriminator 0x7E"))
    else do
      let header ← index buf 1
      if header &&& 0x0F ≠ nas5gsShtPlain then
        pure (.error (.malformedNas5gs
          "protected 5GS NAS not supported — nas5gs::security not implemented yet"))
      else do
        let msgType ← index buf 2
        let body ← sliceFrom buf 3
        decodeMessage msgType body

/-! ## Protected envelope -/

def decodeEnvelope (buf : List UInt8) : Checked (Option (Octets 4 × UInt8 × List UInt8)) :=
  if buf.length < 7 then pure none
  else do
    let epd ← index buf 0
    if epd ≠ nas5gsMmEpd then pure none
    else do
      let header ← index buf 1
      if header &&& 0x0F = nas5gsShtPlain then pure none
      else do
        let mac ← slice buf 2 6
        let macI ← copyFromSlice 4 mac
        let seqByte ← index buf 6
        let ciphertext ← sliceFrom buf 7
        pure (some (macI, seqByte, ciphertext))

variable (P : Primitives)

namespace Nas5gsSecurityContext

def unprotect (ctx : Nas5gsSecurityContext) (count : UInt32) (dir : Direction) (macI : Octets 4)
    (ciphertext : List UInt8) : Checked (Option (List UInt8)) :=
  unprotectWith P ctx.kNasEnc ctx.kNasInt (!ctx.cipherIsNull) (!ctx.integrityIsNull) count
    nasBearer dir macI ciphertext

/-- The COUNT wraps around without a fault. -/
def unprotectUplink (ctx : Nas5gsSecurityContext) (seqByte : UInt8) (macI : Octets 4)
    (ciphertext : List UInt8) : Checked (Option (List UInt8) × Nas5gsSecurityContext) := do
  let count := reconstructCount ctx.ulCount seqByte
  match ← unprotect P ctx count .uplink macI ciphertext with
  | none => pure (none, ctx)
  | some plain => pure (some plain, { ctx with ulCount := count + 1 })

def unprotectDownlink (ctx : Nas5gsSecurityContext) (seqByte : UInt8) (macI : Octets 4)
    (ciphertext : List UInt8) : Checked (Option (List UInt8) × Nas5gsSecurityContext) := do
  let count := reconstructCount ctx.dlCount seqByte
  match ← unprotect P ctx count .downlink macI ciphertext with
  | none => pure (none, ctx)
  | some plain => pure (some plain, { ctx with dlCount := count + 1 })

end Nas5gsSecurityContext

def decodeProtected (ctx : Nas5gsSecurityContext) (buf : List UInt8) :
    Checked (Option (List UInt8) × Nas5gsSecurityContext) := do
  match ← decodeEnvelope buf with
  | none => pure (none, ctx)
  | some (macI, seqByte, ciphertext) =>
      Nas5gsSecurityContext.unprotectUplink P ctx seqByte macI ciphertext

def decodeProtectedDownlink (ctx : Nas5gsSecurityContext) (buf : List UInt8) :
    Checked (Option (List UInt8) × Nas5gsSecurityContext) := do
  match ← decodeEnvelope buf with
  | none => pure (none, ctx)
  | some (macI, seqByte, ciphertext) =>
      Nas5gsSecurityContext.unprotectDownlink P ctx seqByte macI ciphertext

/-! ## Without faults -/

theorem readCapability_eq_ok (rest : List UInt8) :
    readCapability rest = .ok (Nas5gs.readCapability rest) := by
  rw [readCapability, Nas5gs.readCapability, readLv_eq_ok, ok_bind]
  cases Nas.readLv rest with
  | none => rfl
  | some found =>
      obtain ⟨cap, tail⟩ := found
      rcases cap with _ | ⟨hi, _ | ⟨lo, cap⟩⟩
      · rfl
      · rfl
      · have hlong : (hi :: lo :: cap).length ≥ 2 := by
          simp only [List.length_cons]
          omega
        simp only [if_pos hlong]
        rfl

theorem decodeRegistrationRequest_eq_ok (body : List UInt8) :
    decodeRegistrationRequest body = .ok (Nas5gs.decodeRegistrationRequest body) := by
  cases body with
  | nil => rfl
  | cons octet rest =>
      rw [decodeRegistrationRequest, Nas5gs.decodeRegistrationRequest, List.isEmpty_cons,
        if_neg Bool.false_ne_true, head_bind_rest, readLv_eq_ok, ok_bind]
      cases Nas.readLv rest with
      | none => rfl
      | some found =>
          simp only [copy_of_length, readCapability_eq_ok, ok_bind]
          cases Octets.ofSlice? 11 found.1 <;> rfl

theorem decodeIdentityRequest_eq_ok (body : List UInt8) :
    decodeIdentityRequest body = .ok (Nas5gs.decodeIdentityRequest body) := by
  cases body <;> rfl

/-- Fifteen bytes behind the identity type are a SUCI, and fewer are none. -/
theorem readSuci_eq_ok (tag : UInt8) (payload : List UInt8) :
    ((tag :: payload).length < 16 ∧ decodeSuci payload = none) ∨
      (¬ (tag :: payload).length < 16 ∧ ∃ v suci, slice (tag :: payload) 1 16 = .ok v ∧
        readSuci v = .ok suci ∧ decodeSuci payload = some suci) := by
  rcases payload with _ | ⟨v0, _ | ⟨v1, _ | ⟨v2, _ | ⟨v3, _ | ⟨v4, _ | ⟨v5, _ | ⟨v6, _ | ⟨v7,
    _ | ⟨v8, _ | ⟨v9, _ | ⟨v10, _ | ⟨v11, _ | ⟨v12, _ | ⟨v13, _ | ⟨v14, rest⟩⟩⟩⟩⟩⟩⟩⟩⟩⟩⟩⟩⟩⟩⟩
  rotate_right
  · have hlong : 16 ≤ (tag :: v0 :: v1 :: v2 :: v3 :: v4 :: v5 :: v6 :: v7 :: v8 :: v9 :: v10 ::
        v11 :: v12 :: v13 :: v14 :: rest).length := by
      simp only [List.length_cons]
      omega
    exact Or.inr ⟨Nat.not_lt.mpr hlong, _, _, slice_eq_ok (Nat.le_add_left 1 15) hlong, rfl, rfl⟩
  all_goals
    refine Or.inl ⟨?_, rfl⟩
    simp only [List.length_cons, List.length_nil]
    omega

theorem decodeIdentityResponse_eq_ok (body : List UInt8) :
    decodeIdentityResponse body = .ok (Nas5gs.decodeIdentityResponse body) := by
  rw [decodeIdentityResponse, Nas5gs.decodeIdentityResponse, readLv_eq_ok, ok_bind]
  cases Nas.readLv body with
  | none => rfl
  | some found =>
      obtain ⟨identityBytes, rest⟩ := found
      cases identityBytes with
      | nil => rfl
      | cons tag payload =>
          simp only [List.isEmpty_cons, Bool.false_eq_true, if_false, index_cons_zero, ok_bind]
          by_cases hsuci : tag &&& 0x07 = idtypeSuci
          · rw [if_pos hsuci, if_pos hsuci]
            rcases readSuci_eq_ok tag payload with
              ⟨hshort, hnone⟩ | ⟨hlong, v, suci, hv, hread, hsome⟩
            · rw [if_pos hshort, hnone, pure_eq_ok]
            · rw [if_neg hlong, hv, ok_bind, hread, ok_bind, hsome, pure_eq_ok]
          · rw [if_neg hsuci, if_neg hsuci]
            by_cases hguti : tag &&& 0x07 = idtype5gGuti
            · simp only [if_pos hguti, ne_eq, ite_not, copy_of_length]
              cases Octets.ofSlice? 11 (tag :: payload) <;> rfl
            · rw [if_neg hguti, if_neg hguti, sliceFrom_cons_succ, sliceFrom_zero, ok_bind,
                pure_eq_ok]

theorem decodeAuthRequest_eq_ok (body : List UInt8) :
    decodeAuthRequest body = .ok (Nas5gs.decodeAuthRequest body) := by
  cases body with
  | nil => rfl
  | cons octet rest =>
      rw [decodeAuthRequest, Nas5gs.decodeAuthRequest, List.isEmpty_cons,
        if_neg Bool.false_ne_true, head_bind_rest, readLv_eq_ok, ok_bind]
      cases Nas.readLv rest with
      | none => rfl
      | some found =>
          simp only [unwrap_of_length, readLv_eq_ok, ok_bind]
          cases Octets.ofSlice? 16 found.1 with
          | none => rfl
          | some rand =>
              rw [Option.elim_some]
              cases Nas.readLv found.2 with
              | none => rfl
              | some found =>
                  simp only
                  cases Octets.ofSlice? 16 found.1 <;> rfl

theorem decodeAuthResponse_eq_ok (body : List UInt8) :
    decodeAuthResponse body = .ok (Nas5gs.decodeAuthResponse body) := by
  rw [decodeAuthResponse, Nas5gs.decodeAuthResponse, readLv_eq_ok, ok_bind]
  cases Nas.readLv body with
  | none => rfl
  | some found =>
      simp only [unwrap_of_length]
      cases Octets.ofSlice? 16 found.1 <;> rfl

theorem decodeSecModeCmd_eq_ok (body : List UInt8) :
    decodeSecModeCmd body = .ok (Nas5gs.decodeSecModeCmd body) := by
  cases body with
  | nil => rfl
  | cons algorithms rest =>
      rw [decodeSecModeCmd, List.isEmpty_cons, if_neg Bool.false_ne_true, head_bind_rest,
        readCapability_eq_ok]
      rfl

/-- Every round but the last pushes an entry of six octets. -/
theorem readTaiEntries_eq_ok (scan : List UInt8 × List (Octets 6)) :
    whileLoop (fun scan => scan.1.length) taiRound scan =
      .ok (scan.2 ++ readTaiEntries scan.1) := by
  apply whileLoop_eq_ok fun scan : List UInt8 × List (Octets 6) => scan.2 ++ readTaiEntries scan.1
  rintro ⟨rest, taiList⟩
  rcases rest with _ | ⟨a, _ | ⟨b, _ | ⟨c, _ | ⟨d, _ | ⟨e, _ | ⟨f, rest⟩⟩⟩⟩⟩⟩
  all_goals try exact Or.inl (by rw [readTaiEntries.eq_def, List.append_nil]; rfl)
  have hlong : 6 ≤ (a :: b :: c :: d :: e :: f :: rest).length := by
    simp only [List.length_cons]
    omega
  rw [taiRound, if_pos hlong, slice_eq_ok (Nat.zero_le _) hlong]
  refine Or.inr ⟨(rest, taiList ++ [⟨[a, b, c, d, e, f], rfl⟩]), rfl, ?_, ?_⟩
  · simp only [List.length_cons]
    omega
  · simp only [readTaiEntries, List.append_assoc]
    rfl

theorem readTaiList_eq_ok (taiBytes : List UInt8) :
    readTaiList taiBytes = .ok (readTaiEntries taiBytes.tail) := by
  cases taiBytes with
  | nil => rfl
  | cons head taiBytes =>
      rw [readTaiList, List.isEmpty_cons, Bool.not_false, if_pos rfl, sliceFrom_cons_succ,
        sliceFrom_zero, ok_bind, readTaiEntries_eq_ok]
      rfl

theorem decodeRegistrationAccept_eq_ok (body : List UInt8) :
    decodeRegistrationAccept body = .ok (Nas5gs.decodeRegistrationAccept body) := by
  cases body with
  | nil => rfl
  | cons result rest =>
      rw [decodeRegistrationAccept, Nas5gs.decodeRegistrationAccept, List.isEmpty_cons,
        if_neg Bool.false_ne_true, head_bind_rest, readLv_eq_ok, ok_bind]
      cases Nas.readLv rest with
      | none => rfl
      | some found =>
          simp only [ne_eq, ite_not, copy_of_length, readLv_eq_ok, readTaiList_eq_ok, ok_bind]
          cases Octets.ofSlice? 11 found.1 with
          | none => rfl
          | some guti =>
              rw [Option.elim_some]
              cases Nas.readLv found.2 <;> rfl

theorem decodeRegistrationReject_eq_ok (body : List UInt8) :
    decodeRegistrationReject body = .ok (Nas5gs.decodeRegistrationReject body) := by
  cases body <;> rfl

theorem decodeDeregistrationRequest_eq_ok (body : List UInt8) :
    decodeDeregistrationRequest body = .ok (Nas5gs.decodeDeregistrationRequest body) := by
  cases body <;> rfl

/-! ## Whole messages -/

theorem decodeMessage_eq_ok (msgType : UInt8) (body : List UInt8) :
    decodeMessage msgType body = .ok (Nas5gs.decodeMessage msgType body) := by
  simp only [decodeMessage, Nas5gs.decodeMessage, decodeRegistrationRequest_eq_ok,
    decodeIdentityRequest_eq_ok, decodeIdentityResponse_eq_ok, decodeAuthRequest_eq_ok,
    decodeAuthResponse_eq_ok, decodeSecModeCmd_eq_ok, decodeRegistrationAccept_eq_ok,
    decodeRegistrationReject_eq_ok, decodeDeregistrationRequest_eq_ok, pure_eq_ok,
    apply_ite Except.ok]

theorem decodeNas5gs_eq_ok (buf : List UInt8) :
    decodeNas5gs buf = .ok (Nas5gs.decodeNas5gs buf) := by
  rcases buf with _ | ⟨epd, _ | ⟨header, _ | ⟨msgType, body⟩⟩⟩
  · rfl
  · rfl
  · rfl
  · have hlong : ¬ (epd :: header :: msgType :: body).length < 3 := by
      simp only [List.length_cons]
      omega
    rw [decodeNas5gs, if_neg hlong, index_cons_zero, ok_bind, Nas5gs.decodeNas5gs]
    simp only [index_cons_succ, index_cons_zero, sliceFrom_cons_succ, sliceFrom_zero, ok_bind,
      decodeMessage_eq_ok, pure_eq_ok, apply_ite Except.ok]

theorem decodeEnvelope_eq_ok (buf : List UInt8) :
    decodeEnvelope buf = .ok (Nas5gs.decodeEnvelope buf) := by
  rcases buf with _ | ⟨epd, _ | ⟨header, _ | ⟨a, _ | ⟨b, _ | ⟨c, _ | ⟨d, _ |
    ⟨seqByte, ciphertext⟩⟩⟩⟩⟩⟩⟩
  · rfl
  · rfl
  · rfl
  · rfl
  · rfl
  · rfl
  · rfl
  · have hlong : 7 ≤ (epd :: header :: a :: b :: c :: d :: seqByte :: ciphertext).length := by
      simp only [List.length_cons]
      omega
    have hmac : slice (epd :: header :: a :: b :: c :: d :: seqByte :: ciphertext) 2 6 =
        .ok [a, b, c, d] := by
      rw [slice_eq_ok (by omega) (by omega)]
      rfl
    rw [decodeEnvelope, if_neg (Nat.not_lt.mpr hlong), index_cons_zero, ok_bind,
      Nas5gs.decodeEnvelope]
    by_cases hepd : epd ≠ nas5gsMmEpd
    · rw [if_pos hepd, if_pos hepd, pure_eq_ok]
    · rw [if_neg hepd, if_neg hepd, index_cons_succ, index_cons_zero, ok_bind, hmac, ok_bind]
      by_cases hplain : header &&& 0x0F = nas5gsShtPlain
      · rw [if_pos hplain, if_pos hplain, pure_eq_ok]
      · rw [if_neg hplain, if_neg hplain]
        rfl

/-- The ciphertext is a part of the buffer. -/
theorem decodeEnvelope_length {buf : List UInt8} {macI : Octets 4} {seqByte : UInt8}
    {ciphertext : List UInt8}
    (henvelope : Nas5gs.decodeEnvelope buf = some (macI, seqByte, ciphertext)) :
    ciphertext.length ≤ buf.length := by
  unfold Nas5gs.decodeEnvelope at henvelope
  split at henvelope
  next epd header a b c d seqByte' ciphertext' =>
    by_cases hepd : epd ≠ nas5gsMmEpd
    · rw [if_pos hepd] at henvelope
      cases henvelope
    · rw [if_neg hepd] at henvelope
      by_cases hplain : header &&& 0x0F = nas5gsShtPlain
      · rw [if_pos hplain] at henvelope
        cases henvelope
      · rw [if_neg hplain] at henvelope
        cases henvelope
        simp only [List.length_cons]
        omega
  next => cases henvelope

section Protected

variable (ctx : Nas5gsSecurityContext)

namespace Nas5gsSecurityContext

variable (seqByte : UInt8) (macI : Octets 4) {ciphertext : List UInt8}

theorem unprotect_eq_ok (count : UInt32) (dir : Direction)
    (hciphertext : ciphertext.length < 2 ^ 63) :
    unprotect P ctx count dir macI ciphertext = .ok (ctx.unprotect P count dir macI ciphertext) :=
  unprotectWith_eq_ok P _ _ _ _ _ _ _ _ hciphertext

theorem unprotectUplink_eq_ok (hciphertext : ciphertext.length < 2 ^ 63) :
    unprotectUplink P ctx seqByte macI ciphertext =
      .ok (ctx.unprotectUplink P seqByte macI ciphertext) := by
  simp only [unprotectUplink, unprotect_eq_ok P ctx _ _ _ hciphertext, ok_bind,
    Nas5gs.Nas5gsSecurityContext.unprotectUplink]
  cases ctx.unprotect P (reconstructCount ctx.ulCount seqByte) .uplink macI ciphertext with
  | none => rfl
  | some plain => rfl

theorem unprotectDownlink_eq_ok (hciphertext : ciphertext.length < 2 ^ 63) :
    unprotectDownlink P ctx seqByte macI ciphertext =
      .ok (ctx.unprotectDownlink P seqByte macI ciphertext) := by
  simp only [unprotectDownlink, unprotect_eq_ok P ctx _ _ _ hciphertext, ok_bind,
    Nas5gs.Nas5gsSecurityContext.unprotectDownlink]
  cases ctx.unprotect P (reconstructCount ctx.dlCount seqByte) .downlink macI ciphertext with
  | none => rfl
  | some plain => rfl

end Nas5gsSecurityContext

variable (buf : Checked.ByteSlice)

theorem decodeProtected_eq_ok :
    decodeProtected P ctx buf.bytes = .ok (Nas5gs.decodeProtected P ctx buf.bytes) := by
  rw [decodeProtected, decodeEnvelope_eq_ok, ok_bind, Nas5gs.decodeProtected]
  cases henvelope : Nas5gs.decodeEnvelope buf.bytes with
  | none => rfl
  | some fields =>
      have hciphertext := Nat.lt_of_le_of_lt (decodeEnvelope_length henvelope) buf.length_lt
      exact Nas5gsSecurityContext.unprotectUplink_eq_ok P ctx _ _ hciphertext

theorem decodeProtectedDownlink_eq_ok :
    decodeProtectedDownlink P ctx buf.bytes =
      .ok (Nas5gs.decodeProtectedDownlink P ctx buf.bytes) := by
  rw [decodeProtectedDownlink, decodeEnvelope_eq_ok, ok_bind, Nas5gs.decodeProtectedDownlink]
  cases henvelope : Nas5gs.decodeEnvelope buf.bytes with
  | none => rfl
  | some fields =>
      have hciphertext := Nat.lt_of_le_of_lt (decodeEnvelope_length henvelope) buf.length_lt
      exact Nas5gsSecurityContext.unprotectDownlink_eq_ok P ctx _ _ hciphertext

end Protected

end Midn.Nas5gs.Raw
