import Midn.Proto.Nas.Security

/-!
# NAS codec

Encoders and the decoder of the plain EPS mobility management messages of the attach and detach
procedures, and the protected envelope around them. The UE uses the uplink encoder and the
downlink decoder of the envelope, the network the other two.
-/

namespace Midn.Nas

def nasEpsMmPd : UInt8 := 0x07
def nasPlainHeader : UInt8 := 0x07

def mtAttachRequest : UInt8 := 0x41
def mtAttachAccept : UInt8 := 0x42
def mtAttachComplete : UInt8 := 0x43
def mtDetachRequest : UInt8 := 0x45
def mtDetachAccept : UInt8 := 0x46
def mtAuthenticationRequest : UInt8 := 0x52
def mtAuthenticationResponse : UInt8 := 0x53
def mtSecurityModeCommand : UInt8 := 0x5D
def mtSecurityModeComplete : UInt8 := 0x5E

def ieiGuti : UInt8 := 0x50
def ieiApn : UInt8 := 0x28
def ieiPdnAddr : UInt8 := 0x29

def shtPlain : UInt8 := 0
def shtIntegrityCiphered : UInt8 := 2

/-! ## Decoded messages -/

structure DecodedAttachRequest where
  epsAttachType : UInt8
  nasKsi : UInt8
  /-- Subscriber identity if provided, else a GUTI attach. -/
  imsi : Option UInt64
  ueNetworkCap : List UInt8
deriving DecidableEq

structure DecodedAuthenticationRequest where
  nasKsi : UInt8
  rand : Octets 16
  autn : Octets 16
deriving DecidableEq

structure DecodedAuthenticationResponse where
  res : Octets 8
deriving DecidableEq

structure DecodedSecurityModeCommand where
  eea : NasEeaAlgorithm
  eia : NasEiaAlgorithm
  nasKsi : UInt8
deriving DecidableEq

structure DecodedAttachAccept where
  attachResult : UInt8
  t3412Value : UInt8
  guti : Option (Octets 10)
  ipAddress : Option (Octets 4)
  apn : Option String
deriving DecidableEq

structure DecodedDetachRequest where
  detachType : UInt8
  switchOff : Bool
  nasKsi : UInt8
deriving DecidableEq

/-- A decoded plain NAS PDU. -/
inductive NasPdu where
  | attachRequest (inner : DecodedAttachRequest)
  | authenticationRequest (inner : DecodedAuthenticationRequest)
  | authenticationResponse (inner : DecodedAuthenticationResponse)
  | securityModeCommand (inner : DecodedSecurityModeCommand)
  | securityModeComplete
  | attachAccept (inner : DecodedAttachAccept)
  | attachComplete
  | detachRequest (inner : DecodedDetachRequest)
  | detachAccept
deriving DecidableEq

/-! ## Message decoders -/

def decodeAttachRequest : List UInt8 → Except ProtoError NasPdu
  | [] => .error (.tooShort 3 0)
  | octet :: rest =>
      match readLv rest with
      | none => .error (.malformedNas "missing mobile identity")
      | some (identityBytes, rest) =>
          let ueNetworkCap := match readLv rest with
            | some (cap, _) => cap
            | none => []
          .ok (.attachRequest
            { epsAttachType := octet &&& 0x07
              nasKsi := (octet >>> 4) &&& 0x07
              imsi := decodeImsi identityBytes
              ueNetworkCap := ueNetworkCap })

def decodeAuthRequest : List UInt8 → Except ProtoError NasPdu
  | [] => .error (.tooShort 35 0)
  | octet :: rest =>
      match readLv rest with
      | none => .error (.malformedNas "missing RAND")
      | some (randBytes, rest) =>
          match Octets.ofSlice? 16 randBytes with
          | none => .error (.malformedNas "RAND must be exactly 16 bytes")
          | some rand =>
              match readLv rest with
              | none => .error (.malformedNas "missing AUTN")
              | some (autnBytes, _) =>
                  match Octets.ofSlice? 16 autnBytes with
                  | none => .error (.malformedNas "AUTN must be exactly 16 bytes")
                  | some autn =>
                      .ok (.authenticationRequest ⟨(octet >>> 4) &&& 0x07, rand, autn⟩)

def decodeAuthResponse (body : List UInt8) : Except ProtoError NasPdu :=
  match readLv body with
  | none => .error (.malformedNas "missing RES")
  | some (resBytes, _) =>
      match Octets.ofSlice? 8 resBytes with
      | none => .error (.malformedNas "RES must be exactly 8 bytes")
      | some res => .ok (.authenticationResponse ⟨res⟩)

def decodeSecModeCmd : List UInt8 → Except ProtoError NasPdu
  | algorithms :: ksi :: _ =>
      let (eea, eia) := decodeSecurityAlgorithms algorithms
      .ok (.securityModeCommand ⟨eea, eia, (ksi >>> 4) &&& 0x07⟩)
  | body => .error (.tooShort 2 body.length)

/-- The optional IEs of an Attach Accept; unknown ones are skipped, and a field cut short ends
the scan. -/
def attachAcceptIes (remaining : List UInt8) (accept : DecodedAttachAccept) :
    DecodedAttachAccept :=
  match remaining with
  | iei :: len :: buf =>
      if buf.length < len.toNat then accept
      else
        let value := buf.take len.toNat
        let accept :=
          if iei = ieiGuti then
            match Octets.ofSlice? 10 value with
            | some guti => { accept with guti := some guti }
            | none => accept
          else if iei = ieiPdnAddr then
            match value with
            | kind :: a :: b :: c :: d :: _ =>
                if kind = 0x01 then
                  { accept with ipAddress := some ⟨[a, b, c, d], Octets.length_four a b c d⟩ }
                else accept
            | _ => accept
          else if iei = ieiApn then
            { accept with apn := String.fromUTF8? ⟨value.toArray⟩ }
          else accept
        attachAcceptIes (buf.drop len.toNat) accept
  | _ => accept
termination_by remaining.length
decreasing_by simp only [List.length_drop, List.length_cons]; omega

def decodeAttachAccept : List UInt8 → Except ProtoError NasPdu
  | result :: t3412Value :: rest =>
      -- the mandatory TAI list is skipped
      let rest := match readLv rest with
        | some (_, r) => r
        | none => rest
      .ok (.attachAccept (attachAcceptIes rest ⟨result &&& 0x07, t3412Value, none, none, none⟩))
  | body => .error (.tooShort 2 body.length)

def decodeDetachRequest : List UInt8 → Except ProtoError NasPdu
  | [] => .error (.tooShort 1 0)
  | byte :: _ =>
      .ok (.detachRequest
        { detachType := byte &&& 0x07
          switchOff := (byte >>> 3) &&& 0x01 ≠ 0
          nasKsi := (byte >>> 4) &&& 0x07 })

/-- Dispatch on the message type octet. -/
def decodeMessage (msgType : UInt8) (body : List UInt8) : Except ProtoError NasPdu :=
  if msgType = mtAttachRequest then decodeAttachRequest body
  else if msgType = mtAuthenticationRequest then decodeAuthRequest body
  else if msgType = mtAuthenticationResponse then decodeAuthResponse body
  else if msgType = mtSecurityModeCommand then decodeSecModeCmd body
  else if msgType = mtSecurityModeComplete then .ok .securityModeComplete
  else if msgType = mtAttachAccept then decodeAttachAccept body
  else if msgType = mtAttachComplete then .ok .attachComplete
  else if msgType = mtDetachRequest then decodeDetachRequest body
  else if msgType = mtDetachAccept then .ok .detachAccept
  else .error (.unknownGtpMsgType msgType)

/-- Parse a plain NAS PDU; a nonzero security header type is refused. -/
def decodeNas : List UInt8 → Except ProtoError NasPdu
  | first :: msgType :: body =>
      if first &&& 0x0F ≠ nasEpsMmPd &&& 0x0F then
        .error (.malformedNas "expected EPS-MM protocol discriminator 0x7")
      else if (first >>> 4) &&& 0x0F ≠ 0 then
        .error (.malformedNas "protected NAS not supported in Phase 2")
      else decodeMessage msgType body
  | buf => .error (.tooShort 2 buf.length)

/-- Only the message type and the body matter under the plain header. -/
theorem decodeNas_plainHeader (msgType : UInt8) (body : List UInt8) :
    decodeNas (nasPlainHeader :: msgType :: body) = decodeMessage msgType body := by
  have hpd : ¬ nasPlainHeader &&& 0x0F ≠ nasEpsMmPd &&& 0x0F := by decide
  have hsht : ¬ (nasPlainHeader >>> 4) &&& 0x0F ≠ 0 := by decide
  rw [decodeNas, if_neg hpd, if_neg hsht]

/-! ## Message encoders -/

def encodeAttachRequest (imsi : UInt64) (epsAttachType nasKsi : UInt8) : List UInt8 :=
  [nasPlainHeader, mtAttachRequest, ((nasKsi &&& 0x07) <<< 4) ||| (epsAttachType &&& 0x07)] ++
    writeLv (encodeImsi imsi) ++ writeLv [0x20, 0x40]

def encodeAuthRequest (nasKsi : UInt8) (rand autn : Octets 16) : List UInt8 :=
  [nasPlainHeader, mtAuthenticationRequest, (nasKsi &&& 0x07) <<< 4] ++
    writeLv rand.toList ++ writeLv autn.toList

def encodeAuthResponse (res : Octets 8) : List UInt8 :=
  [nasPlainHeader, mtAuthenticationResponse] ++ writeLv res.toList

def encodeSecModeCmd (eea : NasEeaAlgorithm) (eia : NasEiaAlgorithm) (nasKsi : UInt8)
    (ueCap : List UInt8) : List UInt8 :=
  [nasPlainHeader, mtSecurityModeCommand, encodeSecurityAlgorithms eea eia,
    (nasKsi &&& 0x07) <<< 4] ++ writeLv ueCap

def encodeSecModeComplete : List UInt8 := [nasPlainHeader, mtSecurityModeComplete]

def encodeAttachAccept (attachResult t3412Value : UInt8) (taiList : List (Octets 5))
    (ipAddress : Option (Octets 4)) (apn : Option String) : List UInt8 :=
  [nasPlainHeader, mtAttachAccept, attachResult &&& 0x07, t3412Value] ++
    (if taiList = [] then writeLv []
     else writeLv (((UInt8.ofNat taiList.length - 1) ||| 0x18) ::
       taiList.flatMap List.Vector.toList)) ++
    (match ipAddress with
     | some ip => writeTlv ieiPdnAddr (0x01 :: ip.toList)
     | none => []) ++
    (match apn with
     | some name => writeTlv ieiApn name.toUTF8.toList
     | none => [])

def encodeAttachComplete : List UInt8 := [nasPlainHeader, mtAttachComplete]

def encodeDetachRequest (detachType : UInt8) (switchOff : Bool) (nasKsi : UInt8)
    (guti : Octets 10) : List UInt8 :=
  [nasPlainHeader, mtDetachRequest,
    ((nasKsi &&& 0x07) <<< 4) ||| ((switchOff.toUInt8 &&& 0x01) <<< 3) ||| (detachType &&& 0x07)] ++
    writeLv guti.toList

def encodeDetachAccept : List UInt8 := [nasPlainHeader, mtDetachAccept]

/-! ## Lengths -/

theorem length_encodeAuthRequest (nasKsi : UInt8) (rand autn : Octets 16) :
    (encodeAuthRequest nasKsi rand autn).length = 37 := by
  simp [encodeAuthRequest, writeLv]

theorem length_encodeSecModeCmd (eea : NasEeaAlgorithm) (eia : NasEiaAlgorithm) (nasKsi : UInt8)
    (ueCap : List UInt8) : (encodeSecModeCmd eea eia nasKsi ueCap).length = 5 + ueCap.length := by
  simp only [encodeSecModeCmd, writeLv, List.length_append, List.length_cons, List.length_nil]
  omega

/-! ## Plain round trips -/

/-- An attach request for a 15-digit IMSI decodes to that IMSI. -/
theorem decodeNas_encodeAttachRequest {imsi : UInt64} (epsAttachType nasKsi : UInt8)
    (himsi : imsi.toNat < 10 ^ 15) :
    ∃ inner, decodeNas (encodeAttachRequest imsi epsAttachType nasKsi) =
      .ok (.attachRequest inner) ∧ inner.imsi = some imsi := by
  have hidentity := readLv_writeLv (encodeImsi imsi) (writeLv [0x20, 0x40]) (by simp)
  have hdecode := decodeImsi_encodeImsi himsi
  simp only [encodeAttachRequest, List.cons_append, List.nil_append, decodeNas_plainHeader,
    decodeMessage, if_true, decodeAttachRequest, hidentity, hdecode]
  exact ⟨_, rfl, rfl⟩

theorem decodeNas_encodeAuthRequest (nasKsi : UInt8) (rand autn : Octets 16) :
    decodeNas (encodeAuthRequest nasKsi rand autn) =
      .ok (.authenticationRequest ⟨(((nasKsi &&& 0x07) <<< 4) >>> 4) &&& 0x07, rand, autn⟩) := by
  have hrand := readLv_writeLv rand.toList (writeLv autn.toList) (by simp)
  have hautn := readLv_writeLv autn.toList [] (by simp)
  rw [List.append_nil] at hautn
  simp only [encodeAuthRequest, List.cons_append, List.nil_append, decodeNas_plainHeader]
  simp [decodeMessage, mtAttachRequest, mtAuthenticationRequest, decodeAuthRequest, hrand, hautn]

@[simp] theorem decodeNas_encodeAuthResponse (res : Octets 8) :
    decodeNas (encodeAuthResponse res) = .ok (.authenticationResponse ⟨res⟩) := by
  have hres := readLv_writeLv res.toList [] (by simp)
  rw [List.append_nil] at hres
  simp only [encodeAuthResponse, List.cons_append, List.nil_append, decodeNas_plainHeader]
  simp [decodeMessage, mtAttachRequest, mtAuthenticationRequest, mtAuthenticationResponse,
    decodeAuthResponse, hres]

theorem decodeNas_encodeSecModeCmd (eea : NasEeaAlgorithm) (eia : NasEiaAlgorithm)
    (nasKsi : UInt8) (ueCap : List UInt8) :
    decodeNas (encodeSecModeCmd eea eia nasKsi ueCap) =
      .ok (.securityModeCommand ⟨eea, eia, (((nasKsi &&& 0x07) <<< 4) >>> 4) &&& 0x07⟩) := by
  simp only [encodeSecModeCmd, List.cons_append, List.nil_append, decodeNas_plainHeader]
  simp [decodeMessage, mtAttachRequest, mtAuthenticationRequest, mtAuthenticationResponse,
    mtSecurityModeCommand, decodeSecModeCmd]

@[simp] theorem decodeNas_encodeSecModeComplete :
    decodeNas encodeSecModeComplete = .ok .securityModeComplete := by
  decide

@[simp] theorem decodeNas_encodeDetachAccept :
    decodeNas encodeDetachAccept = .ok .detachAccept := by
  decide

/-- Without a TAI list and an APN, the accept carries back its result, timer and address. -/
theorem decodeNas_encodeAttachAccept (attachResult t3412Value : UInt8) (ip : Octets 4) :
    decodeNas (encodeAttachAccept attachResult t3412Value [] (some ip) none) =
      .ok (.attachAccept ⟨attachResult &&& 0x07 &&& 0x07, t3412Value, none, some ip, none⟩) := by
  obtain ⟨octets, hlength⟩ := ip
  obtain ⟨a, b, c, d, rfl⟩ := List.length_eq_four.mp hlength
  simp only [encodeAttachAccept, List.cons_append, List.nil_append, decodeNas_plainHeader]
  simp [decodeMessage, mtAttachRequest, mtAuthenticationRequest, mtAuthenticationResponse,
    mtSecurityModeCommand, mtSecurityModeComplete, mtAttachAccept, decodeAttachAccept,
    attachAcceptIes, writeLv, writeTlv, readLv, ieiPdnAddr, ieiGuti]

/-! ## Protected envelope -/

/-- Header octet, MAC-I, low COUNT octet, payload. -/
def encodeEnvelope (sht : UInt8) (message : ProtectedNas) : List UInt8 :=
  ((sht <<< 4) ||| nasEpsMmPd) :: message.macI.toList ++
    (message.count &&& 0xFF).toUInt8 :: message.payload

/-- The fields of an envelope; a short buffer or a plain header is refused. -/
def decodeEnvelope : List UInt8 → Option (Octets 4 × UInt8 × List UInt8)
  | first :: a :: b :: c :: d :: seqByte :: ciphertext =>
      if (first >>> 4) &&& 0x0F = shtPlain then none
      else some (⟨[a, b, c, d], Octets.length_four a b c d⟩, seqByte, ciphertext)
  | _ => none

/-- A plain message is no envelope. -/
theorem decodeEnvelope_plainHeader (rest : List UInt8) :
    decodeEnvelope (nasPlainHeader :: rest) = none := by
  unfold decodeEnvelope
  split
  next hbuf =>
    cases hbuf
    rw [if_pos (by decide)]
  next => rfl

/-- The buffer is a protected message with this MAC-I, sequence octet and ciphertext. -/
def IsEnvelope (buf : List UInt8) (macI : Octets 4) (seqByte : UInt8) (ciphertext : List UInt8) :
    Prop :=
  ∃ header : UInt8, (header >>> 4) &&& 0x0F ≠ shtPlain ∧
    buf = header :: (macI.toList ++ seqByte :: ciphertext)

theorem decodeEnvelope_of_isEnvelope {buf : List UInt8} {macI : Octets 4} {seqByte : UInt8}
    {ciphertext : List UInt8} (henvelope : IsEnvelope buf macI seqByte ciphertext) :
    decodeEnvelope buf = some (macI, seqByte, ciphertext) := by
  obtain ⟨header, hprotected, rfl⟩ := henvelope
  obtain ⟨octets, hlength⟩ := macI
  obtain ⟨a, b, c, d, rfl⟩ := List.length_eq_four.mp hlength
  simp only [List.Vector.toList_mk, List.cons_append, List.nil_append, decodeEnvelope,
    if_neg hprotected]

theorem decodeEnvelope_of_short {buf : List UInt8} (hshort : buf.length < 6) :
    decodeEnvelope buf = none := by
  unfold decodeEnvelope
  split
  next =>
    simp only [List.length_cons] at hshort
    omega
  next => rfl

theorem length_encodeEnvelope (sht : UInt8) (message : ProtectedNas) :
    (encodeEnvelope sht message).length = 6 + message.payload.length := by
  simp only [encodeEnvelope, List.length_append, List.length_cons, Octets.length_toList]
  omega

variable (P : Primitives)

/-- Wrap a network message. -/
def encodeProtected (ctx : NasSecurityContext) (sht bearer : UInt8) (innerPlain : List UInt8) :
    List UInt8 × NasSecurityContext :=
  let (message, ctx) := ctx.protectDownlink P bearer innerPlain
  (encodeEnvelope sht message, ctx)

/-- The envelope of a network message adds six octets. -/
theorem length_encodeProtected (ctx : NasSecurityContext) (sht bearer : UInt8)
    (innerPlain : List UInt8) :
    (encodeProtected P ctx sht bearer innerPlain).1.length = 6 + innerPlain.length := by
  rw [encodeProtected]
  simp only [length_encodeEnvelope, NasSecurityContext.protectDownlink,
    NasSecurityContext.protect, length_protectWith]

/-- Open a UE message. -/
def decodeProtected (ctx : NasSecurityContext) (buf : List UInt8) (bearer : UInt8) :
    Option (List UInt8) × NasSecurityContext :=
  match decodeEnvelope buf with
  | none => (none, ctx)
  | some (macI, seqByte, ciphertext) => ctx.unprotectUplink P bearer seqByte macI ciphertext

/-- Wrap a UE message. -/
def encodeProtectedUplink (ctx : NasSecurityContext) (sht bearer : UInt8)
    (innerPlain : List UInt8) : List UInt8 × NasSecurityContext :=
  let (message, ctx) := ctx.protectUplink P bearer innerPlain
  (encodeEnvelope sht message, ctx)

/-- Open a network message. -/
def decodeProtectedDownlink (ctx : NasSecurityContext) (buf : List UInt8) (bearer : UInt8) :
    Option (List UInt8) × NasSecurityContext :=
  match decodeEnvelope buf with
  | none => (none, ctx)
  | some (macI, seqByte, ciphertext) => ctx.unprotectDownlink P bearer seqByte macI ciphertext

theorem envelopeHeader_sht :
    ∀ sht : Fin 16,
      (((UInt8.ofNat sht <<< 4) ||| nasEpsMmPd) >>> 4) &&& 0x0F = UInt8.ofNat sht := by
  decide

/-- An envelope with a proper security header type decodes to its own fields. -/
theorem decodeEnvelope_encodeEnvelope {sht : UInt8} (hplain : sht ≠ 0) (hsht : sht < 16)
    (message : ProtectedNas) :
    decodeEnvelope (encodeEnvelope sht message) =
      some (message.macI, (message.count &&& 0xFF).toUInt8, message.payload) := by
  have hheader := envelopeHeader_sht ⟨sht.toNat, UInt8.lt_iff_toNat_lt.mp hsht⟩
  rw [UInt8.ofNat_toNat] at hheader
  obtain ⟨count, ⟨octets, hlength⟩, payload⟩ := message
  obtain ⟨a, b, c, d, rfl⟩ := List.length_eq_four.mp hlength
  simp only [encodeEnvelope, List.Vector.toList_mk, List.cons_append, List.nil_append,
    decodeEnvelope, hheader, shtPlain, if_neg hplain]

/-- A UE holding the keys and the expected COUNT opens what the network wrapped. -/
theorem decodeProtectedDownlink_encodeProtected {net ue : NasSecurityContext}
    (hkeys : net.SameKeys ue) (hcount : ue.dlCount = net.dlCount) {sht : UInt8}
    (hplain : sht ≠ 0) (hsht : sht < 16) (bearer : UInt8) (plain : List UInt8) :
    decodeProtectedDownlink P ue (encodeProtected P net sht bearer plain).1 bearer =
      (some plain, { ue with dlCount := ue.dlCount + 1 }) := by
  simp only [encodeProtected, decodeProtectedDownlink, NasSecurityContext.protectDownlink,
    decodeEnvelope_encodeEnvelope hplain hsht, NasSecurityContext.unprotectDownlink]
  simp only [NasSecurityContext.protect, ← hcount, reconstructCount_self]
  have hopen := NasSecurityContext.unprotect_protect P hkeys ue.dlCount bearer .downlink plain
  simp only [NasSecurityContext.protect] at hopen
  rw [hopen]

@[simp] theorem encodeProtected_ctx (ctx : NasSecurityContext) (sht bearer : UInt8)
    (plain : List UInt8) :
    (encodeProtected P ctx sht bearer plain).2 = { ctx with dlCount := ctx.dlCount + 1 } := rfl

/-- Opening an envelope changes neither the keys nor the downlink COUNT. -/
theorem decodeProtected_ctx (ctx : NasSecurityContext) (buf : List UInt8) (bearer : UInt8) :
    ctx.SameKeys (decodeProtected P ctx buf bearer).2 ∧
      (decodeProtected P ctx buf bearer).2.dlCount = ctx.dlCount := by
  unfold decodeProtected
  split
  · exact ⟨.refl ctx, rfl⟩
  · exact ⟨ctx.unprotectUplink_sameKeys P .., ctx.unprotectUplink_dlCount P ..⟩

end Midn.Nas
