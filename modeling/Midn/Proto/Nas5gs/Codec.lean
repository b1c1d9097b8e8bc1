import Midn.Proto.Nas5gs.Security

/-!
# NAS-5GS codec

Encoders and the decoder of the plain 5GS mobility management messages of the registration and
deregistration procedures, and the protected envelope around them. The protocol discriminator
fills an octet of its own, so the security header type is the low nibble of the second octet.
-/

namespace Midn.Nas5gs

open Midn.Nas (readLv writeLv readLv_writeLv)

def nas5gsMmEpd : UInt8 := 0x7E

def nas5gsShtPlain : UInt8 := 0
def nas5gsShtIntegrityCiphered : UInt8 := 2

def mtRegistrationRequest : UInt8 := 0x41
def mtRegistrationAccept : UInt8 := 0x42
def mtRegistrationComplete : UInt8 := 0x43
def mtRegistrationReject : UInt8 := 0x44
def mtDeregistrationRequest : UInt8 := 0x45
def mtDeregistrationAccept : UInt8 := 0x46
def mtAuthenticationRequest : UInt8 := 0x56
def mtAuthenticationResponse : UInt8 := 0x57
def mtAuthenticationReject : UInt8 := 0x58
def mtIdentityRequest : UInt8 := 0x5B
def mtIdentityResponse : UInt8 := 0x5C
def mtSecurityModeCommand : UInt8 := 0x5D
def mtSecurityModeComplete : UInt8 := 0x5E

def idtypeSuci : UInt8 := 1
def idtype5gGuti : UInt8 := 2
def idtypePei : UInt8 := 3

/-! ## Decoded messages -/

/-- Subscription Concealed Identifier; under protection scheme zero the MSIN is in the clear. -/
structure Suci where
  mcc : Octets 3
  mnc : Octets 3
  routingIndicator : UInt16
  protectionScheme : UInt8
  homeNetworkPki : UInt8
  msin : Octets 5
deriving DecidableEq

structure DecodedRegistrationRequest where
  registrationType : UInt8
  ngKsi : UInt8
  /-- 5G-GUTI, if the UE has one. -/
  guti : Option (Octets 11)
  ueSecurityCap : UInt16
deriving DecidableEq

structure DecodedIdentityResponse where
  suci : Option Suci
  guti : Option (Octets 11)
  pei : Option (List UInt8)
deriving DecidableEq

structure DecodedAuthenticationRequest where
  ngKsi : UInt8
  rand : Octets 16
  autn : Octets 16
deriving DecidableEq

structure DecodedAuthenticationResponse where
  resStar : Octets 16
deriving DecidableEq

structure DecodedSecurityModeCommand where
  nasCipherAlg : UInt8
  nasIntegrityAlg : UInt8
  replayedUeSecCap : UInt16
deriving DecidableEq

structure DecodedRegistrationAccept where
  registrationResult : UInt8
  guti : Octets 11
  taiList : List (Octets 6)
deriving DecidableEq

/-- A decoded plain NAS-5GS PDU. -/
inductive Nas5gsPdu where
  | registrationRequest (inner : DecodedRegistrationRequest)
  | identityRequest (identityType : UInt8)
  | identityResponse (inner : DecodedIdentityResponse)
  | authenticationRequest (inner : DecodedAuthenticationRequest)
  | authenticationResponse (inner : DecodedAuthenticationResponse)
  | authenticationReject
  | securityModeCommand (inner : DecodedSecurityModeCommand)
  | securityModeComplete
  | registrationAccept (inner : DecodedRegistrationAccept)
  | registrationComplete
  | registrationReject (cause : UInt8)
  | deregistrationRequest (switchOff : Bool)
  | deregistrationAccept
deriving DecidableEq

/-! ## Message decoders -/

/-- The leading two octets of a capability field, or zero. -/
def readCapability (rest : List UInt8) : UInt16 :=
  match readLv rest with
  | some (hi :: lo :: _, _) => UInt16.fromBeBytes ⟨[hi, lo], Octets.length_two hi lo⟩
  | _ => 0

def decodeRegistrationRequest : List UInt8 → Except ProtoError Nas5gsPdu
  | [] => .error (.tooShort 1 0)
  | octet :: rest =>
      match readLv rest with
      | none => .error (.malformedNas5gs "missing 5GS mobile identity")
      | some (identityBytes, rest) =>
          .ok (.registrationRequest
            { registrationType := octet &&& 0x07
              ngKsi := (octet >>> 4) &&& 0x07
              guti := Octets.ofSlice? 11 identityBytes
              ueSecurityCap := readCapability rest })

def decodeIdentityRequest : List UInt8 → Except ProtoError Nas5gsPdu
  | [] => .error (.tooShort 1 0)
  | octet :: _ => .ok (.identityRequest (octet &&& 0x0F))

/-- The flat SUCI payload behind the identity type octet. -/
def decodeSuci : List UInt8 → Option Suci
  | v0 :: v1 :: v2 :: v3 :: v4 :: v5 :: v6 :: v7 :: v8 :: v9 :: v10 :: v11 :: v12 :: v13 ::
      v14 :: _ =>
      some
        { mcc := ⟨[v0, v1, v2], rfl⟩
          mnc := ⟨[v3, v4, v5], rfl⟩
          routingIndicator := UInt16.fromBeBytes ⟨[v6, v7], Octets.length_two v6 v7⟩
          protectionScheme := v8
          homeNetworkPki := v9
          msin := ⟨[v10, v11, v12, v13, v14], rfl⟩ }
  | _ => none

def decodeIdentityResponse (body : List UInt8) : Except ProtoError Nas5gsPdu :=
  match readLv body with
  | none => .error (.malformedNas5gs "missing 5GS mobile identity")
  | some ([], _) => .error (.malformedNas5gs "empty 5GS mobile identity")
  | some (tag :: payload, _) =>
      let idType := tag &&& 0x07
      if idType = idtypeSuci then
        match decodeSuci payload with
        | none => .error (.malformedNas5gs "SUCI payload too short")
        | some suci => .ok (.identityResponse ⟨some suci, none, none⟩)
      else if idType = idtype5gGuti then
        match Octets.ofSlice? 11 (tag :: payload) with
        | none => .error (.malformedNas5gs "5G-GUTI must be exactly 11 bytes")
        | some guti => .ok (.identityResponse ⟨none, some guti, none⟩)
      else .ok (.identityResponse ⟨none, none, some payload⟩)

def decodeAuthRequest : List UInt8 → Except ProtoError Nas5gsPdu
  | [] => .error (.tooShort 33 0)
  | octet :: rest =>
      match readLv rest with
      | none => .error (.malformedNas5gs "missing RAND")
      | some (randBytes, rest) =>
          match Octets.ofSlice? 16 randBytes with
          | none => .error (.malformedNas5gs "RAND must be exactly 16 bytes")
          | some rand =>
              match readLv rest with
              | none => .error (.malformedNas5gs "missing AUTN")
              | some (autnBytes, _) =>
                  match Octets.ofSlice? 16 autnBytes with
                  | none => .error (.malformedNas5gs "AUTN must be exactly 16 bytes")
                  | some autn =>
                      .ok (.authenticationRequest ⟨(octet >>> 4) &&& 0x07, rand, autn⟩)

def decodeAuthResponse (body : List UInt8) : Except ProtoError Nas5gsPdu :=
  match readLv body with
  | none => .error (.malformedNas5gs "missing RES*")
  | some (resBytes, _) =>
      match Octets.ofSlice? 16 resBytes with
      | none => .error (.malformedNas5gs "RES* must be exactly 16 bytes")
      | some resStar => .ok (.authenticationResponse ⟨resStar⟩)

def decodeSecModeCmd : List UInt8 → Except ProtoError Nas5gsPdu
  | [] => .error (.tooShort 1 0)
  | algorithms :: rest =>
      .ok (.securityModeCommand
        { nasCipherAlg := (algorithms >>> 4) &&& 0x0F
          nasIntegrityAlg := algorithms &&& 0x0F
          replayedUeSecCap := readCapability rest })

/-- Six-octet entries until fewer than six octets remain. -/
def readTaiEntries : List UInt8 → List (Octets 6)
  | a :: b :: c :: d :: e :: f :: rest => ⟨[a, b, c, d, e, f], rfl⟩ :: readTaiEntries rest
  | _ => []

def decodeRegistrationAccept : List UInt8 → Except ProtoError Nas5gsPdu
  | [] => .error (.tooShort 1 0)
  | result :: rest =>
      match readLv rest with
      | none => .error (.malformedNas5gs "missing 5G-GUTI")
      | some (gutiBytes, rest) =>
          match Octets.ofSlice? 11 gutiBytes with
          | none => .error (.malformedNas5gs "5G-GUTI must be exactly 11 bytes")
          | some guti =>
              match readLv rest with
              | none => .error (.malformedNas5gs "missing TAI list")
              | some (taiBytes, _) =>
                  -- the first octet of a nonempty list is its type and count
                  .ok (.registrationAccept ⟨result &&& 0x07, guti, readTaiEntries taiBytes.tail⟩)

def decodeRegistrationReject : List UInt8 → Except ProtoError Nas5gsPdu
  | [] => .error (.tooShort 1 0)
  | cause :: _ => .ok (.registrationReject cause)

def decodeDeregistrationRequest : List UInt8 → Except ProtoError Nas5gsPdu
  | [] => .error (.tooShort 1 0)
  | octet :: _ => .ok (.deregistrationRequest (octet &&& 0x01 ≠ 0))

/-- Dispatch on the message type octet. -/
def decodeMessage (msgType : UInt8) (body : List UInt8) : Except ProtoError Nas5gsPdu :=
  if msgType = mtRegistrationRequest then decodeRegistrationRequest body
  else if msgType = mtIdentityRequest then decodeIdentityRequest body
  else if msgType = mtIdentityResponse then decodeIdentityResponse body
  else if msgType = mtAuthenticationRequest then decodeAuthRequest body
  else if msgType = mtAuthenticationResponse then decodeAuthResponse body
  else if msgType = mtAuthenticationReject then .ok .authenticationReject
  else if msgType = mtSecurityModeCommand then decodeSecModeCmd body
  else if msgType = mtSecurityModeComplete then .ok .securityModeComplete
  else if msgType = mtRegistrationAccept then decodeRegistrationAccept body
  else if msgType = mtRegistrationComplete then .ok .registrationComplete
  else if msgType = mtRegistrationReject then decodeRegistrationReject body
  else if msgType = mtDeregistrationRequest then decodeDeregistrationRequest body
  else if msgType = mtDeregistrationAccept then .ok .deregistrationAccept
  else .error (.unknownGtpMsgType msgType)

/-- Parse a plain NAS-5GS PDU; a nonzero security header type is refused. -/
def decodeNas5gs : List UInt8 → Except ProtoError Nas5gsPdu
  | epd :: header :: msgType :: body =>
      if epd ≠ nas5gsMmEpd then
        .error (.malformedNas5gs
          "expected 5GS Mobility Management extended protocol discriminator 0x7E")
      else if header &&& 0x0F ≠ nas5gsShtPlain then
        .error (.malformedNas5gs
          "protected 5GS NAS not supported — nas5gs::security not implemented yet")
      else decodeMessage msgType body
  | buf => .error (.tooShort 3 buf.length)

/-- Only the message type and the body matter under the plain header. -/
theorem decodeNas5gs_plainHeader (msgType : UInt8) (body : List UInt8) :
    decodeNas5gs (nas5gsMmEpd :: nas5gsShtPlain :: msgType :: body) =
      decodeMessage msgType body := by
  have hsht : ¬ nas5gsShtPlain &&& 0x0F ≠ nas5gsShtPlain := by decide
  rw [decodeNas5gs, if_neg (not_not_intro rfl), if_neg hsht]

/-! ## Message encoders -/

/-- Discriminator, plain security header, message type. -/
def header (msgType : UInt8) : List UInt8 := [nas5gsMmEpd, nas5gsShtPlain, msgType]

def encodeRegistrationRequest (registrationType ngKsi : UInt8) (guti : Option (Octets 11))
    (ueSecurityCap : UInt16) : List UInt8 :=
  header mtRegistrationRequest ++
    [((ngKsi &&& 0x07) <<< 4) ||| (registrationType &&& 0x07)] ++
    (match guti with
     | some g => writeLv g.toList
     | none => writeLv []) ++
    writeLv ueSecurityCap.toBeBytes.toList

def encodeIdentityRequest (identityType : UInt8) : List UInt8 :=
  header mtIdentityRequest ++ [identityType &&& 0x0F]

/-- The flat fifteen-octet concatenation of the fields. -/
def Suci.payload (suci : Suci) : List UInt8 :=
  suci.mcc.toList ++ suci.mnc.toList ++ suci.routingIndicator.toBeBytes.toList ++
    [suci.protectionScheme, suci.homeNetworkPki] ++ suci.msin.toList

def encodeIdentityResponseSuci (suci : Suci) : List UInt8 :=
  header mtIdentityResponse ++ writeLv (idtypeSuci :: suci.payload)

def encodeIdentityResponseGuti (guti : Octets 11) : List UInt8 :=
  header mtIdentityResponse ++ writeLv guti.toList

def encodeIdentityResponsePei (pei : List UInt8) : List UInt8 :=
  header mtIdentityResponse ++ writeLv (idtypePei :: pei)

def encodeAuthRequest (ngKsi : UInt8) (rand autn : Octets 16) : List UInt8 :=
  header mtAuthenticationRequest ++ [(ngKsi &&& 0x07) <<< 4] ++
    writeLv rand.toList ++ writeLv autn.toList

def encodeAuthResponse (resStar : Octets 16) : List UInt8 :=
  header mtAuthenticationResponse ++ writeLv resStar.toList

def encodeAuthReject : List UInt8 := header mtAuthenticationReject

def encodeSecModeCmd (nasCipherAlg nasIntegrityAlg : UInt8) (replayedUeSecCap : UInt16) :
    List UInt8 :=
  header mtSecurityModeCommand ++
    [((nasCipherAlg &&& 0x0F) <<< 4) ||| (nasIntegrityAlg &&& 0x0F)] ++
    writeLv replayedUeSecCap.toBeBytes.toList

def encodeSecModeComplete : List UInt8 := header mtSecurityModeComplete

def encodeRegistrationAccept (registrationResult : UInt8) (guti : Octets 11)
    (taiList : List (Octets 6)) : List UInt8 :=
  header mtRegistrationAccept ++ [registrationResult &&& 0x07] ++ writeLv guti.toList ++
    (if taiList = [] then writeLv []
     else
       let count := UInt8.ofNat taiList.length
       writeLv (((if count = 0 then 0 else count - 1) ||| 0x18) ::
         taiList.flatMap List.Vector.toList))

def encodeRegistrationComplete : List UInt8 := header mtRegistrationComplete

def encodeRegistrationReject (cause : UInt8) : List UInt8 := header mtRegistrationReject ++ [cause]

def encodeDeregistrationRequest (switchOff : Bool) : List UInt8 :=
  header mtDeregistrationRequest ++ [switchOff.toUInt8]

def encodeDeregistrationAccept : List UInt8 := header mtDeregistrationAccept

/-! ## Lengths -/

theorem length_encodeAuthRequest (ngKsi : UInt8) (rand autn : Octets 16) :
    (encodeAuthRequest ngKsi rand autn).length = 38 := by
  simp [encodeAuthRequest, header, writeLv]

theorem length_encodeSecModeCmd (nasCipherAlg nasIntegrityAlg : UInt8)
    (replayedUeSecCap : UInt16) :
    (encodeSecModeCmd nasCipherAlg nasIntegrityAlg replayedUeSecCap).length = 7 := by
  simp [encodeSecModeCmd, header, writeLv]

/-! ## Plain round trips -/

/-- A registration request without a GUTI decodes to one without a GUTI. -/
theorem decodeNas5gs_encodeRegistrationRequest (registrationType ngKsi : UInt8)
    (ueSecurityCap : UInt16) :
    ∃ inner, decodeNas5gs (encodeRegistrationRequest registrationType ngKsi none ueSecurityCap) =
      .ok (.registrationRequest inner) ∧ inner.guti = none := by
  have hidentity := readLv_writeLv [] (writeLv ueSecurityCap.toBeBytes.toList) (by simp)
  simp only [encodeRegistrationRequest, header, List.cons_append, List.nil_append,
    decodeNas5gs_plainHeader, decodeMessage, if_true, decodeRegistrationRequest, hidentity]
  exact ⟨_, rfl, rfl⟩

theorem Suci.payload_length (suci : Suci) : suci.payload.length = 15 := by
  simp only [payload, List.length_append, Octets.length_toList, List.length_cons, List.length_nil]

theorem decodeSuci_payload (suci : Suci) : decodeSuci suci.payload = some suci := by
  obtain ⟨⟨mcc, hmcc⟩, ⟨mnc, hmnc⟩, routing, scheme, pki, ⟨msin, hmsin⟩⟩ := suci
  have hrouting := UInt16.fromBeBytes_toBeBytes routing
  unfold Suci.payload
  generalize routing.toBeBytes = octets at hrouting ⊢
  obtain ⟨octets, hoctets⟩ := octets
  match mcc, hmcc, mnc, hmnc, octets, hoctets, msin, hmsin with
  | [_, _, _], _, [_, _, _], _, [_, _], _, [_, _, _, _, _], _ =>
      simp only [List.Vector.toList_mk, List.cons_append, List.nil_append, decodeSuci, hrouting]

/-- An identity response carries its SUCI through the wire. -/
@[simp] theorem decodeNas5gs_encodeIdentityResponseSuci (suci : Suci) :
    decodeNas5gs (encodeIdentityResponseSuci suci) =
      .ok (.identityResponse ⟨some suci, none, none⟩) := by
  have hidentity := readLv_writeLv (idtypeSuci :: suci.payload) [] (by
    rw [List.length_cons, suci.payload_length]
    decide)
  rw [List.append_nil] at hidentity
  have htag : idtypeSuci &&& 0x07 = idtypeSuci := by decide
  simp only [encodeIdentityResponseSuci, header, List.cons_append, List.nil_append,
    decodeNas5gs_plainHeader]
  simp [decodeMessage, mtRegistrationRequest, mtIdentityRequest, mtIdentityResponse,
    decodeIdentityResponse, hidentity, htag, decodeSuci_payload]

theorem decodeNas5gs_encodeIdentityRequest (identityType : UInt8) :
    decodeNas5gs (encodeIdentityRequest identityType) =
      .ok (.identityRequest (identityType &&& 0x0F &&& 0x0F)) := by
  simp only [encodeIdentityRequest, header, List.cons_append, List.nil_append,
    decodeNas5gs_plainHeader]
  simp [decodeMessage, mtRegistrationRequest, mtIdentityRequest, decodeIdentityRequest]

theorem decodeNas5gs_encodeAuthRequest (ngKsi : UInt8) (rand autn : Octets 16) :
    decodeNas5gs (encodeAuthRequest ngKsi rand autn) =
      .ok (.authenticationRequest ⟨(((ngKsi &&& 0x07) <<< 4) >>> 4) &&& 0x07, rand, autn⟩) := by
  have hrand := readLv_writeLv rand.toList (writeLv autn.toList) (by simp)
  have hautn := readLv_writeLv autn.toList [] (by simp)
  rw [List.append_nil] at hautn
  simp only [encodeAuthRequest, header, List.cons_append, List.nil_append,
    decodeNas5gs_plainHeader]
  simp [decodeMessage, mtRegistrationRequest, mtIdentityRequest, mtIdentityResponse,
    mtAuthenticationRequest, decodeAuthRequest, hrand, hautn]

@[simp] theorem decodeNas5gs_encodeAuthResponse (resStar : Octets 16) :
    decodeNas5gs (encodeAuthResponse resStar) = .ok (.authenticationResponse ⟨resStar⟩) := by
  have hres := readLv_writeLv resStar.toList [] (by simp)
  rw [List.append_nil] at hres
  simp only [encodeAuthResponse, header, List.cons_append, List.nil_append,
    decodeNas5gs_plainHeader]
  simp [decodeMessage, mtRegistrationRequest, mtIdentityRequest, mtIdentityResponse,
    mtAuthenticationRequest, mtAuthenticationResponse, decodeAuthResponse, hres]

/-- Two nibbles share an octet and come apart again. -/
theorem packedNibbles_split : ∀ hi lo : Fin 16,
    let octet := ((UInt8.ofNat hi &&& 0x0F) <<< 4) ||| (UInt8.ofNat lo &&& 0x0F)
    (octet >>> 4) &&& 0x0F = UInt8.ofNat hi ∧ octet &&& 0x0F = UInt8.ofNat lo := by
  decide

theorem readCapability_writeLv (capability : UInt16) :
    readCapability (writeLv capability.toBeBytes.toList) = capability := by
  have hread := readLv_writeLv capability.toBeBytes.toList [] (by simp)
  have hvalue := UInt16.fromBeBytes_toBeBytes capability
  rw [List.append_nil] at hread
  unfold readCapability
  rw [hread]
  generalize capability.toBeBytes = octets at hvalue ⊢
  obtain ⟨octets, hlength⟩ := octets
  obtain ⟨hi, lo, rfl⟩ := List.length_eq_two.mp hlength
  exact hvalue

/-- A security mode command carries its algorithms and the replayed capability. -/
theorem decodeNas5gs_encodeSecModeCmd {nasCipherAlg nasIntegrityAlg : UInt8}
    (hcipher : nasCipherAlg < 16) (hintegrity : nasIntegrityAlg < 16)
    (replayedUeSecCap : UInt16) :
    decodeNas5gs (encodeSecModeCmd nasCipherAlg nasIntegrityAlg replayedUeSecCap) =
      .ok (.securityModeCommand ⟨nasCipherAlg, nasIntegrityAlg, replayedUeSecCap⟩) := by
  have hnibbles := packedNibbles_split ⟨_, UInt8.lt_iff_toNat_lt.mp hcipher⟩
    ⟨_, UInt8.lt_iff_toNat_lt.mp hintegrity⟩
  simp only [UInt8.ofNat_toNat] at hnibbles
  simp only [encodeSecModeCmd, header, List.cons_append, List.nil_append,
    decodeNas5gs_plainHeader]
  simp [decodeMessage, mtRegistrationRequest, mtIdentityRequest, mtIdentityResponse,
    mtAuthenticationRequest, mtAuthenticationResponse, mtAuthenticationReject,
    mtSecurityModeCommand, decodeSecModeCmd, hnibbles, readCapability_writeLv]

@[simp] theorem decodeNas5gs_encodeSecModeComplete :
    decodeNas5gs encodeSecModeComplete = .ok .securityModeComplete := by
  decide

@[simp] theorem decodeNas5gs_encodeDeregistrationAccept :
    decodeNas5gs encodeDeregistrationAccept = .ok .deregistrationAccept := by
  decide

/-- Without a TAI list, the accept carries back its result and GUTI. -/
theorem decodeNas5gs_encodeRegistrationAccept (registrationResult : UInt8) (guti : Octets 11) :
    decodeNas5gs (encodeRegistrationAccept registrationResult guti []) =
      .ok (.registrationAccept ⟨registrationResult &&& 0x07 &&& 0x07, guti, []⟩) := by
  have hguti := readLv_writeLv guti.toList (writeLv []) (by simp)
  have htai := readLv_writeLv [] [] (by simp)
  rw [List.append_nil] at htai
  simp only [encodeRegistrationAccept, header, List.cons_append, List.nil_append, if_true,
    decodeNas5gs_plainHeader]
  simp [decodeMessage, mtRegistrationRequest, mtIdentityRequest, mtIdentityResponse,
    mtAuthenticationRequest, mtAuthenticationResponse, mtAuthenticationReject,
    mtSecurityModeCommand, mtSecurityModeComplete, mtRegistrationAccept,
    decodeRegistrationAccept, hguti, htai, readTaiEntries]

/-! ## Protected envelope -/

/-- Discriminator, security header, MAC-I, low COUNT octet, payload. -/
def encodeEnvelope (sht : UInt8) (message : ProtectedNas5gs) : List UInt8 :=
  nas5gsMmEpd :: (sht &&& 0x0F) :: message.macI.toList ++
    (message.count &&& 0xFF).toUInt8 :: message.payload

/-- The fields of an envelope; a short buffer, another discriminator or a plain header is
refused. -/
def decodeEnvelope : List UInt8 → Option (Octets 4 × UInt8 × List UInt8)
  | epd :: header :: a :: b :: c :: d :: seqByte :: ciphertext =>
      if epd ≠ nas5gsMmEpd then none
      else if header &&& 0x0F = nas5gsShtPlain then none
      else some (⟨[a, b, c, d], Octets.length_four a b c d⟩, seqByte, ciphertext)
  | _ => none

/-- A plain message is no envelope. -/
theorem decodeEnvelope_plainHeader (rest : List UInt8) :
    decodeEnvelope (nas5gsMmEpd :: nas5gsShtPlain :: rest) = none := by
  unfold decodeEnvelope
  split
  next hbuf =>
    cases hbuf
    rw [if_neg (not_not_intro rfl), if_pos (by decide)]
  next => rfl

/-- The buffer is a protected message with this MAC-I, sequence octet and ciphertext. -/
def IsEnvelope (buf : List UInt8) (macI : Octets 4) (seqByte : UInt8) (ciphertext : List UInt8) :
    Prop :=
  ∃ header : UInt8, header &&& 0x0F ≠ nas5gsShtPlain ∧
    buf = nas5gsMmEpd :: header :: (macI.toList ++ seqByte :: ciphertext)

theorem decodeEnvelope_of_isEnvelope {buf : List UInt8} {macI : Octets 4} {seqByte : UInt8}
    {ciphertext : List UInt8} (henvelope : IsEnvelope buf macI seqByte ciphertext) :
    decodeEnvelope buf = some (macI, seqByte, ciphertext) := by
  obtain ⟨header, hprotected, rfl⟩ := henvelope
  obtain ⟨octets, hlength⟩ := macI
  obtain ⟨a, b, c, d, rfl⟩ := List.length_eq_four.mp hlength
  simp only [List.Vector.toList_mk, List.cons_append, List.nil_append, decodeEnvelope,
    if_neg hprotected, ne_eq, not_true_eq_false, if_false]

theorem decodeEnvelope_of_short {buf : List UInt8} (hshort : buf.length < 7) :
    decodeEnvelope buf = none := by
  unfold decodeEnvelope
  split
  next =>
    simp only [List.length_cons] at hshort
    omega
  next => rfl

theorem decodeEnvelope_of_discriminator {buf : List UInt8}
    (hepd : buf.head? ≠ some nas5gsMmEpd) : decodeEnvelope buf = none := by
  unfold decodeEnvelope
  split
  next epd _ _ _ _ _ _ _ =>
    have hother : epd ≠ nas5gsMmEpd := fun h => hepd (congrArg some h)
    rw [if_pos hother]
  next => rfl

theorem length_encodeEnvelope (sht : UInt8) (message : ProtectedNas5gs) :
    (encodeEnvelope sht message).length = 7 + message.payload.length := by
  simp only [encodeEnvelope, List.length_append, List.length_cons, Octets.length_toList]
  omega

variable (P : Primitives)

/-- Wrap a network message. -/
def encodeProtected (ctx : Nas5gsSecurityContext) (sht : UInt8) (innerPlain : List UInt8) :
    List UInt8 × Nas5gsSecurityContext :=
  let (message, ctx) := ctx.protectDownlink P innerPlain
  (encodeEnvelope sht message, ctx)

/-- The envelope of a network message adds seven octets. -/
theorem length_encodeProtected (ctx : Nas5gsSecurityContext) (sht : UInt8)
    (innerPlain : List UInt8) :
    (encodeProtected P ctx sht innerPlain).1.length = 7 + innerPlain.length := by
  rw [encodeProtected]
  simp only [length_encodeEnvelope, Nas5gsSecurityContext.protectDownlink,
    Nas5gsSecurityContext.protect, Nas.length_protectWith]

/-- Open a UE message. -/
def decodeProtected (ctx : Nas5gsSecurityContext) (buf : List UInt8) :
    Option (List UInt8) × Nas5gsSecurityContext :=
  match decodeEnvelope buf with
  | none => (none, ctx)
  | some (macI, seqByte, ciphertext) => ctx.unprotectUplink P seqByte macI ciphertext

/-- Wrap a UE message. -/
def encodeProtectedUplink (ctx : Nas5gsSecurityContext) (sht : UInt8) (innerPlain : List UInt8) :
    List UInt8 × Nas5gsSecurityContext :=
  let (message, ctx) := ctx.protectUplink P innerPlain
  (encodeEnvelope sht message, ctx)

/-- Open a network message. -/
def decodeProtectedDownlink (ctx : Nas5gsSecurityContext) (buf : List UInt8) :
    Option (List UInt8) × Nas5gsSecurityContext :=
  match decodeEnvelope buf with
  | none => (none, ctx)
  | some (macI, seqByte, ciphertext) => ctx.unprotectDownlink P seqByte macI ciphertext

theorem envelopeHeader_sht :
    ∀ sht : Fin 16, (UInt8.ofNat sht &&& 0x0F) &&& 0x0F = UInt8.ofNat sht := by
  decide

/-- An envelope with a proper security header type decodes to its own fields. -/
theorem decodeEnvelope_encodeEnvelope {sht : UInt8} (hplain : sht ≠ 0) (hsht : sht < 16)
    (message : ProtectedNas5gs) :
    decodeEnvelope (encodeEnvelope sht message) =
      some (message.macI, (message.count &&& 0xFF).toUInt8, message.payload) := by
  have hheader := envelopeHeader_sht ⟨sht.toNat, UInt8.lt_iff_toNat_lt.mp hsht⟩
  rw [UInt8.ofNat_toNat] at hheader
  obtain ⟨count, ⟨octets, hlength⟩, payload⟩ := message
  obtain ⟨a, b, c, d, rfl⟩ := List.length_eq_four.mp hlength
  simp only [encodeEnvelope, List.Vector.toList_mk, List.cons_append, List.nil_append,
    decodeEnvelope, hheader, ne_eq, not_true_eq_false, if_false, nas5gsShtPlain,
    if_neg hplain]

/-- A UE holding the keys and the expected COUNT opens what the network wrapped. -/
theorem decodeProtectedDownlink_encodeProtected {net ue : Nas5gsSecurityContext}
    (hkeys : net.SameKeys ue) (hcount : ue.dlCount = net.dlCount) {sht : UInt8}
    (hplain : sht ≠ 0) (hsht : sht < 16) (plain : List UInt8) :
    decodeProtectedDownlink P ue (encodeProtected P net sht plain).1 =
      (some plain, { ue with dlCount := ue.dlCount + 1 }) := by
  simp only [encodeProtected, decodeProtectedDownlink, Nas5gsSecurityContext.protectDownlink,
    decodeEnvelope_encodeEnvelope hplain hsht, Nas5gsSecurityContext.unprotectDownlink]
  simp only [Nas5gsSecurityContext.protect, ← hcount, Nas.reconstructCount_self]
  have hopen := Nas5gsSecurityContext.unprotect_protect P hkeys ue.dlCount .downlink plain
  simp only [Nas5gsSecurityContext.protect] at hopen
  rw [hopen]

@[simp] theorem encodeProtected_ctx (ctx : Nas5gsSecurityContext) (sht : UInt8)
    (plain : List UInt8) :
    (encodeProtected P ctx sht plain).2 = { ctx with dlCount := ctx.dlCount + 1 } := rfl

/-- Opening an envelope changes neither the keys nor the downlink COUNT. -/
theorem decodeProtected_ctx (ctx : Nas5gsSecurityContext) (buf : List UInt8) :
    ctx.SameKeys (decodeProtected P ctx buf).2 ∧
      (decodeProtected P ctx buf).2.dlCount = ctx.dlCount := by
  unfold decodeProtected
  split
  · exact ⟨.refl ctx, rfl⟩
  · exact ⟨ctx.unprotectUplink_sameKeys P .., ctx.unprotectUplink_dlCount P ..⟩

end Midn.Nas5gs
