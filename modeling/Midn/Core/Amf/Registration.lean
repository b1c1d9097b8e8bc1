import Midn.Core.Amf.State
import Midn.Core.Kdf

/-!
# 5G registration procedure

The handlers of the registration procedure, one for each message of the UE. Handlers that decode
the NAS PDU again are split into the decoding and the part that acts on the decoded fields.
-/

namespace Midn.Core.Amf

open Ecs Nas5gs Ngap

variable (P : Primitives)

/-- The algorithm pair always selected in SecurityModeCommand. -/
def selectedNasCipherAlg : UInt8 := 2
def selectedNasIntegrityAlg : UInt8 := 2

def defaultAbba : Octets 2 := Octets.zeros 2

def defaultPduSessionId : UInt8 := 1
def defaultQfi : UInt8 := 1

/-- A null-scheme SUCI carries the IMSI in the five bytes of its MSIN. -/
def resolveSuciToImsi (suci : Suci) : Option UInt64 :=
  if suci.protectionScheme ≠ 0 then none
  else some (UInt64.fromBeBytes (0 ::ᵥ 0 ::ᵥ 0 ::ᵥ suci.msin))

/-- Comparison that accumulates the difference over all bytes. -/
def ctEq16 (a b : Octets 16) : Bool :=
  (List.zipWith (fun x y => x ^^^ y) a.toList b.toList).foldl (fun diff d => diff ||| d) 0 = 0

/-- The 5G-GUTI tag and the entity id in the last four bytes. -/
def placeholderGuti (amfUeNgapId : UInt32) : Octets 11 :=
  ⟨idtype5gGuti :: List.replicate 6 0 ++ amfUeNgapId.toBeBytes.toList, by
    simp only [List.length_append, List.length_cons, List.length_replicate,
      Octets.length_toList]⟩

/-- The decimal digits of the IMSI. -/
def supiOf (imsi : UInt64) : List UInt8 := (toString imsi.toNat).toUTF8.toList

/-! ## Registration request -/

/-- Spawn an entity with no identity yet and ask the UE for its SUCI. -/
def requestIdentity (amf : Amf) (ranUeNgapId : UInt32) (plmn : Octets 3) : Amf × Output :=
  let entity := amf.world.spawn.1
  let world := amf.world.spawn.2
  let world := world.insertIdentity entity ⟨0, ranUeNgapId, Octets.zeros 4⟩
  let world := world.insertSecurity5g entity { Nas5gsAkaContext.newEmpty with plmn := plmn }
  ({ amf with world := world },
    [.downlinkNasTransport ⟨entity, ranUeNgapId, encodeIdentityRequest idtypeSuci⟩], [])

/-- A tracking area identity begins with the PLMN. -/
theorem plmn_in_tai : 0 + 3 ≤ 6 := by decide

/-- Process an `InitialUeMessage`; only a registration request without a GUTI has an effect. -/
def startRegistration (amf : Amf) (ranUeNgapId : UInt32) (nasPdu : List UInt8)
    (tai : Octets 6) : Amf × Output :=
  let plmn := tai.slice 0 3 plmn_in_tai
  match decodeNas5gs nasPdu with
  | .ok (.registrationRequest inner) =>
      match inner.guti with
      | some _ => (amf, silent)
      | none => requestIdentity amf ranUeNgapId plmn
  | _ => (amf, silent)

/-! ## Identity response -/

/-- The subscriber an identity response names and a fresh vector for it. -/
def identityVector (hss : Hss) (nasPdu : List UInt8) (rand : Octets 16) :
    Option (UInt64 × HssAuthInfo × Hss) :=
  match decodeNas5gs nasPdu with
  | .ok (.identityResponse inner) =>
      match inner.suci with
      | some suci =>
          match resolveSuciToImsi suci with
          | some imsi =>
              match hss.generateAuthVector P imsi rand with
              | (some authInfo, hss) => some (imsi, authInfo, hss)
              | (none, _) => none
          | none => none
      | none => none
  | _ => none

/-- XRES* of a vector in a serving network. -/
def xresStarOf (authInfo : HssAuthInfo) (plmn : Octets 3) : Octets 16 :=
  deriveResStar P authInfo.vector.ck authInfo.vector.ik (servingNetworkName plmn) authInfo.rand
    authInfo.vector.res

/-- The AKA material a challenge leaves with the entity. -/
def challengeContext (authInfo : HssAuthInfo) (plmn : Octets 3) : Nas5gsAkaContext where
  pendingRand := authInfo.rand
  pendingXresStar := xresStarOf P authInfo plmn
  ck := authInfo.vector.ck
  ik := authInfo.vector.ik
  ak := authInfo.vector.ak
  plmn := plmn
  sqnUsed := authInfo.sqnUsed

/-- The AMF of every AUTN. -/
def milenageAmf : Octets 2 := ⟨[0x80, 0x00], length_milenageAmfField⟩

/-- It is the one the vectors are generated with. -/
theorem milenageAmf_eq : milenageAmf = milenageAmfField := rfl

/-- Challenge a live entity as the subscriber; the vector is drawn before the entity is looked
up. -/
def issueChallenge (amf : Amf) (ranUeNgapId amfUeNgapId : UInt32) (imsi : UInt64)
    (authInfo : HssAuthInfo) (hss : Hss) : Amf × Output :=
  match amf.world.security5g? amfUeNgapId with
  | none => ({ amf with hss := hss }, silent)
  | some aka =>
      let plmn := aka.plmn
      let autn := authInfo.vector.autn authInfo.sqnUsed milenageAmf
      let world := amf.world.insertIdentity amfUeNgapId ⟨imsi, ranUeNgapId, Octets.zeros 4⟩
      let world := world.insertSecurity5g amfUeNgapId (challengeContext P authInfo plmn)
      let world := world.setAuthState amfUeNgapId .challengeIssued
      let dl := NgapMessage.downlinkNasTransport
        ⟨amfUeNgapId, ranUeNgapId, encodeAuthRequest 0 authInfo.rand autn⟩
      ({ amf with world := world, registry := amf.registry.register imsi amfUeNgapId, hss := hss },
        [dl], [])

def handleIdentityResponse (amf : Amf) (rand : Octets 16) (ranUeNgapId amfUeNgapId : UInt32)
    (nasPdu : List UInt8) : Amf × Output :=
  match identityVector P amf.hss nasPdu rand with
  | none => (amf, silent)
  | some (imsi, authInfo, hss) => issueChallenge P amf ranUeNgapId amfUeNgapId imsi authInfo hss

/-! ## Authentication response -/

/-- Compare RES* with the stored XRES*, wipe the challenge, and on a match command security
mode. -/
def verifyResponse (amf : Amf) (ranUeNgapId amfUeNgapId : UInt32) (resStar : Octets 16) :
    Amf × Output :=
  match amf.world.security5g? amfUeNgapId with
  | none => (amf, silent)
  | some aka =>
      let world := amf.world.modifySecurity5g amfUeNgapId Nas5gsAkaContext.clearPendingChallenge
      if ctEq16 aka.pendingXresStar resStar then
        let world := world.setAuthState amfUeNgapId .authenticated
        let nas := encodeSecModeCmd selectedNasCipherAlg selectedNasIntegrityAlg 0x2040
        ({ amf with world := world },
          [.downlinkNasTransport ⟨amfUeNgapId, ranUeNgapId, nas⟩], [])
      else
        let world := world.setAuthState amfUeNgapId (.failed .resMismatch)
        ({ amf with world := world }, silent)

def handleAuthResponse (amf : Amf) (ranUeNgapId amfUeNgapId : UInt32) (nasPdu : List UInt8) :
    Amf × Output :=
  match decodeNas5gs nasPdu with
  | .ok (.authenticationResponse inner) =>
      verifyResponse amf ranUeNgapId amfUeNgapId inner.resStar
  | _ => (amf, silent)

/-! ## Security mode complete -/

/-- KAMF at the end of the KAUSF, KSEAF, KAMF chain. -/
def kamfOf (imsi : UInt64) (aka : Nas5gsAkaContext) : Octets 32 :=
  let snn := servingNetworkName aka.plmn
  let kausf := deriveKausf P aka.ck aka.ik snn (Octets.xor aka.sqnUsed aka.ak)
  let kseaf := deriveKseaf P kausf snn
  deriveKamf P kseaf (supiOf imsi) defaultAbba

/-- The plain RegistrationAccept. -/
def registrationAcceptPlain (amfUeNgapId : UInt32) : List UInt8 :=
  encodeRegistrationAccept 1 (placeholderGuti amfUeNgapId) []

/-- The address made up for a session, unique for the low half of the entity id. -/
def sessionUeIp (amfUeNgapId : UInt32) : Octets 4 :=
  ⟨[10, 45, (amfUeNgapId >>> 8).toUInt8, amfUeNgapId.toUInt8], rfl⟩

/-- Derive KAMF, activate NAS security, and send RegistrationAccept as the first protected
message, with a session in phase B. -/
def handleSecurityModeComplete (amf : Amf) (ranUeNgapId amfUeNgapId : UInt32) : Amf × Output :=
  match amf.world.identity? amfUeNgapId, amf.world.security5g? amfUeNgapId with
  | some identity, some aka =>
      let kamf := kamfOf P identity.imsi aka
      let world := amf.world.modifySecurity5g amfUeNgapId Nas5gsAkaContext.clearPostKamf
      let nasSecurity :=
        Nas5gsSecurityContext.new P kamf selectedNasCipherAlg selectedNasIntegrityAlg
      let accept := encodeProtected P nasSecurity nas5gsShtIntegrityCiphered
        (registrationAcceptPlain amfUeNgapId)
      match amf.phaseBUpf with
      | some upfAddr =>
          let ulTeid := amf.teidAllocator.alloc.1
          let world := world.setNasSecurity5g amfUeNgapId accept.2
          let world := world.setTunnel amfUeNgapId ⟨ulTeid, 0, Octets.zeros 4⟩
          let icsr := NgapMessage.initialContextSetupRequest
            { amfUeNgapId := amfUeNgapId
              ranUeNgapId := ranUeNgapId
              pduSessions := [⟨defaultPduSessionId, defaultQfi, ulTeid.toBeBytes, upfAddr⟩]
              nasPdu := some accept.1
              ueAmbr := (50000000, 50000000)
              securityKey := kamf }
          let evt := N3Event.createSession ulTeid amfUeNgapId identity.imsi defaultPduSessionId
            defaultQfi (sessionUeIp amfUeNgapId) (Octets.zeros 4)
          ({ amf with world := world, teidAllocator := amf.teidAllocator.alloc.2 }, [icsr], [evt])
      | none =>
          let world := world.setNasSecurity5g amfUeNgapId accept.2
          ({ amf with world := world },
            [.downlinkNasTransport ⟨amfUeNgapId, ranUeNgapId, accept.1⟩], [])
  | _, _ => (amf, silent)

/-- The subscriber is online; no response. -/
def handleRegistrationComplete (amf : Amf) (_amfUeNgapId : UInt32) : Amf × Output := (amf, silent)

/-- The accumulated difference vanishes exactly for equal bytes. -/
theorem ctEq16_iff (a b : Octets 16) : ctEq16 a b = true ↔ a = b := by
  have hfold : ∀ (ds : List UInt8) (acc : UInt8),
      ds.foldl (fun diff d => diff ||| d) acc = 0 ↔ acc = 0 ∧ ∀ d ∈ ds, d = 0 := by
    intro ds
    induction ds with
    | nil => intro acc; simp
    | cons d ds ih =>
        intro acc
        rw [List.foldl_cons, ih, UInt8.or_eq_zero_iff, List.forall_mem_cons, and_assoc]
  rw [ctEq16, decide_eq_true_eq, hfold]
  constructor
  · rintro ⟨-, hzero⟩
    apply List.Vector.eq
    apply List.ext_getElem
    · rw [Octets.length_toList, Octets.length_toList]
    · intro i hi hi'
      have hmem : a.toList[i] ^^^ b.toList[i] ∈
          List.zipWith (fun x y => x ^^^ y) a.toList b.toList := by
        rw [List.mem_iff_getElem]
        exact ⟨i, by rw [List.length_zipWith]; omega, by rw [List.getElem_zipWith]⟩
      exact UInt8.xor_eq_zero_iff.mp (hzero _ hmem)
  · rintro rfl
    refine ⟨rfl, ?_⟩
    intro d hmem
    obtain ⟨i, hi, rfl⟩ := List.mem_iff_getElem.mp hmem
    rw [List.getElem_zipWith, UInt8.xor_self]

end Midn.Core.Amf
