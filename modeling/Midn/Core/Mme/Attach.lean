import Midn.Core.Kdf
import Midn.Core.Mme.State

/-!
# EPS-AKA attach procedure

The handlers of the attach procedure, one for each message of the UE. Handlers that decode the
NAS PDU again are split into the decoding and the part that acts on the decoded fields.
-/

namespace Midn.Core.Mme

open Ecs Nas S1ap

variable (P : Primitives)

/-- The algorithm pair always selected in SecurityModeCommand. -/
def selectedEea : NasEeaAlgorithm := .eea2
def selectedEia : NasEiaAlgorithm := .eia2

/-! ## Attach request -/

/-- The subscriber an attach request names and a fresh vector for it. -/
def attachVector (hss : Hss) (nasPdu : List UInt8) (rand : Octets 16) :
    Option (UInt64 × HssAuthInfo × Hss) :=
  match decodeNas nasPdu with
  | .ok (.attachRequest inner) =>
      match inner.imsi with
      | some imsi =>
          match hss.generateAuthVector P imsi rand with
          | (some authInfo, hss) => some (imsi, authInfo, hss)
          | (none, _) => none
      | none => none
  | _ => none

/-- The AKA material a challenge leaves with the entity. -/
def challengeContext (authInfo : HssAuthInfo) (plmn : Octets 3) : SecurityContext where
  pendingRand := authInfo.rand
  pendingXres := authInfo.vector.res
  ck := authInfo.vector.ck
  ik := authInfo.vector.ik
  ak := authInfo.vector.ak
  plmn := plmn
  sqnUsed := authInfo.sqnUsed

/-- The AMF of every AUTN. -/
def amfField : Octets 2 := ⟨[0x80, 0x00], length_milenageAmfField⟩

/-- It is the one the vectors are generated with. -/
theorem amfField_eq : amfField = milenageAmfField := rfl

/-- Spawn an entity for the subscriber and challenge it. -/
def issueChallenge (mme : Mme) (enbUeS1apId : UInt32) (plmn : Octets 3) (imsi : UInt64)
    (authInfo : HssAuthInfo) (hss : Hss) : Mme × Output :=
  let autn := authInfo.vector.autn authInfo.sqnUsed amfField
  let entity := mme.world.spawn.1
  let world := mme.world.spawn.2
  let world := world.insertIdentity entity ⟨imsi, enbUeS1apId, Octets.zeros 4⟩
  let world := world.insertSecurity entity (challengeContext authInfo plmn)
  let world := world.setAuthState entity .challengeIssued
  let dl := S1apMessage.downlinkNasTransport
    ⟨entity, enbUeS1apId, encodeAuthRequest 0 authInfo.rand autn⟩
  ({ mme with world := world, registry := mme.registry.register imsi entity, hss := hss },
    [dl], [])

/-- A tracking area identity begins with the PLMN. -/
theorem plmn_in_tai : 0 + 3 ≤ 5 := by decide

/-- Process an `InitialUeMessage`; only an attach request of a known IMSI has an effect. -/
def startAttach (mme : Mme) (rand : Octets 16) (enbUeS1apId : UInt32) (nasPdu : List UInt8)
    (tai : Octets 5) : Mme × Output :=
  let plmn := tai.slice 0 3 plmn_in_tai
  match attachVector P mme.hss nasPdu rand with
  | none => (mme, silent)
  | some (imsi, authInfo, hss) => issueChallenge mme enbUeS1apId plmn imsi authInfo hss

/-! ## Authentication response -/

/-- Compare RES with the stored XRES, wipe the challenge, and on a match command security mode. -/
def verifyResponse (mme : Mme) (enbUeS1apId mmeUeS1apId : UInt32) (res : Octets 8) :
    Mme × Output :=
  match mme.world.security? mmeUeS1apId with
  | none => (mme, silent)
  | some sec =>
      let world := mme.world.modifySecurity mmeUeS1apId SecurityContext.clearPendingChallenge
      if Auth.MilenageContext.verifyRes sec.pendingXres res then
        let world := world.setAuthState mmeUeS1apId .authenticated
        let nas := encodeSecModeCmd selectedEea selectedEia 0 [0x20, 0x40]
        ({ mme with world := world },
          [.downlinkNasTransport ⟨mmeUeS1apId, enbUeS1apId, nas⟩], [])
      else
        let world := world.setAuthState mmeUeS1apId (.failed .resMismatch)
        ({ mme with world := world }, silent)

def handleAuthResponse (mme : Mme) (enbUeS1apId mmeUeS1apId : UInt32) (nasPdu : List UInt8) :
    Mme × Output :=
  match decodeNas nasPdu with
  | .ok (.authenticationResponse inner) => verifyResponse mme enbUeS1apId mmeUeS1apId inner.res
  | _ => (mme, silent)

/-! ## Security mode complete -/

/-- Kasme of the AKA material an entity holds. -/
def kasmeOf (sec : SecurityContext) : Octets 32 :=
  deriveKasme P sec.ck sec.ik sec.plmn (Octets.xor sec.sqnUsed sec.ak)

/-- The plain AttachAccept. -/
def attachAcceptPlain (ueIp : Octets 4) : List UInt8 :=
  encodeAttachAccept 1 0x54 [] (some ueIp) none

/-- Derive Kasme, activate NAS security, and send AttachAccept as the first protected message,
with a bearer in phase 3. -/
def handleSecurityModeComplete (mme : Mme) (enbUeS1apId mmeUeS1apId : UInt32) : Mme × Output :=
  match mme.world.identity? mmeUeS1apId, mme.world.security? mmeUeS1apId with
  | some identity, some sec =>
      let kasme := kasmeOf P sec
      let world := mme.world.modifySecurity mmeUeS1apId SecurityContext.clearPostKasme
      let nasSecurity := NasSecurityContext.new P kasme selectedEea selectedEia
      let accept := encodeProtected P nasSecurity shtIntegrityCiphered nasBearer
        (attachAcceptPlain identity.ueIp)
      match mme.phase3Upf with
      | some upfAddr =>
          let ulTeid := mme.teidAllocator.alloc.1
          let world := world.setNasSecurity mmeUeS1apId accept.2
          let world := world.setTunnel mmeUeS1apId ⟨ulTeid, 0, Octets.zeros 4⟩
          let icsr := S1apMessage.initialContextSetupRequest
            { mmeUeS1apId := mmeUeS1apId
              enbUeS1apId := enbUeS1apId
              eRabs := [⟨5, 9, ulTeid.toBeBytes, upfAddr⟩]
              nasPdu := some accept.1
              ueAmbr := (50000000, 50000000)
              securityKey := kasme }
          let evt := UpfEvent.createSession ulTeid mmeUeS1apId identity.imsi identity.ueIp
            (Octets.zeros 4) 9
          ({ mme with world := world, teidAllocator := mme.teidAllocator.alloc.2 }, [icsr], [evt])
      | none =>
          let world := world.setNasSecurity mmeUeS1apId accept.2
          ({ mme with world := world },
            [.downlinkNasTransport ⟨mmeUeS1apId, enbUeS1apId, accept.1⟩], [])
  | _, _ => (mme, silent)

/-- The subscriber is online; no response. -/
def handleAttachComplete (mme : Mme) (_mmeUeS1apId : UInt32) : Mme × Output := (mme, silent)

end Midn.Core.Mme
