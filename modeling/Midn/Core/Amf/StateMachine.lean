import Midn.Core.Amf.Deregistration
import Midn.Core.Amf.Registration
import Midn.Lib.Mealy

/-!
# AMF dispatch

The entry point of the AMF: every NGAP message is dispatched on its variant, an uplink NAS PDU
first being taken out of its protected envelope and then dispatched on its own variant.
-/

namespace Midn.Core.Amf

open Ecs Nas5gs Ngap

variable (P : Primitives)

/-- The security header type of a PDU, in its second octet; a shorter one counts as plain. -/
def securityHeaderType : List UInt8 → UInt8
  | _ :: b :: _ => b &&& 0x0F
  | _ => 0

/-- The plain PDU of an uplink message: itself under a plain header, else what its envelope
holds under the NAS security of the entity, whose uplink COUNT then advances. -/
def openUplink (amf : Amf) (amfUeNgapId : UInt32) (nasPdu : List UInt8) :
    Option (List UInt8) × Amf :=
  if securityHeaderType nasPdu = nas5gsShtPlain then (some nasPdu, amf)
  else
    match amf.world.nasSecurity5g? amfUeNgapId with
    | none => (none, amf)
    | some ctx =>
        let opened := decodeProtected P ctx nasPdu
        (opened.1, { amf with world := amf.world.setNasSecurity5g amfUeNgapId opened.2 })

/-- Route a plain NAS PDU on its variant. -/
def dispatchNas (amf : Amf) (rand : Octets 16) (ranUeNgapId amfUeNgapId : UInt32)
    (plainPdu : List UInt8) : Amf × Output :=
  match decodeNas5gs plainPdu with
  | .ok (.identityResponse _) =>
      handleIdentityResponse P amf rand ranUeNgapId amfUeNgapId plainPdu
  | .ok (.authenticationResponse _) => handleAuthResponse amf ranUeNgapId amfUeNgapId plainPdu
  | .ok .securityModeComplete => handleSecurityModeComplete P amf ranUeNgapId amfUeNgapId
  | .ok .registrationComplete => handleRegistrationComplete amf amfUeNgapId
  | .ok (.deregistrationRequest _) =>
      let (amf, responses) := handleDeregistrationRequest P amf ranUeNgapId amfUeNgapId plainPdu
      (amf, responses, [])
  | _ => (amf, silent)

def handleUplinkNas (amf : Amf) (rand : Octets 16) (ranUeNgapId amfUeNgapId : UInt32)
    (nasPdu : List UInt8) : Amf × Output :=
  match openUplink P amf amfUeNgapId nasPdu with
  | (none, amf) => (amf, silent)
  | (some plainPdu, amf) => dispatchNas P amf rand ranUeNgapId amfUeNgapId plainPdu

/-- The gNodeB reports its side of the session: record it in the tunnel of the entity. -/
def handleIcsResponse (amf : Amf) (resp : NgapInitialContextSetupResponse) : Amf × Output :=
  match resp.pduSessionsSetup with
  | [] => (amf, silent)
  | session :: _ =>
      let dlTeid := UInt32.fromBeBytes session.gtpTeid
      let gnbAddr := session.transportLayerAddr
      match amf.world.tunnel? resp.amfUeNgapId with
      | some t =>
          ({ amf with world := amf.world.setTunnel resp.amfUeNgapId ⟨t.ulTeid, dlTeid, gnbAddr⟩ },
            [], [.updateBearer t.ulTeid dlTeid gnbAddr])
      | none => (amf, silent)

/-- Tear the entity down: registry entry, components and TEID. -/
def handleReleaseComplete (amf : Amf) (msg : NgapUeContextReleaseComplete) : Amf × Output :=
  let entity := msg.amfUeNgapId
  let registry := match amf.world.identity? entity with
    | some identity => amf.registry.deregister identity.imsi
    | none => amf.registry
  let amf' := { amf with world := amf.world.despawn entity, registry := registry }
  match amf.world.tunnel? entity with
  | some t =>
      ({ amf' with teidAllocator := amf.teidAllocator.release t.ulTeid },
        [], [.removeSession t.ulTeid])
  | none => (amf', silent)

/-- Process one NGAP message; the RAND is what the HSS draws if it is asked for a vector. -/
def processNgap (amf : Amf) (rand : Octets 16) : NgapMessage → Amf × Output
  | .initialUeMessage m => startRegistration amf m.ranUeNgapId m.nasPdu m.tai
  | .uplinkNasTransport m => handleUplinkNas P amf rand m.ranUeNgapId m.amfUeNgapId m.nasPdu
  | .initialContextSetupResponse m => handleIcsResponse amf m
  | .ueContextReleaseComplete m => handleReleaseComplete amf m
  | _ => (amf, silent)

/-- What can happen to an AMF: a message with the randomness it may use, or any change of the
subscriber database through `hss_mut`. -/
inductive Input where
  | ngap (rand : Octets 16) (msg : NgapMessage)
  | hssMut (hss : Hss)

def step (amf : Amf) : Input → Amf × Output
  | .ngap rand msg => processNgap P amf rand msg
  | .hssMut hss => ({ amf with hss := hss }, silent)

abbrev Transition := Mealy.Transition Amf Input Output

end Midn.Core.Amf
