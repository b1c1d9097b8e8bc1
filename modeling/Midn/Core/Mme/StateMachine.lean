import Midn.Core.Mme.Attach
import Midn.Core.Mme.Detach
import Midn.Lib.Mealy

/-!
# MME dispatch

The entry point of the MME: every S1AP message is dispatched on its variant, an uplink NAS PDU
first being taken out of its protected envelope and then dispatched on its own variant.
-/

namespace Midn.Core.Mme

open Ecs Nas S1ap

variable (P : Primitives)

/-- The security header type of a PDU; an empty one counts as plain. -/
def securityHeaderType : List UInt8 → UInt8
  | [] => 0
  | b :: _ => (b >>> 4) &&& 0x0F

/-- The plain PDU of an uplink message: itself under a plain header, else what its envelope
holds under the NAS security of the entity, whose uplink COUNT then advances. -/
def openUplink (mme : Mme) (mmeUeS1apId : UInt32) (nasPdu : List UInt8) :
    Option (List UInt8) × Mme :=
  if securityHeaderType nasPdu = shtPlain then (some nasPdu, mme)
  else
    match mme.world.nasSecurity? mmeUeS1apId with
    | none => (none, mme)
    | some ctx =>
        let opened := decodeProtected P ctx nasPdu nasBearer
        (opened.1, { mme with world := mme.world.setNasSecurity mmeUeS1apId opened.2 })

/-- Route a plain NAS PDU on its variant. -/
def dispatchNas (mme : Mme) (enbUeS1apId mmeUeS1apId : UInt32) (plainPdu : List UInt8) :
    Mme × Output :=
  match decodeNas plainPdu with
  | .ok (.authenticationResponse _) => handleAuthResponse mme enbUeS1apId mmeUeS1apId plainPdu
  | .ok .securityModeComplete => handleSecurityModeComplete P mme enbUeS1apId mmeUeS1apId
  | .ok .attachComplete => handleAttachComplete mme mmeUeS1apId
  | .ok (.detachRequest _) =>
      let (mme, responses) := handleDetachRequest P mme enbUeS1apId mmeUeS1apId plainPdu
      (mme, responses, [])
  | _ => (mme, silent)

def handleUplinkNas (mme : Mme) (enbUeS1apId mmeUeS1apId : UInt32) (nasPdu : List UInt8) :
    Mme × Output :=
  match openUplink P mme mmeUeS1apId nasPdu with
  | (none, mme) => (mme, silent)
  | (some plainPdu, mme) => dispatchNas P mme enbUeS1apId mmeUeS1apId plainPdu

/-- The eNodeB reports its side of the bearer: record it in the tunnel of the entity. -/
def handleIcsrsp (mme : Mme) (resp : InitialContextSetupResponse) : Mme × Output :=
  match resp.eRabsSetup with
  | [] => (mme, silent)
  | erab :: _ =>
      let dlTeid := UInt32.fromBeBytes erab.gtpTeid
      let enbAddr := erab.transportLayerAddr
      match mme.world.tunnel? resp.mmeUeS1apId with
      | some t =>
          ({ mme with world := mme.world.setTunnel resp.mmeUeS1apId ⟨t.ulTeid, dlTeid, enbAddr⟩ },
            [], [.updateBearer t.ulTeid dlTeid enbAddr])
      | none => (mme, silent)

/-- Tear the entity down: registry entry, components and TEID. -/
def handleReleaseComplete (mme : Mme) (msg : UeContextReleaseComplete) : Mme × Output :=
  let entity := msg.mmeUeS1apId
  let registry := match mme.world.identity? entity with
    | some identity => mme.registry.deregister identity.imsi
    | none => mme.registry
  let mme' := { mme with world := mme.world.despawn entity, registry := registry }
  match mme.world.tunnel? entity with
  | some t =>
      ({ mme' with teidAllocator := mme.teidAllocator.release t.ulTeid },
        [], [.removeSession t.ulTeid])
  | none => (mme', silent)

/-- Process one S1AP message; the RAND is what the HSS draws if it is asked for a vector. -/
def processS1ap (mme : Mme) (rand : Octets 16) : S1apMessage → Mme × Output
  | .initialUeMessage m => startAttach P mme rand m.enbUeS1apId m.nasPdu m.tai
  | .uplinkNasTransport m => handleUplinkNas P mme m.enbUeS1apId m.mmeUeS1apId m.nasPdu
  | .initialContextSetupResponse m => handleIcsrsp mme m
  | .ueContextReleaseComplete m => handleReleaseComplete mme m
  | _ => (mme, silent)

/-- What can happen to an MME: a message with the randomness it may use, or any change of the
subscriber database through `hss_mut`. -/
inductive Input where
  | s1ap (rand : Octets 16) (msg : S1apMessage)
  | hssMut (hss : Hss)

def step (mme : Mme) : Input → Mme × Output
  | .s1ap rand msg => processS1ap P mme rand msg
  | .hssMut hss => ({ mme with hss := hss }, silent)

abbrev Transition := Mealy.Transition Mme Input Output

end Midn.Core.Mme
