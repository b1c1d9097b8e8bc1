import Midn.Core.Amf.State

/-!
# UE-initiated deregistration

The trigger of the deregistration procedure; the teardown itself happens on release completion.
-/

namespace Midn.Core.Amf

open Ecs Nas5gs Ngap

variable (P : Primitives)

/-- Accept the deregistration of a live entity, under its NAS security if it has any, and order
the release of its context. A UE that switches off gets no accept. -/
def acceptDeregistration (amf : Amf) (ranUeNgapId amfUeNgapId : UInt32) (switchOff : Bool) :
    Amf × List NgapMessage :=
  let release := NgapMessage.ueContextReleaseCommand amfUeNgapId ranUeNgapId .nasDeregister
  if amf.world.isLive amfUeNgapId then
    if switchOff then (amf, [release])
    else
      match amf.world.nasSecurity5g? amfUeNgapId with
      | some ctx =>
          let accept := encodeProtected P ctx nas5gsShtIntegrityCiphered encodeDeregistrationAccept
          ({ amf with world := amf.world.setNasSecurity5g amfUeNgapId accept.2 },
            [.downlinkNasTransport ⟨amfUeNgapId, ranUeNgapId, accept.1⟩, release])
      | none =>
          (amf,
            [.downlinkNasTransport ⟨amfUeNgapId, ranUeNgapId, encodeDeregistrationAccept⟩,
              release])
  else (amf, [])

def handleDeregistrationRequest (amf : Amf) (ranUeNgapId amfUeNgapId : UInt32)
    (nasPdu : List UInt8) : Amf × List NgapMessage :=
  match decodeNas5gs nasPdu with
  | .ok (.deregistrationRequest switchOff) =>
      acceptDeregistration P amf ranUeNgapId amfUeNgapId switchOff
  | _ => (amf, [])

end Midn.Core.Amf
