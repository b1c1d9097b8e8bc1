import Midn.Core.Mme.State

/-!
# UE-initiated detach

The trigger of the detach procedure; the teardown itself happens on release completion.
-/

namespace Midn.Core.Mme

open Ecs Nas S1ap

variable (P : Primitives)

/-- Accept the detach of a live entity, under its NAS security if it has any, and order the
release of its context. A UE that switches off gets no accept. -/
def acceptDetach (mme : Mme) (enbUeS1apId mmeUeS1apId : UInt32) (switchOff : Bool) :
    Mme × List S1apMessage :=
  let release := S1apMessage.ueContextReleaseCommand mmeUeS1apId enbUeS1apId .nasDetach
  if mme.world.isLive mmeUeS1apId then
    if switchOff then (mme, [release])
    else
      match mme.world.nasSecurity? mmeUeS1apId with
      | some ctx =>
          let accept := encodeProtected P ctx shtIntegrityCiphered nasBearer encodeDetachAccept
          ({ mme with world := mme.world.setNasSecurity mmeUeS1apId accept.2 },
            [.downlinkNasTransport ⟨mmeUeS1apId, enbUeS1apId, accept.1⟩, release])
      | none =>
          (mme, [.downlinkNasTransport ⟨mmeUeS1apId, enbUeS1apId, encodeDetachAccept⟩, release])
  else (mme, [])

def handleDetachRequest (mme : Mme) (enbUeS1apId mmeUeS1apId : UInt32) (nasPdu : List UInt8) :
    Mme × List S1apMessage :=
  match decodeNas nasPdu with
  | .ok (.detachRequest d) => acceptDetach P mme enbUeS1apId mmeUeS1apId d.switchOff
  | _ => (mme, [])

end Midn.Core.Mme
