import Midn.Core.Mme.State
import Midn.Proto.Nas5gs.Codec
import Midn.Proto.Ngap.Messages

/-!
# AMF state

The subscriber state the AMF owns, separate from that of the MME, and the events it emits to the
N3 user plane.
-/

namespace Midn.Core

open Ecs Ngap

/-- What the user plane has to do. -/
inductive N3Event where
  | createSession (ulTeid : UInt32) (entityId : EntityId) (imsi : UInt64)
      (pduSessionId qfi : UInt8) (ueIp gnbAddr : Octets 4)
  | updateBearer (ulTeid dlTeid : UInt32) (gnbAddr : Octets 4)
  | removeSession (ulTeid : UInt32)
deriving DecidableEq

structure Amf where
  world : World
  registry : ImsiRegistry
  hss : Hss
  phaseBUpf : Option (Octets 4)
  teidAllocator : TeidAllocator

namespace Amf

/-- Messages to the gNodeB and events to the user plane. -/
abbrev Output := List NgapMessage × List N3Event

/-- No response. -/
def silent : Output := ([], [])

/-- The initial state; phase B when the address of a UPF is given. -/
def new (phaseBUpf : Option (Octets 4)) : Amf where
  world := .new
  registry := .new
  hss := .new
  phaseBUpf := phaseBUpf
  teidAllocator := .new 0x00020000

end Amf

end Midn.Core
