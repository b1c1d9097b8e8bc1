import Midn.Core.Hss
import Midn.Ecs.Registry
import Midn.Proto.Nas.Codec
import Midn.Proto.S1ap.Messages

/-!
# MME state

The subscriber state the MME owns, its TEID allocator and the events it emits to the user plane.
-/

namespace Midn.Core

open Ecs S1ap

/-- Hands out TEIDs, the most recently released first. -/
structure TeidAllocator where
  next : UInt32
  free : List UInt32

namespace TeidAllocator

def new (base : UInt32) : TeidAllocator := ⟨base, []⟩

def alloc (a : TeidAllocator) : UInt32 × TeidAllocator :=
  match a.free with
  | id :: free => (id, { a with free := free })
  | [] => (a.next, { a with next := a.next + 1 })

def release (a : TeidAllocator) (teid : UInt32) : TeidAllocator :=
  { a with free := teid :: a.free }

end TeidAllocator

/-- What the user plane has to do. -/
inductive UpfEvent where
  | createSession (ulTeid : UInt32) (entityId : EntityId) (imsi : UInt64) (ueIp enbAddr : Octets 4)
      (qci : UInt8)
  | updateBearer (ulTeid dlTeid : UInt32) (enbAddr : Octets 4)
  | removeSession (ulTeid : UInt32)
deriving DecidableEq

structure Mme where
  world : World
  registry : ImsiRegistry
  hss : Hss
  phase3Upf : Option (Octets 4)
  teidAllocator : TeidAllocator

namespace Mme

/-- Messages to the eNodeB and events to the user plane. -/
abbrev Output := List S1apMessage × List UpfEvent

/-- No response. -/
def silent : Output := ([], [])

/-- The initial state; phase 3 when the address of a UPF is given. -/
def new (phase3Upf : Option (Octets 4)) : Mme where
  world := .new
  registry := .new
  hss := .new
  phase3Upf := phase3Upf
  teidAllocator := .new 0x00010000

end Mme

end Midn.Core
