import Midn.Core.Amf.Isolation
import Midn.Core.Mme.Isolation
import Midn.Core.Mme.Procedure
import Midn.Crypto.Standard

/-!
# Isolation of the subscribers of either core

The MME and the AMF store their subscribers alike, and neither lets one of them affect another
while ids last.
-/

namespace Midn.Core

/-- In every run of either core in which each spawned entity finds a free id, every step isolates
the subscribers. -/
theorem subscribers_isolated (P : Primitives) (upf : Option (Octets 4)) :
    (∀ inputs : List Mme.Input,
      Mealy.Always (Mme.step P) (Mme.new upf) inputs (fun _ t => Mme.SpawnsFresh P t) →
        Mealy.Always (Mme.step P) (Mme.new upf) inputs fun _ t => Mme.Isolates t) ∧
      ∀ inputs : List Amf.Input,
        Mealy.Always (Amf.step P) (Amf.new upf) inputs (fun _ t => Amf.SpawnsFresh P t) →
          Mealy.Always (Amf.step P) (Amf.new upf) inputs fun _ t => Amf.Isolates t :=
  ⟨fun inputs => Mme.always_isolates P (Mme.new upf) inputs,
    fun inputs => Amf.always_isolates P (Amf.new upf) inputs⟩

/-- Two subscribers of either core are isolated from each other, up to the release of the first. -/
theorem twoSubscribers_isolated :
    Mealy.Always (Mme.step .standard) (Mme.new none) Mme.twoSubscribers
        (fun _ t => Mme.Isolates t) ∧
      Mealy.Always (Amf.step .standard) (Amf.new none) Amf.twoSubscribers
        fun _ t => Amf.Isolates t := by
  have hlaw := subscribers_isolated .standard none
  constructor
  · exact hlaw.1 _ (Mme.always_spawnsFresh .standard (by decide))
  · exact hlaw.2 _ (Amf.always_spawnsFresh .standard (by decide))

end Midn.Core
