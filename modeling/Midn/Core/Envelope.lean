import Midn.Core.Amf.Envelope
import Midn.Core.Mme.Envelope

/-!
# Protected uplink messages of both cores
-/

namespace Midn.Core

/-- In every state either core can reach, a protected uplink message that is refused has no effect,
and one that is accepted moves one COUNT before it is dispatched. -/
theorem uplinkAtomic_reachable (P : Primitives) (upf : Option (Octets 4))
    (mmeInputs : List Mme.Input) (amfInputs : List Amf.Input) :
    Mme.UplinkAtomic P (Mealy.after (Mme.step P) (Mme.new upf) mmeInputs) ∧
      Amf.UplinkAtomic P (Mealy.after (Amf.step P) (Amf.new upf) amfInputs) :=
  ⟨Mme.uplinkAtomic_of_selected (Mme.selectedAlgorithms_after upf mmeInputs),
    Amf.uplinkAtomic_of_selected (Amf.selectedAlgorithms_after upf amfInputs)⟩

end Midn.Core
