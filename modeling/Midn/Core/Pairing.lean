import Midn.Core.Amf.Pairing
import Midn.Core.Amf.Procedure
import Midn.Core.Mme.Pairing
import Midn.Core.Mme.Procedure
import Midn.Crypto.Standard

/-!
# Context pairing in either core

What both cores make of the RAN-side id of a message about a UE.
-/

namespace Midn.Core

/-- In either core a message about a UE has the same effect under every RAN-side id, but for the
id its answers echo and an identity response records; it does nothing if the core-side id names no
live entity, and a release tears down whichever entity it names. -/
theorem ranSideId_ignored (P : Primitives) :
    (∀ (mme : Mme) (rand : Octets 16) (msg : S1ap.S1apMessage) (e enb : UInt32),
      msg.contextIds? = some (e, enb) →
        (∀ enb', Mme.step P mme (.s1ap rand (msg.withEnbUeS1apId enb')) =
          ((Mme.step P mme (.s1ap rand msg)).1,
            Mme.readdressed enb' (Mme.step P mme (.s1ap rand msg)).2)) ∧
        (mme.world.get? e = none → Mme.step P mme (.s1ap rand msg) = (mme, Mme.silent)) ∧
        (msg = .ueContextReleaseComplete ⟨e, enb⟩ →
          (Mme.step P mme (.s1ap rand msg)).1.world.get? e = none)) ∧
      ∀ (amf : Amf) (rand : Octets 16) (msg : Ngap.NgapMessage) (e ran : UInt32),
        msg.contextIds? = some (e, ran) →
          (∀ ran', Amf.step P amf (.ngap rand (msg.withRanUeNgapId ran')) =
            ((Amf.request P amf (.ngap rand msg)).reassociated ran'
                (Amf.step P amf (.ngap rand msg)).1,
              Amf.readdressed ran' (Amf.step P amf (.ngap rand msg)).2)) ∧
          (amf.world.get? e = none →
            ∃ hss, Amf.step P amf (.ngap rand msg) = ({ amf with hss := hss }, Amf.silent)) ∧
          (msg = .ueContextReleaseComplete ⟨e, ran⟩ →
            (Amf.step P amf (.ngap rand msg)).1.world.get? e = none) := by
  constructor
  · intro mme rand msg e enb hids
    refine ⟨Mme.step_withEnbUeS1apId mme rand hids, Mme.step_of_dead mme rand hids, ?_⟩
    rintro rfl
    exact (congrFun (Mme.get?_handleReleaseComplete mme ⟨e, enb⟩) e).trans
      (Function.update_self ..)
  · intro amf rand msg e ran hids
    refine ⟨Amf.step_withRanUeNgapId amf rand hids, Amf.step_of_dead amf rand hids, ?_⟩
    rintro rfl
    exact (congrFun (Amf.get?_handleReleaseComplete amf ⟨e, ran⟩) e).trans
      (Function.update_self ..)

/-- The only UE of either core is entity 0 under the RAN-side id 1. Under the id 2 its release has
the same effect and tears it down; a release of entity 1 is ignored. -/
theorem onlyUe_released :
    (let mme := (Mme.step .standard (Mme.provisioned .standard none) Mme.attachTest).1
     mme.world.get? 0 = some (Mme.testSubscriber .standard) ∧
       Mme.step .standard mme (.s1ap (Octets.zeros 16) (.ueContextReleaseComplete ⟨0, 2⟩)) =
         ((Mme.step .standard mme Mme.releaseTest).1,
           Mme.readdressed 2 (Mme.step .standard mme Mme.releaseTest).2) ∧
       (Mme.step .standard mme
         (.s1ap (Octets.zeros 16) (.ueContextReleaseComplete ⟨0, 2⟩))).1.world.get? 0 = none ∧
       Mme.step .standard mme (.s1ap (Octets.zeros 16) (.ueContextReleaseComplete ⟨1, 2⟩)) =
         (mme, Mme.silent)) ∧
      let amf := Amf.registered .standard none
      amf.world.get? 0 = some (Amf.registering 1 (Octets.zeros 3) .empty) ∧
        Amf.step .standard amf (.ngap (Octets.zeros 16) (.ueContextReleaseComplete ⟨0, 2⟩)) =
          ((Amf.request .standard amf Amf.releaseTest).reassociated 2
              (Amf.step .standard amf Amf.releaseTest).1,
            Amf.readdressed 2 (Amf.step .standard amf Amf.releaseTest).2) ∧
        (Amf.step .standard amf
          (.ngap (Octets.zeros 16) (.ueContextReleaseComplete ⟨0, 2⟩))).1.world.get? 0 = none ∧
        ∃ hss, Amf.step .standard amf
            (.ngap (Octets.zeros 16) (.ueContextReleaseComplete ⟨1, 2⟩)) =
          ({ amf with hss := hss }, Amf.silent) := by
  constructor
  · intro mme
    have hlaw := (ranSideId_ignored .standard).1 mme (Octets.zeros 16)
    have hother : mme.world.get? 1 = none := Mme.get?_attachTest_of_ne .standard none (by decide)
    refine ⟨Mme.get?_attachTest .standard none, ?_, ?_, ?_⟩
    · exact (hlaw (.ueContextReleaseComplete ⟨0, 1⟩) 0 1 rfl).1 2
    · exact (hlaw (.ueContextReleaseComplete ⟨0, 2⟩) 0 2 rfl).2.2 rfl
    · exact (hlaw (.ueContextReleaseComplete ⟨1, 2⟩) 1 2 rfl).2.1 hother
  · intro amf
    have hlaw := (ranSideId_ignored .standard).2 amf (Octets.zeros 16)
    have hother : amf.world.get? 1 = none := Amf.get?_registerTest_of_ne .standard rfl (by decide)
    refine ⟨Amf.get?_registerTest .standard rfl, ?_, ?_, ?_⟩
    · exact (hlaw (.ueContextReleaseComplete ⟨0, 1⟩) 0 1 rfl).1 2
    · exact (hlaw (.ueContextReleaseComplete ⟨0, 2⟩) 0 2 rfl).2.2 rfl
    · exact (hlaw (.ueContextReleaseComplete ⟨1, 2⟩) 1 2 rfl).2.1 hother

end Midn.Core
