import Midn.Core.Amf.Pipeline
import Midn.Core.Amf.Procedure
import Midn.Core.Mme.Pipeline
import Midn.Core.Mme.Procedure
import Midn.Crypto.Standard

/-!
# Octets in, octets out: both cores

Neither core ever responds with a message that its encoder refuses, whatever octets arrive.
-/

namespace Midn.Core

/-- Whatever arrives and whatever the subscriber database holds, every response of a run is
encoded, and the octets are decoded to the response. -/
theorem responses_encoded (P : Primitives) (upf : Option (Octets 4)) :
    (∀ arrivals : List Mme.Arrival,
      ∀ t ∈ Mealy.run (Mme.step P) (Mme.new upf) (arrivals.filterMap Mme.Arrival.input?),
        ∀ resp ∈ t.output.1, ∃ bytes,
          S1ap.encodeS1apPdu resp = some (.ok bytes) ∧ S1ap.decodeS1apPdu bytes = .ok resp) ∧
    (∀ arrivals : List Amf.Arrival,
      ∀ t ∈ Mealy.run (Amf.step P) (Amf.new upf) (arrivals.filterMap Amf.Arrival.input?),
        ∀ resp ∈ t.output.1, ∃ bytes,
          Ngap.encodeNgapPdu resp = some (.ok bytes) ∧ Ngap.decodeNgapPdu bytes = .ok resp) :=
  ⟨fun arrivals => Mme.roundTrips_run P upf arrivals,
    fun arrivals => Amf.roundTrips_run P upf (arrivals.filterMap Amf.Arrival.input?)⟩

/-- The octets of the attach request of the test subscriber. -/
def Mme.attachOctets : List UInt8 :=
  [3, 16, 53, 5, 0, 8, 0, 3, 0, 0, 1, 0, 26, 0, 16, 15, 7, 65, 113, 8, 9, 16, 16, 0, 0, 0, 0, 16,
    2, 32, 64, 0, 67, 64, 5, 0, 0, 0, 0, 0, 0, 100, 64, 7, 0, 0, 0, 0, 0, 0, 0, 0, 134, 64, 1, 0]

theorem Mme.encode_attachTest :
    S1ap.encodeS1apPdu (.initialUeMessage
      ⟨1, Nas.encodeAttachRequest testImsi 1 7, Octets.zeros 5, Octets.zeros 7, 0⟩) =
      some (.ok attachOctets) := by
  decide +kernel

/-- The test subscriber is provisioned, and its attach request arrives. -/
def Mme.attachArrivals : List Mme.Arrival :=
  [.hssMut (Hss.new.provision testImsi (Octets.zeros 16) (Octets.zeros 16)),
    .message (Octets.zeros 16) attachOctets]

theorem Mme.filterMap_attachArrivals :
    attachArrivals.filterMap Arrival.input? = [provisionTest, attachTest] := by
  have hprovision : Arrival.input?
      (.hssMut (Hss.new.provision testImsi (Octets.zeros 16) (Octets.zeros 16))) =
      some provisionTest := rfl
  have hattach : Arrival.input? (.message (Octets.zeros 16) attachOctets) = some attachTest :=
    Arrival.input?_message _ (S1ap.decode_encodeS1apPdu encode_attachTest)
  rw [attachArrivals, List.filterMap_cons_some hprovision, List.filterMap_cons_some hattach,
    List.filterMap_nil]

/-- The run of these arrivals responds with a challenge. -/
theorem Mme.exists_challenge (P : Primitives) :
    ∃ t ∈ Mealy.run (step P) (Mme.new none) (attachArrivals.filterMap Arrival.input?),
      .downlinkNasTransport ⟨0, 1, Nas.encodeAuthRequest 0 (Octets.zeros 16)
        ((testAuthInfo P).vector.autn (Octets.zeros 6) milenageAmfField)⟩ ∈ t.output.1 := by
  have hsub : (provisioned P none).hss.subscribers testImsi =
      some ⟨⟨Octets.zeros 16, Octets.zeros 16⟩, 0⟩ := rfl
  rw [filterMap_attachArrivals]
  refine ⟨Mealy.transition (step P) (provisioned P none) attachTest,
    List.mem_cons_of_mem _ List.mem_cons_self, ?_⟩
  rw [Mealy.transition, attachTest,
    step_attachRequest P _ hsub (by decide) (Octets.zeros 16) 1 7 rfl]
  exact List.mem_cons_self

/-- The challenge that the attach request draws is encoded. -/
theorem responses_encoded_challenge :
    ∃ bytes,
      S1ap.encodeS1apPdu (.downlinkNasTransport ⟨0, 1, Nas.encodeAuthRequest 0 (Octets.zeros 16)
        ((Mme.testAuthInfo .standard).vector.autn (Octets.zeros 6) milenageAmfField)⟩) =
          some (.ok bytes) ∧
      S1ap.decodeS1apPdu bytes = .ok (.downlinkNasTransport ⟨0, 1,
        Nas.encodeAuthRequest 0 (Octets.zeros 16)
          ((Mme.testAuthInfo .standard).vector.autn (Octets.zeros 6) milenageAmfField)⟩) := by
  obtain ⟨t, hmem, hresp⟩ := Mme.exists_challenge .standard
  exact (responses_encoded .standard none).1 Mme.attachArrivals t hmem _ hresp

end Midn.Core
