import Midn.Core.Amf.Tunnels
import Midn.Core.Mme.Keys
import Midn.Core.Mme.Tunnels
import Midn.Crypto.Standard

/-!
# TEIDs of both cores

What the user plane may rely on in the events it gets from the MME in phase 3 and from the AMF in
phase B, and whether TEIDs get lost.
-/

namespace Midn.Core

open TeidAllocator Ecs

/-- In every run that opens fewer than 2^32 - 2^18 sessions, what is done with each TEID is a
prefix of sessions that are created, updated and removed, one after the other; and in every state
the tunnels of live entities have different TEIDs, none of them free. -/
theorem teids_follow_sessions (P : Primitives) (upfAddr : Octets 4) :
    (∀ inputs : List Mme.Input,
      openings UpfEvent.use (events (Mme.step P) (Mme.new (some upfAddr)) inputs) <
          2 ^ 32 - 2 ^ 18 →
        (∀ ulTeid, ∃ w ∈ Pool.sessions,
          Pool.uses ulTeid ((events (Mme.step P) (Mme.new (some upfAddr)) inputs).map
            UpfEvent.use) <+: w) ∧
        ∀ mme ∈ Mealy.states (Mme.step P) (Mme.new (some upfAddr)) inputs,
          (Mme.pool mme).Distinct) ∧
      ∀ inputs : List Amf.Input,
        openings N3Event.use (events (Amf.step P) (Amf.new (some upfAddr)) inputs) <
            2 ^ 32 - 2 ^ 18 →
          (∀ ulTeid, ∃ w ∈ Pool.sessions,
            Pool.uses ulTeid ((events (Amf.step P) (Amf.new (some upfAddr)) inputs).map
              N3Event.use) <+: w) ∧
          ∀ amf ∈ Mealy.states (Amf.step P) (Amf.new (some upfAddr)) inputs,
            (Amf.pool amf).Distinct := by
  have hmme : UInt32.toNat 0x00010000 ≤ 2 ^ 18 := by decide
  have hamf : UInt32.toNat 0x00020000 ≤ 2 ^ 18 := by decide
  constructor
  · intro inputs hfew
    refine follows_sessions (Mme.pool_step P) (Mme.pool_new _) ?_
    omega
  · intro inputs hfew
    refine follows_sessions (Amf.pool_step P) (Amf.pool_new _) ?_
    omega

/-- Two subscribers of either core use their TEIDs as the user plane expects: the first one's is
created, updated and removed while the other's is in use. -/
theorem twoSubscribers_follow_sessions :
    ((∀ ulTeid, ∃ w ∈ Pool.sessions,
        Pool.uses ulTeid ((events (Mme.step .standard) (Mme.new (some (Octets.zeros 4)))
          Mme.twoSubscribers).map UpfEvent.use) <+: w) ∧
      ∀ mme ∈ Mealy.states (Mme.step .standard) (Mme.new (some (Octets.zeros 4)))
          Mme.twoSubscribers,
        (Mme.pool mme).Distinct) ∧
      (∀ ulTeid, ∃ w ∈ Pool.sessions,
        Pool.uses ulTeid ((events (Amf.step .standard) (Amf.new (some (Octets.zeros 4)))
          Amf.twoSubscribers).map N3Event.use) <+: w) ∧
      ∀ amf ∈ Mealy.states (Amf.step .standard) (Amf.new (some (Octets.zeros 4)))
          Amf.twoSubscribers,
        (Amf.pool amf).Distinct := by
  have hmme := openings_le_length (Mme.pool_step .standard) (Mme.new (some (Octets.zeros 4)))
    Mme.twoSubscribers
  have hamf := openings_le_length (Amf.pool_step .standard) (Amf.new (some (Octets.zeros 4)))
    Amf.twoSubscribers
  have hlaw := teids_follow_sessions .standard (Octets.zeros 4)
  exact ⟨hlaw.1 _ (lt_of_le_of_lt hmme (by decide)), hlaw.2 _ (lt_of_le_of_lt hamf (by decide))⟩

/-- A run that does not exhaust the counter of the allocator loses no TEID exactly when every
SecurityModeComplete in it finds its entity without a tunnel. -/
theorem teids_conserved_iff (P : Primitives) (upfAddr : Octets 4) :
    (∀ inputs : List Mme.Input,
      Mealy.Always (Mme.step P) (Mme.new (some upfAddr)) inputs (fun _ t => Mme.NoWrap t) →
        ((∀ mme ∈ Mealy.states (Mme.step P) (Mme.new (some upfAddr)) inputs,
            (Mme.pool mme).Conserved 0x00010000) ↔
          Mealy.Always (Mme.step P) (Mme.new (some upfAddr)) inputs
            fun _ t => Mme.SecuresUntunnelled P t)) ∧
      ∀ inputs : List Amf.Input,
        Mealy.Always (Amf.step P) (Amf.new (some upfAddr)) inputs (fun _ t => Amf.NoWrap t) →
          ((∀ amf ∈ Mealy.states (Amf.step P) (Amf.new (some upfAddr)) inputs,
              (Amf.pool amf).Conserved 0x00020000) ↔
            Mealy.Always (Amf.step P) (Amf.new (some upfAddr)) inputs
              fun _ t => Amf.SecuresUntunnelled P t) :=
  ⟨fun _ hroom => Mme.conserved_iff P upfAddr hroom,
    fun _ hroom => Amf.conserved_iff P upfAddr hroom⟩

/-- A short run does not exhaust the counter. -/
theorem noWrap_of_short (P : Primitives) {inputs : List Mme.Input} (hshort : inputs.length ≤ 4) :
    Mealy.Always (Mme.step P) (Mme.new (some (Octets.zeros 4))) inputs
      fun _ t => Mme.NoWrap t := by
  refine always_roomy (Mme.pool_step P) (Mme.pool_new _) ?_
  have hfew := openings_le_length (Mme.pool_step P) (Mme.new (some (Octets.zeros 4))) inputs
  have hbase : UInt32.toNat 0x00010000 ≤ 2 ^ 18 := by decide
  omega

/-- The TEID of the test subscriber is either free or its own when it secures once. -/
theorem secureOnce_conserves_teids :
    ∀ mme ∈ Mealy.states (Mme.step .standard) (Mme.new (some (Octets.zeros 4))) Mme.secureOnce,
      (Mme.pool mme).Conserved 0x00010000 := by
  refine ((teids_conserved_iff .standard (Octets.zeros 4)).1 Mme.secureOnce
    (noWrap_of_short .standard (by decide))).mpr ?_
  rw [Mme.secureOnce, Mealy.always_cons, Mealy.always_cons, Mealy.always_cons]
  refine ⟨?_, ?_, ?_, Mealy.always_nil⟩
  · intro e enb hrequest
    cases hrequest
  · intro e enb hrequest
    obtain ⟨hss, hchallenge⟩ := Mme.request_attachTest .standard (some (Octets.zeros 4))
    cases hchallenge.symm.trans hrequest
  · intro e enb hrequest
    cases (Mme.request_completeSecurity .standard _).symm.trans hrequest
    have hattached := Mme.get?_attachTest .standard (some (Octets.zeros 4))
    exact congrArg (Option.bind · Entity.tunnel) hattached

/-- A UE in phase 3 that repeats its SecurityModeComplete makes the MME lose the first TEID. -/
theorem secureTwice_loses_teid :
    ¬ ∃ P : Primitives,
      Mealy.Always (Mme.step P) (Mme.new (some (Octets.zeros 4))) Mme.secureTwice
          (fun _ t => Mme.NoWrap t) →
        ∀ mme ∈ Mealy.states (Mme.step P) (Mme.new (some (Octets.zeros 4))) Mme.secureTwice,
          (Mme.pool mme).Conserved 0x00010000 := by
  rintro ⟨P, hclaim⟩
  have hroom := noWrap_of_short P (show Mme.secureTwice.length ≤ 4 by decide)
  have hsecures := (Mme.conserved_iff P (Octets.zeros 4) hroom).mp (hclaim hroom)
  have hnone := hsecures [_, _, _] _ [] rfl 0 1 (Mme.request_completeSecurity P _)
  have hsecured := Mme.get?_completeSecurity P
    (Mme.step P (Mme.provisioned P (some (Octets.zeros 4))) Mme.attachTest).1
  have hphase : (Mme.step P (Mme.provisioned P (some (Octets.zeros 4)))
      Mme.attachTest).1.phase3Upf = some (Octets.zeros 4) := by
    rw [Mme.phase3Upf_step]
    rfl
  have hsome := congrArg (Option.bind · Entity.tunnel) hsecured
  simp only [Mme.get?_attachTest, Option.map_some, Option.bind_some, Mme.secured, hphase] at hsome
  cases hnone.symm.trans hsome

end Midn.Core
