import Mathlib.Logic.Function.Basic
import Midn.Auth.Milenage

/-!
# In-memory HSS

Subscriber credentials with their sequence numbers, and the generation of authentication vectors.
-/

namespace Midn

open Auth

/-- Authentication material returned for one AKA attempt. -/
structure HssAuthInfo where
  rand : Octets 16
  vector : AuthVector
  sqnUsed : Octets 6

structure SubscriberRecord where
  ctx : MilenageContext
  sqn : UInt64

/-- The 48-bit wire encoding of the sequence number. -/
def SubscriberRecord.sqnBytes (record : SubscriberRecord) : Octets 6 :=
  record.sqn.toBeBytes.slice 2 6 Auth.sqn_in_word

/-- A new subscriber begins with the first sequence number. -/
theorem SubscriberRecord.sqnBytes_fresh (ctx : MilenageContext) :
    SubscriberRecord.sqnBytes ⟨ctx, 0⟩ = Octets.zeros 6 := by
  show Octets.slice (UInt64.toBeBytes 0) 2 6 _ = Octets.zeros 6
  rfl

/-- The subscribers by IMSI. -/
structure Hss where
  subscribers : UInt64 → Option SubscriberRecord

/-- The Milenage Authentication Management Field of every vector. -/
def milenageAmfField : Octets 2 := ⟨[0x80, 0x00], rfl⟩

theorem length_milenageAmfField : ([0x80, 0x00] : List UInt8).length = 2 := rfl

/-- Sequence numbers are kept to 48 bits. -/
def sqnMask : UInt64 := 0x0000FFFFFFFFFFFF

theorem and_sqnMask_toNat (x : UInt64) : (x &&& sqnMask).toNat = x.toNat % 2 ^ 48 := by
  have hmask : sqnMask.toNat = 2 ^ 48 - 1 := rfl
  rw [UInt64.toNat_and, hmask, Nat.and_two_pow_sub_one_eq_mod]

namespace Hss

def new : Hss := ⟨fun _ => none⟩

/-- Add a subscriber from a precomputed OPc. -/
def provision (hss : Hss) (imsi : UInt64) (k opc : Octets 16) : Hss :=
  ⟨Function.update hss.subscribers imsi (some ⟨⟨k, opc⟩, 0⟩)⟩

/-- Add a subscriber from the operator OP. -/
def provisionWithOp (P : Primitives) (hss : Hss) (imsi : UInt64) (k op : Octets 16) : Hss :=
  ⟨Function.update hss.subscribers imsi (some ⟨.withOp P k op, 0⟩)⟩

/-- Remove a subscriber; the answer is whether it was there. -/
def deprovision (hss : Hss) (imsi : UInt64) : Bool × Hss :=
  ((hss.subscribers imsi).isSome, ⟨Function.update hss.subscribers imsi none⟩)

def hasSubscriber (hss : Hss) (imsi : UInt64) : Bool := (hss.subscribers imsi).isSome

/-- Generate a vector for a subscriber with the given RAND and advance its sequence number; an
unknown IMSI leaves the store unchanged. -/
def generateAuthVector (P : Primitives) (hss : Hss) (imsi : UInt64) (rand : Octets 16) :
    Option HssAuthInfo × Hss :=
  match hss.subscribers imsi with
  | none => (none, hss)
  | some sub =>
      let sqnUsed := sub.sqnBytes
      let (rand, vector) :=
        sub.ctx.generateVector P (Sqn.fromBytes sqnUsed) milenageAmfField rand
      let sub := { sub with sqn := (sub.sqn + 1) &&& sqnMask }
      (some ⟨rand, vector, sqnUsed⟩, ⟨Function.update hss.subscribers imsi (some sub)⟩)

/-- Overwrite the sequence number of a subscriber. -/
def updateSqn (hss : Hss) (imsi newSqn : UInt64) : Bool × Hss :=
  match hss.subscribers imsi with
  | some sub =>
      (true, ⟨Function.update hss.subscribers imsi (some { sub with sqn := newSqn &&& sqnMask })⟩)
  | none => (false, hss)

/-- The vector of a provisioned subscriber is Milenage at its current sequence number. -/
theorem generateAuthVector_of_subscriber (P : Primitives) {hss : Hss} {imsi : UInt64}
    {sub : SubscriberRecord} (hsub : hss.subscribers imsi = some sub) (rand : Octets 16) :
    (hss.generateAuthVector P imsi rand).1 =
      some ⟨rand, sub.ctx.compute P rand sub.sqnBytes milenageAmfField, sub.sqnBytes⟩ := by
  simp only [generateAuthVector, hsub, MilenageContext.generateVector, Sqn.toBytes_fromBytes]

/-- Every subscriber stays provisioned. -/
theorem generateAuthVector_keeps (P : Primitives) {hss : Hss} {other : UInt64}
    (hsub : ∃ sub, hss.subscribers other = some sub) (imsi : UInt64) (rand : Octets 16) :
    ∃ sub, (hss.generateAuthVector P imsi rand).2.subscribers other = some sub := by
  cases himsi : hss.subscribers imsi with
  | none =>
      simp only [generateAuthVector, himsi]
      exact hsub
  | some sub =>
      simp only [generateAuthVector, himsi]
      rcases eq_or_ne other imsi with rfl | hne
      · exact ⟨_, Function.update_self ..⟩
      · rw [Function.update_of_ne hne]
        exact hsub

end Hss

end Midn
