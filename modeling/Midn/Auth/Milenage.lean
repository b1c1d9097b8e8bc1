import Midn.Crypto.Primitives

/-!
# Milenage

The seven 3GPP authentication functions over AES-128, the AUTN token and the RES comparison.
-/

namespace Midn.Auth

/-- All seven Milenage outputs for one RAND, SQN and AMF. -/
structure AuthVector where
  macA : Octets 8
  macS : Octets 8
  res : Octets 8
  ck : Octets 16
  ik : Octets 16
  ak : Octets 6
  akStar : Octets 6

/-- `AUTN = (SQN ⊕ AK) ∥ AMF ∥ MAC-A`. -/
def AuthVector.autn (vector : AuthVector) (sqn : Octets 6) (amf : Octets 2) : Octets 16 :=
  ⟨(Octets.xor sqn vector.ak).toList ++ amf.toList ++ vector.macA.toList, by
    simp only [List.length_append, Octets.length_toList]⟩

/-! The three fields of AUTN, read back at their places. -/

theorem sqn_in_autn : 0 + 6 ≤ 16 := by decide

theorem amf_in_autn : 6 + 2 ≤ 16 := by decide

theorem macA_in_autn : 8 + 8 ≤ 16 := by decide

theorem AuthVector.autn_sqnXorAk (vector : AuthVector) (sqn : Octets 6) (amf : Octets 2) :
    (vector.autn sqn amf).slice 0 6 sqn_in_autn = Octets.xor sqn vector.ak := by
  apply List.Vector.eq
  rw [Octets.toList_slice, List.drop_zero, autn, List.Vector.toList_mk, List.append_assoc,
    List.take_left' (Octets.length_toList _)]

theorem AuthVector.autn_amf (vector : AuthVector) (sqn : Octets 6) (amf : Octets 2) :
    (vector.autn sqn amf).slice 6 2 amf_in_autn = amf := by
  apply List.Vector.eq
  rw [Octets.toList_slice, autn, List.Vector.toList_mk, List.append_assoc,
    List.drop_left' (Octets.length_toList _), List.take_left' (Octets.length_toList _)]

theorem AuthVector.autn_macA (vector : AuthVector) (sqn : Octets 6) (amf : Octets 2) :
    (vector.autn sqn amf).slice 8 8 macA_in_autn = vector.macA := by
  have hfront : ((Octets.xor sqn vector.ak).toList ++ amf.toList).length = 8 := by
    rw [List.length_append, Octets.length_toList, Octets.length_toList]
  apply List.Vector.eq
  rw [Octets.toList_slice, autn, List.Vector.toList_mk, List.drop_left' hfront,
    List.take_of_length_le (le_of_eq (Octets.length_toList _))]

/-- A 48-bit sequence number kept in the low bits of a word. -/
structure Sqn where
  value : UInt64

/-- The low 48 bits of a word. -/
theorem sqn_in_word : 2 + 6 ≤ 8 := by decide

def Sqn.toBytes (sqn : Sqn) : Octets 6 := sqn.value.toBeBytes.slice 2 6 sqn_in_word

def Sqn.fromBytes (bytes : Octets 6) : Sqn :=
  ⟨UInt64.fromBeBytes (0 ::ᵥ 0 ::ᵥ bytes)⟩

@[simp] theorem Sqn.toBytes_fromBytes (bytes : Octets 6) : (fromBytes bytes).toBytes = bytes := by
  rw [toBytes, fromBytes, UInt64.toBeBytes_fromBeBytes]
  apply List.Vector.eq
  change bytes.toList.take 6 = bytes.toList
  rw [List.take_of_length_le (le_of_eq bytes.length_toList)]

/-- Subscriber key and operator variant. -/
structure MilenageContext where
  k : Octets 16
  opc : Octets 16

/-- `buf[(i + r) % 16] = a[i]` for every `i`. -/
def rotate (r : Fin 16) (a : Octets 16) : Octets 16 := List.Vector.ofFn fun j => a.get (j - r)

/-- Exclusive or of a constant into the last byte. -/
def xorLast (a : Octets 16) (c : UInt8) : Octets 16 := a.set 15 (a.get 15 ^^^ c)

namespace MilenageContext

variable (P : Primitives)

/-- Derive OPc from OP. -/
def withOp (k op : Octets 16) : MilenageContext := ⟨k, Octets.xor (P.aes128 k op) op⟩

/-- The six block operations of Milenage. -/
def compute (ctx : MilenageContext) (rand : Octets 16) (sqn : Octets 6) (amf : Octets 2) :
    AuthVector :=
  let temp := P.aes128 ctx.k (Octets.xor rand ctx.opc)
  let in1 : Octets 16 := ⟨sqn.toList ++ amf.toList ++ sqn.toList ++ amf.toList, by
    simp only [List.length_append, Octets.length_toList]⟩
  let out1 := Octets.xor
    (P.aes128 ctx.k (Octets.xor (rotate 8 (Octets.xor in1 ctx.opc)) temp)) ctx.opc
  let masked := Octets.xor temp ctx.opc
  let out2 := Octets.xor (P.aes128 ctx.k (xorLast masked 0x01)) ctx.opc
  let ck := Octets.xor (P.aes128 ctx.k (xorLast (rotate 12 masked) 0x02)) ctx.opc
  let ik := Octets.xor (P.aes128 ctx.k (xorLast (rotate 8 masked) 0x04)) ctx.opc
  let out5 := P.aes128 ctx.k (xorLast (rotate 4 masked) 0x08)
  { macA := out1.slice 0 8 (by decide)
    macS := out1.slice 8 8 (by decide)
    res := out2.slice 8 8 (by decide)
    ck := ck
    ik := ik
    ak := out2.slice 0 6 (by decide)
    -- only the first six bytes are unmasked
    akStar := Octets.xor (out5.slice 0 6 (by decide)) (ctx.opc.slice 0 6 (by decide)) }

/-- The production path: RAND comes from the operating system, here from the caller. -/
def generateVector (ctx : MilenageContext) (sqn : Sqn) (amf : Octets 2) (rand : Octets 16) :
    Octets 16 × AuthVector :=
  (rand, ctx.compute P rand sqn.toBytes amf)

/-- RES comparison. -/
def verifyRes (expected received : Octets 8) : Bool := expected = received

/-- Only MAC-A and MAC-S depend on SQN and AMF: a UE that does not know them yet computes the
same RES, keys and AK. -/
theorem compute_indep_sqn (ctx : MilenageContext) (rand : Octets 16) (sqn sqn' : Octets 6)
    (amf amf' : Octets 2) :
    (ctx.compute P rand sqn amf).res = (ctx.compute P rand sqn' amf').res ∧
      (ctx.compute P rand sqn amf).ck = (ctx.compute P rand sqn' amf').ck ∧
      (ctx.compute P rand sqn amf).ik = (ctx.compute P rand sqn' amf').ik ∧
      (ctx.compute P rand sqn amf).ak = (ctx.compute P rand sqn' amf').ak :=
  ⟨rfl, rfl, rfl, rfl⟩

end MilenageContext

end Midn.Auth
