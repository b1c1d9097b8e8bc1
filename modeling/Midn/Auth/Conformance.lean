import Mathlib.Algebra.Group.Fin.Basic
import Midn.Auth.Milenage
import Midn.Lib.Word

/-!
# Milenage over words

The computation goes through one buffer that is written over for each of the functions, with a shift
of the index in place of a rotation. The standard has the functions over words of 128 bits, with
rotations and constants. Both are the same.
-/

namespace Midn.Auth

/-! ## The buffer -/

/-- `for i in 0..16 { buf[(i + shift) % 16] = value[i]; }` -/
def writeShifted (shift : Fin 16) (value : Fin 16 → UInt8) (buf : Octets 16) : Octets 16 :=
  Octets.modifyEach (List.finRange 16) (fun i => i + shift) (fun i _ => value i) buf

/-- `for i in 0..16 { buf[i] ^= mask[i]; }` -/
def xorEach (mask buf : Octets 16) : Octets 16 :=
  Octets.modifyEach (List.finRange 16) (fun i => i) (fun i byte => byte ^^^ mask.get i) buf

/-- `for i in 0..6 { buf[i] ^= mask[i]; }` -/
def xorFirstSix (mask buf : Octets 16) : Octets 16 :=
  Octets.modifyEach (List.finRange 6) (Fin.castLE (by decide))
    (fun i byte => byte ^^^ mask.get (Fin.castLE (by decide) i)) buf

/-- Nothing of the buffer is left. -/
theorem writeShifted_eq (shift : Fin 16) (value : Fin 16 → UInt8) (buf : Octets 16) :
    writeShifted shift value buf = rotate shift (List.Vector.ofFn value) := by
  have hinj : Function.Injective fun i : Fin 16 => i + shift := add_left_injective shift
  ext j
  have hwrite := Octets.get_modifyEach (fun i _ => value i) hinj (List.nodup_finRange 16)
    (List.mem_finRange (j - shift)) buf
  simp only [sub_add_cancel] at hwrite
  rw [rotate, List.Vector.get_ofFn, List.Vector.get_ofFn, writeShifted, hwrite]

theorem xorEach_eq (mask buf : Octets 16) : xorEach mask buf = Octets.xor buf mask := by
  have hinj : Function.Injective fun i : Fin 16 => i := Function.injective_id
  ext i
  rw [Octets.get_xor, xorEach, Octets.get_modifyEach _ hinj (List.nodup_finRange 16)
    (List.mem_finRange i)]

theorem first_six : 0 + 6 ≤ 16 := by decide

theorem get_slice {n : Nat} (a : Octets n) (start len : Nat) (hfit : start + len ≤ n)
    (i : Fin len) :
    (a.slice start len hfit).get i = a.get ⟨start + i, by omega⟩ := by
  rw [List.Vector.get_eq_get_toList, List.Vector.get_eq_get_toList]
  simp only [Octets.toList_slice, List.get_eq_getElem, List.getElem_take, List.getElem_drop]
  rfl

theorem slice_xorFirstSix (mask buf : Octets 16) :
    (xorFirstSix mask buf).slice 0 6 first_six =
      Octets.xor (buf.slice 0 6 first_six) (mask.slice 0 6 first_six) := by
  have hinj : Function.Injective (Fin.castLE (by decide : 6 ≤ 16)) :=
    Fin.castLE_injective (by decide)
  ext i
  have hplace : (⟨0 + i, by omega⟩ : Fin 16) = Fin.castLE (by decide) i := by
    ext
    exact Nat.zero_add _
  rw [Octets.get_xor, get_slice, get_slice, get_slice, hplace, xorFirstSix,
    Octets.get_modifyEach _ hinj (List.nodup_finRange 6) (List.mem_finRange i)]

theorem length_in1 (sqn : Octets 6) (amf : Octets 2) :
    (sqn.toList ++ amf.toList ++ sqn.toList ++ amf.toList).length = 16 := by
  simp only [List.length_append, Octets.length_toList]

/-- The two AMF and SQN fields, twice. -/
def in1Of (sqn : Octets 6) (amf : Octets 2) : Octets 16 :=
  ⟨sqn.toList ++ amf.toList ++ sqn.toList ++ amf.toList, length_in1 sqn amf⟩

theorem first_eight_in_block : 0 + 8 ≤ 16 := by decide

variable (P : Primitives)

/-- The numerals of the shifts. -/
local instance neZero_sixteen : NeZero 16 := ⟨by decide⟩

/-- The statements of the computation in their order, over the one buffer. -/
def MilenageContext.computeInPlace (ctx : MilenageContext) (rand : Octets 16) (sqn : Octets 6)
    (amf : Octets 2) : AuthVector :=
  let k := ctx.k
  let opc := ctx.opc
  let buf := writeShifted 0 (fun i => rand.get i ^^^ opc.get i) (Octets.zeros 16)
  let temp := P.aes128 k buf
  -- f1 and f1*
  let in1 := in1Of sqn amf
  let buf := writeShifted 8 (fun i => in1.get i ^^^ opc.get i) buf
  let buf := xorEach temp buf
  let out1 := xorEach opc (P.aes128 k buf)
  -- f2 and f5
  let buf := writeShifted 0 (fun i => temp.get i ^^^ opc.get i) buf
  let buf := xorLast buf 0x01
  let out2 := xorEach opc (P.aes128 k buf)
  -- f3
  let buf := writeShifted 12 (fun i => temp.get i ^^^ opc.get i) buf
  let buf := xorLast buf 0x02
  let ck := xorEach opc (P.aes128 k buf)
  -- f4
  let buf := writeShifted 8 (fun i => temp.get i ^^^ opc.get i) buf
  let buf := xorLast buf 0x04
  let ik := xorEach opc (P.aes128 k buf)
  -- f5*
  let buf := writeShifted 4 (fun i => temp.get i ^^^ opc.get i) buf
  let buf := xorLast buf 0x08
  let out5 := xorFirstSix opc (P.aes128 k buf)
  { macA := out1.slice 0 8 first_eight_in_block
    macS := out1.slice 8 8 macA_in_autn
    res := out2.slice 8 8 macA_in_autn
    ck := ck
    ik := ik
    ak := out2.slice 0 6 sqn_in_autn
    akStar := out5.slice 0 6 sqn_in_autn }

theorem ofFn_xor (a b : Octets 16) :
    (List.Vector.ofFn fun i => a.get i ^^^ b.get i) = Octets.xor a b := by
  ext i
  rw [List.Vector.get_ofFn, Octets.get_xor]

theorem rotate_zero (a : Octets 16) : rotate 0 a = a := by
  ext i
  rw [rotate, List.Vector.get_ofFn, sub_zero]

/-- No octet of an earlier function is left in a later one. -/
theorem MilenageContext.computeInPlace_eq (ctx : MilenageContext) (rand : Octets 16)
    (sqn : Octets 6) (amf : Octets 2) :
    ctx.computeInPlace P rand sqn amf = ctx.compute P rand sqn amf := by
  simp only [computeInPlace, writeShifted_eq, ofFn_xor, rotate_zero, xorEach_eq]
  rw [slice_xorFirstSix]
  rfl

/-! ## Blocks as words -/

/-- The word of a block. -/
def word (block : Octets 16) : BitVec 128 := block.toWord

theorem word_xor (a b : Octets 16) : word (Octets.xor a b) = word a ^^^ word b :=
  Octets.toWord_xor a b

theorem toList_rotate (r : Fin 16) (a : Octets 16) :
    (rotate r a).toList = a.toList.drop (16 - r) ++ a.toList.take (16 - r) := by
  have hlength := a.length_toList
  have hr := r.isLt
  rw [← List.rotate_eq_drop_append_take (by omega)]
  apply List.ext_getElem
  · rw [List.length_rotate, Octets.length_toList, Octets.length_toList]
  · intro j hj _
    have hlt : j < 16 := by rwa [Octets.length_toList] at hj
    have hplace : ((⟨j, hlt⟩ : Fin 16) - r).val = (j + (16 - r.val)) % 16 := by
      rw [Fin.sub_def, Nat.add_comm]
    calc (rotate r a).toList[j]
        = (rotate r a).get ⟨j, hlt⟩ := rfl
      _ = a.get (⟨j, hlt⟩ - r) := List.Vector.get_ofFn ..
      _ = a.toList[((⟨j, hlt⟩ : Fin 16) - r).val] := rfl
      _ = (a.toList.rotate (16 - r))[j] := by
        rw [List.getElem_rotate]
        simp only [hplace, hlength]

/-- A shift of the index is a rotation by the other octets. -/
theorem word_rotate {r : Fin 16} (hr : r ≠ 0) (a : Octets 16) :
    word (rotate r a) = (word a).rotateLeft (8 * (16 - r)) := by
  have hpos : 0 < r.val := Nat.pos_of_ne_zero (Fin.val_ne_of_ne hr)
  exact Octets.toWord_of_rotate (by omega) (toList_rotate r a)

/-- A constant in the last octet is a constant of the word. -/
theorem word_xorLast (a : Octets 16) (c : UInt8) :
    word (xorLast a c) = word a ^^^ BitVec.ofNat 128 c.toNat := by
  have hmask : word ((Octets.zeros 16).set 15 c) = BitVec.ofNat 128 c.toNat := by
    have hzeros : Octets.beValue (List.replicate 15 0) = 0 := by decide
    have hvalue : Octets.beValue (List.replicate 15 0 ++ [c]) = c.toNat := by
      rw [Octets.beValue_append, hzeros, Nat.zero_mul, Nat.zero_add, Octets.beValue,
        List.length_nil, pow_zero, Nat.mul_one, Octets.beValue, Nat.add_zero]
    exact congrArg (BitVec.ofNat 128) hvalue
  have hxor : xorLast a c = Octets.xor a ((Octets.zeros 16).set 15 c) := by
    ext i
    rw [xorLast, Octets.get_xor]
    by_cases hlast : (15 : Fin 16) = i
    · rw [← hlast, List.Vector.get_set_same, List.Vector.get_set_same]
    · rw [List.Vector.get_set_of_ne hlast, List.Vector.get_set_of_ne hlast, Octets.zeros,
        List.Vector.get_replicate, UInt8.xor_zero]
  rw [hxor, word_xor, hmask]

theorem word_slice (a : Octets 16) (start len : Nat) (hfit : start + len ≤ 16) :
    (a.slice start len hfit).toWord =
      (word a).extractLsb' (8 * (16 - (start + len))) (8 * len) :=
  Octets.toWord_slice ..

theorem word_in1Of (sqn : Octets 6) (amf : Octets 2) :
    word (in1Of sqn amf) =
      (sqn.toWord ++ amf.toWord ++ sqn.toWord ++ amf.toWord : BitVec 128) := by
  have hfront := Octets.toNat_append_toWord sqn.toNat_toWord amf
  have hthird := Octets.toNat_append_toWord hfront sqn
  have hwhole := Octets.toNat_append_toWord hthird amf
  apply BitVec.eq_of_toNat_eq
  exact ((in1Of sqn amf).toNat_toWord).trans hwhole.symm

/-! ## The standard -/

namespace Ts35206

section Functions

variable (E : BitVec 128 → BitVec 128) (opc rand : BitVec 128)

def temp : BitVec 128 := E (rand ^^^ opc)

def in1 (sqn : BitVec 48) (amf : BitVec 16) : BitVec 128 := sqn ++ amf ++ sqn ++ amf

def out1 (sqn : BitVec 48) (amf : BitVec 16) : BitVec 128 :=
  E (temp E opc rand ^^^ (in1 sqn amf ^^^ opc).rotateLeft 64 ^^^ 0) ^^^ opc

/-- An output with its rotation and its constant. -/
def out (r : Nat) (c : BitVec 128) : BitVec 128 :=
  E ((temp E opc rand ^^^ opc).rotateLeft r ^^^ c) ^^^ opc

def out2 : BitVec 128 := out E opc rand 0 1

def out3 : BitVec 128 := out E opc rand 32 2

def out4 : BitVec 128 := out E opc rand 64 4

def out5 : BitVec 128 := out E opc rand 96 8

end Functions

/-- The block cipher under the key of a subscriber, on words. -/
def blockCipher (P : Primitives) (k : Octets 16) (x : BitVec 128) : BitVec 128 :=
  word (P.aes128 k (Octets.ofWord (n := 16) x))

theorem blockCipher_word (P : Primitives) (k a : Octets 16) :
    blockCipher P k (word a) = word (P.aes128 k a) :=
  congrArg (fun block => word (P.aes128 k block)) a.ofWord_toWord

/-- The seven functions: f1 and f1* are the halves of the first output, f5 and f2 the front and the
back of the second, f3 and f4 the third and the fourth, and f5* is the front of the fifth. -/
structure Conforms (E : BitVec 128 → BitVec 128) (opc rand : BitVec 128) (sqn : BitVec 48)
    (amf : BitVec 16) (vector : AuthVector) : Prop where
  f1 : vector.macA.toWord = (out1 E opc rand sqn amf).extractLsb' 64 64
  f1Star : vector.macS.toWord = (out1 E opc rand sqn amf).extractLsb' 0 64
  f2 : vector.res.toWord = (out2 E opc rand).extractLsb' 0 64
  f3 : word vector.ck = out3 E opc rand
  f4 : word vector.ik = out4 E opc rand
  f5 : vector.ak.toWord = (out2 E opc rand).extractLsb' 80 48
  f5Star : vector.akStar.toWord = (out5 E opc rand).extractLsb' 80 48

/-- An output of the last four functions, on blocks. -/
theorem word_out (P : Primitives) (ctx : MilenageContext) (rand : Octets 16) {r : Fin 16}
    (hr : r ≠ 0) (c : UInt8) :
    word (Octets.xor (P.aes128 ctx.k (xorLast (rotate r (Octets.xor
      (P.aes128 ctx.k (Octets.xor rand ctx.opc)) ctx.opc)) c)) ctx.opc) =
      out (blockCipher P ctx.k) (word ctx.opc) (word rand) (8 * (16 - r))
        (BitVec.ofNat 128 c.toNat) := by
  rw [out, temp, ← word_xor, blockCipher_word, ← word_xor, ← word_rotate hr, ← word_xorLast,
    blockCipher_word, ← word_xor]

theorem word_out1 (P : Primitives) (ctx : MilenageContext) (rand : Octets 16) (sqn : Octets 6)
    (amf : Octets 2) :
    word (Octets.xor (P.aes128 ctx.k (Octets.xor (rotate 8 (Octets.xor (in1Of sqn amf) ctx.opc))
      (P.aes128 ctx.k (Octets.xor rand ctx.opc)))) ctx.opc) =
      out1 (blockCipher P ctx.k) (word ctx.opc) (word rand) sqn.toWord amf.toWord := by
  have hin1 : in1 sqn.toWord amf.toWord = word (in1Of sqn amf) := (word_in1Of sqn amf).symm
  have hrotate : (word (Octets.xor (in1Of sqn amf) ctx.opc)).rotateLeft 64 =
      word (rotate 8 (Octets.xor (in1Of sqn amf) ctx.opc)) :=
    (word_rotate (by decide : (8 : Fin 16) ≠ 0) _).symm
  have hzero : ∀ x : BitVec 128, x ^^^ 0 = x := fun x => BitVec.xor_zero
  rw [out1, temp, hzero, hin1, ← word_xor, ← word_xor, blockCipher_word, hrotate, ← word_xor,
    blockCipher_word, ← word_xor, Octets.xor_comm (rotate _ _)]

/-- The second output has no rotation. -/
theorem word_out2 (P : Primitives) (ctx : MilenageContext) (rand : Octets 16) :
    word (Octets.xor (P.aes128 ctx.k (xorLast (Octets.xor
      (P.aes128 ctx.k (Octets.xor rand ctx.opc)) ctx.opc) 0x01)) ctx.opc) =
      out2 (blockCipher P ctx.k) (word ctx.opc) (word rand) := by
  have hrotate : ∀ x : BitVec 128, x.rotateLeft 0 = x := by
    intro x
    rw [BitVec.rotateLeft_def, Nat.zero_mod, BitVec.shiftLeft_zero, Nat.sub_zero,
      BitVec.ushiftRight_eq_zero (le_refl 128), BitVec.or_zero]
  have hconstant : (1 : BitVec 128) = BitVec.ofNat 128 (0x01 : UInt8).toNat := rfl
  rw [out2, out, temp, ← word_xor, blockCipher_word, ← word_xor, hrotate, hconstant,
    ← word_xorLast, blockCipher_word, ← word_xor]

end Ts35206

theorem slice_xor {n : Nat} (a b : Octets n) (start len : Nat) (hfit : start + len ≤ n) :
    (Octets.xor a b).slice start len hfit =
      Octets.xor (a.slice start len hfit) (b.slice start len hfit) := by
  ext i
  rw [Octets.get_xor, get_slice, get_slice, get_slice, Octets.get_xor]

/-- For every block cipher, key, OPc, RAND, SQN and AMF the computation conforms. -/
theorem computeInPlace_conforms (P : Primitives) (ctx : MilenageContext) (rand : Octets 16)
    (sqn : Octets 6) (amf : Octets 2) :
    Ts35206.Conforms (Ts35206.blockCipher P ctx.k) (word ctx.opc) (word rand) sqn.toWord amf.toWord
      (ctx.computeInPlace P rand sqn amf) := by
  rw [ctx.computeInPlace_eq]
  have hout1 := Ts35206.word_out1 P ctx rand sqn amf
  have hout2 := Ts35206.word_out2 P ctx rand
  have hout5 := Ts35206.word_out P ctx rand (by decide : (4 : Fin 16) ≠ 0) 0x08
  refine ⟨?_, ?_, ?_, ?_, ?_, ?_, ?_⟩
  · exact (word_slice _ 0 8 (by decide)).trans (congrArg (BitVec.extractLsb' 64 64) hout1)
  · exact (word_slice _ 8 8 (by decide)).trans (congrArg (BitVec.extractLsb' 0 64) hout1)
  · exact (word_slice _ 8 8 (by decide)).trans (congrArg (BitVec.extractLsb' 0 64) hout2)
  · exact Ts35206.word_out P ctx rand (by decide : (12 : Fin 16) ≠ 0) 0x02
  · exact Ts35206.word_out P ctx rand (by decide : (8 : Fin 16) ≠ 0) 0x04
  · exact (word_slice _ 0 6 first_six).trans (congrArg (BitVec.extractLsb' 80 48) hout2)
  · -- masking the first six octets is enough for what is taken of the fifth output
    have hslice := congrArg Octets.toWord (slice_xor (P.aes128 ctx.k (xorLast (rotate 4 (Octets.xor
      (P.aes128 ctx.k (Octets.xor rand ctx.opc)) ctx.opc)) 0x08)) ctx.opc 0 6 first_six)
    exact hslice.symm.trans ((word_slice _ 0 6 first_six).trans
      (congrArg (BitVec.extractLsb' 80 48) hout5))

end Midn.Auth
