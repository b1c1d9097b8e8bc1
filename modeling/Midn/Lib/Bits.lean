import Mathlib.Data.Nat.Bitwise
import Mathlib.Data.List.Basic
import Mathlib.Tactic.Ring

/-!
# Bit strings

Bits are lists of booleans, the most significant first. This module has what bit-level formats need
of them: the binary numerals of a fixed width, and the packing of bits into octets.
-/

namespace Bits

/-! ## Numerals -/

/-- The `n` low-order bits of a natural. -/
def ofNat : Nat → Nat → List Bool
  | 0, _ => []
  | n + 1, v => v.testBit n :: ofNat n v

/-- Append a bit to a numeral. -/
def push (v : Nat) (b : Bool) : Nat := 2 * v + b.toNat

/-- The natural with the given bits. -/
def toNat (bits : List Bool) : Nat := bits.foldl push 0

@[simp] theorem length_ofNat (n v : Nat) : (ofNat n v).length = n := by
  induction n with
  | zero => rfl
  | succ n ih => rw [ofNat, List.length_cons, ih]

/-- Bits pushed on a numeral shift it by their number. -/
theorem foldl_push (v : Nat) (bits : List Bool) :
    bits.foldl push v = v * 2 ^ bits.length + toNat bits := by
  induction bits generalizing v with
  | nil => simp [toNat]
  | cons b bits ih =>
      have hnumeral : toNat (b :: bits) = push 0 b * 2 ^ bits.length + toNat bits := by
        rw [toNat, List.foldl_cons, ih]
      rw [List.foldl_cons, ih, hnumeral, push, push, List.length_cons]
      ring

theorem toNat_cons (b : Bool) (bits : List Bool) :
    toNat (b :: bits) = b.toNat * 2 ^ bits.length + toNat bits := by
  rw [toNat, List.foldl_cons, foldl_push, push, Nat.mul_zero, Nat.zero_add]

theorem toNat_lt (bits : List Bool) : toNat bits < 2 ^ bits.length := by
  induction bits with
  | nil => exact Nat.one_pos
  | cons b bits ih =>
      have hb : b.toNat ≤ 1 := Bool.toNat_le b
      have hscale := Nat.mul_le_mul_right (2 ^ bits.length) hb
      rw [toNat_cons, List.length_cons, pow_succ]
      omega

/-- Ones are the largest numeral of their number. -/
theorem toNat_replicate_true (n : Nat) : toNat (List.replicate n true) = 2 ^ n - 1 := by
  induction n with
  | zero => rfl
  | succ n ih =>
      have hpos := Nat.two_pow_pos n
      rw [List.replicate_succ, toNat_cons, ih, List.length_replicate, Bool.toNat_true, pow_succ]
      omega

/-- The bits of a natural denote it up to their number. -/
theorem toNat_ofNat (n v : Nat) : toNat (ofNat n v) = v % 2 ^ n := by
  induction n with
  | zero => simp [ofNat, toNat, Nat.mod_one]
  | succ n ih =>
      rw [ofNat, toNat_cons, length_ofNat, ih, Nat.toNat_testBit, Nat.mod_pow_succ, Nat.mul_comm,
        Nat.add_comm]

/-- Only the low-order bits of a natural are looked at. -/
theorem ofNat_mod {n k : Nat} (hn : n ≤ k) (v : Nat) : ofNat n (v % 2 ^ k) = ofNat n v := by
  induction n with
  | zero => rfl
  | succ n ih =>
      have hbit : (v % 2 ^ k).testBit n = v.testBit n := by
        rw [Nat.testBit_mod_two_pow, decide_eq_true (Nat.lt_of_succ_le hn), Bool.true_and]
      rw [ofNat, ofNat, hbit, ih (Nat.le_of_succ_le hn)]

/-- The bits of a natural are those of its high part and those of its low part. -/
theorem ofNat_add (m n v : Nat) : ofNat (m + n) v = ofNat m (v >>> n) ++ ofNat n v := by
  induction m with
  | zero => rw [Nat.zero_add, ofNat, List.nil_append]
  | succ m ih =>
      rw [Nat.succ_add, ofNat, ofNat, ih, Nat.testBit_shiftRight, List.cons_append, Nat.add_comm n]

theorem ofNat_toNat (bits : List Bool) : ofNat bits.length (toNat bits) = bits := by
  induction bits with
  | nil => rfl
  | cons b bits ih =>
      have hlt := toNat_lt bits
      have hhigh : (toNat (b :: bits)).testBit bits.length = b := by
        rw [toNat_cons, Nat.mul_comm, Nat.testBit_two_pow_mul_add _ hlt, if_neg (lt_irrefl _),
          Nat.sub_self]
        cases b <;> rfl
      have hlow : ofNat bits.length (toNat (b :: bits)) = bits := by
        rw [← ofNat_mod (le_refl _), toNat_cons, Nat.mul_add_mod_self_right, Nat.mod_eq_of_lt hlt,
          ih]
      rw [List.length_cons, ofNat, hhigh, hlow]

/-! ## Octets -/

/-- The bits of octets. -/
def ofOctets (octets : List UInt8) : List Bool := octets.flatMap fun b => ofNat 8 b.toNat

/-- The octet with the given bits; a short chunk is filled up with zeros. -/
def octet (chunk : List Bool) : UInt8 :=
  UInt8.ofNat (toNat chunk <<< (8 - chunk.length))

/-- Pack bits into a number of octets. -/
def pack : Nat → List Bool → List UInt8
  | 0, _ => []
  | k + 1, bits => octet (bits.take 8) :: pack k (bits.drop 8)

@[simp] theorem length_ofOctets (octets : List UInt8) :
    (ofOctets octets).length = 8 * octets.length := by
  induction octets with
  | nil => rfl
  | cons b octets ih =>
      rw [ofOctets, List.flatMap_cons, List.length_append, length_ofNat, ← ofOctets, ih,
        List.length_cons]
      ring

@[simp] theorem length_pack (k : Nat) (bits : List Bool) : (pack k bits).length = k := by
  induction k generalizing bits with
  | zero => rfl
  | succ k ih => rw [pack, List.length_cons, ih]

/-- An octet has the eight bits it was made of. -/
theorem ofNat_octet {chunk : List Bool} (hlength : chunk.length = 8) :
    ofNat 8 (octet chunk).toNat = chunk := by
  have hlt := toNat_lt chunk
  rw [hlength] at hlt
  have hoctet : (octet chunk).toNat = toNat chunk := by
    rw [octet, hlength, Nat.sub_self, Nat.shiftLeft_zero, UInt8.toNat_ofNat_of_lt' hlt]
  have hbits := ofNat_toNat chunk
  rw [hlength] at hbits
  rw [hoctet, hbits]

/-- Packing whole octets loses no bit. -/
theorem ofOctets_pack {k : Nat} {bits : List Bool} (hlength : bits.length = 8 * k) :
    ofOctets (pack k bits) = bits := by
  induction k generalizing bits with
  | zero =>
      rw [List.length_eq_zero_iff.mp hlength]
      rfl
  | succ k ih =>
      have hchunk : (bits.take 8).length = 8 := by
        rw [List.length_take]
        omega
      have hrest : (bits.drop 8).length = 8 * k := by
        rw [List.length_drop]
        omega
      rw [pack, ofOctets, List.flatMap_cons, ← ofOctets, ih hrest, ofNat_octet hchunk,
        List.take_append_drop]

theorem getElem?_ofNat {n i : Nat} (hi : i < n) (v : Nat) :
    (ofNat n v)[i]? = some (v.testBit (n - 1 - i)) := by
  induction n generalizing i with
  | zero => exact absurd hi (Nat.not_lt_zero i)
  | succ n ih =>
      cases i with
      | zero => rfl
      | succ i =>
          rw [ofNat, List.getElem?_cons_succ, ih (Nat.lt_of_succ_lt_succ hi)]
          congr 2
          omega

/-- A bit of octets is a bit of one of them. -/
theorem getElem?_ofOctets (octets : List UInt8) (i : Nat) :
    (ofOctets octets)[i]? = octets[i / 8]?.map fun b => b.toNat.testBit (7 - i % 8) := by
  induction octets generalizing i with
  | nil => simp [ofOctets]
  | cons b octets ih =>
      rw [ofOctets, List.flatMap_cons, ← ofOctets]
      by_cases hi : i < 8
      · rw [List.getElem?_append_left (by rw [length_ofNat]; exact hi), getElem?_ofNat hi,
          Nat.div_eq_of_lt hi, Nat.mod_eq_of_lt hi]
        rfl
      · have hge : 8 ≤ i := Nat.le_of_not_lt hi
        have hslot : i / 8 = (i - 8) / 8 + 1 := by omega
        have hbit : i % 8 = (i - 8) % 8 := by omega
        rw [List.getElem?_append_right (by rw [length_ofNat]; exact hge), length_ofNat, ih, hslot,
          hbit, List.getElem?_cons_succ]

end Bits
