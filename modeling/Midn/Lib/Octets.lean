import Mathlib.Data.Vector.Basic
import Mathlib.Data.Vector.Zip
import Mathlib.Tactic.Linarith
import Mathlib.Tactic.Positivity
import Mathlib.Tactic.Ring

/-!
# Octet strings

Byte slices are lists and fixed-size byte arrays are length-indexed vectors. This module
collects what the protocol layers need of them: checked conversion from a slice, bitwise
exclusive or, and the big-endian coding of naturals and of machine words.
-/

/-- A byte array of fixed length. -/
abbrev Octets (n : Nat) := List.Vector UInt8 n

namespace Octets

variable {n : Nat}

/-- The all-zero array. -/
def zeros (n : Nat) : Octets n := List.Vector.replicate n 0

/-- Copy a slice into an array of the same length; a slice of any other length is refused. -/
def ofSlice? (n : Nat) (bytes : List UInt8) : Option (Octets n) :=
  if hlength : bytes.length = n then some ⟨bytes, hlength⟩ else none

@[simp] theorem length_toList (a : Octets n) : a.toList.length = n := a.2

@[simp] theorem ofSlice?_toList (a : Octets n) : ofSlice? n a.toList = some a := by
  simp only [ofSlice?, length_toList, dite_true]
  rfl

/-- Octets read one by one fill an array of their number. -/
theorem length_two (a b : UInt8) : [a, b].length = 2 := rfl

theorem length_three (a b c : UInt8) : [a, b, c].length = 3 := rfl

theorem length_four (a b c d : UInt8) : [a, b, c, d].length = 4 := rfl

theorem length_five (a b c d e : UInt8) : [a, b, c, d, e].length = 5 := rfl

/-- A byte below a bound is one of the byte values below it. -/
theorem exists_fin_of_lt {n : Nat} {b : UInt8} (hb : b.toNat < n) :
    ∃ k : Fin n, b = UInt8.ofNat k :=
  ⟨⟨b.toNat, hb⟩, UInt8.ofNat_toNat.symm⟩

/-- The subarray of a given length that starts at a given position. -/
def slice (a : Octets n) (start len : Nat) (hfit : start + len ≤ n) : Octets len :=
  ⟨(a.toList.drop start).take len, by
    rw [List.length_take, List.length_drop, length_toList]
    omega⟩

@[simp] theorem toList_slice (a : Octets n) (start len : Nat) (hfit : start + len ≤ n) :
    (a.slice start len hfit).toList = (a.toList.drop start).take len := rfl

/-- Bytewise exclusive or. -/
def xor (a b : Octets n) : Octets n := List.Vector.zipWith (· ^^^ ·) a b

@[simp] theorem get_xor (a b : Octets n) (i : Fin n) :
    (xor a b).get i = a.get i ^^^ b.get i :=
  List.Vector.zipWith_get ..

/-- Masking twice with the same array restores the masked one. -/
@[simp] theorem xor_xor_cancel_right (a b : Octets n) : xor (xor a b) b = a := by
  ext i
  simp only [get_xor, UInt8.xor_assoc, UInt8.xor_self, UInt8.xor_zero]

theorem xor_comm (a b : Octets n) : xor a b = xor b a := by
  ext i
  simp only [get_xor, UInt8.xor_comm]

/-! ## Big-endian coding -/

/-- The `w` low-order bytes of a natural, most significant first. -/
def beBytes : Nat → Nat → List UInt8
  | 0, _ => []
  | w + 1, value => UInt8.ofNat (value / 256 ^ w) :: beBytes w value

/-- The natural with the given big-endian bytes. -/
def beValue : List UInt8 → Nat
  | [] => 0
  | b :: bytes => b.toNat * 256 ^ bytes.length + beValue bytes

@[simp] theorem length_beBytes (w value : Nat) : (beBytes w value).length = w := by
  induction w with
  | zero => rfl
  | succ w ih => rw [beBytes, List.length_cons, ih]

theorem beValue_beBytes (w value : Nat) : beValue (beBytes w value) = value % 256 ^ w := by
  induction w with
  | zero => simp [beBytes, beValue, Nat.mod_one]
  | succ w ih =>
      have hsplit : value % 256 ^ (w + 1) =
          value % 256 ^ w + 256 ^ w * (value / 256 ^ w % 256) := Nat.mod_pow_succ
      rw [beBytes, beValue, ih, length_beBytes, UInt8.toNat_ofNat', hsplit, Nat.mul_comm,
        Nat.add_comm]

theorem beValue_beBytes_of_lt {w value : Nat} (hvalue : value < 256 ^ w) :
    beValue (beBytes w value) = value := by
  rw [beValue_beBytes, Nat.mod_eq_of_lt hvalue]

theorem beValue_lt (bytes : List UInt8) : beValue bytes < 256 ^ bytes.length := by
  induction bytes with
  | nil => simp [beValue]
  | cons b bytes ih =>
      have hb : b.toNat + 1 ≤ 256 := b.toNat_lt
      have hscale := Nat.mul_le_mul_right (256 ^ bytes.length) hb
      rw [beValue, List.length_cons, pow_succ]
      linarith [hscale, ih]

theorem beBytes_add_mul (w value high : Nat) :
    beBytes w (high * 256 ^ w + value) = beBytes w value := by
  induction w generalizing high with
  | zero => rfl
  | succ w ih =>
      have hshift : high * 256 ^ (w + 1) + value = (high * 256) * 256 ^ w + value := by ring
      rw [beBytes, beBytes, hshift, ih, Nat.add_comm, Nat.add_mul_div_right _ _ (by positivity)]
      congr 1
      apply UInt8.toNat_inj.mp
      rw [UInt8.toNat_ofNat', UInt8.toNat_ofNat']
      exact Nat.add_mul_mod_self_right ..

theorem beBytes_beValue (bytes : List UInt8) : beBytes bytes.length (beValue bytes) = bytes := by
  induction bytes with
  | nil => rfl
  | cons b bytes ih =>
      rw [List.length_cons, beBytes, beValue, beBytes_add_mul, ih, Nat.add_comm,
        Nat.add_mul_div_right _ _ (by positivity), Nat.div_eq_of_lt (beValue_lt bytes),
        Nat.zero_add, UInt8.ofNat_toNat]

end Octets

/-! ## Machine words -/

namespace UInt16

/-- The two big-endian bytes of a 16-bit word. -/
def toBeBytes (x : UInt16) : Octets 2 := ⟨Octets.beBytes 2 x.toNat, Octets.length_beBytes 2 _⟩

theorem beValue_toBeBytes (x : UInt16) : Octets.beValue (toBeBytes x).toList = x.toNat :=
  Octets.beValue_beBytes_of_lt (w := 2) x.toNat_lt

/-- The 16-bit word with the given big-endian bytes. -/
def fromBeBytes (bytes : Octets 2) : UInt16 := UInt16.ofNat (Octets.beValue bytes.toList)

@[simp] theorem fromBeBytes_toBeBytes (x : UInt16) : fromBeBytes (toBeBytes x) = x := by
  have hx : x.toNat < 256 ^ 2 := x.toNat_lt
  simp only [fromBeBytes, toBeBytes, List.Vector.toList_mk, Octets.beValue_beBytes_of_lt hx,
    UInt16.ofNat_toNat]

end UInt16

namespace UInt32

/-- The four big-endian bytes of a 32-bit word. -/
def toBeBytes (x : UInt32) : Octets 4 := ⟨Octets.beBytes 4 x.toNat, Octets.length_beBytes 4 _⟩

/-- The 32-bit word with the given big-endian bytes. -/
def fromBeBytes (bytes : Octets 4) : UInt32 := UInt32.ofNat (Octets.beValue bytes.toList)

@[simp] theorem fromBeBytes_toBeBytes (x : UInt32) : fromBeBytes (toBeBytes x) = x := by
  have hx : x.toNat < 256 ^ 4 := x.toNat_lt
  simp only [fromBeBytes, toBeBytes, List.Vector.toList_mk, Octets.beValue_beBytes_of_lt hx,
    UInt32.ofNat_toNat]

end UInt32

namespace UInt64

/-- The eight big-endian bytes of a 64-bit word. -/
def toBeBytes (x : UInt64) : Octets 8 := ⟨Octets.beBytes 8 x.toNat, Octets.length_beBytes 8 _⟩

/-- The 64-bit word with the given big-endian bytes. -/
def fromBeBytes (bytes : Octets 8) : UInt64 := UInt64.ofNat (Octets.beValue bytes.toList)

@[simp] theorem fromBeBytes_toBeBytes (x : UInt64) : fromBeBytes (toBeBytes x) = x := by
  have hx : x.toNat < 256 ^ 8 := x.toNat_lt
  simp only [fromBeBytes, toBeBytes, List.Vector.toList_mk, Octets.beValue_beBytes_of_lt hx,
    UInt64.ofNat_toNat]

@[simp] theorem toBeBytes_fromBeBytes (bytes : Octets 8) :
    toBeBytes (fromBeBytes bytes) = bytes := by
  have hlt : Octets.beValue bytes.toList < 256 ^ 8 := by
    have hbound := Octets.beValue_lt bytes.toList
    rwa [Octets.length_toList] at hbound
  have hcoded := Octets.beBytes_beValue bytes.toList
  rw [Octets.length_toList] at hcoded
  apply List.Vector.eq
  simp only [toBeBytes, fromBeBytes, List.Vector.toList_mk]
  rw [UInt64.toNat_ofNat_of_lt' hlt, hcoded]

end UInt64
