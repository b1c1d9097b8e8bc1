import Mathlib.Data.List.Rotate
import Midn.Lib.Octets

/-!
# Octet strings as bit vectors

An array of octets is a bit vector with the first octet at the most significant end. Slices,
rotations by octets and exclusive or of arrays are those of the bit vectors, and a loop that goes
over the places of an array once changes each place once.
-/

namespace Octets

variable {n : Nat}

/-! ## Values -/

theorem two_pow_eight_mul (n : Nat) : 2 ^ (8 * n) = 256 ^ n := by
  rw [pow_mul]
  rfl

theorem beValue_append (a b : List UInt8) :
    beValue (a ++ b) = beValue a * 256 ^ b.length + beValue b := by
  induction a with
  | nil => rw [List.nil_append, beValue, Nat.zero_mul, Nat.zero_add]
  | cons x a ih =>
      rw [List.cons_append, beValue, beValue, ih, List.length_append, pow_add]
      ring

/-- A remainder is split off its quotient again. -/
theorem mul_add_div_mod (q : Nat) {r m : Nat} (hr : r < m) :
    (q * m + r) / m = q ∧ (q * m + r) % m = r := by
  rw [Nat.mul_comm, Nat.mul_add_div (Nat.zero_lt_of_lt hr), Nat.mul_add_mod,
    Nat.div_eq_of_lt hr, Nat.mod_eq_of_lt hr]
  exact ⟨rfl, rfl⟩

theorem beValue_xor {a b : List UInt8} (hlength : a.length = b.length) :
    beValue (List.zipWith (· ^^^ ·) a b) = beValue a ^^^ beValue b := by
  induction a generalizing b with
  | nil =>
      rw [List.length_nil] at hlength
      rw [List.length_eq_zero_iff.mp hlength.symm]
      rfl
  | cons x a ih =>
      obtain ⟨y, b, rfl⟩ := List.exists_cons_of_length_eq_add_one hlength.symm
      have htail : a.length = b.length := Nat.succ.inj hlength
      have hzip : (List.zipWith (· ^^^ ·) a b).length = b.length := by
        rw [List.length_zipWith, htail, Nat.min_self]
      have ha := beValue_lt a
      have hb := beValue_lt b
      rw [htail, ← two_pow_eight_mul] at ha
      rw [← two_pow_eight_mul] at hb
      rw [List.zipWith_cons_cons, beValue, beValue, beValue, hzip, htail, ih htail,
        UInt8.toNat_xor, ← two_pow_eight_mul]
      -- an octet is the quotient of a value and the octets after it are the remainder
      have hsum := mul_add_div_mod (x.toNat ^^^ y.toNat) (Nat.xor_lt_two_pow ha hb)
      apply Nat.ext_div_mod (n := 2 ^ (8 * b.length))
      · rw [hsum.1, Nat.xor_div_two_pow, (mul_add_div_mod x.toNat ha).1,
          (mul_add_div_mod y.toNat hb).1]
      · rw [hsum.2, Nat.xor_mod_two_pow, (mul_add_div_mod x.toNat ha).2,
          (mul_add_div_mod y.toNat hb).2]

/-! ## Words -/

/-- The bit vector of an array. -/
def toWord (a : Octets n) : BitVec (8 * n) := BitVec.ofNat (8 * n) (beValue a.toList)

/-- The array of a bit vector. -/
def ofWord (x : BitVec (8 * n)) : Octets n := ⟨beBytes n x.toNat, length_beBytes ..⟩

theorem beValue_toList_lt (a : Octets n) : beValue a.toList < 2 ^ (8 * n) := by
  have hlt := beValue_lt a.toList
  rwa [length_toList, ← two_pow_eight_mul] at hlt

@[simp] theorem toNat_toWord (a : Octets n) : a.toWord.toNat = beValue a.toList := by
  rw [toWord, BitVec.toNat_ofNat, Nat.mod_eq_of_lt a.beValue_toList_lt]

@[simp] theorem ofWord_toWord (a : Octets n) : ofWord a.toWord = a := by
  apply List.Vector.eq
  rw [ofWord, List.Vector.toList_mk, toNat_toWord]
  have hcoded := beBytes_beValue a.toList
  rwa [length_toList] at hcoded

theorem toWord_xor (a b : Octets n) : (xor a b).toWord = a.toWord ^^^ b.toWord := by
  apply BitVec.eq_of_toNat_eq
  rw [BitVec.toNat_xor, toNat_toWord, toNat_toWord, toNat_toWord, xor, List.Vector.zipWith_toList,
    beValue_xor (by rw [length_toList, length_toList])]

/-- A value is that of its first octets and that of the others. -/
theorem beValue_take_drop (a : List UInt8) (s : Nat) :
    beValue a = beValue (a.take s) * 256 ^ (a.drop s).length + beValue (a.drop s) := by
  rw [← beValue_append, List.take_append_drop]

/-- Appending the word of an array appends its octets. -/
theorem toNat_append_toWord {w : Nat} {x : BitVec w} {octets : List UInt8}
    (hx : x.toNat = beValue octets) (a : Octets n) :
    (x ++ a.toWord).toNat = beValue (octets ++ a.toList) := by
  have hlt := a.beValue_toList_lt
  rw [BitVec.toNat_append, toNat_toWord, hx, beValue_append, length_toList, Nat.shiftLeft_eq,
    ← two_pow_eight_mul, Nat.mul_comm]
  exact (Nat.two_pow_add_eq_or_of_lt hlt _).symm

/-- A slice is a range of bits. -/
theorem toWord_slice (a : Octets n) (start len : Nat) (hfit : start + len ≤ n) :
    (a.slice start len hfit).toWord = a.toWord.extractLsb' (8 * (n - (start + len))) (8 * len) := by
  have hslice := (a.slice start len hfit).beValue_toList_lt
  rw [toList_slice] at hslice
  have hrest := beValue_lt (a.toList.drop (start + len))
  have hlength : (a.toList.drop (start + len)).length = n - (start + len) := by
    rw [List.length_drop, length_toList]
  have hvalue : beValue a.toList =
      (beValue (a.toList.take start) * 2 ^ (8 * len) + beValue ((a.toList.drop start).take len)) *
        2 ^ (8 * (n - (start + len))) + beValue (a.toList.drop (start + len)) := by
    have hwhole : n - start = len + (n - (start + len)) := by omega
    rw [beValue_take_drop a.toList start, beValue_take_drop (a.toList.drop start) len,
      List.drop_drop, hlength, List.length_drop, length_toList, hwhole, pow_add,
      two_pow_eight_mul, two_pow_eight_mul]
    ring
  rw [hlength, ← two_pow_eight_mul] at hrest
  apply BitVec.eq_of_toNat_eq
  rw [BitVec.extractLsb'_toNat, toNat_toWord, toNat_toWord, toList_slice, hvalue,
    Nat.shiftRight_eq_div_pow, (mul_add_div_mod _ hrest).1, (mul_add_div_mod _ hslice).2]

/-- Moving the first octets to the end is a rotation. -/
theorem toWord_of_rotate {a b : Octets n} {s : Nat} (hs : s < n)
    (hrotate : b.toList = a.toList.drop s ++ a.toList.take s) :
    b.toWord = a.toWord.rotateLeft (8 * s) := by
  have hfront := beValue_lt (a.toList.take s)
  have hback := beValue_lt (a.toList.drop s)
  have hfrontLength : (a.toList.take s).length = s := by
    rw [List.length_take, length_toList]
    omega
  have hbackLength : (a.toList.drop s).length = n - s := by
    rw [List.length_drop, length_toList]
  have hshift : 8 * s % (8 * n) = 8 * s := Nat.mod_eq_of_lt (by omega)
  have hwidth : 8 * n - 8 * s = 8 * (n - s) := by omega
  have hsplit : 2 ^ (8 * n) = 2 ^ (8 * (n - s)) * 2 ^ (8 * s) := by
    rw [← pow_add]
    congr 1
    omega
  rw [hfrontLength, ← two_pow_eight_mul] at hfront
  rw [hbackLength, ← two_pow_eight_mul] at hback
  apply BitVec.eq_of_toNat_eq
  rw [BitVec.toNat_rotateLeft, toNat_toWord, toNat_toWord, hrotate, beValue_append, hfrontLength,
    hshift, hwidth, beValue_take_drop a.toList s, hbackLength, ← two_pow_eight_mul,
    ← two_pow_eight_mul, Nat.shiftLeft_eq, Nat.shiftRight_eq_div_pow, hsplit,
    Nat.mul_mod_mul_right, (mul_add_div_mod _ hback).1, (mul_add_div_mod _ hback).2]
  rw [Nat.mul_comm]
  exact Nat.two_pow_add_eq_or_of_lt hfront _

/-! ## Loops over the places of an array -/

section Loops

variable {ι : Type} (places : List ι) (place : ι → Fin n) (change : ι → UInt8 → UInt8)

/-- Change the octets at places in turn. -/
def modifyEach (a : Octets n) : Octets n :=
  places.foldl (fun a i => a.set (place i) (change i (a.get (place i)))) a

variable {places place}

/-- Places that are not visited keep their octets. -/
theorem get_modifyEach_of_not_mem {j : Fin n} (hother : ∀ i ∈ places, place i ≠ j)
    (a : Octets n) : (modifyEach places place change a).get j = a.get j := by
  induction places generalizing a with
  | nil => rfl
  | cons i places ih =>
      obtain ⟨hfirst, hrest⟩ := List.forall_mem_cons.mp hother
      exact (ih hrest _).trans (List.Vector.get_set_of_ne hfirst _)

/-- A place that is visited once is changed once. -/
theorem get_modifyEach (hinj : Function.Injective place) (hnodup : places.Nodup) {i : ι}
    (hmem : i ∈ places) (a : Octets n) :
    (modifyEach places place change a).get (place i) = change i (a.get (place i)) := by
  induction places generalizing a with
  | nil => cases hmem
  | cons first places ih =>
      obtain ⟨hfresh, hnodup⟩ := List.nodup_cons.mp hnodup
      rcases List.mem_cons.mp hmem with rfl | hmem
      · have hother : ∀ k ∈ places, place k ≠ place i := by
          intro k hk hsame
          exact hfresh (hinj hsame ▸ hk)
        exact (get_modifyEach_of_not_mem change hother _).trans (List.Vector.get_set_same ..)
      · have hne : place first ≠ place i := by
          intro hsame
          exact hfresh (hinj hsame ▸ hmem)
        refine (ih hnodup hmem _).trans ?_
        rw [List.Vector.get_set_of_ne hne]

end Loops

end Octets

/-! ## Little-endian words -/

namespace UInt64

/-- The eight little-endian bytes of a 64-bit word. -/
def toLeBytes (x : UInt64) : Octets 8 := (toBeBytes x).reverse

/-- The 64-bit word with the given little-endian bytes. -/
def fromLeBytes (bytes : Octets 8) : UInt64 := fromBeBytes bytes.reverse

@[simp] theorem toLeBytes_fromLeBytes (bytes : Octets 8) :
    toLeBytes (fromLeBytes bytes) = bytes := by
  rw [toLeBytes, fromLeBytes, toBeBytes_fromBeBytes, List.Vector.reverse_reverse]

@[simp] theorem fromLeBytes_toLeBytes (x : UInt64) : fromLeBytes (toLeBytes x) = x := by
  rw [toLeBytes, fromLeBytes, List.Vector.reverse_reverse, fromBeBytes_toBeBytes]

theorem fromBeBytes_xor (a b : Octets 8) :
    fromBeBytes (Octets.xor a b) = fromBeBytes a ^^^ fromBeBytes b := by
  have hvalue : Octets.beValue (Octets.xor a b).toList =
      Octets.beValue a.toList ^^^ Octets.beValue b.toList := by
    rw [Octets.xor, List.Vector.zipWith_toList,
      Octets.beValue_xor (by rw [Octets.length_toList, Octets.length_toList])]
  apply UInt64.toNat_inj.mp
  rw [UInt64.toNat_xor, fromBeBytes, fromBeBytes, fromBeBytes,
    UInt64.toNat_ofNat_of_lt' (Octets.xor a b).beValue_toList_lt,
    UInt64.toNat_ofNat_of_lt' a.beValue_toList_lt, UInt64.toNat_ofNat_of_lt' b.beValue_toList_lt,
    hvalue]

theorem toLeBytes_xor (x y : UInt64) :
    toLeBytes (x ^^^ y) = Octets.xor (toLeBytes x) (toLeBytes y) := by
  have hbytes : toBeBytes (x ^^^ y) = Octets.xor (toBeBytes x) (toBeBytes y) := by
    have hxor := fromBeBytes_xor (toBeBytes x) (toBeBytes y)
    rw [fromBeBytes_toBeBytes, fromBeBytes_toBeBytes] at hxor
    rw [← hxor, toBeBytes_fromBeBytes]
  apply List.Vector.eq
  rw [toLeBytes, hbytes, toLeBytes, toLeBytes, List.Vector.toList_reverse, Octets.xor, Octets.xor,
    List.Vector.zipWith_toList, List.Vector.zipWith_toList, List.Vector.toList_reverse,
    List.Vector.toList_reverse]
  exact List.reverse_zipWith (by rw [Octets.length_toList, Octets.length_toList])

end UInt64
