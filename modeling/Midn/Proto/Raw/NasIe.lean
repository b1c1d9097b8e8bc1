import Midn.Lib.Checked
import Midn.Proto.Nas.Ie

/-!
# NAS information elements with checked accesses

The readers of length-value and type-length-value fields and of the IMSI with every access and every
sum checked. None has a fault on any byte string.
-/

namespace Midn.Nas.Raw

open Checked

/-! ## The IMSI -/

/-- Append the digits of one identity byte. -/
def appendDigits (digits : List UInt8) (byte : UInt8) : List UInt8 :=
  let lo := byte &&& 0x0F
  let hi := (byte >>> 4) &&& 0x0F
  if hi ≠ 0x0F then (digits ++ [lo]) ++ [hi] else digits ++ [lo]

/-- Go through the digits in their order, up to the first that is none. -/
def pushDigits : List UInt8 → UInt64 → Checked (Option UInt64)
  | [], imsi => pure (some imsi)
  | d :: digits, imsi =>
      if d > 9 then pure none
      else do
        let scaled ← mul 64 imsi.toNat 10
        let sum ← add 64 scaled d.toNat
        pushDigits digits (UInt64.ofNat sum)

def decodeImsi (bytes : List UInt8) : Checked (Option UInt64) :=
  if bytes.isEmpty then pure none
  else do
    let first ← index bytes 0
    if first &&& 0x07 ≠ identityImsi then pure none
    else do
      let odd := (first >>> 3) &&& 0x01
      let rest ← sliceFrom bytes 1
      let digits := rest.foldl appendDigits [(first >>> 4) &&& 0x0F]
      let digits := if odd = 0 ∧ digits.getLast? = some 0x0F then digits.dropLast else digits
      if digits.length > 15 then pure none else pushDigits digits 0

theorem foldl_appendDigits (bytes digits : List UInt8) :
    bytes.foldl appendDigits digits = digits ++ bytes.flatMap unpackDigits := by
  induction bytes generalizing digits with
  | nil => exact (List.append_nil digits).symm
  | cons byte bytes ih =>
      have hbyte : appendDigits digits byte = digits ++ unpackDigits byte := by
        rw [appendDigits, unpackDigits]
        split
        next => rw [List.append_assoc, List.singleton_append]
        next => rfl
      rw [List.foldl_cons, ih, hbyte, List.flatMap_cons, List.append_assoc]

/-- Fifteen digits stay within 64 bits. -/
theorem pushDigits_eq_ok {digits : List UInt8} {before : Nat} {imsi : UInt64}
    (himsi : imsi.toNat < 10 ^ before) (hdigits : before + digits.length ≤ 15) :
    pushDigits digits imsi = .ok (digits.foldlM pushDigit imsi) := by
  induction digits generalizing before imsi with
  | nil => rfl
  | cons d digits ih =>
      rw [List.length_cons] at hdigits
      rw [pushDigits, List.foldlM_cons, pushDigit]
      by_cases hdigit : d > 9
      · rw [if_pos hdigit, if_pos hdigit]
        rfl
      · have hten : d.toNat < 10 := by
          rw [gt_iff_lt, UInt8.lt_iff_toNat_lt] at hdigit
          exact Nat.lt_of_not_le hdigit
        have hnext : imsi.toNat * 10 + d.toNat < 10 ^ (before + 1) := by
          rw [pow_succ]
          omega
        have hword : imsi.toNat * 10 + d.toNat < 2 ^ 64 := by
          have hmost : 10 ^ (before + 1) ≤ 10 ^ 15 :=
            Nat.pow_le_pow_right (by decide) (by omega)
          have hfits : 10 ^ 15 < 2 ^ 64 := by decide
          omega
        have hsum : UInt64.ofNat (imsi.toNat * 10 + d.toNat) = imsi * 10 + d.toUInt64 := by
          apply UInt64.toNat_inj.mp
          rw [UInt64.toNat_ofNat_of_lt' hword]
          simp only [UInt64.toNat_add, UInt64.toNat_mul, UInt8.toNat_toUInt64, UInt64.reduceToNat]
          omega
        rw [if_neg hdigit, if_neg hdigit, mul_eq_ok (by omega), ok_bind, add_eq_ok hword, ok_bind,
          hsum]
        have hvalue : (imsi * 10 + d.toUInt64).toNat < 10 ^ (before + 1) := by
          rw [← hsum, UInt64.toNat_ofNat_of_lt' hword]
          exact hnext
        exact ih hvalue (by omega)

/-- More digits than that are refused before the first is pushed. -/
theorem atMostFifteen_eq_ok (digits : List UInt8) :
    (if digits.length > 15 then pure none else pushDigits digits 0) =
      .ok (if digits.length > 15 then none else digits.foldlM pushDigit 0) := by
  by_cases hlong : digits.length > 15
  · rw [if_pos hlong, if_pos hlong, pure_eq_ok]
  · rw [if_neg hlong, if_neg hlong]
    have hzero : (0 : UInt64).toNat < 10 ^ 0 := by decide
    exact pushDigits_eq_ok hzero (by omega)

theorem decodeImsi_eq_ok (bytes : List UInt8) :
    decodeImsi bytes = .ok (Nas.decodeImsi bytes) := by
  cases bytes with
  | nil => rfl
  | cons first bytes =>
      rw [decodeImsi, Nas.decodeImsi, List.isEmpty_cons, if_neg Bool.false_ne_true,
        index_cons_zero, ok_bind]
      by_cases htype : first &&& 0x07 ≠ identityImsi
      · rw [if_pos htype, if_pos htype, pure_eq_ok]
      · rw [if_neg htype, if_neg htype, sliceFrom_cons_succ, sliceFrom_zero, ok_bind]
        simp only [foldl_appendDigits, List.singleton_append]
        exact atMostFifteen_eq_ok _

/-! ## Fields -/

def readLv (buf : List UInt8) : Checked (Option (List UInt8 × List UInt8)) :=
  if buf.isEmpty then pure none
  else do
    let len ← index buf 0
    let stop ← add 64 1 len.toNat
    if buf.length < stop then pure none
    else do
      let value ← slice buf 1 stop
      let rest ← sliceFrom buf stop
      pure (some (value, rest))

def readTlv (buf : List UInt8) : Checked (Option (UInt8 × List UInt8 × List UInt8)) :=
  if buf.length < 2 then pure none
  else do
    let iei ← index buf 0
    let tail ← sliceFrom buf 1
    let found ← readLv tail
    pure (found.map fun (value, rest) => (iei, value, rest))

/-- Stop at a field with the target identifier, and skip any other. -/
def findTlvRound (targetIei : UInt8) (buf : List UInt8) :
    Checked (Round (List UInt8) (Option (List UInt8))) :=
  if buf.length < 2 then pure (.done none)
  else do
    let iei ← index buf 0
    if iei = targetIei then pure (.done (some buf))
    else do
      let len ← index buf 1
      let stop ← add 64 2 len.toNat
      if buf.length < stop then pure (.done none)
      else do
        let rest ← sliceFrom buf stop
        pure (.more rest)

def findTlv (buf : List UInt8) (targetIei : UInt8) : Checked (Option (List UInt8)) :=
  whileLoop List.length (findTlvRound targetIei) buf

theorem readLv_eq_ok (buf : List UInt8) : readLv buf = .ok (Nas.readLv buf) := by
  cases buf with
  | nil => rfl
  | cons len buf =>
      have hlen : len.toNat < 256 := len.toNat_lt
      rw [readLv, Nas.readLv, List.isEmpty_cons, if_neg Bool.false_ne_true, index_cons_zero,
        ok_bind, add_eq_ok (by omega), ok_bind, List.length_cons]
      by_cases hshort : buf.length < len.toNat
      · rw [if_pos (by omega), if_pos hshort, pure_eq_ok]
      · rw [if_neg (by omega), if_neg hshort, Nat.add_comm, slice_cons_succ,
          slice_eq_ok (Nat.zero_le _) (by omega), ok_bind, sliceFrom_cons_succ,
          sliceFrom_eq_ok (by omega), ok_bind, pure_eq_ok, List.drop_zero, Nat.sub_zero]

theorem readTlv_eq_ok (buf : List UInt8) : readTlv buf = .ok (Nas.readTlv buf) := by
  rcases buf with _ | ⟨iei, _ | ⟨len, buf⟩⟩
  · rfl
  · rfl
  · have hlong := not_length_lt_two iei len buf
    rw [readTlv, if_neg hlong, head_bind_rest, readLv_eq_ok, ok_bind, Nas.readTlv, pure_eq_ok]
    cases Nas.readLv (len :: buf) <;> rfl

/-- Skipping a field uses up two octets at least. -/
theorem findTlv_eq_ok (buf : List UInt8) (targetIei : UInt8) :
    findTlv buf targetIei = .ok (Nas.findTlv targetIei buf) := by
  apply whileLoop_eq_ok (Nas.findTlv targetIei)
  intro buf
  rcases buf with _ | ⟨iei, _ | ⟨len, buf⟩⟩
  · exact Or.inl (by rw [Nas.findTlv.eq_def]; rfl)
  · exact Or.inl (by rw [Nas.findTlv.eq_def]; rfl)
  · have hlen : len.toNat < 256 := len.toNat_lt
    have hlong := not_length_lt_two iei len buf
    rw [findTlvRound, if_neg hlong, index_cons_zero, ok_bind, Nas.findTlv]
    by_cases htarget : iei = targetIei
    · rw [if_pos htarget, if_pos htarget, pure_eq_ok]
      exact Or.inl rfl
    · rw [if_neg htarget, if_neg htarget, index_cons_succ, index_cons_zero, ok_bind,
        add_eq_ok (by omega), ok_bind, List.length_cons, List.length_cons]
      by_cases hshort : buf.length < len.toNat
      · rw [if_pos (by omega), if_pos hshort, pure_eq_ok]
        exact Or.inl rfl
      · rw [if_neg (by omega), if_neg hshort, Nat.add_comm, sliceFrom_cons_succ,
          sliceFrom_cons_succ, sliceFrom_eq_ok (by omega), ok_bind, pure_eq_ok]
        refine Or.inr ⟨buf.drop len.toNat, rfl, ?_, rfl⟩
        rw [List.length_drop]
        omega

end Midn.Nas.Raw
