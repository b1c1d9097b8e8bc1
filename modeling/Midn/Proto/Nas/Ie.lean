import Mathlib.Data.List.Basic
import Mathlib.Tactic.Linarith
import Midn.Lib.Octets
import Midn.Proto.Error

/-!
# NAS information elements

The IE primitives the NAS codecs share: the BCD coding of the IMSI, length-value and
type-length-value fields, and the security algorithm octet.
-/

namespace Midn.Nas

/-! ## BCD coding of the IMSI -/

/-- Mobile identity type of an IMSI. -/
def identityImsi : UInt8 := 0x01

/-- The `count` low-order decimal digits, most significant first. -/
def decimalDigits : Nat → UInt64 → List UInt8
  | 0, _ => []
  | count + 1, n => decimalDigits count (n / 10) ++ [(n % 10).toUInt8]

/-- Two digits to a byte, low nibble first, the last byte padded with `0xF`. -/
def packDigits : List UInt8 → List UInt8
  | [] => []
  | [lo] => [((0xF : UInt8) <<< 4) ||| lo]
  | lo :: hi :: digits => ((hi <<< 4) ||| lo) :: packDigits digits

theorem packDigits_length (digits : List UInt8) :
    (packDigits digits).length = (digits.length + 1) / 2 := by
  induction digits using packDigits.induct with
  | case1 => rfl
  | case2 lo => simp only [packDigits, List.length_singleton]
  | case3 lo hi digits ih =>
      simp only [packDigits, List.length_cons, ih]
      omega

/-- Encode a 15-digit IMSI as a Mobile Identity byte string. -/
def encodeImsi (imsi : UInt64) : List UInt8 :=
  match decimalDigits 15 imsi with
  | [] => []
  | first :: digits => ((first <<< 4) ||| ((1 : UInt8) <<< 3) ||| identityImsi) :: packDigits digits

/-- The digits of one identity byte; a high nibble of `0xF` is padding. -/
def unpackDigits (byte : UInt8) : List UInt8 :=
  let lo := byte &&& 0x0F
  let hi := (byte >>> 4) &&& 0x0F
  if hi ≠ 0x0F then [lo, hi] else [lo]

/-- Append one decimal digit to the value read so far. -/
def pushDigit (imsi : UInt64) (d : UInt8) : Option UInt64 :=
  if d > 9 then none else some (imsi * 10 + d.toUInt64)

/-- Decode a Mobile Identity byte string back to an IMSI. -/
def decodeImsi : List UInt8 → Option UInt64
  | [] => none
  | first :: bytes =>
      if first &&& 0x07 ≠ identityImsi then none
      else
        let odd := (first >>> 3) &&& 0x01
        let digits := ((first >>> 4) &&& 0x0F) :: bytes.flatMap unpackDigits
        let digits :=
          if odd = 0 ∧ digits.getLast? = some 0x0F then digits.dropLast else digits
        if digits.length > 15 then none else digits.foldlM pushDigit 0

theorem decimalDigits_length (count : Nat) (n : UInt64) :
    (decimalDigits count n).length = count := by
  induction count generalizing n with
  | zero => rfl
  | succ count ih => rw [decimalDigits, List.length_append, ih, List.length_singleton]

theorem decimalDigits_lt_ten (count : Nat) (n : UInt64) :
    ∀ d ∈ decimalDigits count n, d < 10 := by
  induction count generalizing n with
  | zero => intro d hd; cases hd
  | succ count ih =>
      intro d hd
      rcases List.mem_append.mp hd with hd | hd
      · exact ih _ d hd
      · rw [List.mem_singleton] at hd
        subst hd
        rw [UInt8.lt_iff_toNat_lt, UInt64.toNat_toUInt8, UInt64.toNat_mod]
        simp only [UInt64.reduceToNat, UInt8.reduceToNat]
        omega

/-- Reading the digits back in order rebuilds the number. -/
theorem foldlM_pushDigit_decimalDigits {count : Nat} {n : UInt64}
    (hn : n.toNat < 10 ^ count) : (decimalDigits count n).foldlM pushDigit 0 = some n := by
  induction count generalizing n with
  | zero =>
      have hzero : n = 0 := UInt64.toNat_inj.mp (by simpa using hn)
      rw [hzero]
      rfl
  | succ count ih =>
      have hquotient : (n / 10).toNat < 10 ^ count := by
        simp only [UInt64.toNat_div, UInt64.reduceToNat]
        rw [pow_succ] at hn
        omega
      have hdigit : ¬ (n % 10).toUInt8 > 9 := by
        rw [gt_iff_lt, UInt8.lt_iff_toNat_lt, UInt64.toNat_toUInt8, UInt64.toNat_mod]
        simp only [UInt64.reduceToNat, UInt8.reduceToNat]
        omega
      have hrebuild : n / 10 * 10 + (n % 10).toUInt8.toUInt64 = n := by
        apply UInt64.toNat_inj.mp
        have hbound := n.toNat_lt
        simp only [UInt64.toNat_add, UInt64.toNat_mul, UInt64.toNat_div, UInt8.toNat_toUInt64,
          UInt64.toNat_toUInt8, UInt64.toNat_mod, UInt64.reduceToNat]
        omega
      rw [decimalDigits, List.foldlM_append, ih hquotient]
      simp only [Option.bind_eq_bind, Option.bind_some, List.foldlM_cons, List.foldlM_nil,
        pushDigit, if_neg hdigit, hrebuild, Option.pure_def]

theorem unpackDigits_pair :
    ∀ lo hi : Fin 10, unpackDigits ((UInt8.ofNat hi <<< 4) ||| UInt8.ofNat lo) =
      [UInt8.ofNat lo, UInt8.ofNat hi] := by
  decide

theorem unpackDigits_padded :
    ∀ lo : Fin 10, unpackDigits (((0xF : UInt8) <<< 4) ||| UInt8.ofNat lo) =
      [UInt8.ofNat lo] := by
  decide

/-- A decimal digit is one of the ten byte values below ten. -/
theorem exists_fin_of_lt_ten {d : UInt8} (hd : d < 10) : ∃ k : Fin 10, d = UInt8.ofNat k :=
  Octets.exists_fin_of_lt (UInt8.lt_iff_toNat_lt.mp hd)

theorem flatMap_unpackDigits_packDigits (digits : List UInt8)
    (hdigits : ∀ d ∈ digits, d < 10) : (packDigits digits).flatMap unpackDigits = digits := by
  induction digits using packDigits.induct with
  | case1 => rfl
  | case2 lo =>
      obtain ⟨k, rfl⟩ := exists_fin_of_lt_ten (hdigits lo (by simp))
      rw [packDigits, List.flatMap_singleton, unpackDigits_padded]
  | case3 lo hi digits ih =>
      obtain ⟨k, rfl⟩ := exists_fin_of_lt_ten (hdigits lo (by simp))
      obtain ⟨j, rfl⟩ := exists_fin_of_lt_ten (hdigits hi (by simp))
      rw [packDigits, List.flatMap_cons, unpackDigits_pair,
        ih fun d hd => hdigits d (by simp [hd])]
      rfl

theorem firstByte_decode :
    ∀ d : Fin 10,
      let byte := (UInt8.ofNat d <<< 4) ||| ((1 : UInt8) <<< 3) ||| identityImsi
      byte &&& 0x07 = identityImsi ∧ (byte >>> 3) &&& 0x01 = 1 ∧
        (byte >>> 4) &&& 0x0F = UInt8.ofNat d := by
  decide

/-- Every 15-digit IMSI survives the BCD coding. -/
theorem decodeImsi_encodeImsi {imsi : UInt64} (himsi : imsi.toNat < 10 ^ 15) :
    decodeImsi (encodeImsi imsi) = some imsi := by
  have hvalue := foldlM_pushDigit_decimalDigits himsi
  have hlength := decimalDigits_length 15 imsi
  have hten := decimalDigits_lt_ten 15 imsi
  unfold encodeImsi
  cases hdigits : decimalDigits 15 imsi with
  | nil => rw [hdigits] at hlength; cases hlength
  | cons first digits =>
      rw [hdigits] at hvalue hlength hten
      obtain ⟨k, rfl⟩ := exists_fin_of_lt_ten (hten first List.mem_cons_self)
      obtain ⟨htype, hodd, hfirst⟩ := firstByte_decode k
      have hrest := flatMap_unpackDigits_packDigits digits
        fun d hd => hten d (List.mem_cons_of_mem _ hd)
      have hpadding : ¬ ((1 : UInt8) = 0 ∧
          (UInt8.ofNat k :: digits).getLast? = some 0x0F) := fun h => absurd h.1 (by decide)
      simp only [decodeImsi, htype, hodd, hfirst, hrest, ne_eq, not_true_eq_false, if_false,
        if_neg hpadding, hlength, gt_iff_lt, lt_self_iff_false, hvalue]

@[simp] theorem encodeImsi_length (imsi : UInt64) : (encodeImsi imsi).length = 8 := by
  have hlength := decimalDigits_length 15 imsi
  unfold encodeImsi
  cases hdigits : decimalDigits 15 imsi with
  | nil => rw [hdigits] at hlength; cases hlength
  | cons first digits =>
      rw [hdigits, List.length_cons] at hlength
      rw [List.length_cons, packDigits_length]
      omega

/-! ## Length-value and type-length-value fields -/

/-- A one-byte length and the value. -/
def writeLv (value : List UInt8) : List UInt8 :=
  UInt8.ofNat value.length :: value

/-- Split a buffer after its leading length-value field. -/
def readLv : List UInt8 → Option (List UInt8 × List UInt8)
  | [] => none
  | len :: buf =>
      if buf.length < len.toNat then none
      else some (buf.take len.toNat, buf.drop len.toNat)

/-- An identifier byte before a length-value field. -/
def writeTlv (iei : UInt8) (value : List UInt8) : List UInt8 :=
  iei :: writeLv value

/-- Split a buffer after its leading type-length-value field. -/
def readTlv : List UInt8 → Option (UInt8 × List UInt8 × List UInt8)
  | [] => none
  | iei :: buf =>
      match readLv buf with
      | none => none
      | some (value, rest) => some (iei, value, rest)

/-- The suffix of the buffer that starts at the first field with the target identifier. -/
def findTlv (targetIei : UInt8) : List UInt8 → Option (List UInt8)
  | iei :: len :: buf =>
      if iei = targetIei then some (iei :: len :: buf)
      else if buf.length < len.toNat then none
      else findTlv targetIei (buf.drop len.toNat)
  | _ => none
termination_by buf => buf.length
decreasing_by simp only [List.length_drop, List.length_cons]; omega

/-- What a length-value field carries is read back, with the rest of the buffer untouched. -/
theorem readLv_writeLv (value rest : List UInt8) (hvalue : value.length < 256) :
    readLv (writeLv value ++ rest) = some (value, rest) := by
  have hlen : (UInt8.ofNat value.length).toNat = value.length := by
    rw [UInt8.toNat_ofNat', Nat.mod_eq_of_lt hvalue]
  have hroom : ¬ (value ++ rest).length < value.length := by
    simp only [List.length_append]
    omega
  simp only [writeLv, List.cons_append, readLv, hlen, if_neg hroom, List.take_left,
    List.drop_left]

/-! ## Fields of three bits -/

theorem exists_fin_of_lt_eight {b : UInt8} (hb : b < 8) : ∃ k : Fin 8, b = UInt8.ofNat k :=
  Octets.exists_fin_of_lt (UInt8.lt_iff_toNat_lt.mp hb)

/-- Two fields share an octet and come apart again. -/
theorem packedFields_split : ∀ hi lo : Fin 8,
    let octet := ((UInt8.ofNat hi &&& 0x07) <<< 4) ||| (UInt8.ofNat lo &&& 0x07)
    (octet >>> 4) &&& 0x07 = UInt8.ofNat hi ∧ octet &&& 0x07 = UInt8.ofNat lo := by
  decide

theorem highField_split : ∀ hi : Fin 8,
    (((UInt8.ofNat hi &&& 0x07) <<< 4) >>> 4) &&& 0x07 = UInt8.ofNat hi := by
  decide

theorem lowField_split : ∀ lo : Fin 8, UInt8.ofNat lo &&& 0x07 &&& 0x07 = UInt8.ofNat lo := by
  decide

/-! ## Security algorithms -/

/-- NAS ciphering algorithm identifier. -/
inductive NasEeaAlgorithm where
  | eea0 | eea1 | eea2 | eea3
deriving DecidableEq, Repr

/-- NAS integrity algorithm identifier. -/
inductive NasEiaAlgorithm where
  | eia0 | eia1 | eia2 | eia3
deriving DecidableEq, Repr

/-- The wire value of a ciphering algorithm. -/
def NasEeaAlgorithm.toU8 : NasEeaAlgorithm → UInt8
  | eea0 => 0 | eea1 => 1 | eea2 => 2 | eea3 => 3

/-- The wire value of an integrity algorithm. -/
def NasEiaAlgorithm.toU8 : NasEiaAlgorithm → UInt8
  | eia0 => 0 | eia1 => 1 | eia2 => 2 | eia3 => 3

/-- The selected algorithms in one octet, ciphering in the high nibble. -/
def encodeSecurityAlgorithms (eea : NasEeaAlgorithm) (eia : NasEiaAlgorithm) : UInt8 :=
  (eea.toU8 <<< 4) ||| eia.toU8

/-- Read the algorithm octet; an unknown value selects the null algorithm. -/
def decodeSecurityAlgorithms (byte : UInt8) : NasEeaAlgorithm × NasEiaAlgorithm :=
  let eea := (byte >>> 4) &&& 0x0F
  let eia := byte &&& 0x0F
  (if eea = 1 then .eea1 else if eea = 2 then .eea2 else if eea = 3 then .eea3 else .eea0,
   if eia = 1 then .eia1 else if eia = 2 then .eia2 else if eia = 3 then .eia3 else .eia0)

@[simp] theorem decodeSecurityAlgorithms_encode (eea : NasEeaAlgorithm) (eia : NasEiaAlgorithm) :
    decodeSecurityAlgorithms (encodeSecurityAlgorithms eea eia) = (eea, eia) := by
  cases eea <;> cases eia <;> decide

end Midn.Nas
