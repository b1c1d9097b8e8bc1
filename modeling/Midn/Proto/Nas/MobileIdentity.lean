import Midn.Proto.Nas.Ie

/-!
# Identities and subscribers

An identity of 15 digits is the encoding of the subscriber it resolves to. The decoder takes
identities of fewer digits too and gives their number, in which leading zeros do not count.
-/

namespace Midn.Nas

/-- The decoder reads the flag of an odd number of digits in the first octet. -/
def oddFlag (first : UInt8) : UInt8 := (first >>> 3) &&& 0x01

/-- A high nibble that holds no digit. -/
def HasFiller (byte : UInt8) : Prop := (byte >>> 4) &&& 0x0F = 0x0F

/-- Eight octets of 15 digits: the flag is set and no high nibble is a filler. -/
structure FifteenDigits (first : UInt8) (rest : List UInt8) : Prop where
  length : rest.length = 7
  odd : oddFlag first = 1
  full : ∀ byte ∈ rest, ¬ HasFiller byte

/-- Eight octets of 14 digits: the flag is clear, and the filler is the last high nibble and no
other one. -/
structure FourteenDigits (first : UInt8) (rest : List UInt8) (last : UInt8) : Prop where
  length : rest.length = 6
  even : oddFlag first = 0
  full : ∀ byte ∈ rest, ¬ HasFiller byte
  filled : HasFiller last
  digit : last &&& 0x0F ≠ 0x0F

/-! ## Octets and their digits -/

theorem octet_eq_ofFin (byte : UInt8) : ∃ k : Fin 256, byte = UInt8.ofNat k :=
  Octets.exists_fin_of_lt byte.toNat_lt

theorem join_nibbles : ∀ k : Fin 256,
    (((UInt8.ofNat k >>> 4) &&& 0x0F) <<< 4) ||| (UInt8.ofNat k &&& 0x0F) = UInt8.ofNat k := by
  decide +kernel

theorem join_header : ∀ k : Fin 256, UInt8.ofNat k &&& 0x07 = identityImsi →
    (((UInt8.ofNat k >>> 4) &&& 0x0F) <<< 4) ||| (oddFlag (UInt8.ofNat k) <<< 3) ||| identityImsi =
      UInt8.ofNat k := by
  decide +kernel

/-- Two digits are packed into the octet they were read off. -/
theorem packDigits_unpackDigits_append {byte : UInt8} (hfull : ¬ HasFiller byte)
    (digits : List UInt8) :
    packDigits (unpackDigits byte ++ digits) = byte :: packDigits digits := by
  obtain ⟨k, rfl⟩ := octet_eq_ofFin byte
  have hunpack : unpackDigits (UInt8.ofNat k) =
      [UInt8.ofNat k &&& 0x0F, (UInt8.ofNat k >>> 4) &&& 0x0F] := if_pos hfull
  rw [hunpack, List.cons_append, List.cons_append, List.nil_append, packDigits, join_nibbles]

theorem packDigits_unpackDigits_of_filler {byte : UInt8} (hfiller : HasFiller byte) :
    packDigits (unpackDigits byte) = [byte] := by
  obtain ⟨k, rfl⟩ := octet_eq_ofFin byte
  have hunpack : unpackDigits (UInt8.ofNat k) = [UInt8.ofNat k &&& 0x0F] :=
    if_neg (not_not_intro hfiller)
  have hjoin := join_nibbles k
  rw [HasFiller] at hfiller
  rw [hfiller] at hjoin
  rw [hunpack, packDigits, hjoin]

/-- Full octets are packed from the digits they hold, in front of whatever follows. -/
theorem packDigits_flatMap_append {rest : List UInt8} (hfull : ∀ byte ∈ rest, ¬ HasFiller byte)
    (digits : List UInt8) :
    packDigits (rest.flatMap unpackDigits ++ digits) = rest ++ packDigits digits := by
  induction rest with
  | nil => rfl
  | cons byte rest ih =>
      obtain ⟨hfirst, hrest⟩ := List.forall_mem_cons.mp hfull
      rw [List.flatMap_cons, List.append_assoc, packDigits_unpackDigits_append hfirst, ih hrest,
        List.cons_append]

theorem length_flatMap_unpackDigits {rest : List UInt8}
    (hfull : ∀ byte ∈ rest, ¬ HasFiller byte) :
    (rest.flatMap unpackDigits).length = 2 * rest.length := by
  induction rest with
  | nil => rfl
  | cons byte rest ih =>
      obtain ⟨hfirst, hrest⟩ := List.forall_mem_cons.mp hfull
      have hunpack : unpackDigits byte = [byte &&& 0x0F, (byte >>> 4) &&& 0x0F] := if_pos hfirst
      rw [List.flatMap_cons, List.length_append, ih hrest, hunpack, List.length_cons]
      simp only [List.length_cons, List.length_nil]
      omega

/-! ## Numbers and their digits -/

/-- A number that has been read from at most 19 digits has these digits. -/
theorem decimalDigits_of_foldlM {digits : List UInt8} {n : UInt64} (hlength : digits.length ≤ 19)
    (hread : digits.foldlM pushDigit 0 = some n) :
    decimalDigits digits.length n = digits ∧ n.toNat < 10 ^ digits.length := by
  induction digits using List.reverseRecOn generalizing n with
  | nil =>
      cases hread
      exact ⟨rfl, Nat.one_pos⟩
  | append_singleton digits d ih =>
      rw [List.length_append, List.length_singleton] at hlength ⊢
      rw [List.foldlM_append, Option.bind_eq_bind, Option.bind_eq_some_iff] at hread
      obtain ⟨m, hm, hpush⟩ := hread
      obtain ⟨hdigits, hlt⟩ := ih (by omega) hm
      simp only [List.foldlM_cons, List.foldlM_nil, bind_pure, pushDigit] at hpush
      split_ifs at hpush with hnine
      cases hpush
      have hdigit : d.toNat ≤ 9 := by
        rw [gt_iff_lt, UInt8.lt_iff_toNat_lt, not_lt] at hnine
        exact hnine
      have hword : 10 ^ (digits.length + 1) ≤ 10 ^ 19 := Nat.pow_le_pow_right (by decide) hlength
      rw [pow_succ] at hword ⊢
      have hvalue : (m * 10 + d.toUInt64).toNat = m.toNat * 10 + d.toNat := by
        simp only [UInt64.toNat_add, UInt64.toNat_mul, UInt8.toNat_toUInt64, UInt64.reduceToNat]
        omega
      have hten : (10 : UInt64).toNat = 10 := rfl
      have hquotient : (m * 10 + d.toUInt64) / 10 = m := by
        apply UInt64.toNat_inj.mp
        rw [UInt64.toNat_div, hvalue, hten]
        omega
      have hremainder : ((m * 10 + d.toUInt64) % 10).toUInt8 = d := by
        apply UInt8.toNat_inj.mp
        rw [UInt64.toNat_toUInt8, UInt64.toNat_mod, hvalue, hten]
        omega
      refine ⟨?_, ?_⟩
      · rw [decimalDigits, hquotient, hremainder, hdigits]
      · rw [hvalue]
        omega

/-! ## Identities of 15 and of 14 digits -/

section Identities

variable {first last : UInt8} {rest : List UInt8} {n : UInt64}

/-- The digits of an identity that needs no trimming are read as a number. -/
theorem foldlM_of_decodeImsi (hkeep : ¬ (oddFlag first = 0 ∧
      (((first >>> 4) &&& 0x0F) :: rest.flatMap unpackDigits).getLast? = some 0x0F))
    (hdecode : decodeImsi (first :: rest) = some n) :
    first &&& 0x07 = identityImsi ∧
      (((first >>> 4) &&& 0x0F) :: rest.flatMap unpackDigits).foldlM pushDigit 0 = some n := by
  have hkeep : ¬ ((first >>> 3) &&& 0x01 = 0 ∧
      (((first >>> 4) &&& 0x0F) :: rest.flatMap unpackDigits).getLast? = some 0x0F) := hkeep
  rw [decodeImsi] at hdecode
  split_ifs at hdecode with htype
  simp only [if_neg hkeep] at hdecode
  split_ifs at hdecode with hlong
  exact ⟨not_not.mp htype, hdecode⟩

/-- An identity of 15 digits is the encoding of the number it is decoded to. -/
theorem FifteenDigits.encodeImsi_eq (hidentity : FifteenDigits first rest)
    (hdecode : decodeImsi (first :: rest) = some n) : encodeImsi n = first :: rest := by
  have hodd : ¬ (oddFlag first = 0 ∧
      (((first >>> 4) &&& 0x0F) :: rest.flatMap unpackDigits).getLast? = some 0x0F) := by
    rw [hidentity.odd]
    exact fun h => absurd h.1 (by decide)
  obtain ⟨htype, hread⟩ := foldlM_of_decodeImsi hodd hdecode
  have hlength : (((first >>> 4) &&& 0x0F) :: rest.flatMap unpackDigits).length = 15 := by
    rw [List.length_cons, length_flatMap_unpackDigits hidentity.full, hidentity.length]
  obtain ⟨hdigits, -⟩ := decimalDigits_of_foldlM (by rw [hlength]; decide) hread
  have hpack := packDigits_flatMap_append hidentity.full []
  have hodd := hidentity.odd
  obtain ⟨k, rfl⟩ := octet_eq_ofFin first
  have hheader := join_header k htype
  rw [hodd] at hheader
  rw [List.append_nil, packDigits, List.append_nil] at hpack
  rw [hlength] at hdigits
  unfold encodeImsi
  rw [hdigits]
  change (((_ : UInt8) <<< 4) ||| ((1 : UInt8) <<< 3) ||| identityImsi) ::
    packDigits (rest.flatMap unpackDigits) = _
  rw [hheader, hpack]

/-- An identity of 14 digits is packed from the digits of the number it is decoded to. -/
theorem FourteenDigits.digits_eq (hidentity : FourteenDigits first rest last)
    (hdecode : decodeImsi (first :: (rest ++ [last])) = some n) :
    n.toNat < 10 ^ 14 ∧ ∃ digits, decimalDigits 14 n = ((first >>> 4) &&& 0x0F) :: digits ∧
      first :: (rest ++ [last]) =
        ((((first >>> 4) &&& 0x0F) <<< 4) ||| identityImsi) :: packDigits digits := by
  have hlast : unpackDigits last = [last &&& 0x0F] := if_neg (not_not_intro hidentity.filled)
  have hunpack : (rest ++ [last]).flatMap unpackDigits =
      rest.flatMap unpackDigits ++ [last &&& 0x0F] := by
    rw [List.flatMap_append, List.flatMap_singleton, hlast]
  have hkeep : ¬ (oddFlag first = 0 ∧ (((first >>> 4) &&& 0x0F) ::
      (rest ++ [last]).flatMap unpackDigits).getLast? = some 0x0F) := by
    rw [hunpack, ← List.cons_append, List.getLast?_concat, Option.some.injEq]
    exact fun h => hidentity.digit h.2
  obtain ⟨htype, hread⟩ := foldlM_of_decodeImsi hkeep hdecode
  have hlength : (((first >>> 4) &&& 0x0F) :: (rest ++ [last]).flatMap unpackDigits).length =
      14 := by
    rw [hunpack, List.length_cons, List.length_append, length_flatMap_unpackDigits hidentity.full,
      hidentity.length, List.length_singleton]
  obtain ⟨hdigits, hlt⟩ := decimalDigits_of_foldlM (by rw [hlength]; decide) hread
  rw [hlength] at hdigits hlt
  refine ⟨hlt, _, hdigits, ?_⟩
  have hpack := packDigits_flatMap_append hidentity.full [last &&& 0x0F]
  rw [← hunpack, ← hlast, packDigits_unpackDigits_of_filler hidentity.filled] at hpack
  have heven := hidentity.even
  obtain ⟨k, rfl⟩ := octet_eq_ofFin first
  have hheader := join_header k htype
  rw [heven] at hheader
  have hzero : (0 : UInt8) <<< 3 = 0 := rfl
  rw [hzero, UInt8.or_zero] at hheader
  rw [hpack, hheader]

end Identities

/-- An identity of 15 digits that is decoded is the encoding of its subscriber, so that no two of
them resolve to the same one. Identities of 14 digits resolve to subscribers below `10 ^ 14`, no two
of them to the same one; the decoder does not tell these from the identities of 15 digits with a
leading zero. Every 15-digit IMSI is decoded from its encoding. -/
theorem decodeImsi_exact :
    (∀ first rest n, FifteenDigits first rest → decodeImsi (first :: rest) = some n →
      encodeImsi n = first :: rest) ∧
    (∀ first rest last n, FourteenDigits first rest last →
      decodeImsi (first :: (rest ++ [last])) = some n → n.toNat < 10 ^ 14 ∧
        ∀ first' rest' last', FourteenDigits first' rest' last' →
          decodeImsi (first' :: (rest' ++ [last'])) = some n →
          first' :: (rest' ++ [last']) = first :: (rest ++ [last])) ∧
    ∀ n : UInt64, n.toNat < 10 ^ 15 → decodeImsi (encodeImsi n) = some n := by
  refine ⟨?_, ?_, ?_⟩
  · exact fun first rest n hidentity hdecode => hidentity.encodeImsi_eq hdecode
  · intro first rest last n hidentity hdecode
    obtain ⟨hlt, digits, hdigits, hbytes⟩ := hidentity.digits_eq hdecode
    refine ⟨hlt, ?_⟩
    intro first' rest' last' hidentity' hdecode'
    obtain ⟨-, digits', hdigits', hbytes'⟩ := hidentity'.digits_eq hdecode'
    obtain ⟨hhead, htail⟩ := List.cons.inj (hdigits'.symm.trans hdigits)
    rw [hbytes', hbytes, hhead, htail]
  · exact fun n hn => decodeImsi_encodeImsi hn

/-- The identity of 14 digits, a one and zeros. -/
def evenIdentity : List UInt8 := [0x11, 0, 0, 0, 0, 0, 0, 0xF0]

/-- It resolves to the same subscriber as the identity of 15 digits with a zero in front. -/
theorem evenIdentity_not_exact :
    evenIdentity.length = 8 ∧ decodeImsi evenIdentity = some 10000000000000 ∧
      encodeImsi 10000000000000 ≠ evenIdentity ∧
      encodeImsi 10000000000000 = [0x09, 0x01, 0, 0, 0, 0, 0, 0] ∧
      decodeImsi [0x09, 0x01, 0, 0, 0, 0, 0, 0] = some 10000000000000 := by
  decide +kernel

end Midn.Nas
