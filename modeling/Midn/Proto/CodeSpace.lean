import Midn.Proto.Per

/-!
# Code spaces

A number of a range is read from bits that may be the numeral of a larger one. The reader takes any
numeral, so what it returns is in the range exactly if the bits in the buffer spell a number of the
range, and it is for every buffer exactly if the range uses up all the numerals of its bits.
-/

namespace Midn.Per

open PerReader

/-! ## Bits that are there -/

/-- Bits are shifted in from inside the buffer only. -/
theorem shiftBits_inside {n v₀ v : Nat} {r r' : PerReader}
    (hread : (shiftBits (n + 1) v₀).run r = some (v, r')) :
    r.bitPos + (n + 1) ≤ (Bits.ofOctets r.data).length := by
  obtain ⟨b, r₁, hbit, hread⟩ := Tape.run_bind_eq_some.mp hread
  obtain ⟨rfl, hinside⟩ := readBit_eq_some hbit
  have hword : ((v₀ <<< 1) ||| b.toNat) % 2 ^ 64 < 2 ^ 64 := Nat.mod_lt _ (Nat.two_pow_pos 64)
  obtain ⟨rfl, -, hstop⟩ := shiftBits_eq_some hword hread
  have hstop := hstop hinside
  simp only [advance] at hstop
  omega

/-- The numeral of the bits at a position. -/
def numeralAt (r : PerReader) (start n : Nat) : Nat :=
  Bits.toNat (((Bits.ofOctets r.data).drop start).take n)

theorem numeralAt_lt (r : PerReader) (start n : Nat) : numeralAt r start n < 2 ^ n := by
  refine lt_of_lt_of_le (Bits.toNat_lt _) (Nat.pow_le_pow_right Nat.two_pos ?_)
  exact List.length_take_le n _

/-- Bits are read as their numeral, if there are so many of them. -/
theorem readBits_eq_some_iff {n v : Nat} (hn : n ≤ 64) {r r' : PerReader} :
    (readBits n).run r = some (v, r') ↔
      (n = 0 ∨ r.bitPos + n ≤ 8 * r.data.length) ∧ v = numeralAt r r.bitPos n ∧
        r' = r.advance n := by
  have hrun : n = 0 ∨ r.bitPos + n ≤ 8 * r.data.length →
      (readBits n).run r = some (numeralAt r r.bitPos n, r.advance n) := by
    intro hroom
    have hlength : (((Bits.ofOctets r.data).drop r.bitPos).take n).length = n := by
      rw [List.length_take, List.length_drop, Bits.length_ofOctets]
      omega
    have hshift := shiftBits_run (m := 0) Nat.one_pos (by rw [hlength]; omega)
      (List.take_prefix n ((Bits.ofOctets r.data).drop r.bitPos))
    rw [hlength] at hshift
    exact hshift
  constructor
  · intro hread
    have hroom : n = 0 ∨ r.bitPos + n ≤ 8 * r.data.length := by
      cases n with
      | zero => exact Or.inl rfl
      | succ n =>
          have hinside := shiftBits_inside hread
          rw [Bits.length_ofOctets] at hinside
          exact Or.inr hinside
    have hpair := Option.some.inj (hread.symm.trans (hrun hroom))
    exact ⟨hroom, congrArg Prod.fst hpair, congrArg Prod.snd hpair⟩
  · rintro ⟨hroom, rfl, rfl⟩
    exact hrun hroom

/-! ## The bits of a number -/

/-- Where the bits of a number of a range begin. -/
def constrainedStart (min max pos : Nat) : Nat :=
  if constrainedWidth min max ≤ 8 then pos else alignUp pos

/-- What the bits spell that a number of a range has in the buffer. -/
def codePoint (min max : Nat) (r : PerReader) : Nat :=
  numeralAt r (constrainedStart min max r.bitPos) (constrainedWidth min max)

/-- The buffer is over before the end of a number of a range, or spells one of the range there. -/
def SpellsNumber (min max : Nat) (r : PerReader) : Prop :=
  constrainedEnd min max r.bitPos ≤ 8 * r.data.length → codePoint min max r ≤ max - min

section ConstrainedInt

variable {min max : Nat} (hword : max - min + 1 < 2 ^ 64)
include hword

theorem codePoint_lt (r : PerReader) : codePoint min max r < 2 ^ 64 :=
  lt_of_lt_of_le (numeralAt_lt r _ _) (Nat.pow_le_pow_right Nat.two_pos (constrainedWidth_le hword))

/-- A number is read from the bits of its range, if they are there. -/
theorem readConstrainedInt_eq_some_iff (hmin : min < 2 ^ 64) {v : Nat} {r r' : PerReader} :
    (readConstrainedInt min max).run r = some (v, r') ↔
      (constrainedWidth min max = 0 ∨ constrainedEnd min max r.bitPos ≤ 8 * r.data.length) ∧
        v = (min + codePoint min max r) % 2 ^ 64 ∧
        r' = { r with bitPos := constrainedEnd min max r.bitPos } := by
  have hwidth := constrainedWidth_le hword
  rw [readConstrainedInt_eq hword hmin]
  by_cases hsmall : constrainedWidth min max ≤ 8
  · simp only [if_pos hsmall, Tape.run_map_eq_some, readBits_eq_some_iff hwidth, constrainedEnd,
      codePoint, constrainedStart, advance]
    constructor
    · rintro ⟨_, ⟨hroom, rfl, rfl⟩, rfl⟩
      exact ⟨hroom, rfl, rfl⟩
    · rintro ⟨hroom, rfl, rfl⟩
      exact ⟨_, ⟨hroom, rfl, rfl⟩, rfl⟩
  · simp only [if_neg hsmall, Tape.run_bind_eq_some, Tape.run_map_eq_some,
      readBits_eq_some_iff hwidth, constrainedEnd, codePoint, constrainedStart, advance]
    constructor
    · rintro ⟨_, _, halign, _, ⟨hroom, rfl, rfl⟩, rfl⟩
      cases halign
      exact ⟨hroom, rfl, rfl⟩
    · rintro ⟨hroom, rfl, rfl⟩
      exact ⟨(), _, rfl, _, ⟨hroom, rfl, rfl⟩, rfl⟩

/-- What is read at a place is in the range exactly if the bits there spell a number of it. -/
theorem readConstrainedInt_inRange_iff (hle : min ≤ max) (hmax : max < 2 ^ 64) (r : PerReader) :
    (∀ v r', (readConstrainedInt min max).run r = some (v, r') → min ≤ v ∧ v ≤ max) ↔
      SpellsNumber min max r := by
  have hmin : min < 2 ^ 64 := lt_of_le_of_lt hle hmax
  have hpoint := codePoint_lt hword r
  constructor
  · intro hall hroom
    have hrange := hall _ _
      ((readConstrainedInt_eq_some_iff hword hmin).mpr ⟨Or.inr hroom, rfl, rfl⟩)
    omega
  · intro hspells v r' hread
    obtain ⟨hroom, rfl, -⟩ := (readConstrainedInt_eq_some_iff hword hmin).mp hread
    have hbound : codePoint min max r ≤ max - min := by
      rcases hroom with hnone | hroom
      · have hlt := numeralAt_lt r (constrainedStart min max r.bitPos) (constrainedWidth min max)
        rw [hnone] at hlt
        rw [codePoint, hnone]
        omega
      · exact hspells hroom
    omega

end ConstrainedInt

/-! ## Ranges that use up their bits -/

/-- The sizes of ranges to which every numeral of their bits belongs. -/
def WholeCodeSpace (range : Nat) : Prop := (∃ k ≤ 8, range = 2 ^ k) ∨ ∃ k, range = 256 ^ k

theorem bitsForRange_two_pow {k : Nat} (hk : k < 64) : bitsForRange (2 ^ k) = k := by
  have hpos := Nat.two_pow_pos k
  obtain ⟨_, hspec⟩ := bitsForRange_spec (Nat.pow_lt_pow_right Nat.one_lt_two hk)
  have hle : k ≤ bitsForRange (2 ^ k) := by
    have hlt := hspec (2 ^ k - 1) (by omega)
    rw [← Nat.pow_le_pow_iff_right Nat.one_lt_two]
    omega
  have hge : bitsForRange (2 ^ k) ≤ k := by
    unfold bitsForRange
    split
    next => exact Nat.zero_le k
    next hmore =>
      have hne : 2 ^ k - 1 ≠ 0 := by omega
      exact (Nat.log2_lt hne).mpr (by omega)
  exact le_antisymm hge hle

/-- The number of numerals is the size of the range for powers of two up to an octet, and for powers
of 256. -/
theorem two_pow_constrainedWidth_eq_iff {min max : Nat} (hword : max - min + 1 < 2 ^ 64) :
    2 ^ constrainedWidth min max = max - min + 1 ↔ WholeCodeSpace (max - min + 1) := by
  constructor
  · intro hwhole
    rcases constrainedWidth_cases min max with ⟨_, hwidth⟩ | ⟨_, hsmall, hwidth⟩ |
      ⟨_, _, _, hwidth⟩
    · rw [hwidth] at hwhole
      exact Or.inl ⟨0, Nat.zero_le 8, hwhole.symm⟩
    · rw [hwidth] at hwhole
      exact Or.inl ⟨_, hsmall, hwhole.symm⟩
    · rw [hwidth, Nat.mul_comm, Nat.pow_mul] at hwhole
      exact Or.inr ⟨_, hwhole.symm⟩
  · rintro (⟨k, hk, hrange⟩ | ⟨k, hrange⟩)
    · have hbits := bitsForRange_two_pow (by omega : k < 64)
      rw [constrainedWidth, hrange, hbits, if_pos hk]
    · have hpow : (256 : Nat) ^ k = 2 ^ (8 * k) := (Nat.pow_mul 2 8 k).symm
      have hk : 8 * k < 64 := by
        rw [hrange, hpow] at hword
        exact (Nat.pow_lt_pow_iff_right Nat.one_lt_two).mp hword
      have hbits := bitsForRange_two_pow hk
      have hwidth : (if 8 * k ≤ 8 then 8 * k else (8 * k + 7) / 8 * 8) = 8 * k := by
        split <;> omega
      rw [constrainedWidth, hrange, hpow, hbits, hwidth]

/-- Every buffer spells numbers of a range everywhere exactly if the range uses up its bits. -/
theorem forall_spellsNumber_iff {min max : Nat} (hword : max - min + 1 < 2 ^ 64) :
    (∀ r, SpellsNumber min max r) ↔ WholeCodeSpace (max - min + 1) := by
  have hwidth := constrainedWidth_le hword
  rw [← two_pow_constrainedWidth_eq_iff hword]
  constructor
  · intro hall
    -- a buffer of ones spells the largest numeral
    have hones : Bits.ofOctets (List.replicate 8 0xFF) = List.replicate 64 true := by decide
    have hstart : constrainedStart min max 0 = 0 := by
      unfold constrainedStart
      split <;> rfl
    have hroom : constrainedEnd min max 0 ≤ 8 * (List.replicate 8 (0xFF : UInt8)).length := by
      have hend : constrainedEnd min max 0 =
          constrainedStart min max 0 + constrainedWidth min max := rfl
      rw [hend, hstart, List.length_replicate]
      omega
    have hlargest := hall ⟨List.replicate 8 0xFF, 0⟩ hroom
    rw [codePoint, hstart, numeralAt, hones, List.drop_zero, List.take_replicate,
      Nat.min_eq_left hwidth, Bits.toNat_replicate_true] at hlargest
    have hfits := sub_lt_constrainedWidth hword (le_refl max)
    omega
  · intro hwhole r _
    have hlt := numeralAt_lt r (constrainedStart min max r.bitPos) (constrainedWidth min max)
    rw [codePoint]
    omega

/-! ## Numbers from zero on -/

section UpTo

variable {v max : Nat} (hmax : max < 2 ^ 64 - 1) {r r' : PerReader}
  (hread : (readConstrainedInt 0 max).run r = some (v, r'))
include hmax hread

/-- A number that has been read ends where its bits do. -/
theorem bitPos_of_readUpTo : r' = { r with bitPos := constrainedEnd 0 max r.bitPos } :=
  ((readConstrainedInt_eq_some_iff (by omega) (by omega)).mp hread).2.2

/-- A number that has been read is in its range exactly if it is spelled so. -/
theorem readUpTo_le_iff : v ≤ max ↔ SpellsNumber 0 max r := by
  rw [← readConstrainedInt_inRange_iff (by omega) (Nat.zero_le max) (by omega) r]
  constructor
  · intro hle v' r₁ hread'
    cases Option.some.inj (hread.symm.trans hread')
    exact ⟨Nat.zero_le v, hle⟩
  · intro hall
    exact (hall v r' hread).2

theorem readUpTo_le_of_wholeCodeSpace (hwhole : WholeCodeSpace (max + 1)) : v ≤ max := by
  rw [readUpTo_le_iff hmax hread]
  have hall : ∀ r, SpellsNumber 0 max r :=
    (forall_spellsNumber_iff (by omega)).mpr hwhole
  exact hall r

end UpTo

end Midn.Per
