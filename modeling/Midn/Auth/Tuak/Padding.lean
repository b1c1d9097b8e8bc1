import Midn.Auth.Tuak.Sponge
import Midn.Lib.Tails

/-!
# Multi-rate padding

The first bit of the padding is the only one that a byte has set at its low end, also in the single
byte that holds both marker bits. So no padding ends in a shorter one, and a padded input tells how
much of it is padding, whatever the input ends in.
-/

namespace Midn.Auth.Tuak

/-- Only the first byte of the padding is odd. -/
theorem getElem?_padding_and_one {len i : Nat} (hi : i < len) :
    (padding len)[i]?.map (· &&& 1) = some (if i = 0 then 1 else 0) := by
  rw [padding, List.getElem?_map, List.getElem?_range hi, Option.map_some, Option.map_some]
  by_cases hfirst : i = 0
  · rw [if_pos hfirst]
    split <;> rfl
  · rw [if_neg hfirst]
    split <;> rfl

theorem length_padding (len : Nat) : (padding len).length = len := by
  rw [padding, List.length_map, List.length_range]

theorem suffixFree_padding : Tails.SuffixFree {len : Nat | 1 ≤ len} padding := by
  intro m hm n _ hsuffix
  obtain ⟨front, hfront⟩ := hsuffix
  have hlength : front.length + m = n := by
    rw [← length_padding n, ← hfront, List.length_append, length_padding]
  -- the odd byte at the beginning of the shorter padding is in the longer one
  have hsame : (padding n)[front.length]? = (padding m)[0]? := by
    rw [← hfront, List.getElem?_append_right (le_refl _), Nat.sub_self]
  have hodd := getElem?_padding_and_one (hm : 0 < m)
  have hm : 1 ≤ m := hm
  rw [← hsame, getElem?_padding_and_one (by omega : front.length < n), if_pos rfl] at hodd
  by_cases hempty : front.length = 0
  · omega
  · rw [if_neg hempty] at hodd
    exact absurd (Option.some.inj hodd) (by decide)

/-- At least one byte is added to an input. -/
theorem added_pos {rateBytes : Nat} (hrate : 1 ≤ rateBytes) (input : List UInt8) :
    1 ≤ rateBytes - input.length % rateBytes := by
  have hrest := Nat.mod_lt input.length hrate
  omega

/-- For every rate the padding is injective on inputs of all lengths, and it makes a number of whole
blocks out of an input by adding at least one byte and at most one block at its end. -/
theorem pad10Star1_injective {rateBytes : Nat} (hrate : 1 ≤ rateBytes) :
    (Function.Injective fun input => pad10Star1 input rateBytes) ∧
    ∀ input, pad10Star1 input rateBytes ≠ [] ∧
      rateBytes ∣ (pad10Star1 input rateBytes).length ∧
      ∃ added, pad10Star1 input rateBytes = input ++ added ∧
        1 ≤ added.length ∧ added.length ≤ rateBytes := by
  constructor
  · intro a b hsame
    have hsame : pad10Star1 a rateBytes = pad10Star1 b rateBytes := hsame
    rw [pad10Star1_eq hrate, pad10Star1_eq hrate] at hsame
    exact (suffixFree_padding.append_inj (added_pos hrate a) (added_pos hrate b) hsame).1
  · intro input
    rw [pad10Star1_eq hrate]
    refine ⟨?_, Nat.dvd_of_mod_eq_zero (length_padded hrate input), _, rfl, ?_, ?_⟩
    · intro hnil
      have hpadding := congrArg List.length (List.append_eq_nil_iff.mp hnil).2
      rw [length_padding] at hpadding
      exact absurd (added_pos hrate input) (by rw [hpadding]; decide)
    · rw [length_padding]
      exact added_pos hrate input
    · rw [length_padding]
      exact Nat.sub_le _ _

/-- At a rate of one byte every input gets a block of its own for the padding. -/
theorem pad10Star1_injective_one :
    (Function.Injective fun input => pad10Star1 input 1) ∧
    ∀ input, pad10Star1 input 1 ≠ [] ∧ 1 ∣ (pad10Star1 input 1).length ∧
      ∃ added, pad10Star1 input 1 = input ++ added ∧ 1 ≤ added.length ∧ added.length ≤ 1 :=
  pad10Star1_injective (le_refl 1)

end Midn.Auth.Tuak
