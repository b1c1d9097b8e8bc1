import Mathlib.Algebra.BigOperators.Group.List.Basic
import Mathlib.Algebra.Order.BigOperators.Group.List
import Mathlib.Data.Nat.ModEq
import Midn.Lib.Octets

/-!
# One's-complement checksums

Words are naturals up to the all-ones word `m`. Their addition carries what overflows around to the
low end, so it is addition modulo `m` except that it distinguishes the two words that stand for
zero. A block of words verifies when they add up to all ones. A checksum is computed on a plain sum
whose carries are added back in at the end.
-/

namespace OnesComplement

variable {m : Nat}

/-! ## Addition -/

/-- Addition with the carry brought around. -/
def add (m a b : Nat) : Nat := if a + b ≤ m then a + b else a + b - m

/-- The sum of a block of words. -/
def sum (m : Nat) (words : List Nat) : Nat := words.foldr (add m) 0

/-- The block adds up to all ones. -/
def Verifies (m : Nat) (words : List Nat) : Prop := sum m words = m

theorem add_le {a b : Nat} (ha : a ≤ m) (hb : b ≤ m) : add m a b ≤ m := by
  unfold add
  split
  next hfits => exact hfits
  next => omega

theorem add_modEq (a b : Nat) : add m a b ≡ a + b [MOD m] := by
  unfold add
  split
  next => exact Nat.ModEq.refl _
  next hover =>
    have hback : a + b - m + m = a + b := Nat.sub_add_cancel (by omega)
    calc a + b - m ≡ a + b - m + m [MOD m] := (Nat.add_mod_right _ _).symm
      _ = a + b := hback

theorem add_eq_zero_iff {a b : Nat} : add m a b = 0 ↔ a + b = 0 := by
  unfold add
  split
  next => exact Iff.rfl
  next hover => exact iff_of_false (by omega) (by omega)

theorem sum_le {words : List Nat} (hwords : ∀ a ∈ words, a ≤ m) : sum m words ≤ m := by
  induction words with
  | nil => exact Nat.zero_le m
  | cons a words ih =>
      obtain ⟨ha, hrest⟩ := List.forall_mem_cons.mp hwords
      exact add_le ha (ih hrest)

theorem sum_modEq (words : List Nat) : sum m words ≡ words.sum [MOD m] := by
  induction words with
  | nil => exact Nat.ModEq.refl 0
  | cons a words ih =>
      calc sum m (a :: words) ≡ a + sum m words [MOD m] := add_modEq ..
        _ ≡ a + words.sum [MOD m] := Nat.ModEq.add_left a ih
        _ = (a :: words).sum := List.sum_cons.symm

theorem sum_eq_zero_iff {words : List Nat} : sum m words = 0 ↔ words.sum = 0 := by
  induction words with
  | nil => exact iff_of_true rfl rfl
  | cons a words ih =>
      have hcons : sum m (a :: words) = add m a (sum m words) := rfl
      rw [hcons, add_eq_zero_iff, List.sum_cons, Nat.add_eq_zero_iff, Nat.add_eq_zero_iff, ih]

/-- A block verifies when its plain sum is a multiple of the all-ones word, and not zero. -/
theorem verifies_of_dvd {words : List Nat} (hwords : ∀ a ∈ words, a ≤ m) (hdvd : m ∣ words.sum)
    (hpos : words.sum ≠ 0) : Verifies m words := by
  have hzero : sum m words ≠ 0 := fun hsum => hpos (sum_eq_zero_iff.mp hsum)
  have hdvd' : m ∣ sum m words := ((sum_modEq words).dvd_iff dvd_rfl).mpr hdvd
  exact Nat.le_antisymm (sum_le hwords) (Nat.le_of_dvd (Nat.pos_of_ne_zero hzero) hdvd')

/-! ## Carries -/

/-- Add what is above the low word back in. -/
def fold (m s : Nat) : Nat := s % (m + 1) + s / (m + 1)

theorem fold_modEq (s : Nat) : fold m s ≡ s [MOD m] := by
  have hsplit : fold m s + m * (s / (m + 1)) = s := by
    have hdiv := Nat.mod_add_div s (m + 1)
    rw [Nat.add_mul, Nat.one_mul] at hdiv
    rw [fold]
    omega
  calc fold m s ≡ fold m s + m * (s / (m + 1)) [MOD m] := (Nat.add_mul_mod_self_left ..).symm
    _ = s := hsplit

/-- Two folds bring every sum of at most two words' width down to one word. -/
theorem fold_fold_le {s : Nat} (hs : s < (m + 1) * (m + 1)) : fold m (fold m s) ≤ m := by
  have hhigh : s / (m + 1) ≤ m := Nat.lt_succ_iff.mp (Nat.div_lt_of_lt_mul hs)
  have hlow : s % (m + 1) ≤ m := Nat.lt_succ_iff.mp (Nat.mod_lt s (Nat.succ_pos m))
  generalize hf : fold m s = f
  rw [fold] at hf
  by_cases hfits : f ≤ m
  · rw [fold, Nat.mod_eq_of_lt (Nat.lt_succ_of_le hfits),
      Nat.div_eq_of_lt (Nat.lt_succ_of_le hfits)]
    exact hfits
  · -- a single carry is left, and the low word it is added to has room
    have hcarry : f / (m + 1) = 1 := Nat.div_eq_of_lt_le (by omega) (by omega)
    have hrest := Nat.mod_add_div f (m + 1)
    rw [hcarry] at hrest
    rw [fold, hcarry]
    omega

/-- The complement of a folded sum makes the block verify wherever it is put. -/
theorem verifies_complement {before after : List Nat}
    (hwords : ∀ a ∈ before ++ after, a ≤ m) (hpos : (before ++ after).sum ≠ 0)
    (hsum : (before ++ after).sum < (m + 1) * (m + 1)) :
    Verifies m (before ++ (m - fold m (fold m (before ++ after).sum)) :: after) := by
  have hfolded := fold_fold_le hsum
  generalize hs : (before ++ after).sum = s at *
  have htotal : (before ++ (m - fold m (fold m s)) :: after).sum =
      s + (m - fold m (fold m s)) := by
    rw [← hs, List.sum_append, List.sum_append, List.sum_cons]
    omega
  apply verifies_of_dvd
  · intro a ha
    rcases List.mem_append.mp ha with ha | ha
    · exact hwords a (List.mem_append_left _ ha)
    · rcases List.mem_cons.mp ha with rfl | ha
      · exact Nat.sub_le ..
      · exact hwords a (List.mem_append_right _ ha)
  · have hmod : fold m (fold m s) ≡ s [MOD m] := (fold_modEq _).trans (fold_modEq s)
    rw [htotal, ← Nat.modEq_zero_iff_dvd]
    calc s + (m - fold m (fold m s))
        ≡ fold m (fold m s) + (m - fold m (fold m s)) [MOD m] := Nat.ModEq.add_right _ hmod.symm
      _ = m := Nat.add_sub_cancel' hfolded
      _ ≡ 0 [MOD m] := Nat.mod_self m
  · rw [htotal]
    omega

/-! ## Words of an octet string -/

/-- The big-endian words of two octets; a last odd octet is the high half of one. -/
def words : List UInt8 → List Nat
  | a :: b :: rest => Octets.beValue [a, b] :: words rest
  | [a] => [Octets.beValue [a, 0]]
  | [] => []

theorem beValue_pair_le (a b : UInt8) : Octets.beValue [a, b] ≤ 65535 := by
  have hlt := Octets.beValue_lt [a, b]
  rw [Octets.length_two] at hlt
  omega

theorem words_le (bytes : List UInt8) : ∀ a ∈ words bytes, a ≤ 65535 := by
  induction bytes using words.induct with
  | case1 a b rest ih =>
      exact List.forall_mem_cons.mpr ⟨beValue_pair_le a b, ih⟩
  | case2 a => exact List.forall_mem_singleton.mpr (beValue_pair_le a 0)
  | case3 => exact List.forall_mem_nil _

theorem words_append {first : List UInt8} (second : List UInt8) (heven : 2 ∣ first.length) :
    words (first ++ second) = words first ++ words second := by
  induction first using words.induct with
  | case1 a b rest ih =>
      have heven' : 2 ∣ rest.length := by
        rw [List.length_cons, List.length_cons] at heven
        omega
      rw [List.cons_append, List.cons_append, words, words, ih heven', List.cons_append]
  | case2 a =>
      rw [List.length_singleton] at heven
      omega
  | case3 => rfl

theorem words_word (x : UInt16) : words x.toBeBytes.toList = [x.toNat] := by
  have hvalue := UInt16.beValue_toBeBytes x
  generalize x.toBeBytes = octets at hvalue ⊢
  obtain ⟨octets, hlength⟩ := octets
  obtain ⟨a, b, rfl⟩ := List.length_eq_two.mp hlength
  rw [← hvalue]
  rfl

end OnesComplement
