import Mathlib.Logic.Function.Basic
import Mathlib.Order.Basic

/-!
# Indexes

Four ways in which a partial map follows another. A reverse index leads from the values of a map
back to a key that has them; two indexes of the same records store each record under two keys of
its own; a resolver finds the record of each holder under an address that holders may share; an
exact index finds, under the addresses of the records held and no others, one of those records.
Each rule says when an update keeps the two maps together.
-/

namespace Index

/-! ## Reverse indexes -/

section Reverse

variable {κ ι : Type} {index : ι → Option κ} {value : κ → Option ι}

/-- What the index leads to has the value it was looked up under. -/
def Sound (index : ι → Option κ) (value : κ → Option ι) : Prop :=
  ∀ i k, index i = some k → value k = some i

/-- Every value that is there is found. -/
def Complete (index : ι → Option κ) (value : κ → Option ι) : Prop :=
  ∀ k i, value k = some i → (index i).isSome = true

variable [DecidableEq κ] {i : ι} {k : κ}

/-- Giving a key a value without telling the index is sound exactly when the index does not lead
to the key under another value. -/
theorem sound_rekey_iff (hsound : Sound index value) :
    Sound index (Function.update value k (some i)) ↔ ∀ j, index j = some k → j = i := by
  constructor
  · intro hafter j hindex
    have hvalue := hafter _ _ hindex
    rw [Function.update_self] at hvalue
    exact (Option.some.inj hvalue).symm
  · intro hother j k' hindex
    rcases eq_or_ne k' k with rfl | hne
    · rw [Function.update_self, hother j hindex]
    · rw [Function.update_of_ne hne]
      exact hsound _ _ hindex

variable [DecidableEq ι]

/-- Giving a key a value and entering it is sound under the same condition. -/
theorem sound_assign_iff (hsound : Sound index value) :
    Sound (Function.update index i (some k)) (Function.update value k (some i)) ↔
      ∀ j, index j = some k → j = i := by
  constructor
  · intro hafter j hindex
    by_contra hne
    have hvalue := hafter _ _ ((Function.update_of_ne hne _ _).trans hindex)
    rw [Function.update_self] at hvalue
    exact hne (Option.some.inj hvalue).symm
  · intro hother j k' hindex
    rcases eq_or_ne j i with rfl | hne
    · rw [Function.update_self] at hindex
      cases hindex
      exact Function.update_self ..
    · rw [Function.update_of_ne hne] at hindex
      exact (sound_rekey_iff hsound).mpr hother _ _ hindex

theorem complete_assign (hcomplete : Complete index value) :
    Complete (Function.update index i (some k)) (Function.update value k (some i)) := by
  intro k' j hvalue
  rcases eq_or_ne j i with rfl | hne
  · rw [Function.update_self, Option.isSome_some]
  · rw [Function.update_of_ne hne]
    rcases eq_or_ne k' k with rfl | hother
    · rw [Function.update_self] at hvalue
      exact absurd (Option.some.inj hvalue).symm hne
    · rw [Function.update_of_ne hother] at hvalue
      exact hcomplete _ _ hvalue

/-- Withdrawing a key and the entry of its value keeps the index sound. -/
theorem sound_withdraw (hsound : Sound index value) (hvalue : value k = some i) :
    Sound (Function.update index i none) (Function.update value k none) := by
  intro j k' hindex
  rcases eq_or_ne j i with rfl | hne
  · rw [Function.update_self] at hindex
    cases hindex
  · rw [Function.update_of_ne hne] at hindex
    have hold := hsound _ _ hindex
    have hother : k' ≠ k := by
      rintro rfl
      exact hne (Option.some.inj (hold.symm.trans hvalue))
    rw [Function.update_of_ne hother, hold]

/-- It keeps the index complete exactly when no other key has the value. -/
theorem complete_withdraw_iff (hcomplete : Complete index value) :
    Complete (Function.update index i none) (Function.update value k none) ↔
      ∀ k', value k' = some i → k' = k := by
  constructor
  · intro hafter k' hvalue
    by_contra hne
    have hfound := hafter _ _ ((Function.update_of_ne hne _ _).trans hvalue)
    rw [Function.update_self] at hfound
    cases hfound
  · intro honly k' j hvalue
    rcases eq_or_ne k' k with rfl | hne
    · rw [Function.update_self] at hvalue
      cases hvalue
    · rw [Function.update_of_ne hne] at hvalue
      have hother : j ≠ i := by
        rintro rfl
        exact hne (honly k' hvalue)
      rw [Function.update_of_ne hother]
      exact hcomplete _ _ hvalue

end Reverse

/-! ## Two indexes of the same records -/

section Paired

variable {κ ι ρ : Type} {owner : ρ → κ} {key : ρ → ι} {left : κ → Option ρ} {right : ι → Option ρ}

/-- The records found under their owners are those found under their keys. -/
def Paired (owner : ρ → κ) (key : ρ → ι) (left : κ → Option ρ) (right : ι → Option ρ) : Prop :=
  ∀ r, left (owner r) = some r ↔ right (key r) = some r

variable [DecidableEq κ]

/-- Rewriting a record on one side alone keeps them together only if it does not change. -/
theorem paired_rewrite_left_iff (hpaired : Paired owner key left right) {old new : ρ}
    (hold : left (owner old) = some old) (howner : owner new = owner old)
    (hkey : key new = key old) :
    Paired owner key (Function.update left (owner old) (some new)) right ↔ new = old := by
  constructor
  · intro hafter
    have hnew := (hafter new).mp (by rw [howner, Function.update_self])
    rw [hkey, (hpaired old).mp hold] at hnew
    exact (Option.some.inj hnew).symm
  · rintro rfl
    rw [← hold, Function.update_eq_self]
    exact hpaired

variable [DecidableEq ι]

/-- Storing a record on both sides keeps them together exactly when it replaces the same records
on both. -/
theorem paired_store_iff (hpaired : Paired owner key left right) (r : ρ) :
    Paired owner key (Function.update left (owner r) (some r))
        (Function.update right (key r) (some r)) ↔
      ∀ r', left (owner r') = some r' → (owner r' = owner r ↔ key r' = key r) := by
  constructor
  · intro hafter r' hleft
    have hright := (hpaired r').mp hleft
    constructor
    · intro howner
      by_contra hkey
      have hstays := (hafter r').mpr ((Function.update_of_ne hkey _ _).trans hright)
      rw [howner, Function.update_self] at hstays
      exact hkey (congrArg key (Option.some.inj hstays).symm)
    · intro hkey
      by_contra howner
      have hstays := (hafter r').mp ((Function.update_of_ne howner _ _).trans hleft)
      rw [hkey, Function.update_self] at hstays
      exact howner (congrArg owner (Option.some.inj hstays).symm)
  · intro hreplaces r'
    by_cases howner : owner r' = owner r
    · by_cases hkey : key r' = key r
      · rw [howner, hkey, Function.update_self, Function.update_self]
      · rw [howner, Function.update_self, Function.update_of_ne hkey]
        constructor
        · intro hsame
          exact absurd (congrArg key (Option.some.inj hsame).symm) hkey
        · intro hright
          exact absurd ((hreplaces r' ((hpaired r').mpr hright)).mp howner) hkey
    · by_cases hkey : key r' = key r
      · rw [hkey, Function.update_self, Function.update_of_ne howner]
        constructor
        · intro hleft
          exact absurd ((hreplaces r' hleft).mpr hkey) howner
        · intro hsame
          exact absurd (congrArg owner (Option.some.inj hsame).symm) howner
      · rw [Function.update_of_ne howner, Function.update_of_ne hkey]
        exact hpaired r'

/-- Rewriting a record without touching its owner or its key keeps them together. -/
theorem paired_rewrite (hpaired : Paired owner key left right) {old new : ρ}
    (hold : left (owner new) = some old) (howner : owner old = owner new)
    (hkey : key old = key new) :
    Paired owner key (Function.update left (owner new) (some new))
      (Function.update right (key new) (some new)) := by
  refine (paired_store_iff hpaired new).mpr ?_
  intro r' hleft
  constructor
  · intro hsame
    rw [hsame, hold] at hleft
    rw [← Option.some.inj hleft, hkey]
  · intro hsame
    have hright := (hpaired r').mp hleft
    have hother := (hpaired old).mp (howner ▸ hold)
    rw [hsame, ← hkey, hother] at hright
    rw [← Option.some.inj hright, howner]

/-- Removing a record on both sides keeps them together. -/
theorem paired_remove (hpaired : Paired owner key left right) {r : ρ}
    (hleft : left (owner r) = some r) :
    Paired owner key (Function.update left (owner r) none)
      (Function.update right (key r) none) := by
  intro r'
  have hright := (hpaired r).mp hleft
  by_cases howner : owner r' = owner r
  · rw [howner, Function.update_self]
    constructor
    · intro hnone
      cases hnone
    · intro hright'
      by_cases hkey : key r' = key r
      · rw [hkey, Function.update_self] at hright'
        cases hright'
      · rw [Function.update_of_ne hkey] at hright'
        have hleft' := (hpaired r').mpr hright'
        rw [howner, hleft] at hleft'
        exact absurd (congrArg key (Option.some.inj hleft').symm) hkey
  · rw [Function.update_of_ne howner]
    by_cases hkey : key r' = key r
    · rw [hkey, Function.update_self]
      constructor
      · intro hleft'
        have hright' := (hpaired r').mp hleft'
        rw [hkey, hright] at hright'
        exact absurd (congrArg owner (Option.some.inj hright').symm) howner
      · intro hnone
        cases hnone
    · rw [Function.update_of_ne hkey]
      exact hpaired r'

end Paired

/-! ## Records found under shared addresses -/

section Shared

variable {κ ι ρ : Type} {address : ρ → ι} {held : κ → Option ρ} {index : ι → Option ρ}

/-- Every record that is held is the one found under its address. -/
def Resolves (address : ρ → ι) (held : κ → Option ρ) (index : ι → Option ρ) : Prop :=
  ∀ k r, held k = some r → index (address r) = some r

variable [DecidableEq κ] [DecidableEq ι]

/-- Storing a record under its address hides exactly the different records held there by others. -/
theorem resolves_store_iff (hresolves : Resolves address held index) (k : κ) (r : ρ) :
    Resolves address (Function.update held k (some r))
        (Function.update index (address r) (some r)) ↔
      ∀ k' r', k' ≠ k → held k' = some r' → address r' = address r → r' = r := by
  constructor
  · intro hafter k' r' hne hheld haddress
    have hfound := hafter k' r' ((Function.update_of_ne hne _ _).trans hheld)
    rw [haddress, Function.update_self] at hfound
    exact (Option.some.inj hfound).symm
  · intro hothers k' r' hheld
    rcases eq_or_ne k' k with rfl | hne
    · rw [Function.update_self] at hheld
      cases hheld
      exact Function.update_self ..
    · rw [Function.update_of_ne hne] at hheld
      by_cases haddress : address r' = address r
      · rw [hothers k' r' hne hheld haddress, Function.update_self]
      · rw [Function.update_of_ne haddress]
        exact hresolves k' r' hheld

/-- Clearing an address loses exactly the records held there by others. -/
theorem resolves_clear_iff (hresolves : Resolves address held index) (k : κ) (i : ι) :
    Resolves address (Function.update held k none) (Function.update index i none) ↔
      ∀ k' r', k' ≠ k → held k' = some r' → address r' ≠ i := by
  constructor
  · intro hafter k' r' hne hheld haddress
    have hfound := hafter k' r' ((Function.update_of_ne hne _ _).trans hheld)
    rw [haddress, Function.update_self] at hfound
    cases hfound
  · intro hothers k' r' hheld
    rcases eq_or_ne k' k with rfl | hne
    · rw [Function.update_self] at hheld
      cases hheld
    · rw [Function.update_of_ne hne] at hheld
      rw [Function.update_of_ne (hothers k' r' hne hheld)]
      exact hresolves k' r' hheld

end Shared

/-! ## Indexes with nothing stale and nothing missing -/

section Exact

variable {κ ι ρ : Type} {address : ρ → ι} {held : κ → Option ρ} {index : ι → Option ρ}

/-- Something is found under the addresses of the records held and under no others, and what is
found under an address is a record held with it. -/
structure Exact (address : ρ → ι) (held : κ → Option ρ) (index : ι → Option ρ) : Prop where
  found_iff : ∀ i, (index i).isSome = true ↔ ∃ k r, held k = some r ∧ address r = i
  held_of_found : ∀ i r, index i = some r → ∃ k, held k = some r ∧ address r = i

theorem Exact.exists_found (hexact : Exact address held index) {k : κ} {r : ρ}
    (hheld : held k = some r) : ∃ r', index (address r) = some r' :=
  Option.isSome_iff_exists.mp ((hexact.found_iff _).mpr ⟨k, r, hheld, rfl⟩)

/-- An index that finds records held, and finds one for each, is exact. -/
theorem Exact.of_sound_complete
    (hsound : ∀ i r, index i = some r → ∃ k, held k = some r ∧ address r = i)
    (hcomplete : ∀ k r, held k = some r → (index (address r)).isSome = true) :
    Exact address held index := by
  refine ⟨fun i => ⟨fun hfound => ?_, ?_⟩, hsound⟩
  · obtain ⟨r, hr⟩ := Option.isSome_iff_exists.mp hfound
    obtain ⟨k, hheld, haddress⟩ := hsound i r hr
    exact ⟨k, r, hheld, haddress⟩
  · rintro ⟨k, r, hheld, rfl⟩
    exact hcomplete k r hheld

variable [DecidableEq κ] [DecidableEq ι]

/-- Storing a record under its address leaves behind what was found for the record it replaces,
unless that is found at the same address or is held by another. -/
theorem exact_store_iff (hexact : Exact address held index) (k : κ) (r : ρ) :
    Exact address (Function.update held k (some r))
        (Function.update index (address r) (some r)) ↔
      ∀ old, held k = some old → address old ≠ address r →
        ∃ k', k' ≠ k ∧ held k' = index (address old) := by
  constructor
  · intro hafter old hold haddress
    obtain ⟨found, hfound⟩ := hexact.exists_found hold
    have hstale := (Function.update_of_ne haddress (some r) index).trans hfound
    obtain ⟨k', hheld, hat⟩ := hafter.held_of_found _ _ hstale
    have hne : k' ≠ k := by
      rintro rfl
      rw [Function.update_self] at hheld
      rw [← hat, ← Option.some.inj hheld] at haddress
      exact haddress rfl
    rw [Function.update_of_ne hne] at hheld
    exact ⟨k', hne, hheld.trans hfound.symm⟩
  · intro hother
    apply Exact.of_sound_complete
    · intro i found hfound
      by_cases hi : i = address r
      · rw [hi, Function.update_self] at hfound
        rw [← Option.some.inj hfound, hi]
        exact ⟨k, Function.update_self .., rfl⟩
      · rw [Function.update_of_ne hi] at hfound
        obtain ⟨k', hheld, hat⟩ := hexact.held_of_found i found hfound
        by_cases hk : k' = k
        · -- what is found was held by the replaced key: another one holds it as well
          rw [hk] at hheld
          obtain ⟨k'', hne, hheld''⟩ := hother found hheld fun hsame => hi (hat ▸ hsame)
          rw [hat, hfound] at hheld''
          exact ⟨k'', (Function.update_of_ne hne _ _).trans hheld'', hat⟩
        · exact ⟨k', (Function.update_of_ne hk _ _).trans hheld, hat⟩
    · intro k' r' hheld
      by_cases haddress : address r' = address r
      · rw [haddress, Function.update_self, Option.isSome_some]
      · rw [Function.update_of_ne haddress]
        have hne : k' ≠ k := by
          rintro rfl
          rw [Function.update_self] at hheld
          exact haddress (congrArg address (Option.some.inj hheld).symm)
        rw [Function.update_of_ne hne] at hheld
        exact (hexact.found_iff _).mpr ⟨k', r', hheld, rfl⟩

/-- Clearing a record and its address loses exactly what others hold at that address. -/
theorem exact_clear_iff (hexact : Exact address held index) {k : κ} {r : ρ}
    (hheld : held k = some r) :
    Exact address (Function.update held k none) (Function.update index (address r) none) ↔
      ∀ k' r', k' ≠ k → held k' = some r' → address r' ≠ address r := by
  constructor
  · intro hafter k' r' hne hheld' haddress
    have hkept := (Function.update_of_ne hne none held).trans hheld'
    obtain ⟨found, hfound⟩ := hafter.exists_found hkept
    rw [haddress, Function.update_self] at hfound
    cases hfound
  · intro hothers
    apply Exact.of_sound_complete
    · intro i found hfound
      by_cases hi : i = address r
      · rw [hi, Function.update_self] at hfound
        cases hfound
      · rw [Function.update_of_ne hi] at hfound
        obtain ⟨k', hheld', hat⟩ := hexact.held_of_found i found hfound
        have hne : k' ≠ k := by
          rintro rfl
          rw [hheld] at hheld'
          exact hi (hat.symm.trans (congrArg address (Option.some.inj hheld').symm))
        exact ⟨k', (Function.update_of_ne hne _ _).trans hheld', hat⟩
    · intro k' r' hheld'
      have hne : k' ≠ k := by
        rintro rfl
        rw [Function.update_self] at hheld'
        cases hheld'
      rw [Function.update_of_ne hne] at hheld'
      rw [Function.update_of_ne (hothers k' r' hne hheld')]
      exact (hexact.found_iff _).mpr ⟨k', r', hheld', rfl⟩

end Exact

end Index
