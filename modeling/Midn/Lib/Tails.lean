import Mathlib.Data.List.Basic
import Mathlib.Data.List.Induction
import Mathlib.Data.Set.Defs

/-!
# Strings read from their end

A tail is taken off a string without knowing where it begins, if no tail of its kind ends in
another. So padding is taken off, and so are strings that are each followed by their length: they
are read one by one, the last one first.
-/

namespace Tails

variable {α ι : Type}

/-- No two tails of a kind end alike as far as the shorter one goes. -/
def SuffixFree (kind : Set ι) (tail : ι → List α) : Prop :=
  ∀ i ∈ kind, ∀ j ∈ kind, tail i <:+ tail j → i = j

/-- Different tails of one length do not end in each other. -/
theorem suffixFree_of_length {kind : Set ι} {tail : ι → List α} {width : Nat}
    (hwidth : ∀ i, (tail i).length = width)
    (hinj : ∀ i ∈ kind, ∀ j ∈ kind, tail i = tail j → i = j) : SuffixFree kind tail := by
  intro i hi j hj hsuffix
  apply hinj i hi j hj
  exact hsuffix.eq_of_length ((hwidth i).trans (hwidth j).symm)

/-- A string with its tail determines both. -/
theorem SuffixFree.append_inj {kind : Set ι} {tail : ι → List α} (hfree : SuffixFree kind tail)
    {a b : List α} {i j : ι} (hi : i ∈ kind) (hj : j ∈ kind)
    (hsame : a ++ tail i = b ++ tail j) : a = b ∧ i = j := by
  have hleft : tail i <:+ b ++ tail j := hsame ▸ List.suffix_append a (tail i)
  have hright : tail j <:+ b ++ tail j := List.suffix_append b (tail j)
  have hindex : i = j := by
    rcases List.suffix_or_suffix_of_suffix hleft hright with hsuffix | hsuffix
    · exact hfree i hi j hj hsuffix
    · exact (hfree j hj i hi hsuffix).symm
  subst hindex
  exact ⟨List.append_cancel_right hsame, rfl⟩

/-! ## Strings followed by their lengths -/

variable (code : Nat → List α)

/-- Each string, and then the code of its length. -/
def withLengths (strings : List (List α)) : List α :=
  strings.flatMap fun s => s ++ code s.length

variable {code}

theorem withLengths_cons (s : List α) (strings : List (List α)) :
    withLengths code (s :: strings) = s ++ (code s.length ++ withLengths code strings) := by
  rw [withLengths, List.flatMap_cons, List.append_assoc, ← withLengths]

theorem withLengths_concat (strings : List (List α)) (s : List α) :
    withLengths code (strings ++ [s]) = withLengths code strings ++ s ++ code s.length := by
  rw [withLengths, List.flatMap_append, List.flatMap_singleton, ← List.append_assoc,
    ← withLengths]

/-- The strings are told from the end, if the codes are and none of them is empty. -/
theorem withLengths_inj {lengths : Set Nat} (hfree : SuffixFree lengths code)
    (hcode : ∀ n, code n ≠ []) {strings strings' : List (List α)}
    (hstrings : ∀ s ∈ strings, s.length ∈ lengths) (hstrings' : ∀ s ∈ strings', s.length ∈ lengths)
    (hsame : withLengths code strings = withLengths code strings') : strings = strings' := by
  have hempty : ∀ (strings : List (List α)) (s : List α),
      withLengths code (strings ++ [s]) ≠ [] := by
    intro strings s hnil
    rw [withLengths_concat, List.append_eq_nil_iff] at hnil
    exact hcode s.length hnil.2
  -- the last string and its length go off both sides
  induction strings using List.reverseRecOn generalizing strings' with
  | nil =>
      rcases List.eq_nil_or_concat' strings' with rfl | ⟨before', s', rfl⟩
      · rfl
      · exact absurd hsame.symm (hempty before' s')
  | append_singleton before s ih =>
      rcases List.eq_nil_or_concat' strings' with rfl | ⟨before', s', rfl⟩
      · exact absurd hsame (hempty before s)
      · rw [withLengths_concat, withLengths_concat] at hsame
        have hlast : s.length ∈ lengths :=
          hstrings s (List.mem_append_right _ (List.mem_singleton_self s))
        have hlast' : s'.length ∈ lengths :=
          hstrings' s' (List.mem_append_right _ (List.mem_singleton_self s'))
        obtain ⟨hfront, hlength⟩ := hfree.append_inj hlast hlast' hsame
        obtain ⟨hbefore, rfl⟩ := List.append_inj' hfront hlength
        have hrest := ih (fun s hmem => hstrings s (List.mem_append_left _ hmem))
          (fun s hmem => hstrings' s (List.mem_append_left _ hmem)) hbefore
        rw [hrest]

/-- Strings of the same lengths are told apart whatever the code is. -/
theorem withLengths_inj_of_lengths {strings strings' : List (List α)}
    (hlengths : strings.map List.length = strings'.map List.length)
    (hsame : withLengths code strings = withLengths code strings') : strings = strings' := by
  induction strings generalizing strings' with
  | nil => exact (List.map_eq_nil_iff.mp hlengths.symm).symm
  | cons s strings ih =>
      cases strings' with
      | nil => cases hlengths
      | cons s' strings' =>
          obtain ⟨hlength, hrest⟩ := List.cons.inj hlengths
          rw [withLengths_cons, withLengths_cons] at hsame
          obtain ⟨rfl, hsame⟩ := List.append_inj hsame hlength
          rw [ih hrest (List.append_cancel_left hsame)]

/-- A first string of any length is told apart, if the lengths after it are given and the codes all
have one length. -/
theorem withLengths_cons_inj {width : Nat} (hwidth : ∀ n, (code n).length = width)
    {s s' : List α} {strings strings' : List (List α)}
    (hlengths : strings.map List.length = strings'.map List.length)
    (hsame : withLengths code (s :: strings) = withLengths code (s' :: strings')) :
    s = s' ∧ strings = strings' := by
  have hrest : (withLengths code strings).length = (withLengths code strings').length := by
    simp only [withLengths, List.length_flatMap, List.length_append, hwidth]
    have hsums := congrArg (fun ns => (ns.map (· + width)).sum) hlengths
    simpa only [List.map_map, Function.comp_def] using hsums
  rw [withLengths_cons, withLengths_cons, ← List.append_assoc, ← List.append_assoc] at hsame
  obtain ⟨hfirst, hlater⟩ := List.append_inj' hsame hrest
  have hcodes : (code s.length).length = (code s'.length).length :=
    (hwidth s.length).trans (hwidth s'.length).symm
  exact ⟨(List.append_inj' hfirst hcodes).1, withLengths_inj_of_lengths hlengths hlater⟩

end Tails
