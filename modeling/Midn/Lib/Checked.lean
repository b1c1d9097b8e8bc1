import Midn.Lib.Octets

/-!
# Checked execution

The operations that can stop a program, each with the fault it stops with: indexing and slicing,
copies between slices, unwrapping, arithmetic in machine words, and loops whose rounds have to use
something up. A computation that is known to be without faults can be replaced by its value.
-/

/-- What a program is stopped by. -/
inductive Fault where
  | index
  | slice
  | copy
  | unwrap
  | overflow
  /-- a round of a loop that has used nothing up -/
  | stalled
deriving DecidableEq

abbrev Checked (α : Type) := Except Fault α

namespace Checked

variable {α β σ : Type}

@[simp] theorem ok_bind (a : α) (f : α → Checked β) :
    ((Except.ok a : Checked α) >>= f) = f a := rfl

@[simp] theorem pure_eq_ok (a : α) : (pure a : Checked α) = .ok a := rfl

/-! ## Slices -/

/-- The bytes of a slice, of which no more than half of the address space can be one. -/
structure ByteSlice where
  bytes : List UInt8
  length_lt : bytes.length < 2 ^ 63

def index (s : List α) (i : Nat) : Checked α :=
  match s[i]? with
  | some a => .ok a
  | none => .error .index

def slice (s : List α) (lo hi : Nat) : Checked (List α) :=
  if lo ≤ hi ∧ hi ≤ s.length then .ok ((s.drop lo).take (hi - lo)) else .error .slice

def sliceFrom (s : List α) (lo : Nat) : Checked (List α) :=
  if lo ≤ s.length then .ok (s.drop lo) else .error .slice

theorem index_eq_ok {s : List α} {i : Nat} (hi : i < s.length) : index s i = .ok s[i] := by
  rw [index, List.getElem?_eq_getElem hi]

@[simp] theorem index_cons_zero (a : α) (s : List α) : index (a :: s) 0 = .ok a := rfl

@[simp] theorem index_cons_succ (a : α) (s : List α) (i : Nat) :
    index (a :: s) (i + 1) = index s i := by
  rw [index, index, List.getElem?_cons_succ]

theorem slice_eq_ok {s : List α} {lo hi : Nat} (hle : lo ≤ hi) (hhi : hi ≤ s.length) :
    slice s lo hi = .ok ((s.drop lo).take (hi - lo)) :=
  if_pos ⟨hle, hhi⟩

theorem sliceFrom_eq_ok {s : List α} {lo : Nat} (hlo : lo ≤ s.length) :
    sliceFrom s lo = .ok (s.drop lo) :=
  if_pos hlo

@[simp] theorem sliceFrom_zero (s : List α) : sliceFrom s 0 = .ok s :=
  sliceFrom_eq_ok (Nat.zero_le _)

@[simp] theorem sliceFrom_cons_succ (a : α) (s : List α) (lo : Nat) :
    sliceFrom (a :: s) (lo + 1) = sliceFrom s lo := by
  rw [sliceFrom, sliceFrom, List.length_cons, List.drop_succ_cons]
  simp only [Nat.add_le_add_iff_right]

/-- A slice that is taken apart behind its first element. -/
theorem head_bind_rest (a : α) (s : List α) (next : α → List α → Checked β) :
    (index (a :: s) 0 >>= fun head => sliceFrom (a :: s) 1 >>= next head) = next a s := by
  rw [index_cons_zero, ok_bind, sliceFrom_cons_succ, sliceFrom_zero, ok_bind]

theorem not_length_lt_two (a b : α) (s : List α) : ¬ (a :: b :: s).length < 2 := by
  rw [List.length_cons, List.length_cons]
  omega

@[simp] theorem slice_cons_succ (a : α) (s : List α) (lo hi : Nat) :
    slice (a :: s) (lo + 1) (hi + 1) = slice s lo hi := by
  rw [slice, slice, List.length_cons, List.drop_succ_cons, Nat.add_sub_add_right]
  simp only [Nat.add_le_add_iff_right]

/-! ## Arrays -/

/-- Copy a slice over the whole of an array. -/
def copyFromSlice (n : Nat) (s : List UInt8) : Checked (Octets n) :=
  match Octets.ofSlice? n s with
  | some a => .ok a
  | none => .error .copy

/-- Copy a slice over a part of an array. -/
def copyInto {n : Nat} (a : Octets n) (lo hi : Nat) (s : List UInt8) : Checked (Octets n) :=
  if hfit : (lo ≤ hi ∧ hi ≤ n) ∧ s.length = hi - lo then
    .ok ⟨a.toList.take lo ++ (s ++ a.toList.drop hi), by
      rw [List.length_append, List.length_append, List.length_take, List.length_drop,
        Octets.length_toList]
      omega⟩
  else if lo ≤ hi ∧ hi ≤ n then .error .copy
  else .error .slice

/-- Store a byte in an array. -/
def store {n : Nat} (a : Octets n) (i : Nat) (b : UInt8) : Checked (Octets n) :=
  if hi : i < n then .ok (a.set ⟨i, hi⟩ b) else .error .index

def unwrap (var : Option α) : Checked α :=
  match var with
  | some a => .ok a
  | none => .error .unwrap

@[simp] theorem unwrap_some (a : α) : unwrap (some a) = .ok a := rfl

theorem copyFromSlice_eq_ok {n : Nat} {s : List UInt8} (hlength : s.length = n) :
    copyFromSlice n s = .ok ⟨s, hlength⟩ := by
  rw [copyFromSlice, Octets.ofSlice?, dif_pos hlength]

/-- A conversion behind a check of the length. -/
theorem unwrap_of_length {n : Nat} {s : List UInt8} {refused : Checked β}
    {next : Octets n → Checked β} :
    (if s.length ≠ n then refused else unwrap (Octets.ofSlice? n s) >>= next) =
      (Octets.ofSlice? n s).elim refused next := by
  by_cases hlength : s.length = n
  · rw [if_neg (not_not_intro hlength), Octets.ofSlice?, dif_pos hlength]
    rfl
  · rw [if_pos hlength, Octets.ofSlice?, dif_neg hlength]
    rfl

/-- A copy behind a check of the length. -/
theorem copy_of_length {n : Nat} {s : List UInt8} {next : Octets n → Checked β}
    {other : Checked β} :
    (if s.length = n then copyFromSlice n s >>= next else other) =
      (Octets.ofSlice? n s).elim other next := by
  by_cases hlength : s.length = n
  · rw [if_pos hlength, copyFromSlice, Octets.ofSlice?, dif_pos hlength]
    rfl
  · rw [if_neg hlength, Octets.ofSlice?, dif_neg hlength]
    rfl

/-- What a copy leaves in the array. -/
theorem copyInto_eq_ok {n lo hi : Nat} (a : Octets n) {s : List UInt8} (hle : lo ≤ hi)
    (hhi : hi ≤ n) (hlength : s.length = hi - lo) :
    ∃ a' : Octets n, copyInto a lo hi s = .ok a' ∧
      a'.toList = a.toList.take lo ++ (s ++ a.toList.drop hi) :=
  ⟨_, dif_pos ⟨⟨hle, hhi⟩, hlength⟩, rfl⟩

theorem store_eq_ok {n i : Nat} (a : Octets n) (b : UInt8) (hi : i < n) :
    store a i b = .ok (a.set ⟨i, hi⟩ b) :=
  dif_pos hi

/-! ## Machine words -/

/-- Addition of words of the given width. -/
def add (width a b : Nat) : Checked Nat :=
  if a + b < 2 ^ width then .ok (a + b) else .error .overflow

def mul (width a b : Nat) : Checked Nat :=
  if a * b < 2 ^ width then .ok (a * b) else .error .overflow

def sub (a b : Nat) : Checked Nat := if b ≤ a then .ok (a - b) else .error .overflow

/-- A shift by the whole width or more is a fault, but bits may be shifted out. -/
def shiftLeft (width a k : Nat) : Checked Nat :=
  if k < width then .ok ((a <<< k) % 2 ^ width) else .error .overflow

def shiftRight (width a k : Nat) : Checked Nat :=
  if k < width then .ok (a >>> k) else .error .overflow

section Words

variable {width a b k : Nat}

theorem add_eq_ok (hfit : a + b < 2 ^ width) : add width a b = .ok (a + b) := if_pos hfit

theorem mul_eq_ok (hfit : a * b < 2 ^ width) : mul width a b = .ok (a * b) := if_pos hfit

theorem sub_eq_ok (hle : b ≤ a) : sub a b = .ok (a - b) := if_pos hle

theorem shiftLeft_eq_ok (hk : k < width) : shiftLeft width a k = .ok ((a <<< k) % 2 ^ width) :=
  if_pos hk

theorem shiftRight_eq_ok (hk : k < width) : shiftRight width a k = .ok (a >>> k) := if_pos hk

end Words

/-! ## Loops -/

/-- How a round of a loop ends. -/
inductive Round (σ β : Type) where
  | more (s : σ)
  | done (b : β)

/-- Rounds until one is the last; each of the others has to leave less than there was. -/
def whileLoop (left : σ → Nat) (round : σ → Checked (Round σ β)) (s : σ) : Checked β :=
  match round s with
  | .error fault => .error fault
  | .ok (.done b) => .ok b
  | .ok (.more s') =>
      if left s' < left s then whileLoop left round s' else .error .stalled
termination_by left s

/-- A loop has a value that its rounds keep, if they are without faults and use something up. -/
theorem whileLoop_eq_ok {left : σ → Nat} {round : σ → Checked (Round σ β)} (value : σ → β)
    (hround : ∀ s, round s = .ok (.done (value s)) ∨
      ∃ s', round s = .ok (.more s') ∧ left s' < left s ∧ value s' = value s) (s : σ) :
    whileLoop left round s = .ok (value s) := by
  induction hleft : left s using Nat.strong_induction_on generalizing s with
  | _ n ih =>
      rw [whileLoop]
      rcases hround s with hdone | ⟨s', hmore, hless, hvalue⟩
      · rw [hdone]
      · simp only [hmore, if_pos hless]
        rw [ih (left s') (hleft ▸ hless) s' rfl, hvalue]

/-- Every element of a list in its turn. -/
theorem foldlM_eq_ok {step : β → α → Checked β} {next : β → α → β} {items : List α}
    (hstep : ∀ b, ∀ a ∈ items, step b a = .ok (next b a)) (b : β) :
    items.foldlM step b = .ok (items.foldl next b) := by
  induction items generalizing b with
  | nil => rfl
  | cons a items ih =>
      rw [List.foldlM_cons, hstep b a List.mem_cons_self, ok_bind, List.foldl_cons]
      exact ih (fun b a hmem => hstep b a (List.mem_cons_of_mem _ hmem)) _

end Checked
