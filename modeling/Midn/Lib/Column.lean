import Mathlib.Data.List.Induction
import Mathlib.Data.Set.Card

/-!
# Dense columns over a liveness vector

A column stores one cell for every slot of a shared liveness vector, and its type says so: the
number of cells follows the vector, and the cell of a dead slot is always the empty value. The
operations are those of a slot allocator: writing a live slot, appending a fresh one, reviving
a dead one and retiring a live one.
-/

/-- One cell for each slot, empty in dead slots. -/
structure Column (live : List Bool) {α : Type} (empty : α) where
  cells : List α
  length_cells : cells.length = live.length
  dead_cell : ∀ i : Nat, live[i]? = some false → cells[i]? = some empty

namespace Column

variable {live : List Bool} {α : Type} {empty : α}

/-- The column of no slots. -/
def nil (empty : α) : Column [] empty := ⟨[], rfl, by simp⟩

/-- The cell of a slot in range. -/
def get (c : Column live empty) (i : Nat) (hi : i < live.length) : α :=
  c.cells.get ⟨i, c.length_cells ▸ hi⟩

/-- Overwrite the cell of a live slot. -/
def write (c : Column live empty) (i : Nat) (hi : live[i]? = some true) (a : α) :
    Column live empty where
  cells := c.cells.set i a
  length_cells := by rw [List.length_set, c.length_cells]
  dead_cell := by
    intro j hj
    have hne : i ≠ j := by
      rintro rfl
      rw [hi] at hj
      cases hj
    rw [List.getElem?_set_ne hne, c.dead_cell j hj]

/-- Append an empty cell for a fresh live slot. -/
def push (c : Column live empty) : Column (live ++ [true]) empty where
  cells := c.cells ++ [empty]
  length_cells := by simp [c.length_cells]
  dead_cell := by
    intro i hi
    rcases Nat.lt_or_ge i live.length with hlt | hge
    · rw [List.getElem?_append_left hlt] at hi
      rw [List.getElem?_append_left (c.length_cells ▸ hlt)]
      exact c.dead_cell i hi
    · rw [List.getElem?_append_right hge] at hi
      simp [List.getElem?_singleton] at hi

/-- Mark a slot live without touching its cell. -/
def revive (c : Column live empty) (i : Nat) : Column (live.set i true) empty where
  cells := c.cells
  length_cells := by rw [List.length_set, c.length_cells]
  dead_cell := by
    intro j hj
    rw [List.getElem?_set] at hj
    split at hj
    · split at hj <;> cases hj
    · exact c.dead_cell j hj

/-- Mark a slot dead and empty its cell. -/
def retire (c : Column live empty) (i : Nat) : Column (live.set i false) empty where
  cells := c.cells.set i empty
  length_cells := by rw [List.length_set, List.length_set, c.length_cells]
  dead_cell := by
    intro j hj
    rw [List.getElem?_set] at hj ⊢
    split at hj
    · rename_i hij
      have hlt : j < live.length := by
        by_contra hge
        rw [hij, if_neg hge] at hj
        cases hj
      rw [if_pos hij, hij, if_pos (c.length_cells ▸ hlt)]
    · rename_i hij
      rw [if_neg hij]
      exact c.dead_cell j hj

theorem get_write_self (c : Column live empty) {i : Nat} (hi : live[i]? = some true) (a : α)
    (hlt : i < live.length) : (c.write i hi a).get i hlt = a := by
  simp only [get, write, List.get_eq_getElem, List.getElem_set_self]

theorem get_write_of_ne (c : Column live empty) {i j : Nat} (hi : live[i]? = some true) (a : α)
    (hne : i ≠ j) (hlt : j < live.length) : (c.write i hi a).get j hlt = c.get j hlt := by
  simp only [get, write, List.get_eq_getElem, List.getElem_set_ne hne]

theorem getElem?_cells (c : Column live empty) {i : Nat} (hlt : i < live.length) :
    c.cells[i]? = some (c.get i hlt) :=
  List.getElem?_eq_getElem (c.length_cells ▸ hlt)

/-- Setting a cell to what it holds changes nothing. -/
theorem set_get_self (c : Column live empty) {i : Nat} (hlt : i < live.length) :
    c.cells.set i (c.get i hlt) = c.cells := by
  simp only [get, List.get_eq_getElem, List.set_getElem_self]

/-- Modifying a cell sets it to what is made of what it holds. -/
theorem modify_eq_set_get (c : Column live empty) (f : α → α) {i : Nat} (hlt : i < live.length) :
    c.cells.modify i f = c.cells.set i (f (c.get i hlt)) := by
  have hcell : i < c.cells.length := c.length_cells ▸ hlt
  rw [get, List.get_eq_getElem, List.modify_eq_set_get f hcell]
  rfl

/-- Writing back what a cell holds changes nothing. -/
theorem write_get_self (c : Column live empty) {i : Nat} (hi : live[i]? = some true)
    (hlt : i < live.length) : c.write i hi (c.get i hlt) = c := by
  have hcells := c.set_get_self hlt
  cases c with
  | mk cells hlength hdead => simp only [write, hcells]

theorem get_push_of_lt (c : Column live empty) (j : Nat) (hj : j < live.length)
    (hj' : j < (live ++ [true]).length) : c.push.get j hj' = c.get j hj := by
  simp only [get, push, List.get_eq_getElem]
  exact List.getElem_append_left (c.length_cells ▸ hj)

theorem get_push_last (c : Column live empty) (hj : live.length < (live ++ [true]).length) :
    c.push.get live.length hj = empty := by
  simp only [get, push, List.get_eq_getElem, ← c.length_cells, List.getElem_concat_length]

theorem get_retire_of_ne (c : Column live empty) {i j : Nat} (hne : i ≠ j)
    (hj : j < (live.set i false).length) :
    (c.retire i).get j hj = c.get j (by rwa [List.length_set] at hj) := by
  simp only [get, retire, List.get_eq_getElem, List.getElem_set_ne hne]

/-- A dead slot reads as empty. -/
theorem get_of_dead (c : Column live empty) {i : Nat} (hdead : live[i]? = some false)
    (hi : i < live.length) : c.get i hi = empty := by
  have hcell := c.dead_cell i hdead
  rw [List.getElem?_eq_getElem (c.length_cells ▸ hi)] at hcell
  exact Option.some.inj hcell

/-! ## Counting live slots -/

theorem getElem?_concat_eq_some {α : Type} {l : List α} {a b : α} {i : Nat} :
    (l ++ [a])[i]? = some b ↔ l[i]? = some b ∨ i = l.length ∧ a = b := by
  rcases Nat.lt_trichotomy i l.length with hlt | rfl | hgt
  · rw [List.getElem?_append_left hlt]
    simp [Nat.ne_of_lt hlt]
  · rw [List.getElem?_concat_length, List.getElem?_eq_none (le_refl _)]
    simp
  · rw [List.getElem?_eq_none (by rw [List.length_append]; exact hgt),
      List.getElem?_eq_none (Nat.le_of_lt hgt)]
    simp [Nat.ne_of_gt hgt]

/-- The live slots are as many as the liveness vector counts. -/
theorem count_true_eq_ncard (live : List Bool) :
    live.count true = Set.ncard {i : Nat | live[i]? = some true} := by
  induction live using List.reverseRecOn with
  | nil => simp
  | append_singleton live b ih =>
      have hfresh : live.length ∉ {i : Nat | live[i]? = some true} := by simp
      have hfinite : {i : Nat | live[i]? = some true}.Finite :=
        (Set.finite_lt_nat live.length).subset fun i hi => (List.getElem?_eq_some_iff.mp hi).1
      simp only [List.count_append, ih, getElem?_concat_eq_some]
      cases b with
      | false => simp
      | true =>
          have hcells : {i : Nat | live[i]? = some true ∨ i = live.length} =
              insert live.length {i : Nat | live[i]? = some true} := by
            ext i
            exact or_comm
          simp only [and_true]
          rw [hcells, Set.ncard_insert_of_notMem hfresh hfinite]
          rfl

end Column
