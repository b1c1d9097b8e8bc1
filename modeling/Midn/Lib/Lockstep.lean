import Mathlib.Algebra.GroupWithZero.Nat
import Mathlib.Algebra.BigOperators.Group.List.Basic
import Mathlib.Data.List.Infix

/-!
# Writers and readers in lock step

A writer appends symbols to its output, and a reader moves a position over its input; either may
fail. Three laws relate them: a reader undoes a writer, a writer grows its output from one length to
another, and a reader that has succeeded has passed over room enough for a writer. Each law of a
sequence of fields follows from the laws of the fields.
-/

/-- The symbols behind the states of a writer and of a reader. -/
structure Tape (ω ρ β : Type) where
  out : ω → List β
  input : ρ → List β
  pos : ρ → Nat

namespace Tape

variable {ω ρ β α γ : Type}

/-! ## Readers -/

/-- Read one item after the other. -/
def readAll : List (StateT ρ Option α) → StateT ρ Option (List α)
  | [] => pure []
  | get :: gets => do
      let a ← get
      let rest ← readAll gets
      pure (a :: rest)

/-- Read a number of items of one kind. -/
def readMany (get : StateT ρ Option α) (n : Nat) : StateT ρ Option (List α) :=
  readAll (List.replicate n get)

theorem run_bind_eq_some {get : StateT ρ Option α} {f : α → StateT ρ Option γ} {r r' : ρ} {c : γ} :
    (get >>= f).run r = some (c, r') ↔
      ∃ a r₁, get.run r = some (a, r₁) ∧ (f a).run r₁ = some (c, r') := by
  rw [StateT.run_bind, Option.bind_eq_bind, Option.bind_eq_some_iff, Prod.exists]

theorem run_map_eq_some {get : StateT ρ Option α} {f : α → γ} {r r' : ρ} {c : γ} :
    (f <$> get).run r = some (c, r') ↔ ∃ a, get.run r = some (a, r') ∧ f a = c := by
  rw [StateT.run_map, Option.map_eq_map, Option.map_eq_some_iff, Prod.exists]
  constructor
  · rintro ⟨a, r₁, hget, hpair⟩
    cases hpair
    exact ⟨a, hget, rfl⟩
  · rintro ⟨a, hget, rfl⟩
    exact ⟨a, r', hget, rfl⟩

theorem run_pure_eq_some {a c : α} {r r' : ρ} :
    (pure a : StateT ρ Option α).run r = some (c, r') ↔ a = c ∧ r = r' := by
  rw [StateT.run_pure, Option.pure_def, Option.some.injEq, Prod.mk.injEq]

/-- Every item of a list has been read somewhere. -/
theorem exists_run_of_mem_readMany {get : StateT ρ Option α} {n : Nat} {items : List α} {r r' : ρ}
    (hread : (readMany get n).run r = some (items, r')) :
    ∀ a ∈ items, ∃ r₁ r₂, get.run r₁ = some (a, r₂) := by
  induction n generalizing items r with
  | zero =>
      obtain ⟨rfl, -⟩ := run_pure_eq_some.mp hread
      exact fun a hmem => absurd hmem List.not_mem_nil
  | succ n ih =>
      rw [readMany, List.replicate_succ, readAll] at hread
      obtain ⟨a, r₁, hget, hread⟩ := run_bind_eq_some.mp hread
      obtain ⟨rest, r₂, hrest, hread⟩ := run_bind_eq_some.mp hread
      obtain ⟨rfl, rfl⟩ := run_pure_eq_some.mp hread
      intro b hmem
      rcases List.mem_cons.mp hmem with hfirst | hlater
      · rw [hfirst]
        exact ⟨r, r₁, hget⟩
      · exact ih hrest b hlater

variable (T : Tape ω ρ β)

/-! ## Undoing a writer -/

/-- Whatever the writer appends, a reader that stands where the writer stood reads the value, and
stops where the writer stopped. -/
def Undoes (put : ω → Option ω) (get : StateT ρ Option α) (a : α) : Prop :=
  ∀ w w', put w = some w' →
    T.out w <+: T.out w' ∧
      ∀ r, T.pos r = (T.out w).length → T.out w' <+: T.input r →
        ∃ r', get.run r = some (a, r') ∧ T.input r' = T.input r ∧
          T.pos r' = (T.out w').length

namespace Undoes

variable {T}

theorem pure (a : α) : T.Undoes some (pure a) a := by
  intro w w' hput
  cases hput
  exact ⟨List.prefix_rfl, fun r hpos _ => ⟨r, rfl, rfl, hpos⟩⟩

theorem map {put : ω → Option ω} {get : StateT ρ Option α} {a : α} (hundoes : T.Undoes put get a)
    (f : α → γ) : T.Undoes put (f <$> get) (f a) := by
  intro w w' hput
  obtain ⟨hextends, hreads⟩ := hundoes w w' hput
  refine ⟨hextends, fun r hpos hahead => ?_⟩
  obtain ⟨r', hget, hinput, hstop⟩ := hreads r hpos hahead
  exact ⟨r', run_map_eq_some.mpr ⟨a, hget, rfl⟩, hinput, hstop⟩

/-- Two fields that are written one after the other are read one after the other. -/
theorem bind {put₁ put₂ : ω → Option ω} {get₁ : StateT ρ Option α} {a : α} {c : γ}
    (hfirst : T.Undoes put₁ get₁ a) (get₂ : α → StateT ρ Option γ)
    (hsecond : T.Undoes put₂ (get₂ a) c) :
    T.Undoes (fun w => put₁ w >>= put₂) (get₁ >>= get₂) c := by
  intro w w' hput
  obtain ⟨w₁, hput₁, hput₂⟩ := Option.bind_eq_some_iff.mp hput
  obtain ⟨hextends₁, hreads₁⟩ := hfirst w w₁ hput₁
  obtain ⟨hextends₂, hreads₂⟩ := hsecond w₁ w' hput₂
  refine ⟨hextends₁.trans hextends₂, fun r hpos hahead => ?_⟩
  obtain ⟨r₁, hget₁, hinput₁, hpos₁⟩ := hreads₁ r hpos (hextends₂.trans hahead)
  obtain ⟨r', hget₂, hinput₂, hstop⟩ := hreads₂ r₁ hpos₁ (hinput₁ ▸ hahead)
  exact ⟨r', run_bind_eq_some.mpr ⟨a, r₁, hget₁, hget₂⟩, hinput₂.trans hinput₁, hstop⟩

/-- What is made of a field once it has been read is read with it. -/
theorem bind_of_eq_pure {put : ω → Option ω} {get : StateT ρ Option α} {a : α} {c : γ}
    (hundoes : T.Undoes put get a) {f : α → StateT ρ Option γ} (hf : f a = Pure.pure c) :
    T.Undoes put (get >>= f) c := by
  intro w w' hput
  obtain ⟨hextends, hreads⟩ := hundoes w w' hput
  refine ⟨hextends, fun r hpos hahead => ?_⟩
  obtain ⟨r', hget, hinput, hstop⟩ := hreads r hpos hahead
  have hpure : (f a).run r' = some (c, r') := by
    rw [hf]
    rfl
  exact ⟨r', run_bind_eq_some.mpr ⟨a, r', hget, hpure⟩, hinput, hstop⟩

theorem bind_pure {put : ω → Option ω} {get : StateT ρ Option α} {a : α}
    (hundoes : T.Undoes put get a) (f : α → γ) :
    T.Undoes put (get >>= fun a => Pure.pure (f a)) (f a) :=
  hundoes.bind_of_eq_pure rfl

/-- Items that are written one by one are read one by one. -/
theorem foldlM {ι : Type} {put : ω → ι → Option ω} {get : ι → StateT ρ Option α} {val : ι → α}
    {items : List ι} (hundoes : ∀ i ∈ items, T.Undoes (put · i) (get i) (val i)) :
    T.Undoes (fun w => items.foldlM put w) (readAll (items.map get)) (items.map val) := by
  induction items with
  | nil => exact pure []
  | cons i items ih =>
      simp only [List.foldlM_cons, List.map_cons, readAll]
      refine bind (hundoes i List.mem_cons_self) _ ?_
      exact (ih fun j hmem => hundoes j (List.mem_cons_of_mem i hmem)).map (val i :: ·)

/-- Items of one kind are read by their number. -/
theorem many {put : ω → α → Option ω} {get : StateT ρ Option α} {items : List α}
    (hundoes : ∀ a ∈ items, T.Undoes (put · a) get a) :
    T.Undoes (fun w => items.foldlM put w) (readMany get items.length) items := by
  have hall : T.Undoes (fun w => items.foldlM put w) (readAll (items.map fun _ => get))
      (items.map id) := foldlM hundoes
  rwa [List.map_const', List.map_id] at hall

end Undoes

/-! ## Growing the output -/

/-- The writer succeeds from one length of its output and leaves another. -/
def Grows (put : ω → Option ω) (p q : Nat) : Prop :=
  ∀ w, (T.out w).length = p → ∃ w', put w = some w' ∧ (T.out w').length = q

namespace Grows

variable {T}

theorem bind {put₁ put₂ : ω → Option ω} {p q s : Nat} (hfirst : T.Grows put₁ p q)
    (hsecond : T.Grows put₂ q s) : T.Grows (fun w => put₁ w >>= put₂) p s := by
  intro w hw
  obtain ⟨w₁, hput₁, hw₁⟩ := hfirst w hw
  obtain ⟨w', hput₂, hw'⟩ := hsecond w₁ hw₁
  exact ⟨w', Option.bind_eq_some_iff.mpr ⟨w₁, hput₁, hput₂⟩, hw'⟩

/-- Items that grow the output by their sizes grow it by the sum of the sizes, when each leaves the
writer where the next can start. -/
theorem foldlM {put : ω → α → Option ω} {items : List α} {size : α → Nat} {start : Nat → Prop}
    (hgrows : ∀ a ∈ items, ∀ p, start p → T.Grows (put · a) p (p + size a) ∧ start (p + size a))
    {p : Nat} (hp : start p) :
    T.Grows (fun w => items.foldlM put w) p (p + (items.map size).sum) := by
  induction items generalizing p with
  | nil => exact fun w hw => ⟨w, rfl, hw⟩
  | cons a items ih =>
      obtain ⟨hfirst, hstart⟩ := hgrows a List.mem_cons_self p hp
      have hrest := ih (fun b hmem => hgrows b (List.mem_cons_of_mem a hmem)) hstart
      simp only [List.foldlM_cons, List.map_cons, List.sum_cons, ← Nat.add_assoc]
      exact hfirst.bind hrest

end Grows

/-! ## Covering a writer -/

/-- Between two states of a reader there is room for what the writer appends. -/
structure Covers (put : ω → Option ω) (r r' : ρ) : Prop where
  input : T.input r' = T.input r
  inside : T.pos r ≤ (T.input r).length → T.pos r' ≤ (T.input r').length
  room : ∀ w, (T.out w).length ≤ T.pos r →
    ∃ w', put w = some w' ∧ (T.out w').length ≤ T.pos r'

namespace Covers

variable {T}

theorem refl (r : ρ) : T.Covers some r r := ⟨rfl, id, fun w hw => ⟨w, rfl, hw⟩⟩

theorem trans {put₁ put₂ : ω → Option ω} {r r₁ r' : ρ} (hfirst : T.Covers put₁ r r₁)
    (hsecond : T.Covers put₂ r₁ r') : T.Covers (fun w => put₁ w >>= put₂) r r' := by
  refine ⟨hsecond.input.trans hfirst.input, fun h => hsecond.inside (hfirst.inside h), ?_⟩
  intro w hw
  obtain ⟨w₁, hput₁, hw₁⟩ := hfirst.room w hw
  obtain ⟨w', hput₂, hw'⟩ := hsecond.room w₁ hw₁
  exact ⟨w', Option.bind_eq_some_iff.mpr ⟨w₁, hput₁, hput₂⟩, hw'⟩

/-- Room for a writer is room for one that never writes more. -/
theorem of_le {put put' : ω → Option ω} {r r' : ρ} (hcovers : T.Covers put r r')
    (hless : ∀ w w₁, put w = some w₁ →
      ∃ w₂, put' w = some w₂ ∧ (T.out w₂).length ≤ (T.out w₁).length) : T.Covers put' r r' := by
  refine ⟨hcovers.input, hcovers.inside, fun w hw => ?_⟩
  obtain ⟨w₁, hput, hstop⟩ := hcovers.room w hw
  obtain ⟨w₂, hput', hle⟩ := hless w w₁ hput
  exact ⟨w₂, hput', hle.trans hstop⟩

/-- Reading items one by one passes over room for all of them. -/
theorem many {put : ω → α → Option ω} {get : StateT ρ Option α}
    (hcovers : ∀ r a r', get.run r = some (a, r') → T.Covers (put · a) r r') {n : Nat}
    {items : List α} {r r' : ρ} (hread : (readMany get n).run r = some (items, r')) :
    T.Covers (fun w => items.foldlM put w) r r' ∧ items.length = n := by
  induction n generalizing items r with
  | zero =>
      obtain ⟨rfl, rfl⟩ := run_pure_eq_some.mp hread
      exact ⟨refl r, rfl⟩
  | succ n ih =>
      rw [readMany, List.replicate_succ, readAll] at hread
      obtain ⟨a, r₁, hget, hread⟩ := run_bind_eq_some.mp hread
      obtain ⟨rest, r₂, hrest, hread⟩ := run_bind_eq_some.mp hread
      obtain ⟨rfl, rfl⟩ := run_pure_eq_some.mp hread
      obtain ⟨hcover, hlength⟩ := ih hrest
      simp only [List.foldlM_cons, List.length_cons, hlength]
      exact ⟨(hcovers r a r₁ hget).trans hcover, trivial⟩

end Covers

end Tape
