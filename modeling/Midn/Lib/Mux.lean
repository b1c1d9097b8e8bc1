import Mathlib.Data.List.Basic

/-!
# Shared channels

Many parties put what they send into one channel, and whoever takes it out can tell from each item
whose it is. Each party then has a channel of its own within the shared one, in which its messages
keep their order whatever the others do.
-/

namespace Mux

variable {ω ι μ : Type} (read : ω → Option (ι × μ))

section Decodes

variable {ε : Type} (decode : ω → Except ε μ)

/-- The items are decoded to the messages, in order. -/
def Decodes (channel : List ω) (msgs : List μ) : Prop := channel.map decode = msgs.map .ok

variable {decode} {channel more : List ω} {msgs msgs' : List μ} {item : ω} {m : μ}

theorem decodes_singleton (hdecode : decode item = .ok m) : Decodes decode [item] [m] := by
  rw [Decodes, List.map_singleton, List.map_singleton, hdecode]

theorem Decodes.append (hdecodes : Decodes decode channel msgs)
    (hmore : Decodes decode more msgs') : Decodes decode (channel ++ more) (msgs ++ msgs') := by
  rw [Decodes, List.map_append, List.map_append, hdecodes, hmore]

theorem Decodes.exists_cons (hdecodes : Decodes decode (item :: channel) msgs) :
    ∃ m rest, decode item = .ok m ∧ msgs = m :: rest ∧ Decodes decode channel rest := by
  cases msgs with
  | nil => cases hdecodes
  | cons m rest =>
      obtain ⟨hitem, hrest⟩ := List.cons_eq_cons.mp hdecodes
      exact ⟨m, rest, hitem, rfl, hrest⟩

theorem Decodes.length_eq (hdecodes : Decodes decode channel msgs) :
    channel.length = msgs.length := by
  have hlength := congrArg List.length hdecodes
  rwa [List.length_map, List.length_map] at hlength

end Decodes

/-- Every item is a message of some party. -/
def Addressed (channel : List ω) : Prop := ∀ item ∈ channel, ∃ i m, read item = some (i, m)

/-- The items are the messages of one party, in order. -/
def Carries (i : ι) (channel : List ω) (msgs : List μ) : Prop :=
  channel.map read = msgs.map fun m => some (i, m)

section Carries

variable {read} {i : ι} {channel : List ω} {msgs : List μ} {item : ω}

/-- The first item and the rest. -/
theorem Carries.exists_cons (hcarries : Carries read i (item :: channel) msgs) :
    ∃ m rest, read item = some (i, m) ∧ msgs = m :: rest ∧ Carries read i channel rest := by
  cases msgs with
  | nil => cases hcarries
  | cons m rest =>
      obtain ⟨hitem, hrest⟩ := List.cons_eq_cons.mp hcarries
      exact ⟨m, rest, hitem, rfl, hrest⟩

theorem Carries.exists_read (hcarries : Carries read i channel msgs) :
    ∀ item ∈ channel, ∃ m, read item = some (i, m) := by
  induction channel generalizing msgs with
  | nil => exact List.forall_mem_nil _
  | cons item channel ih =>
      obtain ⟨m, rest, hitem, -, hrest⟩ := hcarries.exists_cons
      exact List.forall_mem_cons.mpr ⟨⟨m, hitem⟩, ih hrest⟩

theorem Carries.addressed (hcarries : Carries read i channel msgs) : Addressed read channel :=
  fun item hmem => ⟨i, hcarries.exists_read item hmem⟩

theorem Carries.append {more : List ω} {msgs' : List μ} (hcarries : Carries read i channel msgs)
    (hmore : Carries read i more msgs') : Carries read i (channel ++ more) (msgs ++ msgs') := by
  rw [Carries, List.map_append, List.map_append, hcarries, hmore]

end Carries

variable [DecidableEq ι]

/-- The messages of one party in a channel, in order. -/
def view (i : ι) (channel : List ω) : List μ :=
  channel.filterMap fun item => (read item).bind fun m => if m.1 = i then some m.2 else none

variable {read} {i j : ι} {channel more : List ω} {msgs : List μ} {item : ω} {m : μ}

@[simp] theorem view_nil : view read i [] = [] := rfl

theorem view_append : view read i (channel ++ more) = view read i channel ++ view read i more :=
  List.filterMap_append

theorem view_cons_self (hitem : read item = some (i, m)) :
    view read i (item :: channel) = m :: view read i channel := by
  rw [view, List.filterMap_cons, hitem]
  simp only [Option.bind_some, if_true, view]

theorem view_cons_of_ne (hitem : read item = some (i, m)) (hne : j ≠ i) :
    view read j (item :: channel) = view read j channel := by
  rw [view, List.filterMap_cons, hitem]
  simp only [Option.bind_some, hne.symm, if_false, view]

/-- A party sees exactly its own messages. -/
theorem Carries.view_self (hcarries : Carries read i channel msgs) :
    view read i channel = msgs := by
  induction channel generalizing msgs with
  | nil => exact (List.map_eq_nil_iff.mp hcarries.symm).symm
  | cons item channel ih =>
      obtain ⟨m, rest, hitem, rfl, hrest⟩ := hcarries.exists_cons
      rw [view_cons_self hitem, ih hrest]

/-- It does not see those of the others. -/
theorem Carries.view_of_ne (hcarries : Carries read i channel msgs) (hne : j ≠ i) :
    view read j channel = [] := by
  induction channel generalizing msgs with
  | nil => rfl
  | cons item channel ih =>
      obtain ⟨m, rest, hitem, -, hrest⟩ := hcarries.exists_cons
      rw [view_cons_of_ne hitem hne, ih hrest]

end Mux
