import Mathlib.Data.List.Basic

/-!
# Delivery in order

A sender numbers its messages from zero and a receiver keeps the number it expects next. When it
accepts no number below that one and moves past every number it accepts, the messages it has
accepted are a subsequence of those sent: in order, and none twice.
-/

namespace Delivery

variable {α : Type} {sent accepted : List α} {next : Nat}

/-- The accepted messages come in order from those numbered below the one expected next. -/
structure InOrder (sent accepted : List α) (next : Nat) : Prop where
  below : accepted.Sublist (sent.take next)
  bound : next ≤ sent.length

theorem InOrder.nil : InOrder ([] : List α) [] 0 := ⟨List.Sublist.refl [], Nat.le_refl 0⟩

/-- Sending one more message changes nothing below the expected number. -/
theorem InOrder.send (horder : InOrder sent accepted next) (m : α) :
    InOrder (sent ++ [m]) accepted next := by
  refine ⟨?_, ?_⟩
  · rw [List.take_append_of_le_length horder.bound]
    exact horder.below
  · rw [List.length_append]
    exact Nat.le_add_right_of_le horder.bound

/-- Accepting a message that was sent under a number not yet passed. -/
theorem InOrder.accept (horder : InOrder sent accepted next) {k : Nat} {m : α} (hnext : next ≤ k)
    (hsent : sent[k]? = some m) : InOrder sent (accepted ++ [m]) (k + 1) := by
  obtain ⟨hlt, hget⟩ := List.getElem?_eq_some_iff.mp hsent
  refine ⟨?_, hlt⟩
  have hbelow : accepted.Sublist (sent.take k) :=
    horder.below.trans (List.take_sublist_take_left hnext)
  rw [List.take_add_one, hsent, Option.toList_some]
  exact hbelow.append (List.Sublist.refl [m])

/-- Everything accepted was sent, in this order and once. -/
theorem InOrder.sublist (horder : InOrder sent accepted next) : accepted.Sublist sent :=
  horder.below.trans (List.take_sublist next sent)

end Delivery
