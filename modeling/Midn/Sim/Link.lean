import Mathlib.Data.List.Infix

/-!
# The association of the simulators

Both simulators carry their control plane over one association. As long as it holds, it hands over
what is sent in each direction completely and in order. It can be lost at any time: what has
arrived by then can still be taken, and nothing that is sent afterwards arrives. An end notices
after it has taken what has arrived, or when it sends something; until then it goes on.
-/

namespace Midn.Sim

/-- How an end is told that the association is gone. -/
inductive LinkEnding where
  | lost
  | closed
deriving DecidableEq

namespace Link

/-- A direction of the association after a send. -/
def put (up : Bool) (channel octets : List (List UInt8)) : List (List UInt8) :=
  if up then channel ++ octets else channel

/-- Nothing is asked of an association that is gone. -/
theorem of_gone {up : Bool} {p : Prop} (hgone : up = false) : up = true → p := by
  intro hup
  cases hgone.symm.trans hup

section Put

variable {channel octets : List (List UInt8)} {up : Bool}

@[simp] theorem put_true : put true channel octets = channel ++ octets := rfl

@[simp] theorem put_false : put false channel octets = channel := rfl

theorem prefix_put : channel <+: put up channel octets := by
  cases up with
  | true => exact List.prefix_append _ _
  | false => exact List.prefix_refl _

end Put

end Link

end Midn.Sim
