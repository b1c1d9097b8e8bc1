import Mathlib.Init

/-!
# Protocol errors

The unified error type of the wire codecs.
-/

namespace Midn

/-- Why a codec refused its input. -/
inductive ProtoError where
  | tooShort (expected got : Nat)
  | invalidGtpVersion (version : UInt8)
  | unknownGtpMsgType (msgType : UInt8)
  | malformedNas (reason : String)
  | malformedS1ap (reason : String)
  | malformedNgap (reason : String)
  | malformedNas5gs (reason : String)
deriving DecidableEq, Repr

section Except

variable {ε α β : Type}

/-- A value that has to be there. -/
def okOr (var : Option α) (error : ε) : Except ε α :=
  match var with
  | some a => .ok a
  | none => .error error

theorem okOr_eq_ok_iff {var : Option α} {error : ε} {a : α} :
    okOr var error = .ok a ↔ var = some a := by
  cases var with
  | none => exact iff_of_false (fun herror => by cases herror) (fun hnone => by cases hnone)
  | some b => rw [okOr, Except.ok.injEq, Option.some.injEq]

theorem bind_eq_ok_iff {x : Except ε α} {f : α → Except ε β} {b : β} :
    (x >>= f) = .ok b ↔ ∃ a, x = .ok a ∧ f a = .ok b := by
  cases x with
  | error err => exact iff_of_false (fun hbind => by cases hbind) (by rintro ⟨_, ⟨⟩, _⟩)
  | ok a =>
      constructor
      · intro hbind
        exact ⟨a, rfl, hbind⟩
      · rintro ⟨_, ⟨⟩, hrest⟩
        exact hrest

end Except

end Midn
