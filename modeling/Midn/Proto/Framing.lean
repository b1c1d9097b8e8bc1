import Midn.Proto.Slots

/-!
# Framing of PDUs

The frame of a PDU is the choice and the procedure code of its wrapper. A decoder that looks at
the choice of some procedures only accepts the others in any frame.
-/

namespace Midn.Container

open Midn.Per

variable {μ : Type}

/-- The choice and the procedure code of a PDU. -/
def pduFrame (buf : List UInt8) : Option (Nat × UInt32) :=
  (decodePduWrapper buf).map fun (choice, procCode, _, _) => (choice, procCode)

theorem pduFrame_of_containerOf {buf : List UInt8} {choice : Nat} {procCode : UInt32}
    {entries : List IeEntry} (hcontainer : containerOf buf = some (choice, procCode, entries)) :
    pduFrame buf = some (choice, procCode) := by
  obtain ⟨criticality, value, hwrapper, -⟩ := containerOf_eq_some_iff.mp hcontainer
  rw [pduFrame, hwrapper]
  rfl

/-- An encoder leaves its choice and its procedure code in the wrapper. -/
theorem pduFrame_of_encodePdu {choice : Nat} {procedureCode : UInt32} {criticality : UInt8}
    {ies : List Ie} {bytes : List UInt8}
    (hput : (encodePdu choice procedureCode criticality ies).map (Except.ok (ε := ProtoError)) =
      some (.ok bytes)) :
    pduFrame bytes = some (choice, procedureCode) := by
  rw [map_ok_eq_some_iff] at hput
  obtain ⟨value, entries, hwrapper, -⟩ := decode_encodePdu hput
  rw [pduFrame, hwrapper]
  rfl

/-- Every element that the slots are assigned from is there, and the last of its id can be
read. -/
def Readable (slots : List (Slot μ)) (entries : List IeEntry) : Prop :=
  ∀ slot ∈ slots, (assigned slot.read entries slot.id).isSome

/-- Octets that hold a PDU of one of the procedures with all its elements hold it in an initiating
message. -/
def InitiatesOnly (procedures : List UInt32) (slots : Nat → UInt32 → List (Slot μ))
    (buf : List UInt8) : Prop :=
  ∀ choice procCode entries, containerOf buf = some (choice, procCode, entries) →
    procCode ∈ procedures → Readable (slots choice procCode) entries →
    choice = pduChoiceInitiatingMessage

/-- A decoder whose messages have a frame of their own accepts exactly these frames, if it accepts
initiating messages only where it does not look at the choice. -/
theorem frame_exact_iff {decode : List UInt8 → Except ProtoError μ}
    {decodeProcedure : Nat → UInt32 → List IeEntry → Except ProtoError μ}
    {frame : μ → Option (Nat × UInt32)} {procedures : List UInt32}
    {slots : Nat → UInt32 → List (Slot μ)}
    (hdecode : ∀ {buf msg}, decode buf = .ok msg ↔ ∃ choice procCode entries,
      containerOf buf = some (choice, procCode, entries) ∧
        decodeProcedure choice procCode entries = .ok msg)
    (hexact : ∀ {choice procCode entries msg}, procCode ∉ procedures →
      decodeProcedure choice procCode entries = .ok msg → frame msg = some (choice, procCode))
    (hinitiating : ∀ {choice procCode entries msg}, procCode ∈ procedures →
      decodeProcedure choice procCode entries = .ok msg →
        frame msg = some (pduChoiceInitiatingMessage, procCode))
    (hreadable : ∀ {choice procCode entries}, procCode ∈ procedures →
      ((∃ msg, decodeProcedure choice procCode entries = .ok msg) ↔
        Readable (slots choice procCode) entries))
    (buf : List UInt8) :
    (∀ msg, decode buf = .ok msg → pduFrame buf = frame msg) ↔
      InitiatesOnly procedures slots buf := by
  constructor
  · intro hframed choice procCode entries hcontainer hprocedure hread
    obtain ⟨msg, hmsg⟩ := (hreadable hprocedure).mpr hread
    have hsame := hframed msg (hdecode.mpr ⟨choice, procCode, entries, hcontainer, hmsg⟩)
    rw [pduFrame_of_containerOf hcontainer, hinitiating hprocedure hmsg] at hsame
    exact congrArg Prod.fst (Option.some.inj hsame)
  · intro honly msg hmsg
    obtain ⟨choice, procCode, entries, hcontainer, hmsg⟩ := hdecode.mp hmsg
    rw [pduFrame_of_containerOf hcontainer]
    by_cases hprocedure : procCode ∈ procedures
    · have hread := (hreadable hprocedure).mp ⟨msg, hmsg⟩
      rw [hinitiating hprocedure hmsg, honly choice procCode entries hcontainer hprocedure hread]
    · exact (hexact hprocedure hmsg).symm

end Midn.Container
