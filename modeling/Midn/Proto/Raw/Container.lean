import Midn.Proto.Elements
import Midn.Proto.Raw.Per

/-!
# Element containers with checked accesses

The wrapper, the container and the values that the S1AP and NGAP decoders have in common, read
without faults from every byte string. Of the elements, each variable of a decoder is assigned by
those of its id.
-/

namespace Midn.Container.Raw

open Checked Midn.Per Midn.Per.Raw Midn.Per.Raw.CheckedRead

variable {α β : Type}

/-! ## Lists and values -/

def readList (read : CheckedRead α) : CheckedRead (List α) := do
  let count ← readLengthDeterminant
  readMany read count

/-- Read a value from its beginning. -/
def parse (read : CheckedRead α) (value : List UInt8) : Checked (Option α) := do
  let (found, _) ← exec read (.new value)
  pure found

section Reads

variable {read : CheckedRead α} {total : PerRead α} {found : α → Prop} {least most : Nat}
  (hreads : Reads read total found least most)
include hreads

/-- No list has more than 16383 items. -/
theorem reads_readList (hleast : 0 < least) :
    Reads (readList read) (Container.readList total) (fun _ => True) 1 (23 + 16383 * most) := by
  have hitems : ∀ count, count < 16384 → Reads (readMany read count)
      (Tape.readMany total count) (fun _ => True) 0 (16383 * most) := by
    intro count hcount
    have hmost : count * most ≤ 16383 * most := Nat.mul_le_mul_right most (by omega)
    exact (hreads.readMany hleast count).mono (fun _ _ => trivial) (le_refl _) hmost
  exact reads_lengthDeterminant.bind hitems

/-- From the beginning of a value there is room for everything that fits in a word. -/
theorem parse_eq_ok (hmost : most < 2 ^ 64) (value : List UInt8) :
    parse read value = .ok (Container.parse total value) := by
  have hroom : (PerReader.new value).bitPos + most < 2 ^ 64 := by
    change 0 + most < 2 ^ 64
    omega
  obtain ⟨res, r', hexec, htotal, _, _⟩ := hreads (.new value) hroom
  rw [Raw.parse, hexec, ok_bind, Container.parse, htotal, Option.map_map]
  exact congrArg Except.ok Option.map_id'.symm

end Reads

/-! ## Entries and the wrapper -/

def readIeEntry : CheckedRead IeEntry := do
  let id ← readConstrainedInt 0 protocolIeIdMax
  let criticality ← readConstrainedInt 0 2
  let value ← readOctetString
  pure ⟨.ofNat id, .ofNat criticality, value⟩

def readIeContainer : CheckedRead (List IeEntry) := readList readIeEntry

def readPduWrapper : CheckedRead (Nat × UInt32 × UInt8 × List UInt8) := do
  let choice ← readConstrainedInt 0 2
  let procedureCode ← readConstrainedInt 0 procedureCodeMax
  let criticality ← readConstrainedInt 0 2
  let value ← readOctetString
  pure (choice, .ofNat procedureCode, .ofNat criticality, value)

def decodePduWrapper (buf : List UInt8) : Checked (Option (Nat × UInt32 × UInt8 × List UInt8)) :=
  parse readPduWrapper buf

/-- Every element of a container takes something up. -/
theorem reads_readIeEntry :
    Reads readIeEntry Container.readIeEntry (fun _ => True) 3 (142 + octetStringMost) := by
  have hall := (reads_upTo (by decide) (by decide : protocolIeIdMax < 2 ^ 64 - 1)).bind fun id _ =>
    (reads_upTo (by decide) (by decide : 2 < 2 ^ 64 - 1)).bind fun criticality _ =>
      reads_readOctetString.bind fun value _ =>
        reads_pure (⟨.ofNat id, .ofNat criticality, value⟩ : IeEntry)
  exact hall.mono (fun _ h => h) (by decide) (by decide)

theorem parse_readIeContainer (value : List UInt8) :
    parse readIeContainer value = .ok (Container.parse Container.readIeContainer value) :=
  parse_eq_ok (reads_readList reads_readIeEntry (by decide)) (by decide) value

theorem decodePduWrapper_eq_ok (buf : List UInt8) :
    decodePduWrapper buf = .ok (Container.decodePduWrapper buf) := by
  have hall := (reads_upTo (by decide) (by decide : 2 < 2 ^ 64 - 1)).bind fun choice _ =>
    (reads_upTo (by decide) (by decide : procedureCodeMax < 2 ^ 64 - 1)).bind fun code _ =>
      (reads_upTo (by decide) (by decide : 2 < 2 ^ 64 - 1)).bind fun criticality _ =>
        reads_readOctetString.bind fun value _ =>
          reads_pure (choice, UInt32.ofNat code, UInt8.ofNat criticality, value)
  exact parse_eq_ok hall (by decide) buf

/-! ## Known numbers and bit rates -/

/-- A number that has to be one of those that are known. -/
def readKnown (max : Nat) (known : Nat → Option α) : CheckedRead α := do
  let v ← readConstrainedInt 0 max
  match known v with
  | some a => pure a
  | none => failure

theorem reads_readKnown {max : Nat} (hpos : 0 < max) (hmax : max < 2 ^ 64 - 1)
    {known : Nat → Option α} {next : Nat → PerRead α}
    (hsome : ∀ v a, known v = some a → next v = pure a)
    (hnone : ∀ v, known v = none → next v = failure) :
    Reads (readKnown max known) (PerReader.readConstrainedInt 0 max >>= next)
      (fun _ => True) 1 71 := by
  have hknown : ∀ v, Reads
      (match known v with
        | some a => (pure a : CheckedRead α)
        | none => failure) (next v) (fun _ => True) 0 0 := by
    intro v
    cases hv : known v with
    | none =>
        rw [hnone v hv]
        exact (reads_failure 0).mono (fun _ _ => trivial) (le_refl _) (le_refl _)
    | some a =>
        rw [hsome v a hv]
        exact reads_pure a
  exact (reads_upTo hpos hmax).bind fun v _ => hknown v

/-- The second rate is read also when the first one is not there. -/
def readBitRates (max : Nat) : CheckedRead (UInt64 × UInt64) :=
  OptionT.mk fun r => do
    let (dl, r) ← exec (readConstrainedInt 0 max) r
    let (ul, r) ← exec (readConstrainedInt 0 max) r
    pure (dl.bind fun dl => ul.map fun ul => (.ofNat dl, .ofNat ul), r)

theorem reads_readBitRates {max : Nat} (hpos : 0 < max) (hmax : max < 2 ^ 64 - 1) :
    Reads (readBitRates max) (Container.readBitRates max) (fun _ => True) 2 142 := by
  intro r hroom
  obtain ⟨dl, r₁, hdl, hdlTotal, hdlBound, hdlSome⟩ := reads_upTo hpos hmax r (by omega)
  obtain ⟨ul, r₂, hul, hulTotal, hulBound, hulSome⟩ := reads_upTo hpos hmax r₁ (by omega)
  refine ⟨dl.bind fun dl => ul.map fun ul => (.ofNat dl, .ofNat ul), r₂, ?_, ?_, by omega, ?_⟩
  · have hrun : exec (readBitRates max) r = exec (readConstrainedInt 0 max) r >>= fun dl =>
        exec (readConstrainedInt 0 max) dl.2 >>= fun ul =>
          .ok (dl.1.bind fun dl => ul.1.map fun ul => (.ofNat dl, .ofNat ul), ul.2) := rfl
    rw [hrun, hdl, ok_bind, hul, ok_bind]
  · rw [Container.readBitRates, StateT.run_bind, hdlTotal]
    cases dl with
    | none => rfl
    | some dl =>
        rw [Option.map_some, Option.bind_eq_bind, Option.bind_some, StateT.run_bind, hulTotal]
        cases ul <;> rfl
  · intro rates hrates
    obtain ⟨dl', hdl', hrest⟩ := Option.bind_eq_some_iff.mp hrates
    obtain ⟨ul', hul', _⟩ := Option.map_eq_some_iff.mp hrest
    have hfirst := (hdlSome dl' hdl').2
    have hsecond := (hulSome ul' hul').2
    exact ⟨trivial, by omega⟩

/-! ## Variables -/

def assignedBy (step : β → List UInt8 → Checked β) (init : β) (entries : List IeEntry)
    (id : UInt32) : Checked β :=
  entries.foldlM (fun var entry => if entry.id = id then step var entry.value else pure var) init

def assigned (read : CheckedRead α) : List IeEntry → UInt32 → Checked (Option α) :=
  assignedBy (fun _ value => parse read value) none

def assignedIfRead (read : CheckedRead α) (init : β) (found : α → β) :
    List IeEntry → UInt32 → Checked β :=
  assignedBy (fun var value => do
    let read ← parse read value
    pure ((read.map found).getD var)) init

theorem assignedBy_eq_ok {step : β → List UInt8 → Checked β} {next : β → List UInt8 → β}
    (hstep : ∀ var value, step var value = .ok (next var value)) (init : β)
    (entries : List IeEntry) (id : UInt32) :
    assignedBy step init entries id = .ok (Container.assignedBy next init entries id) := by
  apply foldlM_eq_ok
  intro var entry _
  by_cases hid : entry.id = id
  · rw [if_pos hid, if_pos hid, hstep]
  · rw [if_neg hid, if_neg hid, pure_eq_ok]

section Assigned

variable {read : CheckedRead α} {total : PerRead α} {found : α → Prop} {least most : Nat}
  (hreads : Reads read total found least most) (hmost : most < 2 ^ 64)
include hreads hmost

theorem assigned_eq_ok (entries : List IeEntry) (id : UInt32) :
    assigned read entries id = .ok (Container.assigned total entries id) :=
  assignedBy_eq_ok (fun _ value => parse_eq_ok hreads hmost value) none entries id

theorem assignedIfRead_eq_ok (init : β) (found : α → β) (entries : List IeEntry) (id : UInt32) :
    assignedIfRead read init found entries id =
      .ok (Container.assignedIfRead total init found entries id) := by
  apply assignedBy_eq_ok
  intro var value
  rw [parse_eq_ok hreads hmost, ok_bind, pure_eq_ok]

end Assigned

/-! ## Decoding a PDU -/

/-- Unwrap a PDU, read its elements, and decode the procedure that they belong to. -/
def decodePdu (malformed : String → ProtoError)
    (decodeProcedure : Nat → UInt32 → List IeEntry → Checked (Except ProtoError α))
    (buf : List UInt8) : Checked (Except ProtoError α) := do
  match ← decodePduWrapper buf with
  | none => pure (.error (malformed "failed to decode PDU wrapper"))
  | some (choice, procCode, _, value) =>
      match ← parse readIeContainer value with
      | none => pure (.error (malformed "failed to decode IE container"))
      | some entries => decodeProcedure choice procCode entries

theorem decodePdu_eq_ok {malformed : String → ProtoError}
    {decodeProcedure : Nat → UInt32 → List IeEntry → Checked (Except ProtoError α)}
    {total : Nat → UInt32 → List IeEntry → Except ProtoError α}
    (hprocedure : ∀ choice procCode entries,
      decodeProcedure choice procCode entries = .ok (total choice procCode entries))
    (buf : List UInt8) :
    decodePdu malformed decodeProcedure buf = .ok (do
      let (choice, procCode, _, value) ←
        okOr (Container.decodePduWrapper buf) (malformed "failed to decode PDU wrapper")
      let entries ← okOr (Container.parse Container.readIeContainer value)
        (malformed "failed to decode IE container")
      total choice procCode entries) := by
  rw [decodePdu, decodePduWrapper_eq_ok, ok_bind]
  cases Container.decodePduWrapper buf with
  | none => rfl
  | some wrapper =>
      obtain ⟨choice, procCode, criticality, value⟩ := wrapper
      have hparse := parse_readIeContainer value
      change _ = Except.ok (okOr (Container.parse Container.readIeContainer value)
        (malformed "failed to decode IE container") >>= total choice procCode)
      cases hentries : Container.parse Container.readIeContainer value with
      | none =>
          rw [hentries] at hparse
          simp only [hparse, ok_bind]
          rfl
      | some entries =>
          rw [hentries] at hparse
          simp only [hparse, ok_bind, hprocedure]
          rfl

end Midn.Container.Raw
