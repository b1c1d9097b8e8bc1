import Midn.Proto.CodeSpace
import Midn.Proto.Elements
import Midn.Proto.Slots

/-!
# Ranges of decoded numbers

The numbers of the frame that the two codecs share: the choice and the procedure code of a PDU, the
criticalities, the ids of the elements, and bit rates. Choices, criticalities and bit rates do not
use up their bits.
-/

namespace Midn.Container

open Midn.Per Midn.Per.PerReader

variable {α : Type}

/-! ## The wrapper -/

theorem wholeCodeSpace_procedureCode : WholeCodeSpace (procedureCodeMax + 1) :=
  Or.inl ⟨8, le_refl 8, rfl⟩

theorem wholeCodeSpace_protocolIeId : WholeCodeSpace (protocolIeIdMax + 1) := Or.inr ⟨2, rfl⟩

/-- A criticality is the octet of the number that was read. -/
theorem criticality_le_iff {v : Nat} {r r' : PerReader}
    (hread : (readConstrainedInt 0 2).run r = some (v, r')) :
    (UInt8.ofNat v).toNat ≤ 2 ↔ SpellsNumber 0 2 r := by
  have hlt : v < 4 := (readUpTo_eq_some (by decide) hread).1
  have hoctet : (UInt8.ofNat v).toNat = v := UInt8.toNat_ofNat_of_lt' (lt_trans hlt (by decide))
  rw [hoctet]
  exact readUpTo_le_iff (by decide) hread

/-- The choice is spelled by the first two bits of a PDU, and its criticality by the two after the
procedure code, which may be any octet. -/
theorem decodePduWrapper_inRange_iff {buf value : List UInt8} {choice : Nat} {procCode : UInt32}
    {criticality : UInt8}
    (hdecode : decodePduWrapper buf = some (choice, procCode, criticality, value)) :
    (choice ≤ 2 ∧ procCode.toNat ≤ procedureCodeMax ∧ criticality.toNat ≤ 2) ↔
      SpellsNumber 0 2 ⟨buf, 0⟩ ∧ SpellsNumber 0 2 ⟨buf, 10⟩ := by
  obtain ⟨r, hread⟩ := parse_eq_some.mp hdecode
  obtain ⟨v₁, r₁, hchoice, hread⟩ := Tape.run_bind_eq_some.mp hread
  obtain ⟨v₂, r₂, hprocCode, hread⟩ := Tape.run_bind_eq_some.mp hread
  obtain ⟨v₃, r₃, hcriticality, hread⟩ := Tape.run_bind_eq_some.mp hread
  obtain ⟨v₄, r₄, hvalue, hread⟩ := Tape.run_bind_eq_some.mp hread
  obtain ⟨hresult, -⟩ := Tape.run_pure_eq_some.mp hread
  cases hresult
  obtain rfl : r₁ = ⟨buf, 2⟩ := bitPos_of_readUpTo (by decide) hchoice
  obtain rfl : r₂ = ⟨buf, 10⟩ := bitPos_of_readUpTo (by decide) hprocCode
  have hcode : (UInt32.ofNat v₂).toNat ≤ procedureCodeMax :=
    (toNat_ofNat_le32 v₂).trans
      (readUpTo_le_of_wholeCodeSpace (by decide) hprocCode wholeCodeSpace_procedureCode)
  rw [readUpTo_le_iff (by decide) hchoice, criticality_le_iff hcriticality, PerReader.new,
    and_iff_right hcode]

/-! ## Elements -/

/-- Each element of a number of them, read from one end to the other, has the bits of a criticality
after its id. -/
def CriticalitiesSpelled : Nat → PerReader → Prop
  | 0, _ => True
  | n + 1, r =>
      SpellsNumber 0 2 { r with bitPos := constrainedEnd 0 protocolIeIdMax r.bitPos } ∧
        ∀ entry r', readIeEntry.run r = some (entry, r') → CriticalitiesSpelled n r'

/-- Every element of a container has the bits of a criticality. -/
def ElementsSpelled (value : List UInt8) : Prop :=
  ∀ count r, readLengthDeterminant.run (.new value) = some (count, r) →
    CriticalitiesSpelled count r

theorem readIeEntry_inRange_iff {entry : IeEntry} {r r' : PerReader}
    (hread : readIeEntry.run r = some (entry, r')) :
    entry.InRange ↔
      SpellsNumber 0 2 { r with bitPos := constrainedEnd 0 protocolIeIdMax r.bitPos } := by
  obtain ⟨id, r₁, hid, hread⟩ := Tape.run_bind_eq_some.mp hread
  obtain ⟨criticality, r₂, hcriticality, hread⟩ := Tape.run_bind_eq_some.mp hread
  obtain ⟨value, r₃, hvalue, hread⟩ := Tape.run_bind_eq_some.mp hread
  obtain ⟨rfl, rfl⟩ := Tape.run_pure_eq_some.mp hread
  obtain rfl := bitPos_of_readUpTo (by decide) hid
  have hidMax : (UInt32.ofNat id).toNat ≤ protocolIeIdMax :=
    (toNat_ofNat_le32 id).trans
      (readUpTo_le_of_wholeCodeSpace (by decide) hid wholeCodeSpace_protocolIeId)
  rw [← criticality_le_iff hcriticality]
  exact and_iff_right hidMax

/-- The elements that were read are in range exactly if their criticalities are spelled so. -/
theorem readMany_inRange_iff {n : Nat} {entries : List IeEntry} {r r' : PerReader}
    (hread : (Tape.readMany readIeEntry n).run r = some (entries, r')) :
    (∀ e ∈ entries, e.InRange) ↔ CriticalitiesSpelled n r := by
  induction n generalizing entries r with
  | zero =>
      obtain ⟨rfl, -⟩ := Tape.run_pure_eq_some.mp hread
      exact iff_of_true (List.forall_mem_nil _) trivial
  | succ n ih =>
      rw [Tape.readMany, List.replicate_succ, Tape.readAll] at hread
      obtain ⟨entry, r₁, hentry, hread⟩ := Tape.run_bind_eq_some.mp hread
      obtain ⟨rest, r₂, hrest, hread⟩ := Tape.run_bind_eq_some.mp hread
      obtain ⟨rfl, rfl⟩ := Tape.run_pure_eq_some.mp hread
      rw [List.forall_mem_cons, CriticalitiesSpelled, readIeEntry_inRange_iff hentry, ih hrest]
      refine and_congr_right fun _ => ⟨fun hspelled entry' r' hentry' => ?_, fun hspelled => ?_⟩
      · cases Option.some.inj (hentry.symm.trans hentry')
        exact hspelled
      · exact hspelled entry r₁ hentry

theorem readIeContainer_inRange_iff {value : List UInt8} {entries : List IeEntry}
    (hread : parse readIeContainer value = some entries) :
    (∀ e ∈ entries, e.InRange) ↔ ElementsSpelled value := by
  obtain ⟨r, hread⟩ := parse_eq_some.mp hread
  obtain ⟨count, r₁, hcount, hitems⟩ := Tape.run_bind_eq_some.mp hread
  rw [readMany_inRange_iff hitems]
  constructor
  · intro hspelled count' r' hcount'
    cases Option.some.inj (hcount.symm.trans hcount')
    exact hspelled
  · intro hspelled
    exact hspelled count r₁ hcount

/-! ## Bit rates -/

/-- The two numbers of an element spell bit rates up to the largest one. -/
def RatesSpelled (max : Nat) (value : List UInt8) : Prop :=
  SpellsNumber 0 max ⟨value, 0⟩ ∧ SpellsNumber 0 max ⟨value, constrainedEnd 0 max 0⟩

/-- A bit rate is the word of the number that was read. -/
theorem bitRate_le_iff {v max : Nat} (hmax : max < 2 ^ 64 - 1) {r r' : PerReader}
    (hread : (readConstrainedInt 0 max).run r = some (v, r')) :
    (UInt64.ofNat v).toNat ≤ max ↔ SpellsNumber 0 max r := by
  have hlt : v < 2 ^ 64 := lt_of_lt_of_le (readUpTo_eq_some hmax hread).1
    (Nat.pow_le_pow_right Nat.two_pos (constrainedWidth_le (by omega)))
  rw [UInt64.toNat_ofNat_of_lt' hlt]
  exact readUpTo_le_iff hmax hread

theorem readBitRates_inRange_iff {max : Nat} (hmax : max < 2 ^ 64 - 1) {value : List UInt8}
    {rates : UInt64 × UInt64} (hread : parse (readBitRates max) value = some rates) :
    (rates.1.toNat ≤ max ∧ rates.2.toNat ≤ max) ↔ RatesSpelled max value := by
  obtain ⟨r, hread⟩ := parse_eq_some.mp hread
  obtain ⟨dl, r₁, hdl, hread⟩ := Tape.run_bind_eq_some.mp hread
  obtain ⟨ul, r₂, hul, hread⟩ := Tape.run_bind_eq_some.mp hread
  obtain ⟨rfl, rfl⟩ := Tape.run_pure_eq_some.mp hread
  obtain rfl : r₁ = ⟨value, constrainedEnd 0 max 0⟩ := bitPos_of_readUpTo hmax hdl
  rw [bitRate_le_iff hmax hdl, bitRate_le_iff hmax hul, RatesSpelled, PerReader.new]

/-! ## What variables hold -/

/-- The last value that can be read. -/
def lastReadable (read : PerRead α) (values : List (List UInt8)) : Option (List UInt8) :=
  (values.filter fun value => (parse read value).isSome).getLast?

/-- A variable that only elements that can be read overwrite holds the last of them. -/
theorem assignedIfRead_eq_lastReadable (read : PerRead α) (entries : List IeEntry) (id : UInt32) :
    assignedIfRead read none some entries id =
      (lastReadable read (valuesOf entries id)).bind (parse read) := by
  rw [assignedIfRead, assignedBy_eq_foldl]
  induction valuesOf entries id using List.reverseRecOn with
  | nil => rfl
  | append_singleton values value ih =>
      rw [List.foldl_append, List.foldl_cons, List.foldl_nil, ih, lastReadable, lastReadable,
        List.filter_append]
      cases hparse : parse read value with
      | none =>
          rw [List.filter_cons_of_neg (by simp [hparse]), List.filter_nil, List.append_nil]
          rfl
      | some a =>
          rw [List.filter_cons_of_pos (by simp [hparse]), List.filter_nil, List.getLast?_concat,
            Option.bind_some, hparse]
          rfl

/-- The bit rates in a variable are in range exactly if the last element that can be read spells
two of them. -/
theorem bitRates_inRange_iff {max : Nat} (hmax : max < 2 ^ 64 - 1) {entries : List IeEntry}
    {id : UInt32} {rates : UInt64 × UInt64}
    (hassigned : assignedIfRead (readBitRates max) none some entries id = some rates) :
    (rates.1.toNat ≤ max ∧ rates.2.toNat ≤ max) ↔
      ∀ value ∈ lastReadable (readBitRates max) (valuesOf entries id), RatesSpelled max value := by
  rw [assignedIfRead_eq_lastReadable] at hassigned
  obtain ⟨value, hlast, hparse⟩ := Option.bind_eq_some_iff.mp hassigned
  rw [readBitRates_inRange_iff hmax hparse, hlast]
  simp only [Option.mem_some_iff, forall_eq']

/-- A number that uses up its bits is in its range in a variable. -/
theorem number_le_of_assigned {max : Nat} (hmax : max < 2 ^ 64 - 1)
    (hwhole : WholeCodeSpace (max + 1)) {cast : Nat → α} {toNat : α → Nat}
    (hle : ∀ v, toNat (cast v) ≤ v) {entries : List IeEntry} {id : UInt32} {a : α}
    (hassigned : assigned (cast <$> readConstrainedInt 0 max) entries id = some a) :
    toNat a ≤ max := by
  obtain ⟨e, _, _, hparse⟩ := assigned_eq_some hassigned
  obtain ⟨r, hread⟩ := parse_eq_some.mp hparse
  obtain ⟨v, hnumber, rfl⟩ := Tape.run_map_eq_some.mp hread
  exact (hle v).trans (readUpTo_le_of_wholeCodeSpace hmax hnumber hwhole)

/-- Every item of a list in a variable has been read somewhere. -/
theorem exists_run_of_mem_list {get : PerRead α} {entries : List IeEntry} {ieId : UInt32}
    {items : List α} (hassigned : assignedIfRead (readList get) [] id entries ieId = items) :
    ∀ a ∈ items, ∃ r r', get.run r = some (a, r') := by
  rcases assignedIfRead_cases (readList get) [] id entries ieId with hnone |
    ⟨e, _, _, found, hparse, hfound⟩
  · intro a hmem
    rw [← hassigned, hnone] at hmem
    exact absurd hmem List.not_mem_nil
  · obtain ⟨r, hread⟩ := parse_eq_some.mp hparse
    obtain ⟨count, r₁, _, hitems⟩ := Tape.run_bind_eq_some.mp hread
    rw [← hassigned, hfound]
    exact Tape.exists_run_of_mem_readMany hitems

/-! ## Bit rates of a setup request -/

/-- If the octets hold an initiating message of a procedure, the last element of its bit rates that
can be read spells two of them. -/
def SetupRatesSpelled (procedure ambrId : UInt32) (max : Nat) (buf : List UInt8) : Prop :=
  ∀ entries, containerOf buf = some (pduChoiceInitiatingMessage, procedure, entries) →
    ∀ value ∈ lastReadable (readBitRates max) (valuesOf entries ambrId), RatesSpelled max value

section SetupRates

variable {procedure ambrId : UInt32} {max : Nat} {buf : List UInt8} {entries : List IeEntry}

theorem setupRatesSpelled_iff
    (hcontainer : containerOf buf = some (pduChoiceInitiatingMessage, procedure, entries)) :
    SetupRatesSpelled procedure ambrId max buf ↔
      ∀ value ∈ lastReadable (readBitRates max) (valuesOf entries ambrId),
        RatesSpelled max value := by
  constructor
  · intro hspelled
    exact hspelled entries hcontainer
  · intro hspelled entries' hcontainer'
    rw [hcontainer] at hcontainer'
    cases hcontainer'
    exact hspelled

/-- No other procedure has bit rates. -/
theorem setupRatesSpelled_of_other {choice : Nat} {procCode : UInt32}
    (hcontainer : containerOf buf = some (choice, procCode, entries))
    (hother : ¬ (procCode = procedure ∧ choice = pduChoiceInitiatingMessage)) :
    SetupRatesSpelled procedure ambrId max buf := by
  intro entries' hsetup
  rw [hcontainer] at hsetup
  cases hsetup
  exact absurd ⟨rfl, rfl⟩ hother

end SetupRates

end Midn.Container
