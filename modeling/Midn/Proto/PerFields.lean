import Midn.Proto.Per

/-!
# Sequences of fields

Any sequence of fields that one writer accepts is read back from its octets by reading fields of
the same shapes. Of a value that is written in some bits only the low-order bits are written, so
these are what is read.
-/

namespace Midn.Per

/-- What a reader has to know of a field. -/
inductive Shape
  | bit
  | bits (n : Nat)
  | constrainedInt (min max : Nat)
  | octetString
  | octets (n : Nat)

inductive Value
  | bit (b : Bool)
  | int (v : Nat)
  | octets (data : List UInt8)
  deriving DecidableEq

/-- One write: a bit, the low-order bits of a value, a number of a range, an octet string with its
length, and raw octets on a boundary. -/
inductive Field
  | bit (b : Bool)
  | bits (v n : Nat)
  | constrainedInt (v min max : Nat)
  | octetString (data : List UInt8)
  | octets (data : List UInt8)

def Shape.read : Shape → PerRead Value
  | bit => Value.bit <$> PerReader.readBit
  | bits n => Value.int <$> PerReader.readBits n
  | constrainedInt min max => Value.int <$> PerReader.readConstrainedInt min max
  | octetString => Value.octets <$> PerReader.readOctetString
  | octets n => Value.octets <$> PerReader.readOctets n

namespace Field

def shape : Field → Shape
  | bit _ => .bit
  | bits _ n => .bits n
  | constrainedInt _ min max => .constrainedInt min max
  | octetString _ => .octetString
  | octets data => .octets data.length

def write (w : PerWriter) : Field → Option PerWriter
  | bit b => some (w.writeBit b)
  | bits v n => some (w.writeBits v n)
  | constrainedInt v min max => w.writeConstrainedInt v min max
  | octetString data => w.writeOctetString data
  | octets data => some (w.align.writeOctets data)

/-- The value as it was given to the writer. -/
def value : Field → Value
  | bit b => .bit b
  | bits v _ => .int v
  | constrainedInt v _ _ => .int v
  | octetString data => .octets data
  | octets data => .octets data

/-- The value as it was written. -/
def written : Field → Value
  | bits v n => .int (v % 2 ^ n)
  | field => field.value

/-- What a caller of the writer keeps to, over words of 64 bits. -/
def Admissible : Field → Prop
  | bit _ => True
  | bits v n => v < 2 ^ 64 ∧ n ≤ 64
  | constrainedInt v min max => min ≤ v ∧ v ≤ max ∧ max < 2 ^ 64 ∧ max - min + 1 < 2 ^ 64
  | octetString data => data.length < 16384
  | octets _ => True

instance : DecidablePred Admissible := fun field => by
  cases field <;> unfold Admissible <;> infer_instance

/-- The value of a field is what was written of it, unless bits of it were left out. -/
theorem written_eq_value {field : Field}
    (hfits : ∀ v n, field = .bits v n → v < 2 ^ n) : field.written = field.value := by
  cases field with
  | bits v n => rw [written, Nat.mod_eq_of_lt (hfits v n rfl), value]
  | bit | constrainedInt | octetString | octets => rfl

theorem exists_write {field : Field} (hfield : field.Admissible) (w : PerWriter) :
    ∃ w', field.write w = some w' := by
  cases field with
  | bit b => exact ⟨_, rfl⟩
  | bits v n => exact ⟨_, rfl⟩
  | octets data => exact ⟨_, rfl⟩
  | constrainedInt v min max =>
      obtain ⟨hmin, hmax, _, hword⟩ := hfield
      exact ⟨_, writeConstrainedInt_eq hword hmin hmax w⟩
  | octetString data =>
      obtain ⟨w', hput, _⟩ := grows_writeOctetString hfield w.bits.length w rfl
      exact ⟨w', hput⟩

/-- The reader of its shape undoes the writer of a field. -/
theorem undoes_write {field : Field} (hfield : field.Admissible) :
    tape.Undoes field.write field.shape.read field.written := by
  cases field with
  | bit b => exact (undoes_writeBit b).map Value.bit
  | bits v n => exact (undoes_writeBits hfield.2 v).map Value.int
  | constrainedInt v min max =>
      obtain ⟨_, _, hmax, hword⟩ := hfield
      exact (undoes_writeConstrainedInt hword hmax).map Value.int
  | octetString data => exact (undoes_writeOctetString data).map Value.octets
  | octets data => exact (undoes_align_writeOctets data).map Value.octets

end Field

/-- One write after the other, from bit 0. -/
def writeFields (fields : List Field) : Option PerWriter := fields.foldlM Field.write .new

/-- Read fields of some shapes, one after the other. -/
def readShapes (shapes : List Shape) : PerRead (List Value) := Tape.readAll (shapes.map Shape.read)

theorem exists_foldlM_write {fields : List Field} (hfields : ∀ f ∈ fields, f.Admissible)
    (w : PerWriter) : ∃ w', fields.foldlM Field.write w = some w' := by
  induction fields generalizing w with
  | nil => exact ⟨w, rfl⟩
  | cons field fields ih =>
      obtain ⟨w₁, hput⟩ := Field.exists_write (hfields field List.mem_cons_self) w
      obtain ⟨w', hrest⟩ := ih (fun f hmem => hfields f (List.mem_cons_of_mem field hmem)) w₁
      refine ⟨w', ?_⟩
      rw [List.foldlM_cons, hput]
      exact hrest

/-- Every admissible sequence of fields is written, and reading its shapes from the octets gives
what was written, field by field, and ends within the last octet. -/
theorem readShapes_writeFields {fields : List Field} (hfields : ∀ f ∈ fields, f.Admissible) :
    ∃ w, writeFields fields = some w ∧
      ∃ r, (readShapes (fields.map Field.shape)).run (.new w.intoBytes) =
          some (fields.map Field.written, r) ∧
        r.bitPos ≤ 8 * w.intoBytes.length ∧ 8 * w.intoBytes.length < r.bitPos + 8 := by
  obtain ⟨w, hput⟩ := exists_foldlM_write hfields .new
  have hundoes : tape.Undoes (fun w => fields.foldlM Field.write w)
      (Tape.readAll (fields.map fun f => f.shape.read)) (fields.map Field.written) :=
    Tape.Undoes.foldlM fun f hmem => Field.undoes_write (hfields f hmem)
  obtain ⟨r, hread, hstop⟩ := read_intoBytes hundoes hput
  have hshapes : (fields.map Field.shape).map Shape.read = fields.map fun f => f.shape.read :=
    List.map_map ..
  refine ⟨w, hput, r, ?_, ?_⟩
  · rw [readShapes, hshapes]
    exact hread
  · rw [hstop, length_intoBytes]
    unfold alignUp
    split <;> omega

/-- A bit, three bits, a number on a boundary, a string and two raw octets, in a row. -/
theorem readShapes_writeFields_mixed :
    ∃ w, writeFields [.bit true, .bits 5 3, .constrainedInt 300 0 1000, .octetString [1, 2],
        .octets [3, 4]] = some w ∧
      ∃ r, (readShapes [.bit, .bits 3, .constrainedInt 0 1000, .octetString, .octets 2]).run
          (.new w.intoBytes) =
          some ([.bit true, .int 5, .int 300, .octets [1, 2], .octets [3, 4]], r) ∧
        r.bitPos ≤ 8 * w.intoBytes.length ∧ 8 * w.intoBytes.length < r.bitPos + 8 :=
  readShapes_writeFields (by decide)

/-- A value that does not fit in its bits is not read back. -/
theorem readShapes_writeFields_ne_value :
    ¬ ∀ fields : List Field, (∀ f ∈ fields, f.Admissible) →
      ∃ w, writeFields fields = some w ∧
        ∃ r, (readShapes (fields.map Field.shape)).run (.new w.intoBytes) =
            some (fields.map Field.value, r) ∧
          r.bitPos ≤ 8 * w.intoBytes.length ∧ 8 * w.intoBytes.length < r.bitPos + 8 := by
  intro hall
  obtain ⟨w, hput, r, hread, _⟩ := hall [.bits 2 1] (by decide)
  cases hput
  have hvalues : ((readShapes [.bits 1]).run (.new (PerWriter.new.writeBits 2 1).intoBytes)).map
      Prod.fst = some [.int 2] := congrArg (Option.map Prod.fst) hread
  exact absurd hvalues (by decide)

end Midn.Per
