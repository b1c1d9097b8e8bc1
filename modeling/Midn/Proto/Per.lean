import Midn.Lib.Bits
import Midn.Lib.Lockstep
import Midn.Lib.Octets

/-!
# Aligned PER

The bit-level writer and reader of the aligned packed encoding rules: constrained whole numbers,
the length determinant up to 16383, and octet strings. A writer whose assertions fail yields
nothing. The reader undoes the writer, field by field and at every bit offset.
-/

namespace Midn.Per

/-- The bits of the binary numeral of the largest value of a range. -/
def bitsForRange (range : Nat) : Nat := if range ≤ 1 then 0 else Nat.log2 (range - 1) + 1

/-- The next octet boundary at or after a bit position. -/
def alignUp (pos : Nat) : Nat := if pos % 8 ≠ 0 then pos + (8 - pos % 8) else pos

structure PerWriter where
  bits : List Bool

namespace PerWriter

def new : PerWriter := ⟨[]⟩

def writeBit (w : PerWriter) (bit : Bool) : PerWriter := ⟨w.bits ++ [bit]⟩

/-- The low `n` bits of a value, most significant first. -/
def writeBits (w : PerWriter) (value n : Nat) : PerWriter := ⟨w.bits ++ Bits.ofNat n value⟩

/-- Pad with zero bits up to the next octet boundary. -/
def align (w : PerWriter) : PerWriter :=
  ⟨w.bits ++ List.replicate (alignUp w.bits.length - w.bits.length) false⟩

/-- Raw octets, without alignment. -/
def writeOctets (w : PerWriter) (data : List UInt8) : PerWriter :=
  data.foldl (fun w b => w.writeBits b.toNat 8) w

/-- A number of a range: nothing, the bits for the range if they fit in an octet, and else whole
octets on a boundary. -/
def writeConstrainedInt (w : PerWriter) (value min max : Nat) : Option PerWriter :=
  if value < min ∨ max < value then none
  else
    let range := (max - min + 1) % 2 ^ 64
    let v := value - min
    if range ≤ 1 then some w
    else
      let numBits := bitsForRange range
      if numBits ≤ 8 then some (w.writeBits v numBits)
      else
        let numOctets := (numBits + 7) / 8
        some ((List.range numOctets).reverse.foldl
          (fun w i => w.writeBits ((v >>> (i * 8)) &&& 0xFF) 8) w.align)

/-- One octet below 128, and two octets above; longer strings would have to be fragmented. -/
def writeLengthDeterminant (w : PerWriter) (len : Nat) : Option PerWriter :=
  if 16384 ≤ len then none
  else if len < 128 then some ((w.align.writeBit false).writeBits len 7)
  else some (((w.align.writeBit true).writeBit false).writeBits len 14)

def writeOctetString (w : PerWriter) (data : List UInt8) : Option PerWriter := do
  let w ← w.writeLengthDeterminant data.length
  pure (w.writeOctets data)

/-- The octets, the last one padded with zero bits. -/
def intoBytes (w : PerWriter) : List UInt8 :=
  Bits.pack (w.align.bits.length / 8) w.align.bits

end PerWriter

structure PerReader where
  data : List UInt8
  bitPos : Nat

/-- A reading operation; after a failure its reader is not used again. -/
abbrev PerRead (α : Type) := StateT PerReader Option α

namespace PerReader

def new (data : List UInt8) : PerReader := ⟨data, 0⟩

def advance (r : PerReader) (n : Nat) : PerReader := { r with bitPos := r.bitPos + n }

def readBit : PerRead Bool := fun r =>
  (r.data[r.bitPos / 8]?).map fun byte => (byte.toNat.testBit (7 - r.bitPos % 8), r.advance 1)

/-- Shift bits into a 64-bit value. -/
def shiftBits : Nat → Nat → PerRead Nat
  | 0, v => pure v
  | n + 1, v => do
      let b ← readBit
      shiftBits n (((v <<< 1) ||| b.toNat) % 2 ^ 64)

def readBits (n : Nat) : PerRead Nat := shiftBits n 0

def align : PerRead Unit := fun r => some ((), { r with bitPos := alignUp r.bitPos })

def readConstrainedInt (min max : Nat) : PerRead Nat :=
  let range := (max - min + 1) % 2 ^ 64
  if range ≤ 1 then pure min
  else
    let numBits := bitsForRange range
    if numBits ≤ 8 then do
      let v ← readBits numBits
      pure ((min + v) % 2 ^ 64)
    else do
      align
      let numOctets := (numBits + 7) / 8
      let v ← readBits (numOctets * 8)
      pure ((min + v) % 2 ^ 64)

def readLengthDeterminant : PerRead Nat := do
  align
  let b0 ← readBit
  if !b0 then readBits 7
  else
    let b1 ← readBit
    if b1 then failure else readBits 14

/-- Raw octets from the next boundary on. -/
def readOctets (n : Nat) : PerRead (List UInt8) := do
  align
  Tape.readMany (UInt8.ofNat <$> readBits 8) n

def readOctetString : PerRead (List UInt8) := do
  let len ← readLengthDeterminant
  readOctets len

/-- Raw octets copied into an array of their number. -/
def readArray (n : Nat) : PerRead (Octets n) := do
  let v ← readOctets n
  match Octets.ofSlice? n v with
  | some a => pure a
  | none => failure

end PerReader

/-- The bits written so far, and the bits to read. -/
def tape : Tape PerWriter PerReader Bool where
  out w := w.bits
  input r := Bits.ofOctets r.data
  pos r := r.bitPos

/-! ## The reader undoes the writer -/

open PerReader

variable {α : Type}

/-- A writer that appends bits is undone by a reader that takes them from what is ahead of it. -/
theorem undoes_append {put : PerWriter → PerWriter} {get : PerRead α} {a : α}
    (ext : Nat → List Bool) (hput : ∀ w, (put w).bits = w.bits ++ ext w.bits.length)
    (hget : ∀ r, ext r.bitPos <+: (Bits.ofOctets r.data).drop r.bitPos →
      get.run r = some (a, r.advance (ext r.bitPos).length)) :
    tape.Undoes (fun w => some (put w)) get a := by
  intro w w' hwritten
  cases hwritten
  have hout : tape.out (put w) = w.bits ++ ext w.bits.length := hput w
  refine ⟨hout ▸ List.prefix_append .., fun r hpos hahead => ?_⟩
  have hpos : r.bitPos = w.bits.length := hpos
  obtain ⟨rest, hinput⟩ := hahead
  have hinput : w.bits ++ (ext w.bits.length ++ rest) = Bits.ofOctets r.data := by
    rw [← List.append_assoc, ← hout]
    exact hinput
  refine ⟨_, hget r ?_, rfl, ?_⟩
  · rw [← hinput, hpos, List.drop_left]
    exact List.prefix_append ..
  · rw [hout, List.length_append, ← hpos]
    rfl

theorem readBit_run {r : PerReader} {b : Bool}
    (hahead : [b] <+: (Bits.ofOctets r.data).drop r.bitPos) :
    readBit.run r = some (b, r.advance 1) := by
  obtain ⟨rest, hrest⟩ := hahead
  have hbit : (Bits.ofOctets r.data)[r.bitPos]? = some b := by
    rw [← List.head?_drop, ← hrest]
    rfl
  rw [Bits.getElem?_ofOctets, Option.map_eq_some_iff] at hbit
  obtain ⟨byte, hbyte, hb⟩ := hbit
  have hrun : readBit.run r =
      (r.data[r.bitPos / 8]?).map fun byte =>
        (byte.toNat.testBit (7 - r.bitPos % 8), r.advance 1) := rfl
  rw [hrun, hbyte, Option.map_some, hb]

/-- Bits that are ahead are shifted in, as long as they fit in 64 bits. -/
theorem shiftBits_run {bits : List Bool} {m v : Nat} (hv : v < 2 ^ m)
    (hfits : m + bits.length ≤ 64) {r : PerReader}
    (hahead : bits <+: (Bits.ofOctets r.data).drop r.bitPos) :
    (shiftBits bits.length v).run r = some (bits.foldl Bits.push v, r.advance bits.length) := by
  induction bits generalizing m v r with
  | nil => rfl
  | cons b bits ih =>
      have hb : b.toNat < 2 ^ 1 := Bool.toNat_lt b
      have hpush : (v <<< 1) ||| b.toNat = Bits.push v b := by
        rw [← Nat.shiftLeft_add_eq_or_of_lt hb, Nat.shiftLeft_eq, Bits.push, pow_one, Nat.mul_comm]
      have hlt : Bits.push v b < 2 ^ (m + 1) := by
        rw [Bits.push, pow_succ]
        omega
      rw [List.length_cons] at hfits
      have hword : Bits.push v b < 2 ^ 64 :=
        lt_of_lt_of_le hlt (Nat.pow_le_pow_right Nat.two_pos (by omega))
      have hnext : bits <+: (Bits.ofOctets (r.advance 1).data).drop (r.advance 1).bitPos := by
        obtain ⟨rest, hrest⟩ := hahead
        refine ⟨rest, ?_⟩
        rw [advance, ← List.drop_drop, ← hrest]
        rfl
      have hfirst : readBit.run r = some (b, r.advance 1) :=
        readBit_run ((List.prefix_append [b] bits).trans hahead)
      have hrest := ih hlt (by omega) hnext
      rw [List.length_cons, shiftBits, Tape.run_bind_eq_some]
      refine ⟨b, r.advance 1, hfirst, ?_⟩
      rw [hpush, Nat.mod_eq_of_lt hword, hrest, List.foldl_cons, advance, advance, advance,
        Nat.add_assoc, Nat.add_comm 1]

theorem undoes_writeBit (b : Bool) : tape.Undoes (fun w => some (w.writeBit b)) readBit b :=
  undoes_append (fun _ => [b]) (fun _ => rfl) fun _ => readBit_run

/-- Of a value that is written in some bits, the low-order bits are read back. -/
theorem undoes_writeBits {n : Nat} (hn : n ≤ 64) (v : Nat) :
    tape.Undoes (fun w => some (w.writeBits v n)) (readBits n) (v % 2 ^ n) := by
  refine undoes_append (fun _ => Bits.ofNat n v) (fun _ => rfl) fun r hahead => ?_
  have hrun := shiftBits_run (m := 0) Nat.one_pos (by rw [Bits.length_ofNat]; omega) hahead
  rw [Bits.length_ofNat, ← Bits.toNat, Bits.toNat_ofNat] at hrun
  rw [Bits.length_ofNat]
  exact hrun

theorem le_alignUp (pos : Nat) : pos ≤ alignUp pos := by
  unfold alignUp
  split <;> omega

theorem alignUp_eq_self {pos : Nat} (haligned : pos % 8 = 0) : alignUp pos = pos :=
  if_neg (not_not_intro haligned)

theorem alignUp_mod (pos : Nat) : alignUp pos % 8 = 0 := by
  unfold alignUp
  split <;> omega

theorem undoes_align : tape.Undoes (fun w => some w.align) PerReader.align () := by
  refine undoes_append (fun p => List.replicate (alignUp p - p) false) (fun _ => rfl) ?_
  intro r _
  have hle := le_alignUp r.bitPos
  have hadvance : r.bitPos + (alignUp r.bitPos - r.bitPos) = alignUp r.bitPos := by omega
  rw [List.length_replicate, advance, hadvance]
  rfl

theorem bits_writeOctets (w : PerWriter) (data : List UInt8) :
    (w.writeOctets data).bits = w.bits ++ Bits.ofOctets data := by
  induction data generalizing w with
  | nil => exact (List.append_nil _).symm
  | cons b data ih =>
      rw [PerWriter.writeOctets, List.foldl_cons, ← PerWriter.writeOctets, ih,
        PerWriter.writeBits, Bits.ofOctets, Bits.ofOctets, List.flatMap_cons, List.append_assoc]

theorem undoes_writeOctets (data : List UInt8) :
    tape.Undoes (fun w => some (w.writeOctets data))
      (Tape.readMany (UInt8.ofNat <$> readBits 8) data.length) data := by
  have hmany : tape.Undoes
      (fun w => data.foldlM (fun (w : PerWriter) b => some (w.writeBits b.toNat 8)) w)
      (Tape.readMany (UInt8.ofNat <$> readBits 8) data.length) data := by
    refine Tape.Undoes.many fun b _ => ?_
    have hoctet := (undoes_writeBits (n := 8) (by decide) b.toNat).map UInt8.ofNat
    rwa [Nat.mod_eq_of_lt b.toNat_lt, UInt8.ofNat_toNat] at hoctet
  have hput : ∀ w : PerWriter, data.foldlM (fun w b => some (w.writeBits b.toNat 8)) w =
      some (w.writeOctets data) :=
    fun w => List.foldlM_pure ..
  simpa only [hput] using hmany

/-- Octets on a boundary are read back from it. -/
theorem undoes_align_writeOctets (data : List UInt8) :
    tape.Undoes (fun w => some (w.align.writeOctets data)) (readOctets data.length) data := by
  have hread := undoes_align.bind (fun _ => Tape.readMany (UInt8.ofNat <$> readBits 8) data.length)
    (undoes_writeOctets data)
  exact hread

theorem undoes_align_writeArray {n : Nat} (a : Octets n) :
    tape.Undoes (fun w => some (w.align.writeOctets a.toList)) (readArray n) a := by
  have hread := undoes_align_writeOctets a.toList
  rw [Octets.length_toList] at hread
  refine hread.bind_of_eq_pure ?_
  rw [Octets.ofSlice?_toList]

/-! ## What a reader has passed over -/

theorem readBit_eq_some {r r' : PerReader} {b : Bool} (hread : readBit.run r = some (b, r')) :
    r' = r.advance 1 ∧ r'.bitPos ≤ (Bits.ofOctets r.data).length := by
  obtain ⟨byte, hbyte, hpair⟩ := Option.map_eq_some_iff.mp hread
  cases hpair
  obtain ⟨hlt, _⟩ := List.getElem?_eq_some_iff.mp hbyte
  refine ⟨rfl, ?_⟩
  rw [Bits.length_ofOctets]
  change r.bitPos + 1 ≤ 8 * r.data.length
  omega

/-- A value that has been shifted in has as many bits as were read. -/
theorem shiftBits_eq_some {n m v₀ v : Nat} (hv₀ : v₀ < 2 ^ m) {r r' : PerReader}
    (hread : (shiftBits n v₀).run r = some (v, r')) :
    r' = r.advance n ∧ v < 2 ^ (m + n) ∧
      (r.bitPos ≤ (Bits.ofOctets r.data).length → r'.bitPos ≤ (Bits.ofOctets r.data).length) := by
  induction n generalizing m v₀ r with
  | zero =>
      obtain ⟨rfl, rfl⟩ := Tape.run_pure_eq_some.mp hread
      exact ⟨rfl, hv₀, id⟩
  | succ n ih =>
      obtain ⟨b, r₁, hbit, hread⟩ := Tape.run_bind_eq_some.mp hread
      obtain ⟨rfl, hinside⟩ := readBit_eq_some hbit
      have hb : b.toNat < 2 ^ 1 := Bool.toNat_lt b
      have hshift : ((v₀ <<< 1) ||| b.toNat) % 2 ^ 64 < 2 ^ (m + 1) := by
        refine lt_of_le_of_lt (Nat.mod_le _ _) ?_
        rw [← Nat.shiftLeft_add_eq_or_of_lt hb, Nat.shiftLeft_eq, pow_succ]
        omega
      obtain ⟨rfl, hv, hstop⟩ := ih hshift hread
      refine ⟨?_, ?_, fun _ => hstop hinside⟩
      · rw [advance, advance, advance, Nat.add_assoc, Nat.add_comm 1]
      · rwa [Nat.add_assoc, Nat.add_comm 1] at hv

theorem readBits_eq_some {n v : Nat} {r r' : PerReader}
    (hread : (readBits n).run r = some (v, r')) :
    r' = r.advance n ∧ v < 2 ^ n ∧
      (r.bitPos ≤ (Bits.ofOctets r.data).length → r'.bitPos ≤ (Bits.ofOctets r.data).length) := by
  have hshift := shiftBits_eq_some (m := 0) Nat.one_pos hread
  rwa [Nat.zero_add] at hshift

theorem alignUp_mono {p q : Nat} (hle : p ≤ q) : alignUp p ≤ alignUp q := by
  unfold alignUp
  split <;> split <;> omega

/-- The boundary after a position is inside the octets that the position is inside. -/
theorem alignUp_inside {r : PerReader} (hinside : r.bitPos ≤ (Bits.ofOctets r.data).length) :
    alignUp r.bitPos ≤ (Bits.ofOctets r.data).length := by
  rw [Bits.length_ofOctets] at hinside ⊢
  unfold alignUp
  split <;> omega

/-- A reader that stops no earlier than a writer does leaves room for the writer. -/
theorem covers_of_grows {put : PerWriter → Option PerWriter} {stop : Nat → Nat}
    (hgrows : ∀ p, tape.Grows put p (stop p)) (hmono : ∀ p q, p ≤ q → stop p ≤ stop q)
    {r r' : PerReader} (hdata : r'.data = r.data) (hstop : stop r.bitPos ≤ r'.bitPos)
    (hinside : r.bitPos ≤ (Bits.ofOctets r.data).length →
      r'.bitPos ≤ (Bits.ofOctets r.data).length) : tape.Covers put r r' := by
  refine ⟨congrArg Bits.ofOctets hdata, fun h => ?_, fun w hw => ?_⟩
  · have hstop := hinside h
    rwa [← hdata] at hstop
  · obtain ⟨w', hput, hlength⟩ := hgrows w.bits.length w rfl
    exact ⟨w', hput, hlength.le.trans ((hmono _ _ hw).trans hstop)⟩

theorem grows_align (p : Nat) : tape.Grows (fun w => some w.align) p (alignUp p) := by
  rintro w rfl
  refine ⟨w.align, rfl, ?_⟩
  have hle := le_alignUp w.bits.length
  have hlength : w.align.bits.length =
      w.bits.length + (alignUp w.bits.length - w.bits.length) := by
    rw [PerWriter.align, List.length_append, List.length_replicate]
  exact hlength.trans (by change _ = alignUp w.bits.length; omega)

theorem grows_writeBits (v n p : Nat) : tape.Grows (fun w => some (w.writeBits v n)) p (p + n) := by
  rintro w rfl
  refine ⟨w.writeBits v n, rfl, ?_⟩
  have hlength : (w.writeBits v n).bits.length = w.bits.length + n := by
    rw [PerWriter.writeBits, List.length_append, Bits.length_ofNat]
  exact hlength

theorem grows_writeOctets (data : List UInt8) (p : Nat) :
    tape.Grows (fun w => some (w.writeOctets data)) p (p + 8 * data.length) := by
  rintro w rfl
  refine ⟨w.writeOctets data, rfl, ?_⟩
  have hlength : (w.writeOctets data).bits.length = w.bits.length + 8 * data.length := by
    rw [bits_writeOctets, List.length_append, Bits.length_ofOctets]
  exact hlength

theorem covers_align (r : PerReader) :
    tape.Covers (fun w => some w.align) r { r with bitPos := alignUp r.bitPos } :=
  covers_of_grows grows_align (fun _ _ => alignUp_mono) rfl (le_refl _) alignUp_inside

/-- Raw octets that have been read are as many as were asked for. -/
theorem readOctets_eq_some {n : Nat} {data : List UInt8} {r r' : PerReader}
    (hread : (readOctets n).run r = some (data, r')) :
    data.length = n ∧ tape.Covers (fun w => some (w.align.writeOctets data)) r r' := by
  obtain ⟨_, r₁, halign, hread⟩ := Tape.run_bind_eq_some.mp hread
  cases halign
  have hoctets : ∀ r b r', (UInt8.ofNat <$> readBits 8).run r = some (b, r') →
      tape.Covers (fun (w : PerWriter) => some (w.writeBits b.toNat 8)) r r' := by
    intro r b r' hread
    obtain ⟨v, hread, -⟩ := Tape.run_map_eq_some.mp hread
    obtain ⟨rfl, -, hinside⟩ := readBits_eq_some hread
    exact covers_of_grows (grows_writeBits b.toNat 8) (fun p q hle => Nat.add_le_add_right hle 8)
      rfl (le_refl _) hinside
  obtain ⟨hcovers, hlength⟩ := Tape.Covers.many hoctets hread
  have hput : ∀ w : PerWriter, data.foldlM (fun w b => some (w.writeBits b.toNat 8)) w =
      some (w.writeOctets data) :=
    fun w => List.foldlM_pure ..
  simp only [hput] at hcovers
  have hboth := (covers_align r).trans hcovers
  exact ⟨hlength, hboth⟩

theorem readArray_eq_some {n : Nat} {a : Octets n} {r r' : PerReader}
    (hread : (readArray n).run r = some (a, r')) :
    tape.Covers (fun w => some (w.align.writeOctets a.toList)) r r' := by
  obtain ⟨data, r₁, hdata, hcopy⟩ := Tape.run_bind_eq_some.mp hread
  cases hslice : Octets.ofSlice? n data with
  | none =>
      rw [hslice] at hcopy
      cases hcopy
  | some copied =>
      rw [hslice] at hcopy
      obtain ⟨rfl, rfl⟩ := Tape.run_pure_eq_some.mp hcopy
      have hsame : copied.toList = data := by
        unfold Octets.ofSlice? at hslice
        split at hslice
        next => rw [← Option.some.inj hslice, List.Vector.toList_mk]
        next => cases hslice
      rw [hsame]
      exact (readOctets_eq_some hdata).2

/-! ## Constrained whole numbers -/

/-- The octets of a number are its bits on a boundary. -/
theorem foldl_writeBits_octets (v k : Nat) (w : PerWriter) :
    (List.range k).reverse.foldl (fun w i => w.writeBits ((v >>> (i * 8)) &&& 0xFF) 8) w =
      w.writeBits v (k * 8) := by
  induction k generalizing w with
  | zero =>
      rw [Nat.zero_mul, PerWriter.writeBits, Bits.ofNat, List.append_nil]
      rfl
  | succ k ih =>
      have hoctet : ∀ x, Bits.ofNat 8 (x &&& 0xFF) = Bits.ofNat 8 x := by
        intro x
        rw [← Bits.ofNat_mod (le_refl 8) x, ← Nat.and_two_pow_sub_one_eq_mod]
      have hsplit : (k + 1) * 8 = 8 + k * 8 := by omega
      rw [List.range_succ, List.reverse_append, List.reverse_singleton, List.singleton_append,
        List.foldl_cons, ih, PerWriter.writeBits, PerWriter.writeBits, PerWriter.writeBits, hoctet,
        hsplit, Bits.ofNat_add, List.append_assoc]

theorem bitsForRange_spec {range : Nat} (hword : range < 2 ^ 64) :
    bitsForRange range ≤ 64 ∧ ∀ v, v < range → v < 2 ^ bitsForRange range := by
  unfold bitsForRange
  split
  next hone =>
    refine ⟨by decide, fun v hv => ?_⟩
    omega
  next hmore =>
    have hne : range - 1 ≠ 0 := by omega
    refine ⟨(Nat.log2_lt hne).mpr (by omega), fun v hv => ?_⟩
    exact lt_of_le_of_lt (Nat.le_sub_one_of_lt hv) Nat.lt_log2_self

/-- The bits that a number of a range takes up, less those of the alignment before it. -/
def constrainedWidth (min max : Nat) : Nat :=
  if bitsForRange (max - min + 1) ≤ 8 then bitsForRange (max - min + 1)
  else (bitsForRange (max - min + 1) + 7) / 8 * 8

/-- Where a number of a range ends that begins at a position. -/
def constrainedEnd (min max pos : Nat) : Nat :=
  (if constrainedWidth min max ≤ 8 then pos else alignUp pos) + constrainedWidth min max

theorem constrainedEnd_mono (min max : Nat) {p q : Nat} (hle : p ≤ q) :
    constrainedEnd min max p ≤ constrainedEnd min max q := by
  have halign := alignUp_mono hle
  unfold constrainedEnd
  split <;> omega

section ConstrainedInt

variable {min max v : Nat}

theorem constrainedWidth_le (hword : max - min + 1 < 2 ^ 64) : constrainedWidth min max ≤ 64 := by
  have hbits := (bitsForRange_spec hword).1
  unfold constrainedWidth
  split <;> omega

theorem sub_lt_constrainedWidth (hword : max - min + 1 < 2 ^ 64) (hmax : v ≤ max) :
    v - min < 2 ^ constrainedWidth min max := by
  have hlt := (bitsForRange_spec hword).2 (v - min) (by omega)
  refine lt_of_lt_of_le hlt (Nat.pow_le_pow_right Nat.two_pos ?_)
  unfold constrainedWidth
  split <;> omega

/-- The three layouts of a range: no bits, the bits for it, and whole octets. -/
theorem constrainedWidth_cases (min max : Nat) :
    (max - min + 1 ≤ 1 ∧ constrainedWidth min max = 0) ∨
      (1 < max - min + 1 ∧ bitsForRange (max - min + 1) ≤ 8 ∧
        constrainedWidth min max = bitsForRange (max - min + 1)) ∨
      (1 < max - min + 1 ∧ 8 < bitsForRange (max - min + 1) ∧ 8 < constrainedWidth min max ∧
        constrainedWidth min max = (bitsForRange (max - min + 1) + 7) / 8 * 8) := by
  by_cases hone : max - min + 1 ≤ 1
  · have hbits : bitsForRange (max - min + 1) = 0 := if_pos hone
    refine Or.inl ⟨hone, ?_⟩
    rw [constrainedWidth, hbits, if_pos (Nat.zero_le 8)]
  · refine Or.inr ?_
    by_cases hsmall : bitsForRange (max - min + 1) ≤ 8
    · exact Or.inl ⟨Nat.lt_of_not_le hone, hsmall, if_pos hsmall⟩
    · have hwidth : constrainedWidth min max = (bitsForRange (max - min + 1) + 7) / 8 * 8 :=
        if_neg hsmall
      refine Or.inr ⟨Nat.lt_of_not_le hone, Nat.lt_of_not_le hsmall, ?_, hwidth⟩
      omega

/-- A number is written from its range only. -/
theorem mem_of_writeConstrainedInt {w w' : PerWriter}
    (hput : w.writeConstrainedInt v min max = some w') : min ≤ v ∧ v ≤ max := by
  unfold PerWriter.writeConstrainedInt at hput
  split at hput
  next => cases hput
  next hrange => omega

/-- A number is written in its bits, on a boundary if they are more than an octet. -/
theorem writeConstrainedInt_eq (hword : max - min + 1 < 2 ^ 64) (hmin : min ≤ v) (hmax : v ≤ max)
    (w : PerWriter) :
    w.writeConstrainedInt v min max =
      some ((if constrainedWidth min max ≤ 8 then w else w.align).writeBits (v - min)
        (constrainedWidth min max)) := by
  have hrange : ¬ (v < min ∨ max < v) := by omega
  simp only [PerWriter.writeConstrainedInt, if_neg hrange, Nat.mod_eq_of_lt hword,
    foldl_writeBits_octets]
  rcases constrainedWidth_cases min max with ⟨hone, hwidth⟩ | ⟨hmore, hsmall, hwidth⟩ |
    ⟨hmore, hlarge, hoctet, hwidth⟩
  · rw [if_pos hone, hwidth, if_pos (Nat.zero_le 8), PerWriter.writeBits, Bits.ofNat,
      List.append_nil]
  · rw [if_neg (not_le_of_gt hmore), if_pos hsmall, hwidth, if_pos hsmall]
  · rw [if_neg (not_le_of_gt hmore), if_neg (not_le_of_gt hlarge), if_neg (not_le_of_gt hoctet),
      hwidth]

/-- A number is read from its bits, on a boundary if they are more than an octet. -/
theorem readConstrainedInt_eq (hword : max - min + 1 < 2 ^ 64) (hmin : min < 2 ^ 64) :
    readConstrainedInt min max =
      if constrainedWidth min max ≤ 8 then
        (fun x => (min + x) % 2 ^ 64) <$> readBits (constrainedWidth min max)
      else
        PerReader.align >>= fun _ =>
          (fun x => (min + x) % 2 ^ 64) <$> readBits (constrainedWidth min max) := by
  simp only [readConstrainedInt, Nat.mod_eq_of_lt hword, bind_pure_comp]
  rcases constrainedWidth_cases min max with ⟨hone, hwidth⟩ | ⟨hmore, hsmall, hwidth⟩ |
    ⟨hmore, hlarge, hoctet, hwidth⟩
  · have hnone : readBits 0 = pure 0 := rfl
    rw [if_pos hone, hwidth, if_pos (Nat.zero_le 8), hnone, map_pure, Nat.add_zero,
      Nat.mod_eq_of_lt hmin]
  · rw [if_neg (not_le_of_gt hmore), if_pos hsmall, hwidth, if_pos hsmall]
  · rw [if_neg (not_le_of_gt hmore), if_neg (not_le_of_gt hlarge), if_neg (not_le_of_gt hoctet),
      hwidth]

variable (hword : max - min + 1 < 2 ^ 64)
include hword

theorem grows_writeConstrainedInt (hmin : min ≤ v) (hmax : v ≤ max) (p : Nat) :
    tape.Grows (fun w => w.writeConstrainedInt v min max) p (constrainedEnd min max p) := by
  simp only [writeConstrainedInt_eq hword hmin hmax, constrainedEnd]
  split
  next => exact grows_writeBits _ _ p
  next =>
    have hboth := (grows_align p).bind
      (grows_writeBits (v - min) (constrainedWidth min max) (alignUp p))
    exact hboth

theorem undoes_writeConstrainedInt (hmax : max < 2 ^ 64) :
    tape.Undoes (fun w => w.writeConstrainedInt v min max) (readConstrainedInt min max) v := by
  intro w w' hput
  obtain ⟨hlow, hhigh⟩ := mem_of_writeConstrainedInt hput
  have hback : (min + (v - min)) % 2 ^ 64 = v := by
    rw [Nat.add_sub_of_le hlow, Nat.mod_eq_of_lt (lt_of_le_of_lt hhigh hmax)]
  have hread := (undoes_writeBits (constrainedWidth_le hword) (v - min)).map
    fun x => (min + x) % 2 ^ 64
  rw [Nat.mod_eq_of_lt (sub_lt_constrainedWidth hword hhigh), hback] at hread
  refine (?_ : tape.Undoes (fun w => w.writeConstrainedInt v min max) _ v) w w' hput
  simp only [writeConstrainedInt_eq hword hlow hhigh,
    readConstrainedInt_eq hword (lt_of_le_of_lt (hlow.trans hhigh) hmax)]
  by_cases hsmall : constrainedWidth min max ≤ 8
  · simp only [if_pos hsmall]
    exact hread
  · simp only [if_neg hsmall]
    have hboth := undoes_align.bind (fun _ => (fun x => (min + x) % 2 ^ 64) <$>
      readBits (constrainedWidth min max)) hread
    exact hboth

/-- A number that has been read has the width of its range, and any number of the range could be
written in its place. -/
theorem readConstrainedInt_eq_some (hmin : min < 2 ^ 64) {r r' : PerReader}
    (hread : (readConstrainedInt min max).run r = some (v, r')) :
    (∃ x < 2 ^ constrainedWidth min max, v = (min + x) % 2 ^ 64) ∧
      ∀ u, min ≤ u → u ≤ max → tape.Covers (fun w => w.writeConstrainedInt u min max) r r' := by
  rw [readConstrainedInt_eq hword hmin] at hread
  have hcovers : r'.data = r.data → r'.bitPos = constrainedEnd min max r.bitPos →
      (r.bitPos ≤ (Bits.ofOctets r.data).length → r'.bitPos ≤ (Bits.ofOctets r.data).length) →
      ∀ u, min ≤ u → u ≤ max → tape.Covers (fun w => w.writeConstrainedInt u min max) r r' := by
    intro hdata hstop hinside u hlow hhigh
    exact covers_of_grows (grows_writeConstrainedInt hword hlow hhigh)
      (fun _ _ => constrainedEnd_mono min max) hdata hstop.ge hinside
  by_cases hsmall : constrainedWidth min max ≤ 8
  · rw [if_pos hsmall] at hread
    obtain ⟨x, hbits, rfl⟩ := Tape.run_map_eq_some.mp hread
    obtain ⟨rfl, hlt, hinside⟩ := readBits_eq_some hbits
    refine ⟨⟨x, hlt, rfl⟩, hcovers rfl ?_ hinside⟩
    rw [constrainedEnd, if_pos hsmall]
    rfl
  · rw [if_neg hsmall] at hread
    obtain ⟨_, r₁, halign, hread⟩ := Tape.run_bind_eq_some.mp hread
    cases halign
    obtain ⟨x, hbits, rfl⟩ := Tape.run_map_eq_some.mp hread
    obtain ⟨rfl, hlt, hinside⟩ := readBits_eq_some hbits
    refine ⟨⟨x, hlt, rfl⟩, hcovers rfl ?_ fun h => hinside (alignUp_inside h)⟩
    rw [constrainedEnd, if_neg hsmall]
    rfl

end ConstrainedInt

/-! Numbers from zero on, as the codecs have them. -/

theorem grows_writeUpTo {v max : Nat} (hmax : max < 2 ^ 64 - 1) (hv : v ≤ max) (p : Nat) :
    tape.Grows (fun w => w.writeConstrainedInt v 0 max) p (constrainedEnd 0 max p) :=
  grows_writeConstrainedInt (by omega) (Nat.zero_le v) hv p

theorem undoes_writeUpTo (v max : Nat) (hmax : max < 2 ^ 64 - 1) :
    tape.Undoes (fun w => w.writeConstrainedInt v 0 max) (readConstrainedInt 0 max) v :=
  undoes_writeConstrainedInt (by omega) (by omega)

theorem readUpTo_eq_some {v max : Nat} (hmax : max < 2 ^ 64 - 1) {r r' : PerReader}
    (hread : (readConstrainedInt 0 max).run r = some (v, r')) :
    v < 2 ^ constrainedWidth 0 max ∧
      ∀ u ≤ max, tape.Covers (fun w => w.writeConstrainedInt u 0 max) r r' := by
  obtain ⟨⟨x, hx, rfl⟩, hcovers⟩ := readConstrainedInt_eq_some (by omega) (by omega) hread
  refine ⟨?_, fun u hu => hcovers u (Nat.zero_le u) hu⟩
  rw [Nat.zero_add]
  exact lt_of_le_of_lt (Nat.mod_le x _) hx

/-! ## Length determinants and octet strings -/

/-- The octets of a length determinant. -/
def lengthDeterminantLength (len : Nat) : Nat := if len < 128 then 1 else 2

/-- The octets of an octet string with its length determinant. -/
def octetStringLength (len : Nat) : Nat := lengthDeterminantLength len + len

theorem lengthDeterminantLength_mono {m n : Nat} (hle : m ≤ n) :
    lengthDeterminantLength m ≤ lengthDeterminantLength n := by
  unfold lengthDeterminantLength
  split <;> split <;> omega

theorem octetStringLength_mono {m n : Nat} (hle : m ≤ n) :
    octetStringLength m ≤ octetStringLength n :=
  Nat.add_le_add (lengthDeterminantLength_mono hle) hle

theorem align_eq_self {w : PerWriter} (haligned : w.bits.length % 8 = 0) : w.align = w := by
  rw [PerWriter.align, alignUp_eq_self haligned, Nat.sub_self, List.replicate_zero, List.append_nil]

/-- Only lengths below 16384 are written. -/
theorem lt_of_writeLengthDeterminant {len : Nat} {w w' : PerWriter}
    (hput : w.writeLengthDeterminant len = some w') : len < 16384 := by
  by_contra hlong
  rw [PerWriter.writeLengthDeterminant, if_pos (not_lt.mp hlong)] at hput
  cases hput

theorem grows_writeLengthDeterminant {len : Nat} (hlen : len < 16384) (p : Nat) :
    tape.Grows (fun w => w.writeLengthDeterminant len) p
      (alignUp p + 8 * lengthDeterminantLength len) := by
  simp only [PerWriter.writeLengthDeterminant, if_neg (not_le_of_gt hlen), lengthDeterminantLength]
  have hbit : ∀ b p, tape.Grows (fun w => some (w.writeBit b)) p (p + 1) := by
    intro b p w hw
    have hout : tape.out (w.writeBit b) = tape.out w ++ [b] := rfl
    exact ⟨w.writeBit b, rfl, by rw [hout, List.length_append, hw, List.length_singleton]⟩
  split
  next =>
    have hall := ((grows_align p).bind (hbit false _)).bind (grows_writeBits len 7 _)
    exact hall
  next =>
    have hall := (((grows_align p).bind (hbit true _)).bind (hbit false _)).bind
      (grows_writeBits len 14 _)
    exact hall

theorem undoes_writeLengthDeterminant (len : Nat) :
    tape.Undoes (fun w => w.writeLengthDeterminant len) readLengthDeterminant len := by
  let long (b1 : Bool) : PerRead Nat := if b1 then failure else readBits 14
  let form (b0 : Bool) : PerRead Nat := if !b0 then readBits 7 else readBit >>= long
  by_cases hlen : len < 16384
  · simp only [PerWriter.writeLengthDeterminant, if_neg (not_le_of_gt hlen)]
    split
    next hshort =>
      have hback : len % 2 ^ 7 = len := Nat.mod_eq_of_lt hshort
      have hbits := undoes_writeBits (n := 7) (by decide) len
      rw [hback] at hbits
      have hform : tape.Undoes _ (readBit >>= form) len := (undoes_writeBit false).bind form hbits
      have hread := undoes_align.bind (fun _ => readBit >>= form) hform
      exact hread
    next =>
      have hback : len % 2 ^ 14 = len := Nat.mod_eq_of_lt hlen
      have hbits := undoes_writeBits (n := 14) (by decide) len
      rw [hback] at hbits
      have hlong : tape.Undoes _ (readBit >>= long) len := (undoes_writeBit false).bind long hbits
      have hform : tape.Undoes _ (readBit >>= form) len := (undoes_writeBit true).bind form hlong
      have hread := undoes_align.bind (fun _ => readBit >>= form) hform
      exact hread
  · intro w w' hput
    exact absurd (lt_of_writeLengthDeterminant hput) hlen

/-- A length determinant leaves the writer on a boundary. -/
theorem mod_of_writeLengthDeterminant {len : Nat} {w w' : PerWriter}
    (hput : w.writeLengthDeterminant len = some w') : w'.bits.length % 8 = 0 := by
  obtain ⟨w₁, hput₁, hlength⟩ :=
    grows_writeLengthDeterminant (lt_of_writeLengthDeterminant hput) w.bits.length w rfl
  obtain rfl : w₁ = w' := Option.some.inj (hput₁.symm.trans hput)
  have hmod := alignUp_mod w.bits.length
  have hlength : w₁.bits.length = alignUp w.bits.length + 8 * lengthDeterminantLength len := hlength
  omega

theorem grows_writeOctetString {data : List UInt8} (hlen : data.length < 16384) (p : Nat) :
    tape.Grows (fun w => w.writeOctetString data) p
      (alignUp p + 8 * octetStringLength data.length) := by
  have hboth := (grows_writeLengthDeterminant hlen p).bind (grows_writeOctets data _)
  rw [Nat.add_assoc, ← Nat.mul_add] at hboth
  exact hboth

theorem undoes_writeOctetString (data : List UInt8) :
    tape.Undoes (fun w => w.writeOctetString data) readOctetString data := by
  have hread := (undoes_writeLengthDeterminant data.length).bind readOctets
    (undoes_align_writeOctets data)
  have hput : ∀ w : PerWriter, w.writeOctetString data =
      w.writeLengthDeterminant data.length >>= fun w => some (w.align.writeOctets data) := by
    intro w
    cases hdeterminant : w.writeLengthDeterminant data.length with
    | none =>
        rw [PerWriter.writeOctetString, hdeterminant]
        rfl
    | some w₁ =>
        have halign := align_eq_self (mod_of_writeLengthDeterminant hdeterminant)
        rw [PerWriter.writeOctetString, hdeterminant, Option.bind_eq_bind, Option.bind_some,
          Option.bind_some, halign]
        rfl
  simp only [hput]
  exact hread

/-- A length that has been read is below 16384, and no smaller one takes more room. -/
theorem readLengthDeterminant_eq_some {len : Nat} {r r' : PerReader}
    (hread : readLengthDeterminant.run r = some (len, r')) :
    len < 16384 ∧
      ∀ m ≤ len, tape.Covers (fun w => w.writeLengthDeterminant m) r r' := by
  obtain ⟨_, r₁, halign, hread⟩ := Tape.run_bind_eq_some.mp hread
  cases halign
  obtain ⟨b0, r₂, hb0, hread⟩ := Tape.run_bind_eq_some.mp hread
  obtain ⟨rfl, hinside₂⟩ := readBit_eq_some hb0
  have hcovers : ∀ m < 16384, r'.data = r.data →
      alignUp r.bitPos + 8 * lengthDeterminantLength m ≤ r'.bitPos →
      r'.bitPos ≤ (Bits.ofOctets r.data).length →
      tape.Covers (fun w => w.writeLengthDeterminant m) r r' := by
    intro m hm hdata hstop hinside
    refine covers_of_grows (grows_writeLengthDeterminant hm) (fun p q hle => ?_) hdata hstop
      fun _ => hinside
    exact Nat.add_le_add_right (alignUp_mono hle) _
  cases b0 with
  | false =>
      obtain ⟨rfl, hlt, hinside⟩ := readBits_eq_some hread
      refine ⟨by omega, fun m hm => hcovers m (by omega) rfl ?_ (hinside hinside₂)⟩
      rw [lengthDeterminantLength, if_pos (by omega)]
      rfl
  | true =>
      obtain ⟨b1, r₃, hb1, hread⟩ := Tape.run_bind_eq_some.mp hread
      obtain ⟨rfl, hinside₃⟩ := readBit_eq_some hb1
      cases b1 with
      | true => cases hread
      | false =>
          obtain ⟨rfl, hlt, hinside⟩ := readBits_eq_some hread
          refine ⟨hlt, fun m hm => hcovers m (by omega) rfl ?_ (hinside hinside₃)⟩
          have hle : lengthDeterminantLength m ≤ 2 := by
            unfold lengthDeterminantLength
            split <;> decide
          simp only [advance]
          omega

/-- An octet string that has been read is below 16384 octets, and no shorter one takes more
room. -/
theorem readOctetString_eq_some {data : List UInt8} {r r' : PerReader}
    (hread : readOctetString.run r = some (data, r')) :
    data.length < 16384 ∧ ∀ data' : List UInt8, data'.length ≤ data.length →
      tape.Covers (fun w => w.writeOctetString data') r r' := by
  obtain ⟨len, r₁, hlen, hdata⟩ := Tape.run_bind_eq_some.mp hread
  obtain ⟨hlt, hdeterminant⟩ := readLengthDeterminant_eq_some hlen
  obtain ⟨rfl, hoctets⟩ := readOctets_eq_some hdata
  refine ⟨hlt, fun data' hle => ?_⟩
  have hshorter : tape.Covers (fun w => some (w.writeOctets data')) r₁ r' := by
    refine hoctets.of_le fun w w₁ hput => ?_
    cases hput
    have halign : w.bits.length ≤ w.align.bits.length := by
      rw [PerWriter.align, List.length_append]
      exact Nat.le_add_right _ _
    refine ⟨w.writeOctets data', rfl, ?_⟩
    change (w.writeOctets data').bits.length ≤ (w.align.writeOctets data).bits.length
    rw [bits_writeOctets, bits_writeOctets, List.length_append, List.length_append,
      Bits.length_ofOctets, Bits.length_ofOctets]
    omega
  exact (hdeterminant data'.length hle).trans hshorter

/-! ## Finished octets -/

theorem length_align (w : PerWriter) : w.align.bits.length = alignUp w.bits.length := by
  obtain ⟨w', hput, hlength⟩ := grows_align w.bits.length w rfl
  cases hput
  exact hlength

theorem ofOctets_intoBytes (w : PerWriter) : Bits.ofOctets w.intoBytes = w.align.bits := by
  have hmod := alignUp_mod w.bits.length
  have hlength := length_align w
  exact Bits.ofOctets_pack (by omega)

/-- What a fresh writer has finished is read back by a fresh reader, which stops where the writer
stopped. -/
theorem read_intoBytes {put : PerWriter → Option PerWriter} {get : PerRead α} {a : α}
    (hundoes : tape.Undoes put get a) {w : PerWriter} (hput : put .new = some w) :
    ∃ r, get.run (.new w.intoBytes) = some (a, r) ∧ r.bitPos = w.bits.length := by
  obtain ⟨_, hreads⟩ := hundoes .new w hput
  have hahead : tape.out w <+: tape.input (.new w.intoBytes) := by
    have hinput : tape.input (.new w.intoBytes) = w.align.bits := ofOctets_intoBytes w
    rw [hinput]
    exact List.prefix_append ..
  obtain ⟨r, hget, _, hstop⟩ := hreads (.new w.intoBytes) rfl hahead
  exact ⟨r, hget, hstop⟩

theorem length_intoBytes (w : PerWriter) : w.intoBytes.length = alignUp w.bits.length / 8 := by
  rw [PerWriter.intoBytes, Bits.length_pack, length_align]

/-- What has been read from the start of some octets can be written in no more of them. -/
theorem length_intoBytes_le_of_covers {put : PerWriter → Option PerWriter} {data : List UInt8}
    {r : PerReader} (hcovers : tape.Covers put (.new data) r) :
    ∃ w, put .new = some w ∧ w.intoBytes.length ≤ data.length := by
  obtain ⟨w, hput, hstop⟩ := hcovers.room .new (le_refl _)
  have hinside := hcovers.inside (Nat.zero_le _)
  have hstop : w.bits.length ≤ (Bits.ofOctets data).length := by
    rw [hcovers.input] at hinside
    exact hstop.trans hinside
  have hmod := alignUp_mod w.bits.length
  have halign : alignUp w.bits.length ≤ alignUp (8 * data.length) := by
    rw [Bits.length_ofOctets] at hstop
    exact alignUp_mono hstop
  have hboundary := alignUp_eq_self (Nat.mul_mod_right 8 data.length)
  refine ⟨w, hput, ?_⟩
  rw [length_intoBytes]
  omega

/-- A writer that grows from nothing finishes as many octets. -/
theorem length_intoBytes_of_grows {put : PerWriter → Option PerWriter} {n : Nat}
    (hgrows : tape.Grows put 0 n) :
    ∃ w, put .new = some w ∧ w.intoBytes.length = alignUp n / 8 := by
  obtain ⟨w, hput, hlength⟩ := hgrows .new rfl
  have hlength : w.bits.length = n := hlength
  exact ⟨w, hput, by rw [length_intoBytes, hlength]⟩

end Midn.Per
