import Midn.Lib.Checked
import Midn.Proto.Per

/-!
# Aligned PER with checked accesses

The reader with every index, shift and sum checked. It runs without faults and gives what the total
reader gives, as long as its position has room for the bits that the reading may take; and what it
reads it moves over.
-/

namespace Midn.Per.Raw

open Checked

/-- A failed reading leaves its reader where it stopped. -/
abbrev CheckedRead (α : Type) := OptionT (StateT PerReader Checked) α

variable {α β : Type}

namespace CheckedRead

def exec (read : CheckedRead α) (r : PerReader) : Checked (Option α × PerReader) :=
  StateT.run (OptionT.run read) r

/-- A step that does not read. -/
def ofChecked (step : Checked α) : CheckedRead α :=
  OptionT.mk fun r => step >>= fun a => pure (some a, r)

end CheckedRead

open CheckedRead

/-- Move the position. -/
def advance (n : Nat) : CheckedRead Unit :=
  OptionT.mk fun r => do
    let bitPos ← add 64 r.bitPos n
    pure (some (), { r with bitPos := bitPos })

def readBit : CheckedRead Bool :=
  OptionT.mk fun r =>
    let byteIdx := r.bitPos / 8
    let bitIdx := r.bitPos % 8
    if r.data.length ≤ byteIdx then pure (none, r)
    else do
      let byte ← index r.data byteIdx
      let shift ← sub 7 bitIdx
      let shifted ← shiftRight 8 byte.toNat shift
      let bitPos ← add 64 r.bitPos 1
      pure (some (shifted &&& 1 = 1), { r with bitPos := bitPos })

def shiftBits : Nat → Nat → CheckedRead Nat
  | 0, v => pure v
  | n + 1, v => do
      let b ← readBit
      let shifted ← ofChecked (shiftLeft 64 v 1)
      shiftBits n (shifted ||| b.toNat)

def readBits (n : Nat) : CheckedRead Nat := shiftBits n 0

def align : CheckedRead Unit :=
  OptionT.mk fun r =>
    let rem := r.bitPos % 8
    if rem ≠ 0 then do
      let padding ← sub 8 rem
      let bitPos ← add 64 r.bitPos padding
      pure (some (), { r with bitPos := bitPos })
    else pure (some (), r)

/-- The zero bits before the first one of a 64-bit word. -/
def leadingZeros (x : Nat) : Nat := if x = 0 then 64 else 64 - (Nat.log2 x + 1)

def bitsForRange (range : Nat) : Checked Nat :=
  if range ≤ 1 then pure 0
  else do
    let top ← sub range 1
    sub 64 (leadingZeros top)

def readConstrainedInt (min max : Nat) : CheckedRead Nat := do
  let span ← ofChecked (sub max min)
  let range ← ofChecked (add 64 span 1)
  if range ≤ 1 then pure min
  else do
    let numBits ← ofChecked (bitsForRange range)
    if numBits ≤ 8 then do
      let v ← readBits numBits
      ofChecked (add 64 min v)
    else do
      align
      let rounded ← ofChecked (add 64 numBits 7)
      let numOctets := rounded / 8
      let width ← ofChecked (mul 64 numOctets 8)
      let v ← readBits width
      ofChecked (add 64 min v)

def readLengthDeterminant : CheckedRead Nat := do
  align
  let b0 ← readBit
  if !b0 then readBits 7
  else do
    let b1 ← readBit
    if b1 then failure else readBits 14

/-- An item that the reader has to move over. -/
def consuming (read : CheckedRead α) : CheckedRead α :=
  OptionT.mk fun r => do
    let (found, r') ← exec read r
    if found.isSome ∧ r'.bitPos ≤ r.bitPos then .error .stalled else pure (found, r')

/-- Read a number of items, all of which take something up. -/
def readMany (read : CheckedRead α) : Nat → CheckedRead (List α)
  | 0 => pure []
  | n + 1 => do
      let a ← consuming read
      let rest ← readMany read n
      pure (a :: rest)

def readOctets (n : Nat) : CheckedRead (List UInt8) := do
  align
  readMany (UInt8.ofNat <$> readBits 8) n

def readOctetString : CheckedRead (List UInt8) := do
  let len ← readLengthDeterminant
  readOctets len

/-- Raw octets copied into an array of their number. -/
def readArray (n : Nat) : CheckedRead (Octets n) := do
  let v ← readOctets n
  ofChecked (copyFromSlice n v)

/-! ## Running a reader -/

section Exec

variable {read : CheckedRead α} {r r' : PerReader}

theorem exec_pure (a : α) (r : PerReader) : exec (pure a) r = .ok (some a, r) := rfl

theorem exec_ofChecked {step : Checked α} {a : α} (hstep : step = .ok a) (r : PerReader) :
    exec (ofChecked step) r = .ok (some a, r) := by
  rw [hstep]
  rfl

theorem exec_bind_of_some {next : α → CheckedRead β} {a : α}
    (hread : exec read r = .ok (some a, r')) : exec (read >>= next) r = exec (next a) r' := by
  unfold exec at hread ⊢
  rw [OptionT.run_bind, Option.elimM, StateT.run_bind, hread]
  rfl

theorem exec_bind_of_none {next : α → CheckedRead β} (hread : exec read r = .ok (none, r')) :
    exec (read >>= next) r = .ok (none, r') := by
  unfold exec at hread ⊢
  rw [OptionT.run_bind, Option.elimM, StateT.run_bind, hread]
  rfl

end Exec

/-! ## Readers without faults -/

/-- From every position that has room for the bits it may take, a reading ends without a fault,
gives what the total reader gives, and what it finds has taken up some bits. -/
def Reads (read : CheckedRead α) (total : PerRead α) (found : α → Prop) (least most : Nat) : Prop :=
  ∀ r : PerReader, r.bitPos + most < 2 ^ 64 →
    ∃ res r', exec read r = .ok (res, r') ∧ total.run r = res.map (·, r') ∧
      r'.bitPos ≤ r.bitPos + most ∧ ∀ a, res = some a → found a ∧ r.bitPos + least ≤ r'.bitPos

variable {read : CheckedRead α} {total : PerRead α} {found : α → Prop} {least most : Nat}

theorem Reads.mono {found' : α → Prop} {least' most' : Nat}
    (hreads : Reads read total found least most) (hfound : ∀ a, found a → found' a)
    (hleast : least' ≤ least) (hmost : most ≤ most') : Reads read total found' least' most' := by
  intro r hroom
  obtain ⟨res, r', hexec, htotal, hbound, hsome⟩ := hreads r (by omega)
  refine ⟨res, r', hexec, htotal, by omega, ?_⟩
  intro a hres
  obtain ⟨ha, hmoved⟩ := hsome a hres
  exact ⟨hfound a ha, by omega⟩

theorem reads_pure_of {a : α} (ha : found a) : Reads (pure a) (pure a) found 0 0 := by
  intro r _
  refine ⟨some a, r, exec_pure a r, rfl, le_refl _, ?_⟩
  intro b hb
  rw [← Option.some.inj hb]
  exact ⟨ha, le_refl _⟩

theorem reads_pure (a : α) : Reads (pure a) (pure a) (fun _ => True) 0 0 := reads_pure_of trivial

/-- A step without a fault is no reading at all. -/
theorem reads_ofChecked {step : Checked α} {a : α} (hstep : step = .ok a) :
    Reads (ofChecked step) (pure a) (fun _ => True) 0 0 :=
  fun r _ => ⟨some a, r, exec_ofChecked hstep r, rfl, le_refl _, fun _ _ => ⟨trivial, le_refl _⟩⟩

theorem reads_failure (least : Nat) :
    Reads (failure : CheckedRead α) failure (fun _ => False) least 0 :=
  fun r _ => ⟨none, r, rfl, rfl, le_refl _, fun _ hnone => by cases hnone⟩

/-- One reading after the other. -/
theorem Reads.bind {next : α → CheckedRead β} {totalNext : α → PerRead β} {foundNext : β → Prop}
    {leastNext mostNext : Nat} (hreads : Reads read total found least most)
    (hnext : ∀ a, found a → Reads (next a) (totalNext a) foundNext leastNext mostNext) :
    Reads (read >>= next) (total >>= totalNext) foundNext (least + leastNext)
      (most + mostNext) := by
  intro r hroom
  obtain ⟨res, r₁, hexec, htotal, hbound, hsome⟩ := hreads r (by omega)
  cases res with
  | none =>
      refine ⟨none, r₁, exec_bind_of_none hexec, ?_, by omega, fun _ hnone => by cases hnone⟩
      rw [StateT.run_bind, htotal]
      rfl
  | some a =>
      obtain ⟨ha, hmoved⟩ := hsome a rfl
      obtain ⟨res, r₂, hexecNext, htotalNext, hboundNext, hsomeNext⟩ := hnext a ha r₁ (by omega)
      refine ⟨res, r₂, (exec_bind_of_some hexec).trans hexecNext, ?_, by omega, ?_⟩
      · rw [StateT.run_bind, htotal]
        exact htotalNext
      · intro b hres
        obtain ⟨hb, hmovedNext⟩ := hsomeNext b hres
        exact ⟨hb, by omega⟩

/-- A step without a fault changes nothing for the total reader. -/
theorem Reads.of_step {step : Checked α} {a : α} {next : α → CheckedRead β} {total : PerRead β}
    {found : β → Prop} (hstep : step = .ok a) (hnext : Reads (next a) total found least most) :
    Reads (ofChecked step >>= next) total found least most := by
  intro r hroom
  obtain ⟨res, r', hexec, hrest⟩ := hnext r hroom
  exact ⟨res, r', (exec_bind_of_some (exec_ofChecked hstep r)).trans hexec, hrest⟩

theorem Reads.map (f : α → β) (hreads : Reads read total found least most) :
    Reads (f <$> read) (f <$> total) (fun _ => True) least most := by
  have hboth := hreads.bind fun a _ => reads_pure (f a)
  rwa [bind_pure_comp, bind_pure_comp, Nat.add_zero, Nat.add_zero] at hboth

/-- What holds of everything that the total reader gives holds of what is found. -/
theorem Reads.of_total {found' : α → Prop} (hreads : Reads read total found least most)
    (htotal : ∀ r a r', total.run r = some (a, r') → found' a) :
    Reads read total found' least most := by
  intro r hroom
  obtain ⟨res, r', hexec, hrun, hbound, hsome⟩ := hreads r hroom
  refine ⟨res, r', hexec, hrun, hbound, ?_⟩
  intro a hres
  rw [hres] at hrun
  exact ⟨htotal r a r' hrun, (hsome a hres).2⟩

/-! ## Bits -/

theorem reads_readBit : Reads readBit PerReader.readBit (fun _ => True) 1 1 := by
  intro r hroom
  have htotal : PerReader.readBit.run r = (r.data[r.bitPos / 8]?).map fun byte =>
      (byte.toNat.testBit (7 - r.bitPos % 8), r.advance 1) := rfl
  have hbit : r.bitPos % 8 < 8 := Nat.mod_lt _ (by decide)
  by_cases hend : r.data.length ≤ r.bitPos / 8
  · refine ⟨none, r, if_pos hend, ?_, by omega, fun _ hnone => by cases hnone⟩
    rw [htotal, List.getElem?_eq_none hend]
    rfl
  · have hinside : r.bitPos / 8 < r.data.length := Nat.lt_of_not_le hend
    refine ⟨some (r.data[r.bitPos / 8].toNat.testBit (7 - r.bitPos % 8)), r.advance 1, ?_, ?_,
      le_refl _, fun _ _ => ⟨trivial, le_refl _⟩⟩
    · have hexec : exec readBit r = (do
          let byte ← index r.data (r.bitPos / 8)
          let shift ← sub 7 (r.bitPos % 8)
          let shifted ← shiftRight 8 byte.toNat shift
          let bitPos ← add 64 r.bitPos 1
          pure (some (decide (shifted &&& 1 = 1)), { r with bitPos := bitPos })) := if_neg hend
      rw [hexec, index_eq_ok hinside, ok_bind, sub_eq_ok (by omega), ok_bind,
        shiftRight_eq_ok (by omega), ok_bind, add_eq_ok (by omega), ok_bind]
      have hvalue : decide (r.data[r.bitPos / 8].toNat >>> (7 - r.bitPos % 8) &&& 1 = 1) =
          r.data[r.bitPos / 8].toNat.testBit (7 - r.bitPos % 8) := by
        rw [Nat.testBit, Nat.one_and_eq_mod_two, Nat.and_one_is_mod]
        rcases Nat.mod_two_eq_zero_or_one
          (r.data[r.bitPos / 8].toNat >>> (7 - r.bitPos % 8)) with hzero | hone
        · rw [hzero]
          rfl
        · rw [hone]
          rfl
      rw [hvalue]
      rfl
    · rw [htotal, List.getElem?_eq_getElem hinside]
      rfl

/-- Bits are shifted out of a full word without a fault. -/
theorem reads_shiftBits (n v : Nat) :
    Reads (shiftBits n v) (PerReader.shiftBits n v) (fun _ => True) n n := by
  induction n generalizing v with
  | zero => exact reads_pure v
  | succ n ih =>
      have hrest : ∀ b : Bool, Reads
          (ofChecked (shiftLeft 64 v 1) >>= fun shifted => shiftBits n (shifted ||| b.toNat))
          (PerReader.shiftBits n (((v <<< 1) ||| b.toNat) % 2 ^ 64)) (fun _ => True) n n := by
        intro b
        have hb : b.toNat % 2 ^ 64 = b.toNat := by cases b <;> rfl
        have hpush : ((v <<< 1) ||| b.toNat) % 2 ^ 64 = (v <<< 1) % 2 ^ 64 ||| b.toNat := by
          rw [Nat.or_mod_two_pow, hb]
        rw [hpush]
        exact .of_step (shiftLeft_eq_ok (by decide)) (ih _)
      have hboth := reads_readBit.bind fun b _ => hrest b
      exact hboth.mono (fun _ _ => trivial) (by omega) (by omega)

theorem reads_readBits (n : Nat) :
    Reads (readBits n) (PerReader.readBits n) (· < 2 ^ n) n n :=
  (reads_shiftBits n 0).of_total fun _ _ _ hread => (readBits_eq_some hread).2.1

/-- At most seven bits are passed over. -/
theorem reads_align : Reads align PerReader.align (fun _ => True) 0 7 := by
  intro r hroom
  have hrem : r.bitPos % 8 < 8 := Nat.mod_lt _ (by decide)
  have htotal : PerReader.align.run r = some ((), { r with bitPos := alignUp r.bitPos }) := rfl
  by_cases haligned : r.bitPos % 8 ≠ 0
  · have hexec : exec align r = (do
        let padding ← sub 8 (r.bitPos % 8)
        let bitPos ← add 64 r.bitPos padding
        pure (some (), { r with bitPos := bitPos })) := if_pos haligned
    have hup : alignUp r.bitPos = r.bitPos + (8 - r.bitPos % 8) := if_pos haligned
    refine ⟨some (), { r with bitPos := r.bitPos + (8 - r.bitPos % 8) }, ?_, ?_, ?_, ?_⟩
    · rw [hexec, sub_eq_ok (by omega), ok_bind, add_eq_ok (by omega), ok_bind, pure_eq_ok]
    · rw [htotal, hup]
      rfl
    · change r.bitPos + (8 - r.bitPos % 8) ≤ r.bitPos + 7
      omega
    · intro _ _
      exact ⟨trivial, Nat.le_add_right ..⟩
  · refine ⟨some (), r, if_neg haligned, ?_, Nat.le_add_right .., fun _ _ => ⟨trivial, le_refl _⟩⟩
    rw [htotal, alignUp_eq_self (not_not.mp haligned)]
    rfl

/-! ## Numbers -/

theorem bitsForRange_eq_ok {range : Nat} (hword : range < 2 ^ 64) :
    bitsForRange range = .ok (Per.bitsForRange range) := by
  rw [bitsForRange, Per.bitsForRange]
  by_cases hone : range ≤ 1
  · rw [if_pos hone, if_pos hone, pure_eq_ok]
  · have htop : range - 1 ≠ 0 := by omega
    have hlog : Nat.log2 (range - 1) < 64 := (Nat.log2_lt htop).mpr (by omega)
    rw [if_neg hone, if_neg hone, sub_eq_ok (by omega), ok_bind, leadingZeros, if_neg htop,
      sub_eq_ok (by omega)]
    congr 1
    omega

/-- A value of at most 64 bits is added to zero. -/
theorem reads_value {n : Nat} (hn : n ≤ 64) :
    Reads (readBits n >>= fun v => ofChecked (add 64 0 v))
      (PerReader.readBits n >>= fun v => pure ((0 + v) % 2 ^ 64)) (fun _ => True) n n := by
  have hadd : ∀ v, v < 2 ^ n → Reads (ofChecked (add 64 0 v)) (pure ((0 + v) % 2 ^ 64))
      (fun _ => True) 0 0 := by
    intro v hv
    have hword : 0 + v < 2 ^ 64 := by
      rw [Nat.zero_add]
      exact lt_of_lt_of_le hv (Nat.pow_le_pow_right Nat.two_pos hn)
    rw [Nat.mod_eq_of_lt hword]
    exact reads_ofChecked (add_eq_ok hword)
  exact (reads_readBits n).bind hadd

/-- A number up to a maximum takes up one bit at least, and with its padding 71 at most. -/
theorem reads_upTo {max : Nat} (hpos : 0 < max) (hmax : max < 2 ^ 64 - 1) :
    Reads (readConstrainedInt 0 max) (PerReader.readConstrainedInt 0 max) (fun _ => True) 1 71 := by
  have hword : max - 0 + 1 < 2 ^ 64 := by omega
  have hmore : ¬ max - 0 + 1 ≤ 1 := by omega
  have hbits := (bitsForRange_spec hword).1
  have hsome : 0 < Per.bitsForRange (max - 0 + 1) := by
    rw [Per.bitsForRange, if_neg hmore]
    exact Nat.succ_pos _
  rw [readConstrainedInt, PerReader.readConstrainedInt]
  simp only [Nat.mod_eq_of_lt hword]
  refine .of_step (sub_eq_ok (Nat.zero_le max)) (.of_step (add_eq_ok hword) ?_)
  rw [if_neg hmore, if_neg hmore]
  refine .of_step (bitsForRange_eq_ok hword) ?_
  by_cases hsmall : Per.bitsForRange (max - 0 + 1) ≤ 8
  · rw [if_pos hsmall, if_pos hsmall]
    exact (reads_value hbits).mono (fun _ _ => trivial) hsome (by omega)
  · rw [if_neg hsmall, if_neg hsmall]
    have hrounded : Per.bitsForRange (max - 0 + 1) + 7 < 2 ^ 64 := by omega
    have hwidth : (Per.bitsForRange (max - 0 + 1) + 7) / 8 * 8 ≤ 64 := by omega
    have hproduct : (Per.bitsForRange (max - 0 + 1) + 7) / 8 * 8 < 2 ^ 64 := by omega
    have hoctets : Reads (do
          let rounded ← ofChecked (add 64 (Per.bitsForRange (max - 0 + 1)) 7)
          let width ← ofChecked (mul 64 (rounded / 8) 8)
          let v ← readBits width
          ofChecked (add 64 0 v))
        (PerReader.readBits ((Per.bitsForRange (max - 0 + 1) + 7) / 8 * 8) >>=
          fun v => pure ((0 + v) % 2 ^ 64)) (fun _ => True) _ _ :=
      .of_step (add_eq_ok hrounded) (.of_step (mul_eq_ok hproduct) (reads_value hwidth))
    exact (reads_align.bind fun _ _ => hoctets).mono (fun _ _ => trivial) (by omega) (by omega)

/-- A length is at most 16383, and with its padding it takes up 23 bits at most. -/
theorem reads_lengthDeterminant :
    Reads readLengthDeterminant PerReader.readLengthDeterminant (· < 16384) 1 23 := by
  have hlong : ∀ b1 : Bool, Reads (if b1 then failure else readBits 14)
      (if b1 then failure else PerReader.readBits 14) (fun _ => True) 14 14 := by
    intro b1
    cases b1 with
    | false => exact (reads_readBits 14).mono (fun _ _ => trivial) (le_refl _) (le_refl _)
    | true => exact (reads_failure 14).mono (fun _ _ => trivial) (le_refl _) (by decide)
  have hrest : ∀ b0 : Bool, Reads
      (if !b0 then readBits 7 else do
        let b1 ← readBit
        if b1 then failure else readBits 14)
      (if !b0 then PerReader.readBits 7 else do
        let b1 ← PerReader.readBit
        if b1 then failure else PerReader.readBits 14) (fun _ => True) 7 15 := by
    intro b0
    cases b0 with
    | false => exact (reads_readBits 7).mono (fun _ _ => trivial) (le_refl _) (by decide)
    | true =>
        exact (reads_readBit.bind fun b1 _ => hlong b1).mono (fun _ h => h) (by decide) (by decide)
  have hall := reads_align.bind fun _ _ => reads_readBit.bind fun b0 _ => hrest b0
  exact (hall.mono (fun _ h => h) (by decide) (by decide)).of_total
    fun _ _ _ hread => (readLengthDeterminant_eq_some hread).1

/-! ## Lists and octets -/

/-- A reading that takes something up never stalls. -/
theorem Reads.consuming (hreads : Reads read total found least most) (hleast : 0 < least) :
    Reads (consuming read) total found least most := by
  intro r hroom
  obtain ⟨res, r', hexec, hrest⟩ := hreads r hroom
  refine ⟨res, r', ?_, hrest⟩
  have hmoves : ¬ (res.isSome ∧ r'.bitPos ≤ r.bitPos) := by
    intro hstalled
    obtain ⟨a, hres⟩ := Option.isSome_iff_exists.mp hstalled.1
    have hmoved := (hrest.2.2 a hres).2
    omega
  have hrun : exec (Raw.consuming read) r = exec read r >>= fun found =>
      if found.1.isSome ∧ found.2.bitPos ≤ r.bitPos then .error .stalled
      else .ok (found.1, found.2) := rfl
  rw [hrun, hexec, ok_bind, if_neg hmoves]

theorem Reads.readMany (hreads : Reads read total found least most) (hleast : 0 < least)
    (n : Nat) :
    Reads (readMany read n) (Tape.readMany total n) (fun items => items.length = n) 0
      (n * most) := by
  induction n with
  | zero =>
      have hnil : Reads (pure ([] : List α)) (pure []) (fun items => items.length = 0) 0 0 :=
        reads_pure_of List.length_nil
      exact hnil.mono (fun _ h => h) (le_refl _) (Nat.zero_le _)
  | succ n ih =>
      have hcons : ∀ (a : α) (rest : List α), rest.length = n →
          Reads (pure (a :: rest)) (pure (a :: rest)) (fun items => items.length = n + 1) 0 0 :=
        fun a rest hrest => reads_pure_of (congrArg Nat.succ hrest)
      have hall := (hreads.consuming hleast).bind fun a _ =>
        ih.bind fun rest hrest => hcons a rest hrest
      have hmost : most + (n * most + 0) ≤ (n + 1) * most := by
        rw [Nat.succ_mul]
        omega
      exact hall.mono (fun _ h => h) (Nat.zero_le _) hmost

theorem reads_readOctets (n : Nat) :
    Reads (readOctets n) (PerReader.readOctets n) (fun data => data.length = n) 0 (7 + 8 * n) := by
  have hoctet := (reads_readBits 8).map UInt8.ofNat
  have hall := reads_align.bind fun _ _ => hoctet.readMany (by decide) n
  exact hall.mono (fun _ h => h) (by decide) (by omega)

/-- The bits that an octet string of the greatest length takes up with its padding. -/
def octetStringMost : Nat := 23 + (7 + 8 * 16383)

theorem reads_readOctetString :
    Reads readOctetString PerReader.readOctetString (fun _ => True) 1 octetStringMost := by
  have hoctets : ∀ len, len < 16384 →
      Reads (readOctets len) (PerReader.readOctets len) (fun _ => True) 0 (7 + 8 * 16383) :=
    fun len hlen => (reads_readOctets len).mono (fun _ _ => trivial) (le_refl _) (by omega)
  exact reads_lengthDeterminant.bind hoctets

/-- As many octets are copied as have been read. -/
theorem reads_readArray (n : Nat) :
    Reads (readArray n) (PerReader.readArray n) (fun _ => True) 0 (7 + 8 * n) := by
  refine (reads_readOctets n).bind fun v hlength => (?_ : Reads _ _ (fun _ => True) 0 0)
  have hslice : Octets.ofSlice? n v = some ⟨v, hlength⟩ := dif_pos hlength
  rw [hslice]
  exact reads_ofChecked (copyFromSlice_eq_ok hlength)

end Midn.Per.Raw
