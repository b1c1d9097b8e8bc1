import Midn.Proto.Container

/-!
# Values of elements

The kinds of values that S1AP and NGAP elements have: numbers up to a largest one, octet strings,
arrays of raw octets, bit rates, and lists. Each is carried to the decoder, takes up a number of
octets, and can be written again in the octets it was read from.
-/

namespace Midn.Container

open Midn.Per Midn.Per.PerReader

variable {α γ : Type}

section FreshWriter

variable {put put' : PerWriter → Option PerWriter} (hfresh : put .new = put' .new)
include hfresh

theorem Carries.of_fresh {read : PerRead α} {a : α} (hcarries : Carries put read a) :
    Carries put' read a :=
  fun w hput => hcarries w (hfresh.trans hput)

theorem Fills.of_fresh {n : Nat} (hfills : Fills put n) : Fills put' n := by
  obtain ⟨w, hput, hlength⟩ := hfills
  exact ⟨w, hfresh.symm.trans hput, hlength⟩

theorem Refits.of_fresh {value : List UInt8} (hrefits : Refits put value) :
    Refits put' value := by
  obtain ⟨n, hfills, hle⟩ := hrefits
  exact ⟨n, hfills.of_fresh hfresh, hle⟩

end FreshWriter

/-! ## Numbers -/

section Numbers

variable {max : Nat} (hmax : max < 2 ^ 64 - 1)
include hmax

/-- A number of a machine word is read back as the word. -/
theorem carries_number (cast : Nat → α) {v : Nat} {a : α} (hcast : cast v = a) :
    Carries (fun w => w.writeConstrainedInt v 0 max) (cast <$> readConstrainedInt 0 max) a := by
  have hread := carries_of_undoes ((undoes_writeUpTo v max hmax).map cast)
  rwa [hcast] at hread

theorem fills_number {v : Nat} (hv : v ≤ max) :
    Fills (fun w => w.writeConstrainedInt v 0 max) (alignUp (constrainedEnd 0 max 0) / 8) :=
  fills_of_grows (grows_writeUpTo hmax hv 0)

/-- A word that was read is in the range, if the range is all the values of its bits. -/
theorem refits_number (hwhole : 2 ^ constrainedWidth 0 max = max + 1) {cast : Nat → α}
    {toNat : α → Nat} (hle : ∀ v, toNat (cast v) ≤ v) {value : List UInt8} {a : α}
    (hread : parse (cast <$> readConstrainedInt 0 max) value = some a) :
    toNat a ≤ max ∧ Refits (fun w => w.writeConstrainedInt (toNat a) 0 max) value := by
  obtain ⟨r, hread⟩ := parse_eq_some.mp hread
  obtain ⟨v, hnumber, rfl⟩ := Tape.run_map_eq_some.mp hread
  obtain ⟨hlt, hcovers⟩ := readUpTo_eq_some hmax hnumber
  have hrange : toNat (cast v) ≤ max := by
    have hv := hle v
    omega
  exact ⟨hrange, refits_of_covers (hcovers _ hrange)⟩

end Numbers

theorem toNat_ofNat_le32 (v : Nat) : (UInt32.ofNat v).toNat ≤ v := Nat.mod_le v _

theorem toNat_ofNat_le8 (v : Nat) : (UInt8.ofNat v).toNat ≤ v := Nat.mod_le v _

/-! ## Octet strings and arrays -/

theorem carries_octetString (data : List UInt8) :
    Carries (fun w => w.writeOctetString data) readOctetString data :=
  carries_of_undoes (undoes_writeOctetString data)

theorem fills_octetString {data : List UInt8} (hlen : data.length < 16384) :
    Fills (fun w => w.writeOctetString data) (octetStringLength data.length) := by
  have hfills := fills_of_grows (grows_writeOctetString hlen 0)
  rwa [alignUp_eq_self (Nat.zero_mod 8), Nat.zero_add, alignUp_eq_self (Nat.mul_mod_right 8 _),
    Nat.mul_div_cancel_left _ (by decide)] at hfills

theorem refits_octetString {data value : List UInt8}
    (hread : parse readOctetString value = some data) :
    Refits (fun w => w.writeOctetString data) value := by
  obtain ⟨r, hread⟩ := parse_eq_some.mp hread
  exact refits_of_covers ((readOctetString_eq_some hread).2 data (le_refl _))

section Arrays

variable {n k : Nat}

/-- A fresh writer is on a boundary. -/
theorem align_new : PerWriter.new.align = .new := align_eq_self (Nat.zero_mod 8)

theorem grows_align_writeOctets (data : List UInt8) (p : Nat) :
    tape.Grows (fun w => some (w.align.writeOctets data)) p (alignUp p + 8 * data.length) := by
  have hboth := (grows_align p).bind (grows_writeOctets data _)
  exact hboth

theorem carries_array (a : Octets n) :
    Carries (fun w => some (w.writeOctets a.toList)) (readArray n) a := by
  have hfresh : some (PerWriter.new.align.writeOctets a.toList) =
      some (PerWriter.new.writeOctets a.toList) := by
    rw [align_new]
  exact (carries_of_undoes (undoes_align_writeArray a)).of_fresh hfresh

theorem fills_array (a : Octets n) : Fills (fun w => some (w.writeOctets a.toList)) n := by
  have hfills := fills_of_grows (grows_writeOctets a.toList 0)
  rwa [Octets.length_toList, Nat.zero_add, alignUp_eq_self (Nat.mul_mod_right 8 _),
    Nat.mul_div_cancel_left _ (by decide)] at hfills

theorem refits_array {a : Octets n} {value : List UInt8}
    (hread : parse (readArray n) value = some a) :
    Refits (fun w => some (w.writeOctets a.toList)) value := by
  have hfresh : some (PerWriter.new.align.writeOctets a.toList) =
      some (PerWriter.new.writeOctets a.toList) := by
    rw [align_new]
  obtain ⟨r, hread⟩ := parse_eq_some.mp hread
  have hrefits : Refits (fun w => some (w.align.writeOctets a.toList)) value :=
    refits_of_covers (readArray_eq_some hread)
  exact hrefits.of_fresh hfresh

/-- Raw octets after raw octets are on a boundary. -/
theorem writeOctets_align (w : PerWriter) (data : List UInt8) :
    (w.align.writeOctets data).align = w.align.writeOctets data := by
  refine align_eq_self ?_
  have hmod := alignUp_mod w.bits.length
  rw [bits_writeOctets, List.length_append, length_align, Bits.length_ofOctets]
  omega

/-- Two arrays in a row are read back, whatever is made of them. -/
theorem undoes_writeArrays (a : Octets n) (b : Octets k) (f : Octets n → Octets k → γ) :
    tape.Undoes (fun w => some ((w.align.writeOctets a.toList).writeOctets b.toList))
      (readArray n >>= fun a => readArray k >>= fun b => pure (f a b)) (f a b) := by
  have hread := (undoes_align_writeArray a).bind (fun a => readArray k >>= fun b => pure (f a b))
    ((undoes_align_writeArray b).bind_pure (f a))
  simp only [Option.bind_eq_bind, Option.bind_some, writeOctets_align] at hread
  exact hread

theorem grows_writeArrays (a : Octets n) (b : Octets k) (p : Nat) :
    tape.Grows (fun w => some ((w.align.writeOctets a.toList).writeOctets b.toList)) p
      (alignUp p + 8 * (n + k)) := by
  have hboth := (grows_align_writeOctets a.toList p).bind (grows_writeOctets b.toList _)
  rw [Octets.length_toList, Octets.length_toList, Nat.add_assoc, ← Nat.mul_add] at hboth
  exact hboth

theorem covers_readArrays {f : Octets n → Octets k → γ} {c : γ} {r r' : PerReader}
    (hread : (readArray n >>= fun a => readArray k >>= fun b => pure (f a b)).run r =
      some (c, r')) :
    ∃ a b, c = f a b ∧ tape.Covers
      (fun w => some ((w.align.writeOctets a.toList).writeOctets b.toList)) r r' := by
  obtain ⟨a, r₁, ha, hread⟩ := Tape.run_bind_eq_some.mp hread
  obtain ⟨b, r₂, hb, hread⟩ := Tape.run_bind_eq_some.mp hread
  obtain ⟨rfl, rfl⟩ := Tape.run_pure_eq_some.mp hread
  have hboth := (readArray_eq_some ha).trans (readArray_eq_some hb)
  simp only [Option.bind_eq_bind, Option.bind_some, writeOctets_align] at hboth
  exact ⟨a, b, rfl, hboth⟩

end Arrays

/-! ## Bit rates -/

/-- The two bit rates of an element, downlink and uplink. -/
def writeBitRates (max : Nat) (rates : UInt64 × UInt64) (w : PerWriter) : Option PerWriter := do
  let w ← w.writeConstrainedInt rates.1.toNat 0 max
  w.writeConstrainedInt rates.2.toNat 0 max

def readBitRates (max : Nat) : PerRead (UInt64 × UInt64) := do
  let dl ← readConstrainedInt 0 max
  let ul ← readConstrainedInt 0 max
  pure (.ofNat dl, .ofNat ul)

section BitRates

variable {max : Nat} (hmax : max < 2 ^ 64 - 1)
include hmax

theorem carries_bitRates (rates : UInt64 × UInt64) :
    Carries (writeBitRates max rates) (readBitRates max) rates := by
  let afterDl (dl : Nat) : PerRead (UInt64 × UInt64) :=
    readConstrainedInt 0 max >>= fun ul => pure (.ofNat dl, .ofNat ul)
  have hul : tape.Undoes (fun w => w.writeConstrainedInt rates.2.toNat 0 max)
      (afterDl rates.1.toNat) rates := by
    have hread := (undoes_writeUpTo rates.2.toNat max hmax).bind_pure
      fun ul => (rates.1, UInt64.ofNat ul)
    rw [UInt64.ofNat_toNat] at hread
    simp only [afterDl, UInt64.ofNat_toNat]
    exact hread
  have hdl := (undoes_writeUpTo rates.1.toNat max hmax).bind afterDl hul
  exact carries_of_undoes hdl

theorem fills_bitRates {rates : UInt64 × UInt64} (hdl : rates.1.toNat ≤ max)
    (hul : rates.2.toNat ≤ max) :
    Fills (writeBitRates max rates)
      (alignUp (constrainedEnd 0 max (constrainedEnd 0 max 0)) / 8) := by
  have hboth := (grows_writeUpTo hmax hdl 0).bind (grows_writeUpTo hmax hul _)
  exact fills_of_grows hboth

/-- Bit rates that were read can be written again if they are in the range. -/
theorem refits_bitRates {rates : UInt64 × UInt64} {value : List UInt8}
    (hread : parse (readBitRates max) value = some rates) (hdl : rates.1.toNat ≤ max)
    (hul : rates.2.toNat ≤ max) : Refits (writeBitRates max rates) value := by
  obtain ⟨r, hread⟩ := parse_eq_some.mp hread
  obtain ⟨dl, r₁, hdlRead, hread⟩ := Tape.run_bind_eq_some.mp hread
  obtain ⟨ul, r₂, hulRead, hread⟩ := Tape.run_bind_eq_some.mp hread
  obtain ⟨-, rfl⟩ := Tape.run_pure_eq_some.mp hread
  obtain ⟨_, hdlCovers⟩ := readUpTo_eq_some hmax hdlRead
  obtain ⟨_, hulCovers⟩ := readUpTo_eq_some hmax hulRead
  exact refits_of_covers ((hdlCovers _ hdl).trans (hulCovers _ hul))

end BitRates

/-! ## Lists -/

section Lists

variable {put : PerWriter → α → Option PerWriter} {get : PerRead α} {items : List α}

theorem carries_list (hundoes : ∀ a ∈ items, tape.Undoes (put · a) get a) :
    Carries (fun w => writeList put w items) (readList get) items :=
  carries_of_undoes (undoes_writeList hundoes)

/-- Items of so many bits each, from positions where an item can start. -/
theorem fills_list {bits : Nat} {start : Nat → Prop} (hlen : items.length < 16384)
    (hgrows : ∀ a ∈ items, ∀ p, start p → tape.Grows (put · a) p (p + bits) ∧ start (p + bits))
    (hstart : ∀ p, p % 8 = 0 → start p) :
    Fills (fun w => writeList put w items)
      (lengthDeterminantLength items.length + (items.length * bits + 7) / 8) := by
  have hlist : tape.Grows (fun w => writeList put w items) 0
      (alignUp 0 + 8 * lengthDeterminantLength items.length + (items.map fun _ => bits).sum) :=
    grows_writeList hlen hgrows hstart 0
  have hfills := fills_of_grows hlist
  rw [List.map_const', List.sum_replicate_nat, alignUp_eq_self (Nat.zero_mod 8),
    Nat.zero_add] at hfills
  have hoctets : alignUp (8 * lengthDeterminantLength items.length + items.length * bits) / 8 =
      lengthDeterminantLength items.length + (items.length * bits + 7) / 8 := by
    unfold alignUp
    split <;> omega
  rwa [hoctets] at hfills

theorem refits_list (hcovers : ∀ r a r', get.run r = some (a, r') → tape.Covers (put · a) r r')
    {value : List UInt8} (hread : parse (readList get) value = some items) :
    Refits (fun w => writeList put w items) value := by
  obtain ⟨r, hread⟩ := parse_eq_some.mp hread
  exact refits_of_covers (covers_readList hcovers hread).2

end Lists

/-! ## Laws of elements -/

/-- An element of a message: its value is carried to the decoder, and takes up a number of octets
if it is in its range. -/
structure ElementLaws (ie : α → Ie) (read : PerRead α) (InRange : α → Prop) (size : α → Nat) :
    Prop where
  carries : ∀ a, Carries (ie a).put read a
  fits : ∀ a, InRange a → (ie a).Fits (size a)

section Decoded

variable {ie : α → Ie} {read : PerRead α} {InRange : α → Prop} {size : α → Nat} {ies : List Ie}
  {entries : List IeEntry} (laws : ElementLaws ie read InRange size)
  (hencode : List.Forall₂ (fun ie entry => ie.encode = some entry) ies entries)
  (hnodup : (ies.map fun ie => ie.id).Nodup)
include laws hencode hnodup

theorem ElementLaws.assigned_eq {a : α} (hmem : ie a ∈ ies) :
    assigned read entries (ie a).id = some a :=
  assigned_of_carries hencode hnodup hmem (laws.carries a)

theorem ElementLaws.assignedIfRead_eq {a : α} (hmem : ie a ∈ ies) (init : γ) (found : α → γ) :
    assignedIfRead read init found entries (ie a).id = found a :=
  assignedIfRead_of_carries hencode hnodup hmem (laws.carries a) init found

omit laws in
/-- A list is read back, also when its element is left out. -/
theorem ElementLaws.unlessEmpty_eq {ie : List α → Ie} {read : PerRead (List α)}
    {InRange : List α → Prop} {size : List α → Nat} (laws : ElementLaws ie read InRange size)
    {items : List α} (hmem : ∀ ie' ∈ unlessEmpty items (ie items), ie' ∈ ies)
    (hout : items = [] → (ie items).id ∉ ies.map fun ie => ie.id) :
    assignedIfRead read [] id entries (ie items).id = items :=
  assignedIfRead_unlessEmpty hencode hnodup (laws.carries items) hmem hout

end Decoded

/-- Elements one after the other fit if each of them does. -/
theorem fits_append {ies ies' : List Ie} {lengths lengths' : List Nat}
    (hfits : List.Forall₂ Ie.Fits ies lengths) (hfits' : List.Forall₂ Ie.Fits ies' lengths') :
    List.Forall₂ Ie.Fits (ies ++ ies') (lengths ++ lengths') :=
  List.rel_append hfits hfits'

theorem fits_unlessEmpty {items : List α} {ie : Ie} {n : Nat} (hfits : items ≠ [] → ie.Fits n) :
    List.Forall₂ Ie.Fits (unlessEmpty items ie) (if items.isEmpty then [] else [n]) := by
  unfold unlessEmpty
  by_cases hempty : items = []
  · rw [hempty]
    exact .nil
  · have hsome : ¬ items.isEmpty = true := fun h => hempty (List.isEmpty_iff.mp h)
    rw [if_neg hsome, if_neg hsome]
    exact .cons (hfits hempty) .nil

/-! ## Elements that were decoded -/

section RefitsIn

variable {ie : Ie} {read : PerRead α} {entries : List IeEntry}
  (hcriticality : ie.criticality.toNat ≤ 2)
include hcriticality

/-- The element of a variable can be put in place of the entry the variable was assigned from. -/
theorem refitsIn_of_assigned {a : α} (hassigned : assigned read entries ie.id = some a)
    (hrefits : ∀ value, parse read value = some a → Refits ie.put value) :
    ie.RefitsIn entries := by
  obtain ⟨e, hmem, hid, hparse⟩ := assigned_eq_some hassigned
  exact ⟨hcriticality, e, hmem, hid, hrefits e.value hparse⟩

theorem refitsIn_of_assignedIfRead {a : α}
    (hassigned : assignedIfRead read none some entries ie.id = some a)
    (hrefits : ∀ value, parse read value = some a → Refits ie.put value) :
    ie.RefitsIn entries := by
  rcases assignedIfRead_cases read none some entries ie.id with hnone | hsome
  · rw [hassigned] at hnone
    cases hnone
  · obtain ⟨e, hmem, hid, a', hparse, hfound⟩ := hsome
    obtain rfl : a = a' := Option.some.inj (hassigned.symm.trans hfound)
    exact ⟨hcriticality, e, hmem, hid, hrefits e.value hparse⟩

theorem refitsIn_unlessEmpty {items : List α} {read : PerRead (List α)}
    (hassigned : assignedIfRead read [] id entries ie.id = items)
    (hrefits : ∀ value, parse read value = some items → Refits ie.put value) :
    ∀ ie' ∈ unlessEmpty items ie, ie'.RefitsIn entries := by
  intro ie' hmem
  unfold unlessEmpty at hmem
  split at hmem
  next => exact absurd hmem List.not_mem_nil
  next hsome =>
    obtain rfl := List.mem_singleton.mp hmem
    rcases assignedIfRead_cases read [] id entries ie'.id with hnone | hfound
    · rw [← hassigned, hnone] at hsome
      exact absurd rfl hsome
    · obtain ⟨e, hentry, hid, items', hparse, hitems⟩ := hfound
      obtain rfl : items = items' := hassigned.symm.trans hitems
      exact ⟨hcriticality, e, hentry, hid, hrefits e.value hparse⟩

end RefitsIn

end Midn.Container
