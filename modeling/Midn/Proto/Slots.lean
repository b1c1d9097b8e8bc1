import Midn.Proto.Container

/-!
# Slots of a decoder

A decoder keeps one variable for each kind of element it knows, and assigns it from the elements of
one id. Which elements are lost on the way, and what a message owes to the order of its elements,
depends on how these slots are filled.
-/

namespace Midn.Container

open Midn.Per

variable {α β μ : Type}

/-- The values of the elements of one id, in the order of the container. -/
def valuesOf (entries : List IeEntry) (id : UInt32) : List (List UInt8) :=
  (entries.filter fun e => e.id = id).map fun e => e.value

/-- A PDU without its criticalities: the choice, the procedure code and the elements. -/
def containerOf (buf : List UInt8) : Option (Nat × UInt32 × List IeEntry) := do
  let (choice, procCode, _, value) ← decodePduWrapper buf
  let entries ← parse readIeContainer value
  pure (choice, procCode, entries)

deriving instance DecidableEq for IeEntry

/-- One variable of a decoder: the id of the elements it is assigned from, how their values are
read, whether a message without it is refused, and the field of the message it becomes. -/
structure Slot (μ : Type) where
  id : UInt32
  {γ : Type}
  read : PerRead γ
  mandatory : Bool
  field : μ → Option γ

/-- How a slot comes by its field: the last element of its id is taken if it can be read, and a
mandatory slot has an element that can. -/
structure Slot.Filled (slot : Slot μ) (entries : List IeEntry) (msg : μ) : Prop where
  last : ∀ value ∈ (valuesOf entries slot.id).getLast?, (parse slot.read value).isSome →
    slot.field msg = parse slot.read value
  found : slot.mandatory = true → ∃ value ∈ valuesOf entries slot.id, (parse slot.read value).isSome

/-- A decoder has filled all of its slots. -/
def AllFilled (slots : List (Slot μ)) (entries : List IeEntry) (msg : μ) : Prop :=
  ∀ slot ∈ slots, slot.Filled entries msg

theorem containerOf_eq_some_iff {buf : List UInt8} {choice : Nat} {procCode : UInt32}
    {entries : List IeEntry} :
    containerOf buf = some (choice, procCode, entries) ↔ ∃ criticality value,
      decodePduWrapper buf = some (choice, procCode, criticality, value) ∧
        parse readIeContainer value = some entries := by
  simp only [containerOf, Option.bind_eq_bind, Option.bind_eq_some_iff, Option.pure_def,
    Option.some.injEq, Prod.mk.injEq, Prod.exists]
  constructor
  · rintro ⟨_, _, criticality, value, hwrapper, _, hcontainer, rfl, rfl, rfl⟩
    exact ⟨criticality, value, hwrapper, hcontainer⟩
  · rintro ⟨criticality, value, hwrapper, hcontainer⟩
    exact ⟨_, _, criticality, value, hwrapper, _, hcontainer, rfl, rfl, rfl⟩

/-! ## Variables and the values they are assigned from -/

section Values

variable {step : β → List UInt8 → β} {init : β} {entries entries' : List IeEntry} {id : UInt32}

theorem assignedBy_eq_foldl :
    assignedBy step init entries id = (valuesOf entries id).foldl step init := by
  induction entries generalizing init with
  | nil => rfl
  | cons e entries ih =>
      rw [assignedBy, List.foldl_cons]
      by_cases hid : e.id = id
      · rw [if_pos hid, valuesOf, List.filter_cons_of_pos (by simpa using hid)]
        exact ih
      · rw [if_neg hid, valuesOf, List.filter_cons_of_neg (by simpa using hid)]
        exact ih

/-- The last value of an id is assigned last. -/
theorem assignedBy_of_getLast? (step : β → List UInt8 → β) (init : β) {value : List UInt8}
    (hlast : value ∈ (valuesOf entries id).getLast?) :
    ∃ before, assignedBy step init entries id = step before value := by
  obtain ⟨earlier, hvalues⟩ := List.getLast?_eq_some_iff.mp hlast
  rw [assignedBy_eq_foldl, hvalues, List.foldl_append]
  exact ⟨_, rfl⟩

theorem mem_valuesOf {value : List UInt8} :
    value ∈ valuesOf entries id ↔ ∃ e ∈ entries, e.id = id ∧ e.value = value := by
  simp only [valuesOf, List.mem_map, List.mem_filter, decide_eq_true_eq, and_assoc]

theorem valuesOf_append :
    valuesOf (entries ++ entries') id = valuesOf entries id ++ valuesOf entries' id := by
  simp only [valuesOf, List.filter_append, List.map_append]

/-- Variables of containers with the same values for an id are the same. -/
theorem assigned_congr {read : PerRead α} (hsame : valuesOf entries id = valuesOf entries' id) :
    assigned read entries id = assigned read entries' id := by
  rw [assigned, assignedBy_eq_foldl, assignedBy_eq_foldl, hsame]

theorem assignedIfRead_congr {read : PerRead α} {found : α → β}
    (hsame : valuesOf entries id = valuesOf entries' id) :
    assignedIfRead read init found entries id = assignedIfRead read init found entries' id := by
  rw [assignedIfRead, assignedBy_eq_foldl, assignedBy_eq_foldl, hsame]

end Values

/-! ## Filling a slot -/

section Filled

variable {slot : Slot μ} {entries : List IeEntry} {msg : μ}

/-- A variable that every element overwrites, whether it can be read or not. -/
theorem last_of_assigned
    (hassigned : assigned slot.read entries slot.id = slot.field msg) :
    ∀ value ∈ (valuesOf entries slot.id).getLast?, slot.field msg = parse slot.read value := by
  intro value hlast
  obtain ⟨before, hvar⟩ := assignedBy_of_getLast? (fun _ value => parse slot.read value) none hlast
  rw [← hassigned]
  exact hvar

theorem filled_of_assigned {a : slot.γ}
    (hassigned : assigned slot.read entries slot.id = some a) (hfield : slot.field msg = some a) :
    slot.Filled entries msg := by
  constructor
  · intro value hlast _
    exact last_of_assigned (hassigned.trans hfield.symm) value hlast
  · intro _
    obtain ⟨e, hmem, hid, hparse⟩ := assigned_eq_some hassigned
    exact ⟨e.value, mem_valuesOf.mpr ⟨e, hmem, hid, rfl⟩, by rw [hparse]; rfl⟩

theorem filled_of_option (hoptional : slot.mandatory = false)
    (hassigned : assigned slot.read entries slot.id = slot.field msg) :
    slot.Filled entries msg := by
  constructor
  · intro value hlast _
    exact last_of_assigned hassigned value hlast
  · intro hmandatory
    rw [hoptional] at hmandatory
    cases hmandatory

/-- A variable that only elements that can be read overwrite takes the last element if it can be. -/
theorem assignedIfRead_of_getLast? (init : β) (found : slot.γ → β) {value : List UInt8}
    {a : slot.γ} (hlast : value ∈ (valuesOf entries slot.id).getLast?)
    (hparse : parse slot.read value = some a) :
    assignedIfRead slot.read init found entries slot.id = found a := by
  obtain ⟨before, hvar⟩ := assignedBy_of_getLast?
    (fun var value => ((parse slot.read value).map found).getD var) init hlast
  rw [hparse] at hvar
  exact hvar

theorem filled_of_assignedIfRead {a : slot.γ}
    (hassigned : assignedIfRead slot.read none some entries slot.id = some a)
    (hfield : slot.field msg = some a) : slot.Filled entries msg := by
  constructor
  · intro value hlast hread
    obtain ⟨b, hparse⟩ := Option.isSome_iff_exists.mp hread
    rw [hfield, hparse, ← hassigned]
    exact assignedIfRead_of_getLast? none some hlast hparse
  · intro _
    rcases assignedIfRead_cases slot.read none some entries slot.id with hnone | hfound
    · rw [hassigned] at hnone
      cases hnone
    · obtain ⟨e, hmem, hid, b, hparse, -⟩ := hfound
      exact ⟨e.value, mem_valuesOf.mpr ⟨e, hmem, hid, rfl⟩, by rw [hparse]; rfl⟩

/-- A list, which is empty until one is read. -/
theorem filled_of_list {init : slot.γ} (hoptional : slot.mandatory = false)
    (hassigned : slot.field msg = some (assignedIfRead slot.read init id entries slot.id)) :
    slot.Filled entries msg := by
  constructor
  · intro value hlast hread
    obtain ⟨b, hparse⟩ := Option.isSome_iff_exists.mp hread
    rw [hassigned, hparse, assignedIfRead_of_getLast? init id hlast hparse, id_eq]
  · intro hmandatory
    rw [hoptional] at hmandatory
    cases hmandatory

theorem allFilled_nil : AllFilled [] entries msg := List.forall_mem_nil _

theorem AllFilled.cons {slots : List (Slot μ)} (hfilled : slot.Filled entries msg)
    (hrest : AllFilled slots entries msg) : AllFilled (slot :: slots) entries msg :=
  List.forall_mem_cons.mpr ⟨hfilled, hrest⟩

end Filled

/-! ## Lost elements -/

/-- The octets that a fresh reader leaves of a value, behind the one it ends in. -/
def leftOver (read : PerRead α) (value : List UInt8) : Option Nat :=
  (read.run (.new value)).map fun (_, r) => value.length - alignUp r.bitPos / 8

/-- A value is read from beginning to end. -/
def WhollyRead (read : PerRead α) (value : List UInt8) : Prop := leftOver read value = some 0

section WhollyRead

variable {read : PerRead α} {value : List UInt8}

theorem isSome_leftOver : (leftOver read value).isSome = (parse read value).isSome := by
  rw [leftOver, parse, Option.isSome_map, Option.isSome_map]

/-- A value is read from beginning to end if it can be read and no octet is left over. -/
theorem whollyRead_iff :
    WhollyRead read value ↔ (parse read value).isSome ∧ ∀ n ∈ leftOver read value, n = 0 := by
  rw [WhollyRead, ← isSome_leftOver]
  cases leftOver read value with
  | none => simp
  | some n => simp

end WhollyRead

section Lost

variable (slots : List (Slot μ)) (entries : List IeEntry) (msg : μ)

/-- No element of the message is lost: each is read from beginning to end, and the last one of its
id is in the message. -/
def NoneLost : Prop :=
  ∀ slot ∈ slots, (∀ value ∈ valuesOf entries slot.id, WhollyRead slot.read value) ∧
    ∀ value ∈ (valuesOf entries slot.id).getLast?, slot.field msg = parse slot.read value

/-- Every element of the message is in it, also one that another of the same id comes after. -/
def AllKept : Prop :=
  ∀ slot ∈ slots, ∀ value ∈ valuesOf entries slot.id,
    WhollyRead slot.read value ∧ slot.field msg = parse slot.read value

/-- No element that can be read goes on after what is read. -/
def NoneLeftOver : Prop :=
  ∀ slot ∈ slots, ∀ value ∈ valuesOf entries slot.id, ∀ n ∈ leftOver slot.read value, n = 0

/-- Elements that may be left out, and those that come more than once, can be read. -/
def SpareReadable : Prop :=
  ∀ slot ∈ slots, slot.mandatory = false ∨ 1 < (valuesOf entries slot.id).length →
    ∀ value ∈ valuesOf entries slot.id, (parse slot.read value).isSome

/-- Elements that may be left out can be read, and elements of one id read the same. -/
def OptionalReadable : Prop :=
  ∀ slot ∈ slots,
    (slot.mandatory = false → ∀ value ∈ valuesOf entries slot.id, (parse slot.read value).isSome) ∧
    ∀ value ∈ valuesOf entries slot.id, ∀ other ∈ valuesOf entries slot.id,
      parse slot.read value = parse slot.read other

variable {slots entries msg}

/-- The only element of a mandatory slot can be read. -/
theorem Slot.Filled.read_of_sole {slot : Slot μ} (hfilled : slot.Filled entries msg)
    (hmandatory : slot.mandatory = true) (hsole : (valuesOf entries slot.id).length ≤ 1) :
    ∀ value ∈ valuesOf entries slot.id, (parse slot.read value).isSome := by
  obtain ⟨found, hfound, hread⟩ := hfilled.found hmandatory
  intro value hvalue
  obtain ⟨only, honly⟩ := List.length_eq_one_iff.mp
    (le_antisymm hsole (List.length_pos_of_mem hfound))
  rw [honly, List.mem_singleton] at hfound hvalue
  rw [hvalue, ← hfound]
  exact hread

/-- Every element can be read if those can that decoding does without. -/
theorem SpareReadable.read (hspare : SpareReadable slots entries)
    (hfilled : AllFilled slots entries msg) {slot : Slot μ} (hslot : slot ∈ slots) :
    ∀ value ∈ valuesOf entries slot.id, (parse slot.read value).isSome := by
  by_cases hneeded : slot.mandatory = false ∨ 1 < (valuesOf entries slot.id).length
  · exact hspare slot hslot hneeded
  · rw [not_or, Bool.not_eq_false, not_lt] at hneeded
    exact (hfilled slot hslot).read_of_sole hneeded.1 hneeded.2

/-- The same if elements of one id agree: one of them can be read. -/
theorem OptionalReadable.read (hoptional : OptionalReadable slots entries)
    (hfilled : AllFilled slots entries msg) {slot : Slot μ} (hslot : slot ∈ slots) :
    ∀ value ∈ valuesOf entries slot.id, (parse slot.read value).isSome := by
  obtain ⟨hspare, halike⟩ := hoptional slot hslot
  by_cases hneeded : slot.mandatory = false
  · exact hspare hneeded
  · obtain ⟨found, hfound, hsome⟩ :=
      (hfilled slot hslot).found (Bool.eq_true_of_not_eq_false hneeded)
    intro value hvalue
    rw [halike value hvalue found hfound]
    exact hsome

/-- Nothing is lost exactly when no octet is left over and the elements that decoding does without
can be read. -/
theorem noneLost_iff (hfilled : AllFilled slots entries msg) :
    NoneLost slots entries msg ↔ NoneLeftOver slots entries ∧ SpareReadable slots entries := by
  constructor
  · intro hnone
    constructor
    · intro slot hslot value hvalue
      exact (whollyRead_iff.mp ((hnone slot hslot).1 value hvalue)).2
    · intro slot hslot _ value hvalue
      exact (whollyRead_iff.mp ((hnone slot hslot).1 value hvalue)).1
  · rintro ⟨hleft, hspare⟩ slot hslot
    have hread := hspare.read hfilled hslot
    constructor
    · intro value hvalue
      exact whollyRead_iff.mpr ⟨hread value hvalue, hleft slot hslot value hvalue⟩
    · intro value hlast
      apply (hfilled slot hslot).last value hlast
      exact hread value (List.mem_of_getLast? hlast)

/-- Everything is kept exactly when, besides, no element contradicts another one of its id. -/
theorem allKept_iff (hfilled : AllFilled slots entries msg) :
    AllKept slots entries msg ↔ NoneLeftOver slots entries ∧ OptionalReadable slots entries := by
  constructor
  · intro hall
    constructor
    · intro slot hslot value hvalue
      exact (whollyRead_iff.mp (hall slot hslot value hvalue).1).2
    · intro slot hslot
      constructor
      · intro _ value hvalue
        exact (whollyRead_iff.mp (hall slot hslot value hvalue).1).1
      · intro value hvalue other hother
        rw [← (hall slot hslot value hvalue).2, (hall slot hslot other hother).2]
  · rintro ⟨hleft, hoptional⟩ slot hslot value hvalue
    have hread := hoptional.read hfilled hslot
    refine ⟨whollyRead_iff.mpr ⟨hread value hvalue, hleft slot hslot value hvalue⟩, ?_⟩
    have hnonempty : valuesOf entries slot.id ≠ [] := List.ne_nil_of_mem hvalue
    have hlast := List.getLast?_eq_some_getLast hnonempty
    have hmem := List.getLast_mem hnonempty
    rw [(hfilled slot hslot).last _ hlast (hread _ hmem)]
    exact (hoptional slot hslot).2 _ hmem value hvalue

end Lost

/-! ## Rearranged containers -/

/-- Two containers have the same values for every slot. -/
def SameFor (slots : List (Slot μ)) (entries entries' : List IeEntry) : Prop :=
  ∀ slot ∈ slots, valuesOf entries slot.id = valuesOf entries' slot.id

/-- What an element is to a decoder: criticalities are read and dropped. -/
def IeEntry.content (e : IeEntry) : UInt32 × List UInt8 := (e.id, e.value)

/-- A container with the elements of another one in any order and with any criticalities, and with
further elements whose ids are not used. -/
def Rearranged (used : List UInt32) (entries entries' : List IeEntry) : Prop :=
  ∃ extra : List IeEntry, (∀ e ∈ extra, e.id ∉ used) ∧
    (entries'.map IeEntry.content).Perm ((entries ++ extra).map IeEntry.content)

section Rearranged

variable {entries entries' : List IeEntry} {used : List UInt32} {id : UInt32}

theorem valuesOf_eq_content : valuesOf entries id =
    ((entries.map IeEntry.content).filter fun c => c.1 = id).map Prod.snd := by
  rw [List.filter_map, List.map_map]
  rfl

/-- Distinct ids leave an id with one value at most. -/
theorem length_valuesOf_le_one (id : UInt32)
    (hnodup : (entries.map fun e => e.id).Nodup) :
    (valuesOf entries id).length ≤ 1 := by
  have hcount := List.nodup_iff_count_le_one.mp hnodup id
  rw [List.count_eq_countP, List.countP_map, List.countP_eq_length_filter] at hcount
  rw [valuesOf, List.length_map]
  refine le_trans (le_of_eq ?_) hcount
  congr 1

/-- A container that was rearranged has the same values for the ids that are used. -/
theorem Rearranged.valuesOf_eq (hrearranged : Rearranged used entries entries')
    (hnodup : (entries.map fun e => e.id).Nodup) (hid : id ∈ used) :
    valuesOf entries' id = valuesOf entries id := by
  obtain ⟨extra, hunused, hperm⟩ := hrearranged
  have hnone : valuesOf extra id = [] := by
    rw [valuesOf, List.map_eq_nil_iff, List.filter_eq_nil_iff]
    intro e hmem hused
    rw [decide_eq_true_eq] at hused
    apply hunused e hmem
    rw [hused]
    exact hid
  have hvalues : (valuesOf entries' id).Perm (valuesOf entries id) := by
    have hfiltered := (hperm.filter fun c => c.1 = id).map Prod.snd
    rw [← valuesOf_eq_content, ← valuesOf_eq_content, valuesOf_append, hnone,
      List.append_nil] at hfiltered
    exact hfiltered
  have hle := length_valuesOf_le_one id hnodup
  cases hvalue : valuesOf entries id with
  | nil =>
      rw [hvalue] at hvalues
      exact List.perm_nil.mp hvalues
  | cons value rest =>
      rw [hvalue, List.length_cons] at hle
      obtain rfl : rest = [] := List.length_eq_zero_iff.mp (by omega)
      rw [hvalue] at hvalues
      exact List.perm_singleton.mp hvalues

theorem Rearranged.sameFor {slots : List (Slot μ)}
    (hrearranged : Rearranged (slots.map Slot.id) entries entries')
    (hnodup : (entries.map fun e => e.id).Nodup) : SameFor slots entries' entries := by
  intro slot hslot
  exact hrearranged.valuesOf_eq hnodup (List.mem_map_of_mem hslot)

end Rearranged

end Midn.Container
