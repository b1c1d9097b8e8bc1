import Midn.Proto.Error
import Midn.Proto.Per
import Mathlib.Algebra.BigOperators.Ring.List
import Mathlib.Algebra.Order.BigOperators.Group.List
import Mathlib.Data.List.Forall2

/-!
# Information elements

The framing of S1AP and NGAP PDUs, which the two codecs hold in two equal copies: lists with a
length determinant, the container of information elements, and the wrapper around it. An encoder is
a list of elements, each with the writer of its value; a decoder keeps what it last read for an
element's id.
-/

namespace Midn.Container

open Midn.Per Midn.Per.PerReader

variable {α β : Type}

/-- Read with a fresh reader. -/
def parse (read : PerRead α) (value : List UInt8) : Option α :=
  (read.run (.new value)).map Prod.fst

/-- The number of items, and then the items. -/
def writeList (put : PerWriter → α → Option PerWriter) (w : PerWriter) (items : List α) :
    Option PerWriter := do
  let w ← w.writeLengthDeterminant items.length
  items.foldlM put w

def readList (get : PerRead α) : PerRead (List α) := do
  let count ← readLengthDeterminant
  Tape.readMany get count

/-! ## Elements and their container -/

def protocolIeIdMax : Nat := 65535
def procedureCodeMax : Nat := 255

def criticalityReject : UInt8 := 0
def criticalityIgnore : UInt8 := 1

def pduChoiceInitiatingMessage : Nat := 0
def pduChoiceSuccessfulOutcome : Nat := 1

structure IeEntry where
  id : UInt32
  criticality : UInt8
  value : List UInt8

def writeIeEntry (w : PerWriter) (entry : IeEntry) : Option PerWriter := do
  let w ← w.writeConstrainedInt entry.id.toNat 0 protocolIeIdMax
  let w ← w.writeConstrainedInt entry.criticality.toNat 0 2
  w.writeOctetString entry.value

def writeIeContainer (w : PerWriter) (entries : List IeEntry) : Option PerWriter :=
  writeList writeIeEntry w entries

def readIeEntry : PerRead IeEntry := do
  let id ← readConstrainedInt 0 protocolIeIdMax
  let criticality ← readConstrainedInt 0 2
  let value ← readOctetString
  pure ⟨.ofNat id, .ofNat criticality, value⟩

def readIeContainer : PerRead (List IeEntry) := readList readIeEntry

/-- An element to encode: its value is what the writer leaves of a fresh buffer. -/
structure Ie where
  id : UInt32
  criticality : UInt8
  put : PerWriter → Option PerWriter

def Ie.encode (ie : Ie) : Option IeEntry := do
  let w ← ie.put .new
  pure ⟨ie.id, ie.criticality, w.intoBytes⟩

/-- An element that an encoder leaves out for an empty list. -/
def unlessEmpty (items : List α) (ie : Ie) : List Ie := if items.isEmpty then [] else [ie]

/-- What the loop over the elements of a container leaves in the variable of an id. -/
def assignedBy (step : β → List UInt8 → β) (init : β) (entries : List IeEntry) (id : UInt32) : β :=
  entries.foldl (fun var entry => if entry.id = id then step var entry.value else var) init

/-- A variable that every element of its id overwrites, also one that cannot be read. -/
def assigned (read : PerRead α) : List IeEntry → UInt32 → Option α :=
  assignedBy (fun _ value => parse read value) none

/-- A variable that only elements that can be read overwrite. -/
def assignedIfRead (read : PerRead α) (init : β) (found : α → β) :
    List IeEntry → UInt32 → β :=
  assignedBy (fun var value => ((parse read value).map found).getD var) init

/-! ## The wrapper -/

def writePduWrapper (choice : Nat) (procedureCode : UInt32) (criticality : UInt8)
    (value : List UInt8) (w : PerWriter) : Option PerWriter := do
  let w ← w.writeConstrainedInt choice 0 2
  let w ← w.writeConstrainedInt procedureCode.toNat 0 procedureCodeMax
  let w ← w.writeConstrainedInt criticality.toNat 0 2
  w.writeOctetString value

def encodePduWrapper (choice : Nat) (procedureCode : UInt32) (criticality : UInt8)
    (value : List UInt8) : Option (List UInt8) :=
  (writePduWrapper choice procedureCode criticality value .new).map PerWriter.intoBytes

def readPduWrapper : PerRead (Nat × UInt32 × UInt8 × List UInt8) := do
  let choice ← readConstrainedInt 0 2
  let procedureCode ← readConstrainedInt 0 procedureCodeMax
  let criticality ← readConstrainedInt 0 2
  let value ← readOctetString
  pure (choice, .ofNat procedureCode, .ofNat criticality, value)

def decodePduWrapper (buf : List UInt8) : Option (Nat × UInt32 × UInt8 × List UInt8) :=
  parse readPduWrapper buf

/-- Encode the elements one by one, then the container, and then the wrapper around it. -/
def encodePdu (choice : Nat) (procedureCode : UInt32) (criticality : UInt8) (ies : List Ie) :
    Option (List UInt8) := do
  let entries ← ies.mapM Ie.encode
  let valueW ← writeIeContainer .new entries
  encodePduWrapper choice procedureCode criticality valueW.intoBytes

/-! ## Lists -/

theorem undoes_writeList {put : PerWriter → α → Option PerWriter} {get : PerRead α}
    {items : List α} (hundoes : ∀ a ∈ items, tape.Undoes (put · a) get a) :
    tape.Undoes (fun w => writeList put w items) (readList get) items :=
  (undoes_writeLengthDeterminant items.length).bind (Tape.readMany get) (Tape.Undoes.many hundoes)

/-- A list of items that grow the output by their sizes, from a boundary on. -/
theorem grows_writeList {put : PerWriter → α → Option PerWriter} {items : List α} {size : α → Nat}
    {start : Nat → Prop} (hlen : items.length < 16384)
    (hgrows : ∀ a ∈ items, ∀ p, start p → tape.Grows (put · a) p (p + size a) ∧ start (p + size a))
    (hstart : ∀ p, p % 8 = 0 → start p) (p : Nat) :
    tape.Grows (fun w => writeList put w items) p
      (alignUp p + 8 * lengthDeterminantLength items.length + (items.map size).sum) := by
  have hboundary : (alignUp p + 8 * lengthDeterminantLength items.length) % 8 = 0 := by
    have hmod := alignUp_mod p
    omega
  exact (grows_writeLengthDeterminant hlen p).bind
    (Tape.Grows.foldlM hgrows (hstart _ hboundary))

theorem covers_readList {put : PerWriter → α → Option PerWriter} {get : PerRead α}
    (hcovers : ∀ r a r', get.run r = some (a, r') → tape.Covers (put · a) r r')
    {items : List α} {r r' : PerReader} (hread : (readList get).run r = some (items, r')) :
    items.length < 16384 ∧ tape.Covers (fun w => writeList put w items) r r' := by
  obtain ⟨count, r₁, hcount, hread⟩ := Tape.run_bind_eq_some.mp hread
  obtain ⟨hlt, hdeterminant⟩ := readLengthDeterminant_eq_some hcount
  obtain ⟨hitems, rfl⟩ := Tape.Covers.many hcovers hread
  exact ⟨hlt, (hdeterminant items.length (le_refl _)).trans hitems⟩

/-! ## Values of elements -/

/-- What the writer leaves of a fresh buffer is read as the value. -/
def Carries (put : PerWriter → Option PerWriter) (read : PerRead α) (a : α) : Prop :=
  ∀ w, put .new = some w → parse read w.intoBytes = some a

/-- The writer succeeds on a fresh buffer with a number of octets. -/
def Fills (put : PerWriter → Option PerWriter) (n : Nat) : Prop :=
  ∃ w, put .new = some w ∧ w.intoBytes.length = n

/-- The writer succeeds on a fresh buffer, in no more octets than a value has. -/
def Refits (put : PerWriter → Option PerWriter) (value : List UInt8) : Prop :=
  ∃ n, Fills put n ∧ n ≤ value.length

theorem carries_of_undoes {put : PerWriter → Option PerWriter} {read : PerRead α} {a : α}
    (hundoes : tape.Undoes put read a) : Carries put read a := by
  intro w hput
  obtain ⟨r, hread, _⟩ := read_intoBytes hundoes hput
  rw [parse, hread, Option.map_some]

theorem fills_of_grows {put : PerWriter → Option PerWriter} {n : Nat}
    (hgrows : tape.Grows put 0 n) : Fills put (alignUp n / 8) :=
  length_intoBytes_of_grows hgrows

theorem parse_eq_some {read : PerRead α} {value : List UInt8} {a : α} :
    parse read value = some a ↔ ∃ r, read.run (.new value) = some (a, r) := by
  rw [parse, Option.map_eq_some_iff, Prod.exists]
  constructor
  · rintro ⟨a, r, hread, rfl⟩
    exact ⟨r, hread⟩
  · rintro ⟨r, hread⟩
    exact ⟨a, r, hread, rfl⟩

/-- Values that were read from an element can be written in no more octets than it has. -/
theorem refits_of_covers {put : PerWriter → Option PerWriter} {value : List UInt8}
    {r : PerReader} (hcovers : tape.Covers put (.new value) r) : Refits put value := by
  obtain ⟨w, hput, hle⟩ := length_intoBytes_le_of_covers hcovers
  exact ⟨w.intoBytes.length, ⟨w, hput, rfl⟩, hle⟩

/-! ## Entries and the container of them -/

/-- The octets of a container whose elements have values of the given lengths. -/
def containerLength (lengths : List Nat) : Nat :=
  lengthDeterminantLength lengths.length + (lengths.map fun n => 3 + octetStringLength n).sum

/-- The ids and criticalities that the header of an element has room for. -/
abbrev HeaderInRange (id : UInt32) (criticality : UInt8) : Prop :=
  id.toNat ≤ protocolIeIdMax ∧ criticality.toNat ≤ 2

def IeEntry.InRange (entry : IeEntry) : Prop := HeaderInRange entry.id entry.criticality

theorem undoes_writeIeEntry (entry : IeEntry) :
    tape.Undoes (fun w => writeIeEntry w entry) readIeEntry entry := by
  let afterCriticality (id criticality : Nat) : PerRead IeEntry :=
    readOctetString >>= fun value => pure ⟨.ofNat id, .ofNat criticality, value⟩
  let afterId (id : Nat) : PerRead IeEntry := readConstrainedInt 0 2 >>= afterCriticality id
  have hvalue : tape.Undoes (fun w => w.writeOctetString entry.value)
      (afterCriticality entry.id.toNat entry.criticality.toNat) entry := by
    simp only [afterCriticality, UInt32.ofNat_toNat, UInt8.ofNat_toNat]
    exact (undoes_writeOctetString entry.value).bind_pure fun value =>
      (⟨entry.id, entry.criticality, value⟩ : IeEntry)
  have hcriticality := (undoes_writeUpTo entry.criticality.toNat 2 (by decide)).bind
    (afterCriticality entry.id.toNat) hvalue
  have hid := (undoes_writeUpTo entry.id.toNat protocolIeIdMax (by decide)).bind afterId
    hcriticality
  exact hid

/-- An element takes up three octets and its value, from a boundary to a boundary. -/
theorem grows_writeIeEntry {entry : IeEntry} (hrange : entry.InRange)
    (hlen : entry.value.length < 16384) {p : Nat} (hp : p % 8 = 0) :
    tape.Grows (fun w => writeIeEntry w entry) p
      (p + 8 * (3 + octetStringLength entry.value.length)) := by
  have hid := grows_writeUpTo (by decide) hrange.1 p
  have hcriticality := grows_writeUpTo (by decide) hrange.2 (constrainedEnd 0 protocolIeIdMax p)
  have hvalue := grows_writeOctetString hlen
    (constrainedEnd 0 2 (constrainedEnd 0 protocolIeIdMax p))
  have hheader : constrainedEnd 0 2 (constrainedEnd 0 protocolIeIdMax p) = alignUp p + 18 := rfl
  have hboundary : alignUp (alignUp p + 18) = p + 24 := by
    rw [alignUp_eq_self hp]
    unfold alignUp
    split <;> omega
  have hstop : alignUp (constrainedEnd 0 2 (constrainedEnd 0 protocolIeIdMax p)) +
      8 * octetStringLength entry.value.length =
        p + 8 * (3 + octetStringLength entry.value.length) := by
    rw [hheader, hboundary]
    omega
  have hall := hid.bind (hcriticality.bind hvalue)
  rw [hstop] at hall
  exact hall

/-- An element that has been read leaves room for the same element with any criticality. -/
theorem covers_readIeEntry {entry : IeEntry} {r r' : PerReader}
    (hread : readIeEntry.run r = some (entry, r')) :
    entry.id.toNat ≤ protocolIeIdMax ∧ entry.value.length < 16384 ∧
      tape.Covers (fun w => writeIeEntry w { entry with criticality := criticalityReject })
        r r' := by
  obtain ⟨id, r₁, hid, hread⟩ := Tape.run_bind_eq_some.mp hread
  obtain ⟨criticality, r₂, hcriticality, hread⟩ := Tape.run_bind_eq_some.mp hread
  obtain ⟨value, r₃, hvalue, hread⟩ := Tape.run_bind_eq_some.mp hread
  obtain ⟨rfl, rfl⟩ := Tape.run_pure_eq_some.mp hread
  obtain ⟨hlt, hidCovers⟩ := readUpTo_eq_some (by decide) hid
  obtain ⟨_, hcriticalityCovers⟩ := readUpTo_eq_some (by decide) hcriticality
  obtain ⟨hlen, hvalueCovers⟩ := readOctetString_eq_some hvalue
  have hlt : id < 65536 := hlt
  have hword : (UInt32.ofNat id).toNat = id := UInt32.toNat_ofNat_of_lt' (lt_trans hlt (by decide))
  have hidMax : (UInt32.ofNat id).toNat ≤ protocolIeIdMax := by
    rw [hword]
    exact Nat.le_of_lt_succ hlt
  have hall := (hidCovers _ hidMax).trans ((hcriticalityCovers _ (Nat.zero_le 2)).trans
    (hvalueCovers value (le_refl _)))
  exact ⟨hidMax, hlen, hall⟩

theorem undoes_writeIeContainer (entries : List IeEntry) :
    tape.Undoes (fun w => writeIeContainer w entries) readIeContainer entries :=
  undoes_writeList fun entry _ => undoes_writeIeEntry entry

theorem grows_writeIeContainer {entries : List IeEntry} (hcount : entries.length < 16384)
    (hentries : ∀ e ∈ entries, e.InRange ∧ e.value.length < 16384) :
    tape.Grows (fun w => writeIeContainer w entries) 0
      (8 * containerLength (entries.map fun e => e.value.length)) := by
  let size (e : IeEntry) : Nat := 8 * (3 + octetStringLength e.value.length)
  have hstep : ∀ e ∈ entries, ∀ p, p % 8 = 0 →
      tape.Grows (writeIeEntry · e) p (p + size e) ∧ (p + size e) % 8 = 0 := by
    intro e hmem p hp
    obtain ⟨hrange, hlen⟩ := hentries e hmem
    exact ⟨grows_writeIeEntry hrange hlen hp, (Nat.add_mul_mod_self_left p 8 _).trans hp⟩
  have hgrows := grows_writeList hcount hstep (fun _ hp => hp) 0
  have hstop : alignUp 0 + 8 * lengthDeterminantLength entries.length + (entries.map size).sum =
      8 * containerLength (entries.map fun e => e.value.length) := by
    rw [alignUp_eq_self (Nat.zero_mod 8), Nat.zero_add, containerLength, Nat.mul_add,
      List.length_map, List.map_map, ← List.sum_map_mul_left]
    rfl
  rw [hstop] at hgrows
  exact hgrows

/-- A container that has been read holds elements with ids in their range, and has room for all of
them. -/
theorem readIeContainer_eq_some {value : List UInt8} {entries : List IeEntry}
    (hread : parse readIeContainer value = some entries) :
    (∀ e ∈ entries, e.id.toNat ≤ protocolIeIdMax) ∧
      containerLength (entries.map fun e => e.value.length) ≤ value.length := by
  obtain ⟨r, hread⟩ := parse_eq_some.mp hread
  have hentries : ∀ e ∈ entries, e.id.toNat ≤ protocolIeIdMax ∧ e.value.length < 16384 := by
    intro e hmem
    obtain ⟨count, r₁, _, hitems⟩ := Tape.run_bind_eq_some.mp hread
    obtain ⟨r₂, r₃, hentry⟩ := Tape.exists_run_of_mem_readMany hitems e hmem
    obtain ⟨hid, hlen, _⟩ := covers_readIeEntry hentry
    exact ⟨hid, hlen⟩
  let reject (e : IeEntry) : IeEntry := { e with criticality := criticalityReject }
  have hput : ∀ w : PerWriter, writeList (fun w e => writeIeEntry w (reject e)) w entries =
      writeIeContainer w (entries.map reject) := by
    intro w
    simp only [writeIeContainer, writeList, List.length_map, List.foldlM_map]
  have hstep : ∀ r e r', readIeEntry.run r = some (e, r') →
      tape.Covers (writeIeEntry · (reject e)) r r' :=
    fun _ _ _ hentry => (covers_readIeEntry hentry).2.2
  obtain ⟨hcount, hcovers⟩ := covers_readList hstep hread
  simp only [hput] at hcovers
  have hrejects : ∀ e ∈ entries.map reject, e.InRange ∧ e.value.length < 16384 := by
    intro e hmem
    obtain ⟨entry, hentry, rfl⟩ := List.mem_map.mp hmem
    obtain ⟨hid, hlen⟩ := hentries entry hentry
    exact ⟨⟨hid, Nat.zero_le 2⟩, hlen⟩
  have hgrows := grows_writeIeContainer ((List.length_map reject).trans_lt hcount) hrejects
  obtain ⟨w, hwritten, hfills⟩ := fills_of_grows hgrows
  obtain ⟨w', hwritten', hle⟩ := length_intoBytes_le_of_covers hcovers
  obtain rfl : w = w' := Option.some.inj (hwritten.symm.trans hwritten')
  rw [hfills, alignUp_eq_self (Nat.mul_mod_right 8 _), Nat.mul_div_cancel_left _ (by decide),
    List.map_map] at hle
  exact ⟨fun e hmem => (hentries e hmem).1, hle⟩

/-! ## The wrapper -/

theorem undoes_writePduWrapper (choice : Nat) (procedureCode : UInt32) (criticality : UInt8)
    (value : List UInt8) :
    tape.Undoes (writePduWrapper choice procedureCode criticality value) readPduWrapper
      (choice, procedureCode, criticality, value) := by
  let afterCriticality (choice procedureCode criticality : Nat) :
      PerRead (Nat × UInt32 × UInt8 × List UInt8) :=
    readOctetString >>= fun value =>
      pure (choice, .ofNat procedureCode, .ofNat criticality, value)
  let afterCode (choice procedureCode : Nat) : PerRead (Nat × UInt32 × UInt8 × List UInt8) :=
    readConstrainedInt 0 2 >>= afterCriticality choice procedureCode
  let afterChoice (choice : Nat) : PerRead (Nat × UInt32 × UInt8 × List UInt8) :=
    readConstrainedInt 0 procedureCodeMax >>= afterCode choice
  have hvalue : tape.Undoes (fun w => w.writeOctetString value)
      (afterCriticality choice procedureCode.toNat criticality.toNat)
      (choice, procedureCode, criticality, value) := by
    simp only [afterCriticality, UInt32.ofNat_toNat, UInt8.ofNat_toNat]
    exact (undoes_writeOctetString value).bind_pure fun value =>
      (choice, procedureCode, criticality, value)
  have hcriticality := (undoes_writeUpTo criticality.toNat 2 (by decide)).bind
    (afterCriticality choice procedureCode.toNat) hvalue
  have hcode := (undoes_writeUpTo procedureCode.toNat procedureCodeMax (by decide)).bind
    (afterCode choice) hcriticality
  have hchoice := (undoes_writeUpTo choice 2 (by decide)).bind afterChoice hcode
  exact hchoice

theorem decode_encodePduWrapper {choice : Nat} {procedureCode : UInt32} {criticality : UInt8}
    {value bytes : List UInt8}
    (hput : encodePduWrapper choice procedureCode criticality value = some bytes) :
    decodePduWrapper bytes = some (choice, procedureCode, criticality, value) := by
  obtain ⟨w, hwritten, rfl⟩ := Option.map_eq_some_iff.mp hput
  exact carries_of_undoes (undoes_writePduWrapper choice procedureCode criticality value) w hwritten

theorem exists_encodePduWrapper {choice : Nat} {procedureCode : UInt32} {criticality : UInt8}
    {value : List UInt8} (hchoice : choice ≤ 2) (hcode : procedureCode.toNat ≤ procedureCodeMax)
    (hcriticality : criticality.toNat ≤ 2) (hlen : value.length < 16384) :
    ∃ bytes, encodePduWrapper choice procedureCode criticality value = some bytes := by
  have hall := (grows_writeUpTo (by decide) hchoice 0).bind
    ((grows_writeUpTo (by decide) hcode _).bind
      ((grows_writeUpTo (by decide) hcriticality _).bind (grows_writeOctetString hlen _)))
  obtain ⟨w, hput, _⟩ := hall .new rfl
  exact ⟨w.intoBytes, Option.map_eq_some_iff.mpr ⟨w, hput, rfl⟩⟩

theorem decodePduWrapper_eq_some {buf value : List UInt8} {choice : Nat} {procedureCode : UInt32}
    {criticality : UInt8}
    (hread : decodePduWrapper buf = some (choice, procedureCode, criticality, value)) :
    value.length < 16384 := by
  obtain ⟨r, hread⟩ := parse_eq_some.mp hread
  obtain ⟨choice, r₁, _, hread⟩ := Tape.run_bind_eq_some.mp hread
  obtain ⟨code, r₂, _, hread⟩ := Tape.run_bind_eq_some.mp hread
  obtain ⟨criticality, r₃, _, hread⟩ := Tape.run_bind_eq_some.mp hread
  obtain ⟨value, r₄, hvalue, hread⟩ := Tape.run_bind_eq_some.mp hread
  obtain ⟨hpair, -⟩ := Tape.run_pure_eq_some.mp hread
  cases hpair
  exact (readOctetString_eq_some hvalue).1

/-! ## Whole PDUs -/

/-- A sequence of computations that may fail succeeds with the list of the results. -/
theorem mapM_eq_some_iff {f : α → Option β} {items : List α} {results : List β} :
    items.mapM f = some results ↔ List.Forall₂ (fun a b => f a = some b) items results := by
  induction items generalizing results with
  | nil =>
      rw [List.mapM_nil, List.forall₂_nil_left_iff]
      exact ⟨fun h => (Option.some.inj h).symm, fun h => congrArg some h.symm⟩
  | cons a items ih =>
      rw [List.mapM_cons, List.forall₂_cons_left_iff, Option.bind_eq_bind, Option.bind_eq_some_iff]
      constructor
      · rintro ⟨b, hb, hrest⟩
        obtain ⟨rest, hrest, hcons⟩ := Option.bind_eq_some_iff.mp hrest
        exact ⟨b, rest, hb, ih.mp hrest, (Option.some.inj hcons).symm⟩
      · rintro ⟨b, rest, hb, hrest, rfl⟩
        exact ⟨b, hb, Option.bind_eq_some_iff.mpr ⟨rest, ih.mpr hrest, rfl⟩⟩

/-- An element fits a container, and its value has a number of octets. -/
def Ie.Fits (ie : Ie) (n : Nat) : Prop :=
  HeaderInRange ie.id ie.criticality ∧ Fills ie.put n

/-- The wrapper and the container of an encoded PDU are read back. -/
theorem decode_encodePdu {choice : Nat} {procedureCode : UInt32} {criticality : UInt8}
    {ies : List Ie} {bytes : List UInt8}
    (hput : encodePdu choice procedureCode criticality ies = some bytes) :
    ∃ value entries,
      decodePduWrapper bytes = some (choice, procedureCode, criticality, value) ∧
        parse readIeContainer value = some entries ∧
        List.Forall₂ (fun ie entry => ie.encode = some entry) ies entries := by
  obtain ⟨entries, hentries, hput⟩ := Option.bind_eq_some_iff.mp hput
  obtain ⟨w, hcontainer, hput⟩ := Option.bind_eq_some_iff.mp hput
  exact ⟨w.intoBytes, entries, decode_encodePduWrapper hput,
    carries_of_undoes (undoes_writeIeContainer entries) w hcontainer,
    mapM_eq_some_iff.mp hentries⟩

theorem exists_entries {ies : List Ie} {lengths : List Nat}
    (hfits : List.Forall₂ Ie.Fits ies lengths) :
    ∃ entries, List.Forall₂ (fun ie entry => ie.encode = some entry) ies entries ∧
      (entries.map fun e => e.value.length) = lengths ∧ ∀ e ∈ entries, e.InRange := by
  induction hfits with
  | nil => exact ⟨[], .nil, rfl, fun e hmem => absurd hmem List.not_mem_nil⟩
  | @cons ie n ies lengths hfirst _ ih =>
      obtain ⟨hrange, w, hput, hlength⟩ := hfirst
      obtain ⟨entries, hencode, hlengths, hentries⟩ := ih
      refine ⟨⟨ie.id, ie.criticality, w.intoBytes⟩ :: entries, .cons ?_ hencode, ?_, ?_⟩
      · rw [Ie.encode, hput]
        rfl
      · rw [List.map_cons, hlengths, hlength]
      · intro e hmem
        rcases List.mem_cons.mp hmem with hnew | hold
        · rw [hnew]
          exact hrange
        · exact hentries e hold

theorem length_le_containerLength (lengths : List Nat) :
    lengths.length ≤ containerLength lengths := by
  have hsum := List.length_le_sum_of_one_le (lengths.map fun n => 3 + octetStringLength n)
  rw [List.length_map] at hsum
  refine (hsum fun n hmem => ?_).trans (Nat.le_add_left _ _)
  obtain ⟨m, _, rfl⟩ := List.mem_map.mp hmem
  omega

theorem le_containerLength {lengths : List Nat} {n : Nat} (hmem : n ∈ lengths) :
    n ≤ containerLength lengths := by
  have hle : n ≤ 3 + octetStringLength n := by
    unfold octetStringLength
    omega
  have hsum : 3 + octetStringLength n ≤ (lengths.map fun n => 3 + octetStringLength n).sum :=
    List.le_sum_of_mem (List.mem_map_of_mem hmem)
  exact (hle.trans hsum).trans (Nat.le_add_left _ _)

/-- A list whose element has at least an octet for each item is not long in a short container. -/
theorem length_lt_of_mem {lengths : List Nat} {k n : Nat} (hmem : n ∈ lengths)
    (hle : k ≤ n) (hsmall : containerLength lengths < 16384) : k < 16384 :=
  lt_of_le_of_lt (hle.trans (le_containerLength hmem)) hsmall

/-- No octet string of a short container is long. -/
theorem lt_of_octetString_mem {lengths : List Nat} {n : Nat}
    (hmem : octetStringLength n ∈ lengths) (hsmall : containerLength lengths < 16384) :
    n < 16384 :=
  length_lt_of_mem hmem (Nat.le_add_left n _) hsmall

theorem sum_length_mono {lengths lengths' : List Nat}
    (hle : List.Forall₂ (· ≤ ·) lengths lengths') :
    (lengths.map fun n => 3 + octetStringLength n).sum ≤
      (lengths'.map fun n => 3 + octetStringLength n).sum := by
  induction hle with
  | nil => exact le_refl _
  | cons hhead _ ih =>
      have hoctets := octetStringLength_mono hhead
      simp only [List.map_cons, List.sum_cons]
      omega

/-- Longer values make a longer container. -/
theorem containerLength_mono {lengths lengths' : List Nat}
    (hle : List.Forall₂ (· ≤ ·) lengths lengths') :
    containerLength lengths ≤ containerLength lengths' := by
  rw [containerLength, containerLength, hle.length_eq]
  exact Nat.add_le_add_left (sum_length_mono hle) _

/-- Elements whose values and container are short enough are encoded. -/
theorem exists_encodePdu {choice : Nat} {procedureCode : UInt32} {criticality : UInt8}
    {ies : List Ie} {lengths : List Nat} (hchoice : choice ≤ 2)
    (hcode : procedureCode.toNat ≤ procedureCodeMax) (hcriticality : criticality.toNat ≤ 2)
    (hfits : List.Forall₂ Ie.Fits ies lengths) (hsmall : containerLength lengths < 16384) :
    ∃ bytes, encodePdu choice procedureCode criticality ies = some bytes := by
  obtain ⟨entries, hencode, rfl, hentries⟩ := exists_entries hfits
  have hcount : entries.length < 16384 := by
    have hle := length_le_containerLength (entries.map fun e => e.value.length)
    rw [List.length_map] at hle
    exact lt_of_le_of_lt hle hsmall
  have hshort : ∀ e ∈ entries, e.InRange ∧ e.value.length < 16384 := by
    intro e hmem
    have hlength : e.value.length ∈ entries.map fun e => e.value.length :=
      List.mem_map_of_mem (f := fun e => e.value.length) hmem
    exact ⟨hentries e hmem, lt_of_le_of_lt (le_containerLength hlength) hsmall⟩
  obtain ⟨w, hcontainer, hlength⟩ := fills_of_grows (grows_writeIeContainer hcount hshort)
  have hcontainer : writeIeContainer .new entries = some w := hcontainer
  rw [alignUp_eq_self (Nat.mul_mod_right 8 _), Nat.mul_div_cancel_left _ (by decide)] at hlength
  obtain ⟨bytes, hwrapper⟩ := exists_encodePduWrapper hchoice hcode hcriticality
    (hlength.trans_lt hsmall)
  refine ⟨bytes, ?_⟩
  rw [encodePdu, mapM_eq_some_iff.mpr hencode, Option.bind_eq_bind, Option.bind_some, hcontainer]
  exact hwrapper

/-- An encoder with no message to refuse succeeds as its result does. -/
theorem map_ok_eq_some_iff {encoded : Option (List UInt8)} {bytes : List UInt8} :
    encoded.map (Except.ok (ε := ProtoError)) = some (.ok bytes) ↔ encoded = some bytes := by
  rw [Option.map_eq_some_iff]
  constructor
  · rintro ⟨bytes', hencoded, hsame⟩
    cases hsame
    exact hencoded
  · intro hencoded
    exact ⟨bytes, hencoded, rfl⟩

theorem exists_map_ok {encoded : Option (List UInt8)} (hencoded : ∃ bytes, encoded = some bytes) :
    ∃ bytes, encoded.map (Except.ok (ε := ProtoError)) = some (.ok bytes) := by
  obtain ⟨bytes, hencoded⟩ := hencoded
  exact ⟨bytes, map_ok_eq_some_iff.mpr hencoded⟩

/-! ## Variables of a decoder -/

section Variables

variable {step : β → List UInt8 → β} {init : β} {entries : List IeEntry} {id : UInt32}

theorem assignedBy_of_not_mem (hmem : id ∉ entries.map fun e => e.id) :
    assignedBy step init entries id = init := by
  induction entries with
  | nil => rfl
  | cons e entries ih =>
      rw [List.map_cons, List.mem_cons, not_or] at hmem
      rw [assignedBy, List.foldl_cons, if_neg (Ne.symm hmem.1)]
      exact ih hmem.2

/-- A variable is assigned from the only element with its id. -/
theorem assignedBy_of_mem {entry : IeEntry} (hnodup : (entries.map fun e => e.id).Nodup)
    (hmem : entry ∈ entries) :
    assignedBy step init entries entry.id = step init entry.value := by
  induction entries with
  | nil => exact absurd hmem List.not_mem_nil
  | cons e entries ih =>
      rw [List.map_cons, List.nodup_cons] at hnodup
      rw [assignedBy, List.foldl_cons]
      rcases List.mem_cons.mp hmem with hfirst | hlater
      · rw [← hfirst] at hnodup
        rw [← hfirst, if_pos rfl]
        exact assignedBy_of_not_mem hnodup.1
      · have hother : e.id ≠ entry.id := by
          intro hsame
          rw [hsame] at hnodup
          exact hnodup.1 (List.mem_map_of_mem (f := fun e => e.id) hlater)
        rw [if_neg hother]
        exact ih hnodup.2 hlater

/-- What every element of the id keeps up holds of the variable. -/
theorem assignedBy_induction {P : β → Prop} (hinit : P init)
    (hstep : ∀ e ∈ entries, e.id = id → ∀ b, P b → P (step b e.value)) :
    P (assignedBy step init entries id) := by
  induction entries generalizing init with
  | nil => exact hinit
  | cons e entries ih =>
      rw [assignedBy, List.foldl_cons]
      refine ih ?_ fun e' hmem => hstep e' (List.mem_cons_of_mem e hmem)
      split
      next hid => exact hstep e List.mem_cons_self hid init hinit
      next => exact hinit

theorem assigned_eq_some {read : PerRead α} {a : α}
    (hassigned : assigned read entries id = some a) :
    ∃ e ∈ entries, e.id = id ∧ parse read e.value = some a := by
  have hall : ∀ a, assigned read entries id = some a →
      ∃ e ∈ entries, e.id = id ∧ parse read e.value = some a := by
    refine assignedBy_induction (P := fun b => ∀ a, b = some a →
      ∃ e ∈ entries, e.id = id ∧ parse read e.value = some a) (fun a hnone => ?_) ?_
    · cases hnone
    · intro e hmem hid b hb a ha
      exact ⟨e, hmem, hid, ha⟩
  exact hall a hassigned

theorem assignedIfRead_cases (read : PerRead α) (init : β) (found : α → β)
    (entries : List IeEntry) (id : UInt32) :
    assignedIfRead read init found entries id = init ∨
      ∃ e ∈ entries, e.id = id ∧ ∃ a, parse read e.value = some a ∧
        assignedIfRead read init found entries id = found a := by
  refine assignedBy_induction (P := fun b => b = init ∨ ∃ e ∈ entries, e.id = id ∧
    ∃ a, parse read e.value = some a ∧ b = found a) (Or.inl rfl) ?_
  intro e hmem hid b hb
  cases hparse : parse read e.value with
  | none =>
      rw [Option.map_none, Option.getD_none]
      exact hb
  | some a => exact Or.inr ⟨e, hmem, hid, a, hparse, rfl⟩

end Variables

/-! ## Encoded elements are decoded -/

section Encoded

variable {ies : List Ie} {entries : List IeEntry}
  (hencode : List.Forall₂ (fun ie entry => ie.encode = some entry) ies entries)
include hencode

theorem map_id_entries : (entries.map fun e => e.id) = ies.map fun ie => ie.id := by
  induction hencode with
  | nil => rfl
  | cons hfirst _ ih =>
      obtain ⟨w, _, hpure⟩ := Option.bind_eq_some_iff.mp hfirst
      cases hpure
      rw [List.map_cons, List.map_cons, ih]

theorem exists_entry {ie : Ie} (hmem : ie ∈ ies) :
    ∃ entry ∈ entries, entry.id = ie.id ∧
      ∃ w, ie.put .new = some w ∧ entry.value = w.intoBytes := by
  induction hencode with
  | nil => exact absurd hmem List.not_mem_nil
  | @cons ie' entry _ _ hfirst _ ih =>
      rcases List.mem_cons.mp hmem with hsame | hlater
      · obtain ⟨w, hput, hpure⟩ := Option.bind_eq_some_iff.mp hfirst
        cases hpure
        rw [hsame]
        exact ⟨_, List.mem_cons_self, rfl, w, hput, rfl⟩
      · obtain ⟨found, hfound, hid⟩ := ih hlater
        exact ⟨found, List.mem_cons_of_mem entry hfound, hid⟩

variable (hnodup : (ies.map fun ie => ie.id).Nodup) {ie : Ie} {read : PerRead α} {a : α}
include hnodup

/-- An element that carries a value leaves it in the variable of its id. -/
theorem assigned_of_carries (hmem : ie ∈ ies) (hcarries : Carries ie.put read a) :
    assigned read entries ie.id = some a := by
  obtain ⟨entry, hentry, hid, w, hput, hvalue⟩ := exists_entry hencode hmem
  rw [← map_id_entries hencode] at hnodup
  rw [← hid, assigned, assignedBy_of_mem hnodup hentry, hvalue, hcarries w hput]

theorem assignedIfRead_of_carries (hmem : ie ∈ ies) (hcarries : Carries ie.put read a) (init : β)
    (found : α → β) : assignedIfRead read init found entries ie.id = found a := by
  obtain ⟨entry, hentry, hid, w, hput, hvalue⟩ := exists_entry hencode hmem
  rw [← map_id_entries hencode] at hnodup
  rw [← hid, assignedIfRead, assignedBy_of_mem hnodup hentry, hvalue, hcarries w hput,
    Option.map_some, Option.getD_some]

omit hnodup in
theorem assigned_of_not_mem {id : UInt32} (hmem : id ∉ ies.map fun ie => ie.id)
    (read : PerRead α) : assigned read entries id = none := by
  rw [← map_id_entries hencode] at hmem
  exact assignedBy_of_not_mem hmem

omit hencode hnodup in
theorem map_id_unlessEmpty (items : List α) (ie : Ie) :
    ((unlessEmpty items ie).map fun ie => ie.id) = if items.isEmpty then [] else [ie.id] := by
  unfold unlessEmpty
  split <;> rfl

/-- A list whose element is left out when it is empty is read back. -/
theorem assignedIfRead_unlessEmpty {items : List α} {read : PerRead (List α)}
    (hcarries : Carries ie.put read items) (hmem : ∀ ie' ∈ unlessEmpty items ie, ie' ∈ ies)
    (hout : items = [] → ie.id ∉ ies.map fun ie => ie.id) :
    assignedIfRead read [] id entries ie.id = items := by
  by_cases hempty : items = []
  · have hout := hout hempty
    rw [← map_id_entries hencode] at hout
    rw [assignedIfRead, assignedBy_of_not_mem hout, hempty]
  · have hmem : ie ∈ ies := by
      apply hmem
      rw [unlessEmpty, if_neg (fun h => hempty (List.isEmpty_iff.mp h))]
      exact List.mem_singleton_self ie
    exact assignedIfRead_of_carries hencode hnodup hmem hcarries [] _

end Encoded

/-! ## Decoded elements are encodable -/

/-- An element can be put in place of an entry that has its id. -/
def Ie.RefitsIn (entries : List IeEntry) (ie : Ie) : Prop :=
  ie.criticality.toNat ≤ 2 ∧ ∃ e ∈ entries, e.id = ie.id ∧ Refits ie.put e.value

/-- Elements with distinct ids that refit the entries they were read from take up no more room than
these. -/
theorem exists_lengths {ies : List Ie} {entries : List IeEntry}
    (hids : ∀ e ∈ entries, e.id.toNat ≤ protocolIeIdMax)
    (hnodup : (ies.map fun ie => ie.id).Nodup)
    (hrefits : ∀ ie ∈ ies, ie.RefitsIn entries) :
    ∃ lengths, List.Forall₂ Ie.Fits ies lengths ∧ lengths.length ≤ entries.length ∧
      (lengths.map fun n => 3 + octetStringLength n).sum ≤
        (entries.map fun e => 3 + octetStringLength e.value.length).sum := by
  induction ies generalizing entries with
  | nil => exact ⟨[], .nil, Nat.zero_le _, Nat.zero_le _⟩
  | cons ie ies ih =>
      rw [List.map_cons, List.nodup_cons] at hnodup
      obtain ⟨hcriticality, e, hmem, hid, n, hfills, hle⟩ := hrefits ie List.mem_cons_self
      -- this element takes its entry out, so that no other one counts its room again
      obtain ⟨before, after, rfl⟩ := List.append_of_mem hmem
      have hrest : ∀ ie' ∈ ies, ie'.RefitsIn (before ++ after) := by
        intro ie' hmem'
        obtain ⟨hcriticality', e', hentry, hid', hfills'⟩ :=
          hrefits ie' (List.mem_cons_of_mem ie hmem')
        refine ⟨hcriticality', e', ?_, hid', hfills'⟩
        rcases List.mem_append.mp hentry with hbefore | hafter
        · exact List.mem_append_left after hbefore
        · rcases List.mem_cons.mp hafter with hsame | hafter
          · -- the entry of the first element has another id
            have hidIn : ie.id ∈ ies.map fun ie => ie.id := by
              rw [← hid, ← hsame, hid']
              exact List.mem_map_of_mem (f := fun ie => ie.id) hmem'
            exact absurd hidIn hnodup.1
          · exact List.mem_append_right before hafter
      have hidsRest : ∀ e' ∈ before ++ after, e'.id.toNat ≤ protocolIeIdMax := by
        intro e' hmem'
        refine hids e' ?_
        rcases List.mem_append.mp hmem' with hbefore | hafter
        · exact List.mem_append_left _ hbefore
        · exact List.mem_append_right before (List.mem_cons_of_mem e hafter)
      obtain ⟨lengths, hfits, hcount, hsum⟩ := ih hidsRest hnodup.2 hrest
      have hidMax : ie.id.toNat ≤ protocolIeIdMax := hid ▸ hids e hmem
      have hmono := octetStringLength_mono hle
      refine ⟨n :: lengths, .cons ⟨⟨hidMax, hcriticality⟩, hfills⟩ hfits, ?_, ?_⟩
      · simp only [List.length_append, List.length_cons] at hcount ⊢
        omega
      · simp only [List.map_append, List.sum_append, List.map_cons, List.sum_cons] at hsum ⊢
        omega

/-- A PDU is encoded if its elements refit the entries of a container that was decoded. -/
theorem exists_encodePdu_of_entries {choice : Nat} {procedureCode : UInt32} {criticality : UInt8}
    {ies : List Ie} {value : List UInt8} {entries : List IeEntry} (hchoice : choice ≤ 2)
    (hcode : procedureCode.toNat ≤ procedureCodeMax) (hcriticality : criticality.toNat ≤ 2)
    (hread : parse readIeContainer value = some entries) (hlen : value.length < 16384)
    (hnodup : (ies.map fun ie => ie.id).Nodup)
    (hrefits : ∀ ie ∈ ies, ie.RefitsIn entries) :
    ∃ bytes, encodePdu choice procedureCode criticality ies = some bytes := by
  obtain ⟨hids, hroom⟩ := readIeContainer_eq_some hread
  obtain ⟨lengths, hfits, hcount, hsum⟩ := exists_lengths hids hnodup hrefits
  refine exists_encodePdu hchoice hcode hcriticality hfits ?_
  have hdeterminant := lengthDeterminantLength_mono hcount
  rw [containerLength, List.length_map, List.map_map] at hroom
  have hroom : lengthDeterminantLength entries.length +
      (entries.map fun e => 3 + octetStringLength e.value.length).sum ≤ value.length := hroom
  rw [containerLength]
  omega

end Midn.Container
