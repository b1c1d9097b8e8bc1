import Mathlib.Data.List.GetD
import Mathlib.Data.List.Range
import Mathlib.Logic.Function.Iterate
import Midn.Lib.Octets

/-!
# Byte sponges

A sponge absorbs blocks into the front of a state, with a permutation after each, and is squeezed of
the front of the state, with a permutation between blocks. What is squeezed is a prefix of one
stream of bytes, so that it can as well be taken out in pieces.
-/

namespace Sponge

/-! ## Blocks -/

section Chunks

variable {α : Type}

/-- The consecutive pieces of a list, all of the given length but perhaps the last. -/
def chunks (size : Nat) (items : List α) : List (List α) :=
  (List.range ((items.length + size - 1) / size)).map fun i => (items.drop (size * i)).take size

/-- The pieces of a multiple of their length are all full. -/
theorem length_of_mem_chunks {size : Nat} (hsize : 0 < size) {items chunk : List α}
    (hmultiple : items.length % size = 0) (hmem : chunk ∈ chunks size items) :
    chunk.length = size := by
  obtain ⟨i, hi, rfl⟩ := List.mem_map.mp hmem
  obtain ⟨count, hcount⟩ := Nat.dvd_of_mod_eq_zero hmultiple
  have hnumber : (items.length + size - 1) / size = count := by
    rw [hcount, Nat.add_sub_assoc hsize, Nat.mul_add_div hsize, Nat.div_eq_of_lt (by omega),
      Nat.add_zero]
  rw [hnumber, List.mem_range] at hi
  have hfit : size * (i + 1) ≤ size * count := Nat.mul_le_mul_left size hi
  rw [Nat.mul_add, Nat.mul_one] at hfit
  rw [List.length_take, List.length_drop, hcount]
  omega

/-- The first pieces of a list are its beginning. -/
theorem flatten_range_pieces (size : Nat) (items : List α) (count : Nat) :
    ((List.range count).map fun i => (items.drop (size * i)).take size).flatten =
      items.take (size * count) := by
  induction count with
  | zero => rw [Nat.mul_zero, List.take_zero, List.range_zero, List.map_nil, List.flatten_nil]
  | succ count ih =>
      rw [List.range_succ, List.map_append, List.flatten_append, ih, List.map_singleton,
        List.flatten_singleton, Nat.mul_succ, List.take_add]

/-- The pieces make up the list. -/
theorem flatten_chunks {size : Nat} (hsize : 0 < size) (items : List α) :
    (chunks size items).flatten = items := by
  have hdivided := Nat.div_add_mod (items.length + size - 1) size
  have hrest := Nat.mod_lt (items.length + size - 1) hsize
  rw [chunks, flatten_range_pieces, List.take_of_length_le (by omega)]

end Chunks

/-! ## Absorbing and squeezing -/

variable {w : Nat} (f : Octets w → Octets w) (rate : Nat)

/-- Exclusive or of a block into the front of a state. -/
def xorFront (block : List UInt8) (s : Octets w) : Octets w :=
  List.Vector.ofFn fun j => s.get j ^^^ block.getD j 0

/-- Each block is added to the state and the state permuted. -/
def absorb (blocks : List (List UInt8)) (s : Octets w) : Octets w :=
  blocks.foldl (fun s block => f (xorFront block s)) s

/-- The fronts of the state and of its permutations one after the other, up to a length. -/
def squeeze (s : Octets w) (len : Nat) : List UInt8 :=
  ((List.range (len / rate + 1)).flatMap fun k => (f^[k] s).toList.take rate).take len

/-- A byte of the stream. -/
def byteAt (s : Octets w) (i : Nat) : UInt8 := (f^[i / rate] s).toList.getD (i % rate) 0

/-- A part of the stream. -/
def stream (s : Octets w) (start len : Nat) : List UInt8 :=
  (List.range' start len).map (byteAt f rate s)

variable {f rate} {s : Octets w}

theorem stream_append (start m n : Nat) :
    stream f rate s start (m + n) = stream f rate s start m ++ stream f rate s (start + m) n := by
  rw [stream, stream, stream, ← List.map_append, List.range'_append_1]

theorem length_stream (start len : Nat) : (stream f rate s start len).length = len := by
  rw [stream, List.length_map, List.length_range']

/-- A part of the front of a permuted state is a part of the stream. -/
theorem stream_of_block (hwidth : rate ≤ w) (k pos len : Nat) (hfit : pos + len ≤ rate) :
    stream f rate s (k * rate + pos) len = ((f^[k] s).toList.drop pos).take len := by
  have hlength := (f^[k] s).length_toList
  apply List.ext_getElem
  · rw [length_stream, List.length_take, List.length_drop, hlength]
    omega
  · intro j hj _
    rw [length_stream] at hj
    have hrate : 0 < rate := by omega
    have hquotient : (k * rate + (pos + j)) / rate = k := by
      rw [Nat.mul_comm, Nat.mul_add_div hrate, Nat.div_eq_of_lt (by omega), Nat.add_zero]
    have hremainder : (k * rate + (pos + j)) % rate = pos + j := by
      rw [Nat.mul_comm, Nat.mul_add_mod, Nat.mod_eq_of_lt (by omega)]
    simp only [stream, List.getElem_map, List.getElem_range', Nat.one_mul, byteAt, Nat.add_assoc,
      hquotient, hremainder, List.getElem_take, List.getElem_drop]
    exact List.getD_eq_getElem ..

/-- The fronts of the permuted states are the stream. -/
theorem flatMap_blocks (hwidth : rate ≤ w) (count : Nat) :
    ((List.range count).flatMap fun k => (f^[k] s).toList.take rate) =
      stream f rate s 0 (count * rate) := by
  induction count with
  | zero =>
      rw [Nat.zero_mul]
      rfl
  | succ count ih =>
      have hblock := stream_of_block (f := f) (s := s) hwidth count 0 rate (by omega)
      rw [Nat.add_zero, List.drop_zero] at hblock
      rw [List.range_succ, List.flatMap_append, ih, List.flatMap_singleton, Nat.succ_mul,
        stream_append, Nat.zero_add, hblock]

/-- What is squeezed is the beginning of the stream. -/
theorem squeeze_eq_stream (hrate : 0 < rate) (hwidth : rate ≤ w) (len : Nat) :
    squeeze f rate s len = stream f rate s 0 len := by
  have henough : len ≤ (len / rate + 1) * rate := by
    have hdivided := Nat.div_add_mod len rate
    have hrest := Nat.mod_lt len hrate
    rw [Nat.succ_mul, Nat.mul_comm]
    omega
  obtain ⟨rest, hrest⟩ := Nat.exists_eq_add_of_le henough
  rw [squeeze, flatMap_blocks hwidth, hrest, stream_append, List.take_left' (length_stream ..)]

end Sponge
