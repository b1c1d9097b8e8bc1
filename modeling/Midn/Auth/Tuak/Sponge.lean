import Midn.Lib.Sponge
import Midn.Lib.Word

/-!
# Keccak sponge

The sponge keeps its state as 25 lanes of 64 bits and takes blocks in and output out in bytes, with
its place in the output kept from one call to the next. It is the byte sponge over the little-endian
bytes of the lanes, for any rate.
-/

namespace Midn.Auth.Tuak

def stateLanes : Nat := 25

def stateBytes : Nat := 200

abbrev Lanes := List.Vector UInt64 stateLanes

/-- The state, the rate, and the place in the front of the state that is squeezed next. -/
structure KeccakSponge where
  state : Lanes
  rateBytes : Nat
  squeezePos : Nat
  squeezing : Bool
  rate_pos : 1 ≤ rateBytes
  rate_le : rateBytes ≤ stateBytes
  pos_le : squeezePos ≤ rateBytes

/-- Multi-rate padding. -/
def pad10Star1 (input : List UInt8) (rateBytes : Nat) : List UInt8 :=
  let padLen := rateBytes - input.length % rateBytes
  if padLen = 1 then input ++ [0x81]
  else input ++ 0x01 :: (List.replicate (padLen - 2) 0 ++ [0x80])

/-- A chunk at the beginning of a lane of zeros. -/
def laneBytes (chunk : List UInt8) : Octets 8 := List.Vector.ofFn fun r => chunk.getD r 0

/-- `state[i] ^= mask`; the chunks of a block never go beyond the last lane. -/
def xorLane (state : Lanes) (i : Nat) (mask : UInt64) : Lanes :=
  if hlane : i < stateLanes then state.set ⟨i, hlane⟩ (state.get ⟨i, hlane⟩ ^^^ mask) else state

def xorBlockIntoState (state : Lanes) (block : List UInt8) : Lanes :=
  (Sponge.chunks 8 block).zipIdx.foldl
    (fun state chunk => xorLane state chunk.2 (UInt64.fromLeBytes (laneBytes chunk.1))) state

theorem lane_of_byte (j : Fin stateBytes) : j.val / 8 < stateLanes := by
  have hj : j.val < 200 := j.isLt
  have hlanes : stateLanes = 25 := rfl
  omega

/-- The bytes of the lanes in their order. -/
def stateAsBytes (state : Lanes) : Octets stateBytes :=
  List.Vector.ofFn fun j =>
    (state.get ⟨j / 8, lane_of_byte j⟩).toLeBytes.get ⟨j % 8, Nat.mod_lt _ (by decide)⟩

namespace KeccakSponge

/-- A rate that is not between one byte and the whole state is refused. -/
def new? (rateBytes : Nat) : Option KeccakSponge :=
  if hrate : 1 ≤ rateBytes ∧ rateBytes ≤ stateBytes then
    some ⟨List.Vector.replicate stateLanes 0, rateBytes, 0, false, hrate.1, hrate.2, Nat.zero_le _⟩
  else none

variable (keccakF1600 : Lanes → Lanes) (sponge : KeccakSponge)

/-- Absorb the whole input; nothing is absorbed after squeezing has begun. -/
def absorb? (input : List UInt8) : Option KeccakSponge :=
  if sponge.squeezing then none
  else
    let padded := pad10Star1 input sponge.rateBytes
    some { sponge with
      state := (Sponge.chunks sponge.rateBytes padded).foldl
        (fun state block => keccakF1600 (xorBlockIntoState state block)) sponge.state }

/-- Permute if the front of the state is used up. -/
def refresh : KeccakSponge :=
  if sponge.squeezePos = sponge.rateBytes then
    { sponge with
      state := keccakF1600 sponge.state
      squeezePos := 0
      pos_le := Nat.zero_le _ }
  else sponge

/-- The bytes there are left in the front of the state, but no more than are wanted. -/
def takeLen (wanted : Nat) : Nat := min (sponge.rateBytes - sponge.squeezePos) wanted

/-- Take bytes out of the front of the state. -/
def take (wanted : Nat) : KeccakSponge × List UInt8 :=
  ({ sponge with
      squeezePos := sponge.squeezePos + sponge.takeLen wanted
      pos_le := by
        have hpos := sponge.pos_le
        have htake := min_le_left (sponge.rateBytes - sponge.squeezePos) wanted
        rw [takeLen]
        omega },
    ((stateAsBytes sponge.state).toList.drop sponge.squeezePos).take (sponge.takeLen wanted))

theorem refresh_pos_lt : (sponge.refresh keccakF1600).squeezePos <
    (sponge.refresh keccakF1600).rateBytes := by
  have hrate := sponge.rate_pos
  have hpos := sponge.pos_le
  by_cases hfull : sponge.squeezePos = sponge.rateBytes
  · rw [refresh, if_pos hfull]
    exact hrate
  · rw [refresh, if_neg hfull]
    omega

theorem length_take (wanted : Nat) : (sponge.take wanted).2.length = sponge.takeLen wanted := by
  have hpos := sponge.pos_le
  have hrate := sponge.rate_le
  have htake := min_le_left (sponge.rateBytes - sponge.squeezePos) wanted
  rw [take, List.length_take, List.length_drop, Octets.length_toList, takeLen]
  omega

/-- Something is taken as long as something is wanted. -/
theorem takeLen_refresh_pos {wanted : Nat} (hwanted : 0 < wanted) :
    0 < (sponge.refresh keccakF1600).takeLen wanted := by
  have hpos := refresh_pos_lt keccakF1600 sponge
  rw [takeLen, lt_min_iff]
  omega

/-- Go on until the output has its length. -/
def squeezeLoop (sponge : KeccakSponge) (len : Nat) (out : List UInt8) :
    KeccakSponge × List UInt8 :=
  if out.length < len then
    let taken := (sponge.refresh keccakF1600).take (len - out.length)
    squeezeLoop taken.1 len (out ++ taken.2)
  else (sponge, out)
termination_by len - out.length
decreasing_by
  rename_i hshort
  have hpos := takeLen_refresh_pos keccakF1600 sponge (Nat.sub_pos_of_lt hshort)
  rw [List.length_append, length_take]
  omega

def squeeze (len : Nat) : KeccakSponge × List UInt8 :=
  squeezeLoop keccakF1600 { sponge with squeezing := true } len []

/-- Absorb an input and squeeze an output. -/
def absorbAndSqueeze (rateBytes : Nat) (input : List UInt8) (outputLen : Nat) :
    Option (List UInt8) :=
  match new? rateBytes with
  | some sponge => (sponge.absorb? keccakF1600 input).map fun sponge =>
      (sponge.squeeze keccakF1600 outputLen).2
  | none => none

/-- Squeeze pieces one after the other. -/
def squeezeEach : List Nat → KeccakSponge → List UInt8
  | [], _ => []
  | len :: pieces, sponge =>
      (sponge.squeeze keccakF1600 len).2 ++
        squeezeEach pieces (sponge.squeeze keccakF1600 len).1

end KeccakSponge

/-! ## Padding -/

/-- A one bit first, a one bit last, and zeros between, the least significant bit of a byte
first. -/
def padding (len : Nat) : List UInt8 :=
  (List.range len).map fun i => (if i = 0 then 0x01 else 0) ||| (if i + 1 = len then 0x80 else 0)

theorem padding_add_two (n : Nat) :
    padding (2 + n) = 0x01 :: (List.replicate n 0 ++ [0x80]) := by
  have hzeros : (List.range n).map (fun i => (if i + 1 = 0 then (0x01 : UInt8) else 0) |||
      if i + 1 + 1 = n + 2 then 0x80 else 0) = List.replicate n 0 := by
    rw [List.eq_replicate_iff]
    constructor
    · rw [List.length_map, List.length_range]
    · intro byte hbyte
      obtain ⟨i, hi, rfl⟩ := List.mem_map.mp hbyte
      rw [List.mem_range] at hi
      rw [if_neg (Nat.succ_ne_zero i), if_neg (by omega)]
      rfl
  rw [padding, Nat.add_comm, List.range_succ, List.range_succ_eq_map, List.map_append,
    List.map_cons, List.map_map, List.map_singleton]
  simp only [Function.comp_def, Nat.succ_eq_add_one, hzeros, List.cons_append]
  rw [if_true, if_true, if_neg (by omega), if_neg (Nat.succ_ne_zero n)]
  rfl

theorem pad10Star1_eq {rateBytes : Nat} (hrate : 1 ≤ rateBytes) (input : List UInt8) :
    pad10Star1 input rateBytes = input ++ padding (rateBytes - input.length % rateBytes) := by
  have hrest := Nat.mod_lt input.length hrate
  unfold pad10Star1
  by_cases hone : rateBytes - input.length % rateBytes = 1
  · rw [hone, if_pos rfl]
    rfl
  · obtain ⟨n, hn⟩ := Nat.exists_eq_add_of_le (by omega : 2 ≤ rateBytes - input.length % rateBytes)
    rw [if_neg hone, hn, Nat.add_sub_cancel_left]
    rw [padding_add_two]

/-- A padded input is a number of whole blocks. -/
theorem length_padded {rateBytes : Nat} (hrate : 1 ≤ rateBytes) (input : List UInt8) :
    (input ++ padding (rateBytes - input.length % rateBytes)).length % rateBytes = 0 := by
  have hrest := Nat.mod_lt input.length hrate
  have hinput := Nat.div_add_mod input.length rateBytes
  have hblocks : input.length + (rateBytes - input.length % rateBytes) =
      rateBytes * (input.length / rateBytes + 1) := by
    rw [Nat.mul_add, Nat.mul_one]
    omega
  rw [List.length_append, padding, List.length_map, List.length_range, hblocks, Nat.mul_mod_right]

/-! ## Lanes and bytes -/

/-- The lanes with the given bytes. -/
def lanesOf (bytes : Octets stateBytes) : Lanes :=
  List.Vector.ofFn fun i => UInt64.fromLeBytes (List.Vector.ofFn fun r =>
    bytes.get ⟨8 * i + r, by
      have hi : i.val < 25 := i.isLt
      have hbytes : stateBytes = 200 := rfl
      omega⟩)

theorem lanesOf_stateAsBytes (state : Lanes) : lanesOf (stateAsBytes state) = state := by
  ext i
  have hlane : (List.Vector.ofFn fun r : Fin 8 => (stateAsBytes state).get ⟨8 * i + r, by
      have hi : i.val < 25 := i.isLt
      have hbytes : stateBytes = 200 := rfl
      omega⟩) = (state.get i).toLeBytes := by
    ext r
    have hquotient : (8 * i.val + r.val) / 8 = i := by omega
    have hremainder : (8 * i.val + r.val) % 8 = r := by omega
    simp only [stateAsBytes, List.Vector.get_ofFn, hquotient, hremainder, Fin.eta]
  rw [lanesOf, List.Vector.get_ofFn, hlane, UInt64.fromLeBytes_toLeBytes]

/-- A permutation of the lanes, on their bytes. -/
def onBytes (keccakF1600 : Lanes → Lanes) (bytes : Octets stateBytes) : Octets stateBytes :=
  stateAsBytes (keccakF1600 (lanesOf bytes))

theorem onBytes_stateAsBytes (keccakF1600 : Lanes → Lanes) (state : Lanes) :
    onBytes keccakF1600 (stateAsBytes state) = stateAsBytes (keccakF1600 state) := by
  rw [onBytes, lanesOf_stateAsBytes]

theorem get_xorLane (state : Lanes) (k : Nat) (mask : UInt64) (i : Fin stateLanes) :
    (xorLane state k mask).get i = if k = i then state.get i ^^^ mask else state.get i := by
  rw [xorLane]
  by_cases hsame : k = i
  · subst hsame
    rw [dif_pos i.isLt, if_pos rfl, List.Vector.get_set_same]
  · rw [if_neg hsame]
    by_cases hlane : k < stateLanes
    · have hne : (⟨k, hlane⟩ : Fin stateLanes) ≠ i := fun h => hsame (congrArg Fin.val h)
      rw [dif_pos hlane, List.Vector.get_set_of_ne hne]
    · rw [dif_neg hlane]

/-- Every lane up to a number takes its own mask. -/
theorem get_foldl_xorLane (mask : Nat → UInt64) (count : Nat) (state : Lanes)
    (i : Fin stateLanes) :
    ((List.range count).foldl (fun state k => xorLane state k (mask k)) state).get i =
      if i < count then state.get i ^^^ mask i else state.get i := by
  induction count with
  | zero => exact (if_neg (Nat.not_lt_zero _)).symm
  | succ count ih =>
      rw [List.range_succ, List.foldl_append, List.foldl_cons, List.foldl_nil, get_xorLane, ih]
      by_cases hlast : count = i
      · rw [if_pos hlast, if_neg (by omega), if_pos (by omega), hlast]
      · rw [if_neg hlast]
        by_cases hbefore : i.val < count
        · rw [if_pos hbefore, if_pos (by omega)]
        · rw [if_neg hbefore, if_neg (by omega)]

theorem zipIdx_chunks {α : Type} (size : Nat) (items : List α) :
    (Sponge.chunks size items).zipIdx =
      (List.range ((items.length + size - 1) / size)).map fun i =>
        ((items.drop (size * i)).take size, i) := by
  apply List.ext_getElem
  · simp only [Sponge.chunks, List.length_zipIdx, List.length_map]
  · intro k _ _
    simp only [Sponge.chunks, List.getElem_zipIdx, List.getElem_map, List.getElem_range,
      Nat.zero_add]

/-- The lane that a chunk of a block belongs to. -/
theorem get_xorBlockIntoState (state : Lanes) (block : List UInt8) (i : Fin stateLanes) :
    (xorBlockIntoState state block).get i =
      state.get i ^^^ UInt64.fromLeBytes (laneBytes ((block.drop (8 * i)).take 8)) := by
  rw [xorBlockIntoState, zipIdx_chunks, List.foldl_map,
    get_foldl_xorLane fun i => UInt64.fromLeBytes (laneBytes ((block.drop (8 * i)).take 8))]
  by_cases hchunk : i.val < (block.length + 8 - 1) / 8
  · rw [if_pos hchunk]
  · -- a lane after the block is masked with zeros
    have hnil : block.drop (8 * i) = [] := List.drop_eq_nil_of_le (by omega)
    have hzero : UInt64.fromLeBytes (laneBytes []) = 0 := by decide
    rw [if_neg hchunk, hnil, List.take_nil, hzero, UInt64.xor_zero]

theorem stateAsBytes_xorBlockIntoState (state : Lanes) (block : List UInt8) :
    stateAsBytes (xorBlockIntoState state block) = Sponge.xorFront block (stateAsBytes state) := by
  ext j
  have hbyte : ((block.drop (8 * (j / 8))).take 8).getD (j % 8) 0 = block.getD j 0 := by
    have hlt : j.val % 8 < 8 := Nat.mod_lt _ (by decide)
    rw [List.getD_eq_getElem?_getD, List.getElem?_take_of_lt hlt, List.getElem?_drop,
      Nat.div_add_mod, List.getD_eq_getElem?_getD]
  simp only [stateAsBytes, Sponge.xorFront, List.Vector.get_ofFn, get_xorBlockIntoState,
    UInt64.toLeBytes_xor, Octets.get_xor, UInt64.toLeBytes_fromLeBytes, laneBytes, hbyte]

/-! ## Absorbing -/

theorem stateAsBytes_zero : stateAsBytes (List.Vector.replicate stateLanes 0) =
    Octets.zeros stateBytes := by
  have hlane : (0 : UInt64).toLeBytes = List.Vector.replicate 8 0 := by decide
  ext j
  simp only [stateAsBytes, List.Vector.get_ofFn, List.Vector.get_replicate, Octets.zeros, hlane]

theorem stateAsBytes_foldl (keccakF1600 : Lanes → Lanes) (blocks : List (List UInt8))
    (state : Lanes) :
    stateAsBytes (blocks.foldl
      (fun state block => keccakF1600 (xorBlockIntoState state block)) state) =
      Sponge.absorb (onBytes keccakF1600) blocks (stateAsBytes state) := by
  rw [Sponge.absorb]
  induction blocks generalizing state with
  | nil => rw [List.foldl_nil, List.foldl_nil]
  | cons block blocks ih =>
      rw [List.foldl_cons, List.foldl_cons, ih, ← onBytes_stateAsBytes,
        stateAsBytes_xorBlockIntoState]

namespace KeccakSponge

variable (keccakF1600 : Lanes → Lanes)

/-! ## Squeezing -/

/-- The sponge has so many bytes of the stream of a state behind it. -/
structure At (rate : Nat) (start : Octets stateBytes) (place : Nat) (sponge : KeccakSponge) :
    Prop where
  rateBytes_eq : sponge.rateBytes = rate
  state_eq : ∃ k, stateAsBytes sponge.state = (onBytes keccakF1600)^[k] start ∧
    place = k * rate + sponge.squeezePos

variable {keccakF1600} {rate place : Nat} {start : Octets stateBytes} {sponge : KeccakSponge}

/-- The end of one block is the beginning of the next. -/
theorem At.refresh (h : At keccakF1600 rate start place sponge) :
    At keccakF1600 rate start place (sponge.refresh keccakF1600) := by
  obtain ⟨hrate, k, hstate, hplace⟩ := h
  by_cases hfull : sponge.squeezePos = sponge.rateBytes
  · rw [KeccakSponge.refresh, if_pos hfull]
    refine ⟨hrate, k + 1, ?_, ?_⟩
    · rw [Function.iterate_succ_apply', ← hstate, onBytes_stateAsBytes]
    · have hnext : k * rate + sponge.squeezePos = (k + 1) * rate := by
        rw [hfull, hrate, Nat.succ_mul]
      exact hplace.trans hnext
  · rw [KeccakSponge.refresh, if_neg hfull]
    exact ⟨hrate, k, hstate, hplace⟩

/-- What is taken is the next part of the stream. -/
theorem At.take (h : At keccakF1600 rate start place sponge) (wanted : Nat) :
    (sponge.take wanted).2 =
      Sponge.stream (onBytes keccakF1600) rate start place (sponge.takeLen wanted) ∧
    At keccakF1600 rate start (place + sponge.takeLen wanted) (sponge.take wanted).1 := by
  obtain ⟨hrate, k, hstate, hplace⟩ := h
  have hpos := sponge.pos_le
  have hwidth := sponge.rate_le
  have htake := min_le_left (sponge.rateBytes - sponge.squeezePos) wanted
  rw [← takeLen] at htake
  constructor
  · rw [hplace, Sponge.stream_of_block (by omega) k _ _ (by omega), ← hstate]
    rfl
  · refine ⟨hrate, k, hstate, ?_⟩
    rw [hplace, Nat.add_assoc]
    rfl

theorem squeezeLoop_of_short (keccakF1600 : Lanes → Lanes) {len : Nat} {out : List UInt8}
    (hshort : out.length < len) :
    squeezeLoop keccakF1600 sponge len out =
      squeezeLoop keccakF1600 ((sponge.refresh keccakF1600).take (len - out.length)).1 len
        (out ++ ((sponge.refresh keccakF1600).take (len - out.length)).2) := by
  rw [squeezeLoop, if_pos hshort]

/-- The loop adds the part of the stream that the output is short of. -/
theorem At.squeezeLoop {len : Nat} {out : List UInt8} (hout : out.length ≤ len)
    (h : At keccakF1600 rate start place sponge) :
    (squeezeLoop keccakF1600 sponge len out).2 =
      out ++ Sponge.stream (onBytes keccakF1600) rate start place (len - out.length) ∧
    At keccakF1600 rate start (place + (len - out.length))
      (squeezeLoop keccakF1600 sponge len out).1 := by
  -- the loop goes down in the number of bytes that are still wanted
  induction hleft : len - out.length using Nat.strong_induction_on
    generalizing sponge out place with
  | _ left ih =>
      by_cases hshort : out.length < len
      · obtain ⟨hbytes, hat⟩ := h.refresh.take left
        have hlength := length_take (sponge.refresh keccakF1600) left
        have hsome := takeLen_refresh_pos keccakF1600 sponge (by omega : 0 < left)
        have hwanted := min_le_right ((sponge.refresh keccakF1600).rateBytes -
          (sponge.refresh keccakF1600).squeezePos) left
        rw [← takeLen] at hwanted
        have hlonger : (out ++ ((sponge.refresh keccakF1600).take left).2).length =
            out.length + (sponge.refresh keccakF1600).takeLen left := by
          rw [List.length_append, hlength]
        obtain ⟨rest, hrest⟩ := Nat.exists_eq_add_of_le hwanted
        have hfit : (out ++ ((sponge.refresh keccakF1600).take left).2).length ≤ len := by omega
        obtain ⟨hout', hat'⟩ := ih rest (by omega) hfit hat (by omega)
        rw [squeezeLoop_of_short keccakF1600 hshort, hleft]
        constructor
        · rw [hout', hbytes, List.append_assoc, ← Sponge.stream_append, ← hrest]
        · rw [Nat.add_assoc, ← hrest] at hat'
          exact hat'
      · have hnone : left = 0 := by omega
        rw [KeccakSponge.squeezeLoop, if_neg hshort, hnone]
        exact ⟨(List.append_nil out).symm, h⟩

theorem At.squeeze (h : At keccakF1600 rate start place sponge) (len : Nat) :
    (sponge.squeeze keccakF1600 len).2 =
      Sponge.stream (onBytes keccakF1600) rate start place len ∧
    At keccakF1600 rate start (place + len) (sponge.squeeze keccakF1600 len).1 := by
  have hsqueezing : At keccakF1600 rate start place { sponge with squeezing := true } :=
    ⟨h.rateBytes_eq, h.state_eq⟩
  exact hsqueezing.squeezeLoop (Nat.zero_le len)

/-- Pieces of the stream follow each other in it. -/
theorem At.squeezeEach (h : At keccakF1600 rate start place sponge) (pieces : List Nat) :
    squeezeEach keccakF1600 pieces sponge =
      Sponge.stream (onBytes keccakF1600) rate start place pieces.sum := by
  induction pieces generalizing sponge place with
  | nil => rfl
  | cons len pieces ih =>
      obtain ⟨hbytes, hat⟩ := h.squeeze len
      rw [KeccakSponge.squeezeEach, hbytes, ih hat, List.sum_cons, Sponge.stream_append]

/-- Every sponge has a place in the stream of its own state. -/
theorem at_own_state (sponge : KeccakSponge) :
    At keccakF1600 sponge.rateBytes (stateAsBytes sponge.state) sponge.squeezePos sponge :=
  ⟨rfl, 0, (Function.iterate_zero_apply ..).symm, by rw [Nat.zero_mul, Nat.zero_add]⟩

/-- Pieces add up to one squeeze, wherever in the output the sponge stands. -/
theorem squeezeEach_eq_squeeze (sponge : KeccakSponge) (pieces : List Nat) :
    squeezeEach keccakF1600 pieces sponge = (sponge.squeeze keccakF1600 pieces.sum).2 := by
  have hat : At keccakF1600 _ _ _ sponge := at_own_state sponge
  rw [hat.squeezeEach, (hat.squeeze pieces.sum).1]

variable (keccakF1600)

/-- The padded input in blocks. -/
def blocksOf (rateBytes : Nat) (input : List UInt8) : List (List UInt8) :=
  Sponge.chunks rateBytes (input ++ padding (rateBytes - input.length % rateBytes))

/-- A new sponge absorbs any input, and its state is the absorbed state of the byte sponge. -/
theorem exists_absorbed {rateBytes : Nat} (hrate : 1 ≤ rateBytes ∧ rateBytes ≤ stateBytes)
    (input : List UInt8) :
    ∃ sponge absorbed, new? rateBytes = some sponge ∧
      sponge.absorb? keccakF1600 input = some absorbed ∧
      At keccakF1600 rateBytes (Sponge.absorb (onBytes keccakF1600) (blocksOf rateBytes input)
        (Octets.zeros stateBytes)) 0 absorbed := by
  refine ⟨_, _, dif_pos hrate, if_neg Bool.false_ne_true, rfl, 0, ?_, ?_⟩
  · rw [stateAsBytes_foldl, pad10Star1_eq hrate.1, stateAsBytes_zero]
    rfl
  · exact (Nat.zero_mul _).symm

/-- For every rate the blocks are full, the output is that of the byte sponge on the padded input,
and it can be squeezed in pieces. -/
theorem squeezes_as_byte_sponge {rateBytes : Nat}
    (hrate : 1 ≤ rateBytes ∧ rateBytes ≤ stateBytes) (input : List UInt8) :
    (∀ block ∈ blocksOf rateBytes input, block.length = rateBytes) ∧
    (blocksOf rateBytes input).flatten =
      input ++ padding (rateBytes - input.length % rateBytes) ∧
    ∃ sponge absorbed, new? rateBytes = some sponge ∧
      sponge.absorb? keccakF1600 input = some absorbed ∧
      (∀ len, (absorbed.squeeze keccakF1600 len).2 =
        Sponge.squeeze (onBytes keccakF1600) rateBytes
          (Sponge.absorb (onBytes keccakF1600) (blocksOf rateBytes input)
            (Octets.zeros stateBytes)) len) ∧
      (∀ len, absorbAndSqueeze keccakF1600 rateBytes input len =
        some (absorbed.squeeze keccakF1600 len).2) ∧
      ∀ pieces, squeezeEach keccakF1600 pieces absorbed =
        (absorbed.squeeze keccakF1600 pieces.sum).2 := by
  obtain ⟨sponge, absorbed, hnew, habsorb, hat⟩ := exists_absorbed keccakF1600 hrate input
  refine ⟨?_, ?_, sponge, absorbed, hnew, habsorb, ?_, ?_, ?_⟩
  · intro block hmem
    exact Sponge.length_of_mem_chunks hrate.1 (length_padded hrate.1 input) hmem
  · exact Sponge.flatten_chunks hrate.1 _
  · intro len
    rw [(hat.squeeze len).1, Sponge.squeeze_eq_stream hrate.1 hrate.2]
  · intro len
    rw [absorbAndSqueeze, hnew]
    exact congrArg (Option.map _) habsorb
  · intro pieces
    exact squeezeEach_eq_squeeze absorbed pieces

/-- A rate that ends within a lane, with the lanes turned around for the permutation. -/
theorem squeezes_at_rate_thirteen :
    let keccakF1600 : Lanes → Lanes := fun state => List.Vector.ofFn fun i => state.get i.rev + 1
    ∃ sponge absorbed, new? 13 = some sponge ∧
      sponge.absorb? keccakF1600 [1, 2] = some absorbed ∧
      ∀ pieces, squeezeEach keccakF1600 pieces absorbed =
        (absorbed.squeeze keccakF1600 pieces.sum).2 := by
  intro keccakF1600
  obtain ⟨_, _, sponge, absorbed, hnew, habsorb, _, _, hpieces⟩ :=
    squeezes_as_byte_sponge keccakF1600 (by decide : 1 ≤ 13 ∧ 13 ≤ stateBytes) [1, 2]
  exact ⟨sponge, absorbed, hnew, habsorb, hpieces⟩

end KeccakSponge

end Midn.Auth.Tuak
