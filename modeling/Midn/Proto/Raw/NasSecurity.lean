import Midn.Lib.Checked
import Midn.Proto.Nas.Security

/-!
# NAS security with checked accesses

The removal of NAS protection with every copy and every use of the cipher crates checked. The crates
stop at a key of another length, and when the block counter of a keystream comes around; neither
happens for a slice of memory.
-/

namespace Midn.Nas.Raw

open Checked

variable (P : Primitives)

/-- The keystream ends before its 128-bit block counter repeats. -/
def applyKeystream (key iv : List UInt8) (data : List UInt8) : Checked (List UInt8) := do
  let key ← unwrap (Octets.ofSlice? 16 key)
  let iv ← unwrap (Octets.ofSlice? 16 iv)
  unwrap (if data.length ≤ 16 * (2 ^ 128 - 1) then some (P.applyKeystream key iv data) else none)

/-- COUNT in the first four bytes, and BEARER and DIRECTION in the fifth. -/
def countBearerDirection (n : Nat) (count : UInt32) (bearer : UInt8) (direction : Direction) :
    Checked (Octets n) := do
  let block ← copyInto (Octets.zeros n) 0 4 count.toBeBytes.toList
  store block 4 (bearerDirection bearer direction)

def eea2CounterBlock (count : UInt32) (bearer : UInt8) (direction : Direction) :
    Checked (Octets 16) :=
  countBearerDirection 16 count bearer direction

def eea2Apply (key : Octets 16) (count : UInt32) (bearer : UInt8) (direction : Direction)
    (data : List UInt8) : Checked (List UInt8) := do
  let cb ← eea2CounterBlock count bearer direction
  applyKeystream P key.toList cb.toList data

def eia2ComputeMac (key : Octets 16) (count : UInt32) (bearer : UInt8) (direction : Direction)
    (message : List UInt8) : Checked (Octets 4) := do
  let head ← countBearerDirection 5 count bearer direction
  let key ← unwrap (Octets.ofSlice? 16 key.toList)
  let tag := P.cmac key (head.toList ++ message)
  let first ← slice tag.toList 0 4
  copyFromSlice 4 first

def eia2VerifyMac (key : Octets 16) (count : UInt32) (bearer : UInt8) (direction : Direction)
    (message : List UInt8) (receivedMac : Octets 4) : Checked Bool := do
  let expected ← eia2ComputeMac P key count bearer direction message
  pure (decide (expected = receivedMac))

/-- The MAC is computed only if there is to be one. -/
def unprotectWith (kEnc kInt : Octets 16) (ciphered authenticated : Bool) (count : UInt32)
    (bearer : UInt8) (dir : Direction) (macI : Octets 4) (ciphertext : List UInt8) :
    Checked (Option (List UInt8)) := do
  let refused ←
    if authenticated then do
      let verified ← eia2VerifyMac P kInt count bearer dir ciphertext macI
      pure !verified
    else pure false
  if refused then pure none
  else if ciphered then do
    let payload ← eea2Apply P kEnc count bearer dir ciphertext
    pure (some payload)
  else pure (some ciphertext)

namespace NasSecurityContext

def unprotect (ctx : NasSecurityContext) (count : UInt32) (bearer : UInt8) (dir : Direction)
    (macI : Octets 4) (ciphertext : List UInt8) : Checked (Option (List UInt8)) :=
  unprotectWith P ctx.kNasEnc ctx.kNasInt (ctx.eea ≠ .eea0) (ctx.eia ≠ .eia0) count bearer dir
    macI ciphertext

/-- The COUNT wraps around without a fault. -/
def unprotectUplink (ctx : NasSecurityContext) (bearer seqByte : UInt8) (macI : Octets 4)
    (ciphertext : List UInt8) : Checked (Option (List UInt8) × NasSecurityContext) := do
  let count := reconstructCount ctx.ulCount seqByte
  match ← unprotect P ctx count bearer .uplink macI ciphertext with
  | none => pure (none, ctx)
  | some plain => pure (some plain, { ctx with ulCount := count + 1 })

def unprotectDownlink (ctx : NasSecurityContext) (bearer seqByte : UInt8) (macI : Octets 4)
    (ciphertext : List UInt8) : Checked (Option (List UInt8) × NasSecurityContext) := do
  let count := reconstructCount ctx.dlCount seqByte
  match ← unprotect P ctx count bearer .downlink macI ciphertext with
  | none => pure (none, ctx)
  | some plain => pure (some plain, { ctx with dlCount := count + 1 })

end NasSecurityContext

/-! ## Without faults -/

/-- A block with room for five bytes at least keeps zeros in the rest of it. -/
theorem countBearerDirection_eq_ok (rest : Nat) (count : UInt32) (bearer : UInt8)
    (direction : Direction) :
    ∃ block : Octets (5 + rest),
      countBearerDirection (5 + rest) count bearer direction = .ok block ∧
        block.toList =
          count.toBeBytes.toList ++ bearerDirection bearer direction :: List.replicate rest 0 := by
  have hcount : count.toBeBytes.toList.length = 4 - 0 := Octets.length_toList _
  obtain ⟨copied, hcopied, hlist⟩ :=
    copyInto_eq_ok (Octets.zeros (5 + rest)) (Nat.zero_le 4) (by omega) hcount
  have hfour : 4 < 5 + rest := by omega
  rw [countBearerDirection, hcopied, ok_bind, store_eq_ok _ _ hfour]
  refine ⟨_, rfl, ?_⟩
  have hzeros : (Octets.zeros (5 + rest)).toList.drop 4 = 0 :: List.replicate rest 0 := by
    have hlong : (Octets.zeros (5 + rest)).toList = List.replicate (rest + 1 + 4) 0 := by
      rw [Nat.add_assoc, Nat.add_comm rest]
      rfl
    rw [hlong, List.drop_replicate, Nat.add_sub_cancel, List.replicate_succ]
  rw [List.Vector.toList_set, hlist, hzeros, List.take_zero, List.nil_append,
    List.set_append_right 4 _ (Nat.le_of_eq hcount), hcount]
  rfl

theorem eea2CounterBlock_eq_ok (count : UInt32) (bearer : UInt8) (direction : Direction) :
    eea2CounterBlock count bearer direction =
      .ok (Nas.eea2CounterBlock count bearer direction) := by
  obtain ⟨block, hblock, hlist⟩ := countBearerDirection_eq_ok 11 count bearer direction
  have hsame : block = Nas.eea2CounterBlock count bearer direction := List.Vector.eq _ _ hlist
  rw [eea2CounterBlock, hblock, hsame]

/-- No slice of memory outlasts the keystream. -/
theorem eea2Apply_eq_ok (key : Octets 16) (count : UInt32) (bearer : UInt8)
    (direction : Direction) {data : List UInt8} (hdata : data.length < 2 ^ 63) :
    eea2Apply P key count bearer direction data =
      .ok (Nas.eea2Apply P key count bearer direction data) := by
  have hkeystream : data.length ≤ 16 * (2 ^ 128 - 1) := by omega
  rw [eea2Apply, eea2CounterBlock_eq_ok, ok_bind, applyKeystream, Octets.ofSlice?_toList,
    unwrap_some, ok_bind, Octets.ofSlice?_toList, unwrap_some, ok_bind, if_pos hkeystream,
    unwrap_some, Nas.eea2Apply]

theorem eia2ComputeMac_eq_ok (key : Octets 16) (count : UInt32) (bearer : UInt8)
    (direction : Direction) (message : List UInt8) :
    eia2ComputeMac P key count bearer direction message =
      .ok (Nas.eia2ComputeMac P key count bearer direction message) := by
  obtain ⟨head, hhead, hlist⟩ := countBearerDirection_eq_ok 0 count bearer direction
  have hprefix : head.toList ++ message =
      count.toBeBytes.toList ++ bearerDirection bearer direction :: message := by
    rw [hlist, List.append_assoc]
    rfl
  rw [eia2ComputeMac, hhead, ok_bind, Octets.ofSlice?_toList, unwrap_some, ok_bind,
    Nas.eia2ComputeMac, hprefix]
  generalize P.cmac key (count.toBeBytes.toList ++ bearerDirection bearer direction :: message)
    = tag
  have htag : tag.toList.length = 16 := Octets.length_toList tag
  have hfour : 4 ≤ 16 := by decide
  have hfirst : ((tag.toList.drop 0).take (4 - 0)).length = 4 := by
    rw [List.length_take, List.length_drop, htag]
    rfl
  simp only [slice_eq_ok (Nat.zero_le 4) (htag ▸ hfour), ok_bind, copyFromSlice_eq_ok hfirst]
  rfl

theorem eia2VerifyMac_eq_ok (key : Octets 16) (count : UInt32) (bearer : UInt8)
    (direction : Direction) (message : List UInt8) (receivedMac : Octets 4) :
    eia2VerifyMac P key count bearer direction message receivedMac =
      .ok (Nas.eia2VerifyMac P key count bearer direction message receivedMac) := by
  rw [eia2VerifyMac, eia2ComputeMac_eq_ok, ok_bind, pure_eq_ok, Nas.eia2VerifyMac]

theorem unprotectWith_eq_ok (kEnc kInt : Octets 16) (ciphered authenticated : Bool)
    (count : UInt32) (bearer : UInt8) (dir : Direction) (macI : Octets 4)
    {ciphertext : List UInt8} (hciphertext : ciphertext.length < 2 ^ 63) :
    unprotectWith P kEnc kInt ciphered authenticated count bearer dir macI ciphertext =
      .ok (Nas.unprotectWith P kEnc kInt ciphered authenticated count bearer dir macI
        ciphertext) := by
  rw [unprotectWith, Nas.unprotectWith, eia2VerifyMac_eq_ok, eea2Apply_eq_ok P _ _ _ _ hciphertext]
  cases authenticated <;> cases ciphered <;>
    cases Nas.eia2VerifyMac P kInt count bearer dir ciphertext macI <;> rfl

namespace NasSecurityContext

variable (ctx : NasSecurityContext) (bearer seqByte : UInt8) (macI : Octets 4)
  {ciphertext : List UInt8}

theorem unprotect_eq_ok (count : UInt32) (dir : Direction)
    (hciphertext : ciphertext.length < 2 ^ 63) :
    unprotect P ctx count bearer dir macI ciphertext =
      .ok (ctx.unprotect P count bearer dir macI ciphertext) :=
  unprotectWith_eq_ok P _ _ _ _ _ _ _ _ hciphertext

theorem unprotectUplink_eq_ok (hciphertext : ciphertext.length < 2 ^ 63) :
    unprotectUplink P ctx bearer seqByte macI ciphertext =
      .ok (ctx.unprotectUplink P bearer seqByte macI ciphertext) := by
  simp only [unprotectUplink, unprotect_eq_ok P ctx _ _ _ _ hciphertext, ok_bind,
    Nas.NasSecurityContext.unprotectUplink]
  cases ctx.unprotect P (reconstructCount ctx.ulCount seqByte) bearer .uplink macI ciphertext with
  | none => rfl
  | some plain => rfl

theorem unprotectDownlink_eq_ok (hciphertext : ciphertext.length < 2 ^ 63) :
    unprotectDownlink P ctx bearer seqByte macI ciphertext =
      .ok (ctx.unprotectDownlink P bearer seqByte macI ciphertext) := by
  simp only [unprotectDownlink, unprotect_eq_ok P ctx _ _ _ _ hciphertext, ok_bind,
    Nas.NasSecurityContext.unprotectDownlink]
  cases ctx.unprotect P (reconstructCount ctx.dlCount seqByte) bearer .downlink macI
      ciphertext with
  | none => rfl
  | some plain => rfl

end NasSecurityContext

end Midn.Nas.Raw
