import Mathlib.Data.Nat.Bitwise
import Mathlib.Order.Bounds.Defs
import Mathlib.Tactic.Ring
import Midn.Crypto.Primitives
import Midn.Proto.Nas.Ie

/-!
# NAS security

128-EEA2 ciphering, 128-EIA2 integrity, the NAS key derivation, the expansion of the transmitted
COUNT octet, and the per-subscriber security context with its two COUNTs. Protection encrypts and
then authenticates; removal verifies and then decrypts.
-/

namespace Midn.Nas

/-- BEARER value of all NAS security operations. -/
def nasBearer : UInt8 := 0

/-- Direction of travel of the protected message. -/
inductive Direction where
  | uplink | downlink
deriving DecidableEq, Repr

def Direction.toU8 : Direction → UInt8
  | uplink => 0 | downlink => 1

/-- BEARER in the top five bits, DIRECTION in bit two. -/
def bearerDirection (bearer : UInt8) (direction : Direction) : UInt8 :=
  ((bearer &&& 0x1F) <<< 3) ||| ((direction.toU8 &&& 0x01) <<< 2)

/-- The initial counter block of 128-EEA2. -/
def eea2CounterBlock (count : UInt32) (bearer : UInt8) (direction : Direction) : Octets 16 :=
  ⟨count.toBeBytes.toList ++ bearerDirection bearer direction :: List.replicate 11 0, by
    simp only [List.length_append, Octets.length_toList, List.length_cons, List.length_replicate]⟩

variable (P : Primitives)

/-- Apply the 128-EEA2 keystream; the same call removes it. -/
def eea2Apply (key : Octets 16) (count : UInt32) (bearer : UInt8) (direction : Direction)
    (data : List UInt8) : List UInt8 :=
  P.applyKeystream key (eea2CounterBlock count bearer direction) data

@[simp] theorem eea2Apply_eea2Apply (key : Octets 16) (count : UInt32) (bearer : UInt8)
    (direction : Direction) (data : List UInt8) :
    eea2Apply P key count bearer direction (eea2Apply P key count bearer direction data) = data :=
  P.applyKeystream_applyKeystream ..

/-- The 128-EIA2 MAC-I: the leftmost 32 bits of the CMAC over COUNT, BEARER, DIRECTION and the
message. -/
def eia2ComputeMac (key : Octets 16) (count : UInt32) (bearer : UInt8) (direction : Direction)
    (message : List UInt8) : Octets 4 :=
  (P.cmac key (count.toBeBytes.toList ++ bearerDirection bearer direction :: message)).slice 0 4
    (by decide)

/-- MAC-I verification. -/
def eia2VerifyMac (key : Octets 16) (count : UInt32) (bearer : UInt8) (direction : Direction)
    (message : List UInt8) (receivedMac : Octets 4) : Bool :=
  eia2ComputeMac P key count bearer direction message = receivedMac

/-! ## NAS key derivation -/

def fcNasAlgoKeyDerivation : UInt8 := 0x15
def algoDistinguisherNasEnc : UInt8 := 0x01
def algoDistinguisherNasInt : UInt8 := 0x02

/-- The 128 least significant bits of the KDF over Kasme and the algorithm. -/
def kdfNasKey (kasme : Octets 32) (algorithmDistinguisher algorithmIdentity : UInt8) : Octets 16 :=
  let s := fcNasAlgoKeyDerivation :: algorithmDistinguisher :: (1 : UInt16).toBeBytes.toList ++
    algorithmIdentity :: (1 : UInt16).toBeBytes.toList
  (P.hmacSha256 kasme.toList s).slice 16 16 Primitives.low_in_digest

/-- Ciphering and integrity key for the negotiated algorithm pair. -/
def deriveNasKeys (kasme : Octets 32) (eea : NasEeaAlgorithm) (eia : NasEiaAlgorithm) :
    Octets 16 × Octets 16 :=
  (kdfNasKey P kasme algoDistinguisherNasEnc eea.toU8,
   kdfNasKey P kasme algoDistinguisherNasInt eia.toU8)

/-! ## NAS COUNT reconstruction -/

/-- The full COUNT for a received sequence octet, given the next COUNT expected locally. -/
def reconstructCount (lastCount : UInt32) (receivedSeqByte : UInt8) : UInt32 :=
  let high := lastCount &&& 0xFFFFFF00
  let candidate := high ||| receivedSeqByte.toUInt32
  if candidate ≥ lastCount then candidate
  else (high + 0x100) ||| receivedSeqByte.toUInt32

/-- Masking off the low octet rounds down to a multiple of 256. -/
theorem and_highMask_toNat (x : UInt32) : (x &&& 0xFFFFFF00).toNat = x.toNat / 256 * 256 := by
  have hshift : x.toNat / 256 * 256 = (x.toNat >>> 8) <<< 8 := by
    simp only [Nat.shiftRight_eq_div_pow, Nat.shiftLeft_eq, Nat.reducePow]
  have hmask : (0xFFFFFF00 : UInt32).toNat = (2 ^ 24 - 1) <<< 8 := rfl
  rw [UInt32.toNat_and, hmask, hshift]
  apply Nat.eq_of_testBit_eq
  intro i
  simp only [Nat.testBit_and, Nat.testBit_shiftLeft, Nat.testBit_shiftRight,
    Nat.testBit_two_pow_sub_one]
  by_cases hlow : i ≥ 8
  · by_cases hhigh : i - 8 < 24
    · simp [hlow, hhigh, Nat.add_sub_cancel' hlow]
    · have hzero : x.toNat.testBit i = false :=
        Nat.testBit_lt_two_pow
          (lt_of_lt_of_le x.toNat_lt (Nat.pow_le_pow_right (by omega) (by omega)))
      simp [hlow, hhigh, Nat.add_sub_cancel' hlow, hzero]
  · simp [hlow]

theorem or_octet_toNat (x : UInt32) (b : UInt8) (hx : x.toNat % 256 = 0) :
    (x ||| b.toUInt32).toNat = x.toNat + b.toNat := by
  have hb : b.toNat < 2 ^ 8 := b.toNat_lt
  have hsplit : 2 ^ 8 * (x.toNat / 256) = x.toNat := by omega
  rw [UInt32.toNat_or, UInt8.toNat_toUInt32, ← hsplit, ← Nat.two_pow_add_eq_or_of_lt hb]

theorem reconstructCount_toNat (lastCount : UInt32) (seqByte : UInt8) :
    (reconstructCount lastCount seqByte).toNat =
      if lastCount.toNat % 256 ≤ seqByte.toNat then
        lastCount.toNat / 256 * 256 + seqByte.toNat
      else (lastCount.toNat / 256 * 256 + 256) % 2 ^ 32 + seqByte.toNat := by
  have hhigh := and_highMask_toNat lastCount
  have hcandidate := or_octet_toNat (lastCount &&& 0xFFFFFF00) seqByte
    (by rw [hhigh]; exact Nat.mul_mod_left ..)
  have hnext : ((lastCount &&& 0xFFFFFF00) + 0x100).toNat =
      (lastCount.toNat / 256 * 256 + 256) % 2 ^ 32 := by
    rw [UInt32.toNat_add, hhigh]
    rfl
  have hwrapped := or_octet_toNat ((lastCount &&& 0xFFFFFF00) + 0x100) seqByte
    (by rw [hnext]; omega)
  simp only [reconstructCount, ge_iff_le, UInt32.le_iff_toNat_le, hcandidate, hhigh]
  have hequiv : lastCount.toNat ≤ lastCount.toNat / 256 * 256 + seqByte.toNat ↔
      lastCount.toNat % 256 ≤ seqByte.toNat := by omega
  simp only [hequiv, apply_ite UInt32.toNat, hcandidate, hwrapped, hhigh, hnext]

/-- The reconstructed COUNT carries the received octet. -/
theorem reconstructCount_mod (lastCount : UInt32) (seqByte : UInt8) :
    (reconstructCount lastCount seqByte).toNat % 256 = seqByte.toNat := by
  have hseq : seqByte.toNat < 256 := seqByte.toNat_lt
  rw [reconstructCount_toNat]
  split <;> omega

/-- Away from the end of the COUNT range, reconstruction never moves backwards. -/
theorem le_reconstructCount {lastCount : UInt32} (seqByte : UInt8)
    (hroom : lastCount.toNat + 256 < 2 ^ 32) :
    lastCount.toNat ≤ (reconstructCount lastCount seqByte).toNat := by
  rw [reconstructCount_toNat]
  split <;> omega

/-- The COUNTs from an expected one on that have the received octet. -/
def countsFrom (lastCount : UInt32) (seqByte : UInt8) : Set Nat :=
  {count | lastCount.toNat ≤ count ∧ count < 2 ^ 32 ∧ count % 256 = seqByte.toNat}

/-- There is such a COUNT, unless the last block of 256 COUNTs has begun and is past the octet. -/
theorem countsFrom_nonempty_iff (lastCount : UInt32) (seqByte : UInt8) :
    (countsFrom lastCount seqByte).Nonempty ↔
      lastCount < 0xFFFFFF00 ∨ lastCount.toNat % 256 ≤ seqByte.toNat := by
  have hseq : seqByte.toNat < 256 := seqByte.toNat_lt
  have hword : lastCount.toNat < 2 ^ 32 := lastCount.toNat_lt
  have hlast : (0xFFFFFF00 : UInt32).toNat = 2 ^ 32 - 256 := rfl
  rw [UInt32.lt_iff_toNat_lt, hlast]
  constructor
  · rintro ⟨count, hle, hlt, hoctet⟩
    omega
  · intro hroom
    by_cases hoctet : lastCount.toNat % 256 ≤ seqByte.toNat
    · exact ⟨lastCount.toNat / 256 * 256 + seqByte.toNat, by omega, by omega, by omega⟩
    · exact ⟨lastCount.toNat / 256 * 256 + 256 + seqByte.toNat, by omega, by omega, by omega⟩

/-- If there is such a COUNT, the reconstructed one is the smallest of them. -/
theorem isLeast_reconstructCount {lastCount : UInt32} {seqByte : UInt8}
    (hroom : lastCount < 0xFFFFFF00 ∨ lastCount.toNat % 256 ≤ seqByte.toNat) :
    IsLeast (countsFrom lastCount seqByte) (reconstructCount lastCount seqByte).toNat := by
  have hseq : seqByte.toNat < 256 := seqByte.toNat_lt
  have hlast : (0xFFFFFF00 : UInt32).toNat = 2 ^ 32 - 256 := rfl
  rw [UInt32.lt_iff_toNat_lt, hlast] at hroom
  have hvalue := reconstructCount_toNat lastCount seqByte
  constructor
  · refine ⟨?_, (reconstructCount lastCount seqByte).toNat_lt, reconstructCount_mod _ _⟩
    rw [hvalue]
    split <;> omega
  · rintro count ⟨hle, hlt, hoctet⟩
    rw [hvalue]
    split <;> omega

/-- Reconstruction finds the smallest COUNT from the expected one on that has the received octet,
and that within 256, exactly if the COUNT range does not end before one. -/
theorem reconstructCount_isLeast_iff (lastCount : UInt32) (seqByte : UInt8) :
    (IsLeast (countsFrom lastCount seqByte) (reconstructCount lastCount seqByte).toNat ∧
      lastCount ≤ reconstructCount lastCount seqByte ∧
      (reconstructCount lastCount seqByte).toNat < lastCount.toNat + 256 ∧
      (reconstructCount lastCount seqByte).toNat % 256 = seqByte.toNat) ↔
      lastCount < 0xFFFFFF00 ∨ lastCount.toNat % 256 ≤ seqByte.toNat := by
  constructor
  · rintro ⟨hleast, -⟩
    exact (countsFrom_nonempty_iff lastCount seqByte).mp ⟨_, hleast.1⟩
  · intro hroom
    have hleast := isLeast_reconstructCount hroom
    obtain ⟨hle, -, hoctet⟩ := hleast.1
    refine ⟨hleast, UInt32.le_iff_toNat_le.mpr hle, ?_, hoctet⟩
    have hseq : seqByte.toNat < 256 := seqByte.toNat_lt
    rw [reconstructCount_toNat]
    split <;> omega

/-- At the end of the COUNT range the octet 0 leads back to COUNT 0. -/
theorem reconstructCount_wraps :
    reconstructCount 0xFFFFFFFF 0 = 0 ∧
      ¬ (0xFFFFFFFF : UInt32) ≤ reconstructCount 0xFFFFFFFF 0 := by
  decide

/-- The octet of a COUNT that travels on the wire. -/
theorem seqOctet_toNat (count : UInt32) : (count &&& 0xFF).toUInt8.toNat = count.toNat % 256 := by
  have hmask : (0xFF : UInt32).toNat = 2 ^ 8 - 1 := rfl
  rw [UInt32.toNat_toUInt8, UInt32.toNat_and, hmask, Nat.and_two_pow_sub_one_eq_mod]
  omega

/-- The octet of the expected COUNT reconstructs that COUNT. -/
@[simp] theorem reconstructCount_self (count : UInt32) :
    reconstructCount count (count &&& 0xFF).toUInt8 = count := by
  apply UInt32.toNat_inj.mp
  rw [reconstructCount_toNat, seqOctet_toNat, if_pos (le_refl _)]
  omega

/-! ## Protection under given keys -/

/-- Cipher if enabled, then authenticate the result if enabled. -/
def protectWith (kEnc kInt : Octets 16) (ciphered authenticated : Bool) (count : UInt32)
    (bearer : UInt8) (dir : Direction) (plain : List UInt8) : Octets 4 × List UInt8 :=
  let payload := if ciphered then eea2Apply P kEnc count bearer dir plain else plain
  let macI :=
    if authenticated then eia2ComputeMac P kInt count bearer dir payload else Octets.zeros 4
  (macI, payload)

/-- Verify if enabled, then decipher if enabled. -/
def unprotectWith (kEnc kInt : Octets 16) (ciphered authenticated : Bool) (count : UInt32)
    (bearer : UInt8) (dir : Direction) (macI : Octets 4) (ciphertext : List UInt8) :
    Option (List UInt8) :=
  if authenticated && !eia2VerifyMac P kInt count bearer dir ciphertext macI then none
  else if ciphered then some (eea2Apply P kEnc count bearer dir ciphertext)
  else some ciphertext

/-- What was protected under a COUNT, bearer and direction opens under the same ones. -/
theorem unprotectWith_protectWith (kEnc kInt : Octets 16) (ciphered authenticated : Bool)
    (count : UInt32) (bearer : UInt8) (dir : Direction) (plain : List UInt8) :
    unprotectWith P kEnc kInt ciphered authenticated count bearer dir
      (protectWith P kEnc kInt ciphered authenticated count bearer dir plain).1
      (protectWith P kEnc kInt ciphered authenticated count bearer dir plain).2 = some plain := by
  unfold unprotectWith protectWith eia2VerifyMac
  cases authenticated with
  | false => cases ciphered <;> simp
  | true => cases ciphered <;> simp

/-- Protection does not change the length. -/
@[simp] theorem length_protectWith (kEnc kInt : Octets 16) (ciphered authenticated : Bool)
    (count : UInt32) (bearer : UInt8) (dir : Direction) (plain : List UInt8) :
    (protectWith P kEnc kInt ciphered authenticated count bearer dir plain).2.length =
      plain.length := by
  unfold protectWith eea2Apply
  split
  · exact P.length_applyKeystream ..
  · rfl

/-! ## Security context -/

/-- One protected outbound message: the COUNT it consumed, the MAC-I and the payload. -/
structure ProtectedNas where
  count : UInt32
  macI : Octets 4
  payload : List UInt8

/-- Per-subscriber NAS security state. -/
structure NasSecurityContext where
  kNasEnc : Octets 16
  kNasInt : Octets 16
  eea : NasEeaAlgorithm
  eia : NasEiaAlgorithm
  dlCount : UInt32
  ulCount : UInt32
deriving DecidableEq

namespace NasSecurityContext

/-- A fresh context for Kasme and the agreed algorithms, both COUNTs at zero. -/
def new (kasme : Octets 32) (eea : NasEeaAlgorithm) (eia : NasEiaAlgorithm) :
    NasSecurityContext where
  kNasEnc := (deriveNasKeys P kasme eea eia).1
  kNasInt := (deriveNasKeys P kasme eea eia).2
  eea := eea
  eia := eia
  dlCount := 0
  ulCount := 0

/-- Cipher unless EEA0, then authenticate the ciphertext unless EIA0. -/
def protect (ctx : NasSecurityContext) (count : UInt32) (bearer : UInt8) (dir : Direction)
    (plain : List UInt8) : ProtectedNas :=
  let (macI, payload) := protectWith P ctx.kNasEnc ctx.kNasInt (ctx.eea ≠ .eea0) (ctx.eia ≠ .eia0)
    count bearer dir plain
  ⟨count, macI, payload⟩

/-- Verify unless EIA0, then decipher unless EEA0. -/
def unprotect (ctx : NasSecurityContext) (count : UInt32) (bearer : UInt8) (dir : Direction)
    (macI : Octets 4) (ciphertext : List UInt8) : Option (List UInt8) :=
  unprotectWith P ctx.kNasEnc ctx.kNasInt (ctx.eea ≠ .eea0) (ctx.eia ≠ .eia0) count bearer dir
    macI ciphertext

/-- Protect a network message, consuming the downlink COUNT. -/
def protectDownlink (ctx : NasSecurityContext) (bearer : UInt8) (plain : List UInt8) :
    ProtectedNas × NasSecurityContext :=
  (ctx.protect P ctx.dlCount bearer .downlink plain, { ctx with dlCount := ctx.dlCount + 1 })

/-- Open a UE message; only a verified message advances the uplink COUNT. -/
def unprotectUplink (ctx : NasSecurityContext) (bearer seqByte : UInt8) (macI : Octets 4)
    (ciphertext : List UInt8) : Option (List UInt8) × NasSecurityContext :=
  let count := reconstructCount ctx.ulCount seqByte
  match ctx.unprotect P count bearer .uplink macI ciphertext with
  | none => (none, ctx)
  | some plain => (some plain, { ctx with ulCount := count + 1 })

/-- Protect a UE message, consuming the uplink COUNT. -/
def protectUplink (ctx : NasSecurityContext) (bearer : UInt8) (plain : List UInt8) :
    ProtectedNas × NasSecurityContext :=
  (ctx.protect P ctx.ulCount bearer .uplink plain, { ctx with ulCount := ctx.ulCount + 1 })

/-- Open a network message; only a verified message advances the downlink COUNT. -/
def unprotectDownlink (ctx : NasSecurityContext) (bearer seqByte : UInt8) (macI : Octets 4)
    (ciphertext : List UInt8) : Option (List UInt8) × NasSecurityContext :=
  let count := reconstructCount ctx.dlCount seqByte
  match ctx.unprotect P count bearer .downlink macI ciphertext with
  | none => (none, ctx)
  | some plain => (some plain, { ctx with dlCount := count + 1 })

/-- Two contexts hold the same keys for the same algorithms; their COUNTs may differ. -/
structure SameKeys (ctx ctx' : NasSecurityContext) : Prop where
  kNasEnc : ctx.kNasEnc = ctx'.kNasEnc
  kNasInt : ctx.kNasInt = ctx'.kNasInt
  eea : ctx.eea = ctx'.eea
  eia : ctx.eia = ctx'.eia

theorem SameKeys.refl (ctx : NasSecurityContext) : SameKeys ctx ctx := ⟨rfl, rfl, rfl, rfl⟩

theorem SameKeys.symm {ctx ctx' : NasSecurityContext} (h : SameKeys ctx ctx') :
    SameKeys ctx' ctx :=
  ⟨h.kNasEnc.symm, h.kNasInt.symm, h.eea.symm, h.eia.symm⟩

theorem SameKeys.trans {a b c : NasSecurityContext} (hab : SameKeys a b) (hbc : SameKeys b c) :
    SameKeys a c :=
  ⟨hab.kNasEnc.trans hbc.kNasEnc, hab.kNasInt.trans hbc.kNasInt, hab.eea.trans hbc.eea,
    hab.eia.trans hbc.eia⟩

/-- A peer with the same keys opens what was protected under the same COUNT, bearer and
direction. -/
theorem unprotect_protect {ctx ctx' : NasSecurityContext} (hkeys : SameKeys ctx ctx')
    (count : UInt32) (bearer : UInt8) (dir : Direction) (plain : List UInt8) :
    ctx'.unprotect P count bearer dir (ctx.protect P count bearer dir plain).macI
      (ctx.protect P count bearer dir plain).payload = some plain := by
  unfold unprotect protect
  rw [← hkeys.kNasEnc, ← hkeys.kNasInt, ← hkeys.eea, ← hkeys.eia]
  exact unprotectWith_protectWith P ..

/-- With both algorithms in use, a message is deciphered exactly if its MAC verifies at the
reconstructed COUNT. -/
theorem unprotectUplink_of_enabled {ctx : NasSecurityContext} (hcipher : ctx.eea ≠ .eea0)
    (hintegrity : ctx.eia ≠ .eia0) (bearer seqByte : UInt8) (macI : Octets 4)
    (ciphertext : List UInt8) :
    ctx.unprotectUplink P bearer seqByte macI ciphertext =
      let count := reconstructCount ctx.ulCount seqByte
      if eia2VerifyMac P ctx.kNasInt count bearer .uplink ciphertext macI then
        (some (eea2Apply P ctx.kNasEnc count bearer .uplink ciphertext),
          { ctx with ulCount := count + 1 })
      else (none, ctx) := by
  simp only [unprotectUplink, unprotect, unprotectWith, hcipher, hintegrity, ne_eq,
    not_false_eq_true, decide_true, Bool.true_and, if_true]
  cases eia2VerifyMac P ctx.kNasInt (reconstructCount ctx.ulCount seqByte) bearer .uplink
      ciphertext macI with
  | false => rfl
  | true => rfl

/-- Opening a message never changes the keys. -/
theorem unprotectUplink_sameKeys (ctx : NasSecurityContext) (bearer seqByte : UInt8)
    (macI : Octets 4) (ciphertext : List UInt8) :
    SameKeys ctx (ctx.unprotectUplink P bearer seqByte macI ciphertext).2 := by
  simp only [unprotectUplink]
  split
  · exact .refl ctx
  · exact ⟨rfl, rfl, rfl, rfl⟩

@[simp] theorem unprotectUplink_dlCount (ctx : NasSecurityContext) (bearer seqByte : UInt8)
    (macI : Octets 4) (ciphertext : List UInt8) :
    (ctx.unprotectUplink P bearer seqByte macI ciphertext).2.dlCount = ctx.dlCount := by
  simp only [unprotectUplink]
  split <;> rfl

end NasSecurityContext

end Midn.Nas
