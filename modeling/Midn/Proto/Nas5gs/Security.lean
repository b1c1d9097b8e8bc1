import Midn.Proto.Nas.Security

/-!
# NAS-5GS security

The 5G security context. Ciphering and integrity are those of NAS-EPS with the BEARER fixed;
algorithm identifiers stay raw octets, zero meaning the null algorithm.
-/

namespace Midn.Nas5gs

open Midn.Nas

variable (P : Primitives)

/-! ## NAS key derivation -/

def fc5gAlgoKeyDerivation : UInt8 := 0x69

/-- The 128 least significant bits of the KDF over KAMF and the algorithm. -/
def kdf5gNasKey (kamf : Octets 32) (algorithmDistinguisher algorithmIdentity : UInt8) :
    Octets 16 :=
  let s := fc5gAlgoKeyDerivation :: algorithmDistinguisher :: (1 : UInt16).toBeBytes.toList ++
    algorithmIdentity :: (1 : UInt16).toBeBytes.toList
  (P.hmacSha256 kamf.toList s).slice 16 16 Primitives.low_in_digest

/-- Ciphering and integrity key for the negotiated algorithm pair. -/
def deriveNasKeys (kamf : Octets 32) (nasCipherAlg nasIntegrityAlg : UInt8) :
    Octets 16 × Octets 16 :=
  (kdf5gNasKey P kamf algoDistinguisherNasEnc nasCipherAlg,
   kdf5gNasKey P kamf algoDistinguisherNasInt nasIntegrityAlg)

/-! ## Security context -/

/-- One protected outbound message. -/
structure ProtectedNas5gs where
  count : UInt32
  macI : Octets 4
  payload : List UInt8

/-- Per-subscriber 5GS NAS security state. -/
structure Nas5gsSecurityContext where
  kNasEnc : Octets 16
  kNasInt : Octets 16
  nasCipherAlg : UInt8
  nasIntegrityAlg : UInt8
  dlCount : UInt32
  ulCount : UInt32
deriving DecidableEq

namespace Nas5gsSecurityContext

/-- A fresh context for KAMF and the agreed algorithms, both COUNTs at zero. -/
def new (kamf : Octets 32) (nasCipherAlg nasIntegrityAlg : UInt8) : Nas5gsSecurityContext where
  kNasEnc := (deriveNasKeys P kamf nasCipherAlg nasIntegrityAlg).1
  kNasInt := (deriveNasKeys P kamf nasCipherAlg nasIntegrityAlg).2
  nasCipherAlg := nasCipherAlg
  nasIntegrityAlg := nasIntegrityAlg
  dlCount := 0
  ulCount := 0

def cipherIsNull (ctx : Nas5gsSecurityContext) : Bool := ctx.nasCipherAlg = 0

def integrityIsNull (ctx : Nas5gsSecurityContext) : Bool := ctx.nasIntegrityAlg = 0

/-- Cipher unless null, then authenticate the ciphertext unless null. -/
def protect (ctx : Nas5gsSecurityContext) (count : UInt32) (dir : Direction)
    (plain : List UInt8) : ProtectedNas5gs :=
  let (macI, payload) := protectWith P ctx.kNasEnc ctx.kNasInt (!ctx.cipherIsNull)
    (!ctx.integrityIsNull) count nasBearer dir plain
  ⟨count, macI, payload⟩

/-- Verify unless null, then decipher unless null. -/
def unprotect (ctx : Nas5gsSecurityContext) (count : UInt32) (dir : Direction) (macI : Octets 4)
    (ciphertext : List UInt8) : Option (List UInt8) :=
  unprotectWith P ctx.kNasEnc ctx.kNasInt (!ctx.cipherIsNull) (!ctx.integrityIsNull) count
    nasBearer dir macI ciphertext

/-- Protect a network message, consuming the downlink COUNT. -/
def protectDownlink (ctx : Nas5gsSecurityContext) (plain : List UInt8) :
    ProtectedNas5gs × Nas5gsSecurityContext :=
  (ctx.protect P ctx.dlCount .downlink plain, { ctx with dlCount := ctx.dlCount + 1 })

/-- Open a UE message; only a verified message advances the uplink COUNT. -/
def unprotectUplink (ctx : Nas5gsSecurityContext) (seqByte : UInt8) (macI : Octets 4)
    (ciphertext : List UInt8) : Option (List UInt8) × Nas5gsSecurityContext :=
  let count := reconstructCount ctx.ulCount seqByte
  match ctx.unprotect P count .uplink macI ciphertext with
  | none => (none, ctx)
  | some plain => (some plain, { ctx with ulCount := count + 1 })

/-- Protect a UE message, consuming the uplink COUNT. -/
def protectUplink (ctx : Nas5gsSecurityContext) (plain : List UInt8) :
    ProtectedNas5gs × Nas5gsSecurityContext :=
  (ctx.protect P ctx.ulCount .uplink plain, { ctx with ulCount := ctx.ulCount + 1 })

/-- Open a network message; only a verified message advances the downlink COUNT. -/
def unprotectDownlink (ctx : Nas5gsSecurityContext) (seqByte : UInt8) (macI : Octets 4)
    (ciphertext : List UInt8) : Option (List UInt8) × Nas5gsSecurityContext :=
  let count := reconstructCount ctx.dlCount seqByte
  match ctx.unprotect P count .downlink macI ciphertext with
  | none => (none, ctx)
  | some plain => (some plain, { ctx with dlCount := count + 1 })

/-- Two contexts hold the same keys for the same algorithms; their COUNTs may differ. -/
structure SameKeys (ctx ctx' : Nas5gsSecurityContext) : Prop where
  kNasEnc : ctx.kNasEnc = ctx'.kNasEnc
  kNasInt : ctx.kNasInt = ctx'.kNasInt
  nasCipherAlg : ctx.nasCipherAlg = ctx'.nasCipherAlg
  nasIntegrityAlg : ctx.nasIntegrityAlg = ctx'.nasIntegrityAlg

theorem SameKeys.refl (ctx : Nas5gsSecurityContext) : SameKeys ctx ctx := ⟨rfl, rfl, rfl, rfl⟩

/-- A peer with the same keys opens what was protected under the same COUNT and direction. -/
theorem unprotect_protect {ctx ctx' : Nas5gsSecurityContext} (hkeys : SameKeys ctx ctx')
    (count : UInt32) (dir : Direction) (plain : List UInt8) :
    ctx'.unprotect P count dir (ctx.protect P count dir plain).macI
      (ctx.protect P count dir plain).payload = some plain := by
  unfold unprotect protect cipherIsNull integrityIsNull
  rw [← hkeys.kNasEnc, ← hkeys.kNasInt, ← hkeys.nasCipherAlg, ← hkeys.nasIntegrityAlg]
  exact unprotectWith_protectWith P ..

/-- With both algorithms in use, a message is deciphered exactly if its MAC verifies at the
reconstructed COUNT. -/
theorem unprotectUplink_of_enabled {ctx : Nas5gsSecurityContext} (hcipher : ctx.nasCipherAlg ≠ 0)
    (hintegrity : ctx.nasIntegrityAlg ≠ 0) (seqByte : UInt8) (macI : Octets 4)
    (ciphertext : List UInt8) :
    ctx.unprotectUplink P seqByte macI ciphertext =
      let count := reconstructCount ctx.ulCount seqByte
      if eia2VerifyMac P ctx.kNasInt count nasBearer .uplink ciphertext macI then
        (some (eea2Apply P ctx.kNasEnc count nasBearer .uplink ciphertext),
          { ctx with ulCount := count + 1 })
      else (none, ctx) := by
  simp only [unprotectUplink, unprotect, unprotectWith, cipherIsNull, integrityIsNull, hcipher,
    hintegrity, decide_false, Bool.not_false, Bool.true_and, if_true]
  cases eia2VerifyMac P ctx.kNasInt (reconstructCount ctx.ulCount seqByte) nasBearer .uplink
      ciphertext macI with
  | false => rfl
  | true => rfl

/-- Opening a message never changes the keys. -/
theorem unprotectUplink_sameKeys (ctx : Nas5gsSecurityContext) (seqByte : UInt8)
    (macI : Octets 4) (ciphertext : List UInt8) :
    SameKeys ctx (ctx.unprotectUplink P seqByte macI ciphertext).2 := by
  simp only [unprotectUplink]
  split
  · exact .refl ctx
  · exact ⟨rfl, rfl, rfl, rfl⟩

@[simp] theorem unprotectUplink_dlCount (ctx : Nas5gsSecurityContext) (seqByte : UInt8)
    (macI : Octets 4) (ciphertext : List UInt8) :
    (ctx.unprotectUplink P seqByte macI ciphertext).2.dlCount = ctx.dlCount := by
  simp only [unprotectUplink]
  split <;> rfl

end Nas5gsSecurityContext

end Midn.Nas5gs
