import Mathlib.Data.List.Basic
import Midn.Lib.Octets

/-!
# Cryptographic primitives

The block cipher, AES-CMAC and HMAC-SHA-256 come from external crates and are parameters of the
whole development: every result holds for arbitrary primitives. Counter mode is defined on top of
the block cipher as the cipher crate documents it.
-/

namespace Midn

/-- The external cryptographic functions. -/
structure Primitives where
  /-- AES-128 encryption of one block under a key. -/
  aes128 : Octets 16 → Octets 16 → Octets 16
  /-- AES-128-CMAC of a message under a key. -/
  cmac : Octets 16 → List UInt8 → Octets 16
  /-- HMAC-SHA-256 of a message under a key. -/
  hmacSha256 : List UInt8 → List UInt8 → Octets 32

namespace Primitives

/-- The low half of a digest. -/
theorem low_in_digest : 16 + 16 ≤ 32 := by decide

variable (P : Primitives)

/-- The counter block `j` blocks after the initial one, as a 128-bit big-endian integer. -/
def counterBlock (iv : Octets 16) (j : Nat) : Octets 16 :=
  ⟨Octets.beBytes 16 (Octets.beValue iv.toList + j), Octets.length_beBytes 16 _⟩

/-- The keystream byte at position `i` of counter mode. -/
def keystreamByte (key iv : Octets 16) (i : Nat) : UInt8 :=
  (P.aes128 key (counterBlock iv (i / 16))).get ⟨i % 16, Nat.mod_lt i (by decide)⟩

/-- Mask data with the counter-mode keystream. -/
def applyKeystream (key iv : Octets 16) (data : List UInt8) : List UInt8 :=
  data.mapIdx fun i b => b ^^^ P.keystreamByte key iv i

@[simp] theorem length_applyKeystream (key iv : Octets 16) (data : List UInt8) :
    (P.applyKeystream key iv data).length = data.length :=
  List.length_mapIdx

/-- Counter mode is its own inverse. -/
@[simp] theorem applyKeystream_applyKeystream (key iv : Octets 16) (data : List UInt8) :
    P.applyKeystream key iv (P.applyKeystream key iv data) = data := by
  apply List.ext_getElem
  · simp only [length_applyKeystream]
  · intro i _ _
    simp only [applyKeystream, List.getElem_mapIdx, UInt8.xor_assoc, UInt8.xor_self,
      UInt8.xor_zero]

end Primitives

end Midn
