import Midn.Crypto.Primitives

/-!
# Key derivation

Kasme of EPS-AKA and the KAUSF, KSEAF, KAMF chain of 5G-AKA, all instances of the generic 3GPP
key derivation function.
-/

namespace Midn

def fcKasmeDerivation : UInt8 := 0x10
def fcKausfDerivation : UInt8 := 0x6A
def fcResStarDerivation : UInt8 := 0x6B
def fcKseafDerivation : UInt8 := 0x6C
def fcKamfDerivation : UInt8 := 0x6D

variable (P : Primitives)

/-- HMAC-SHA-256 over FC and each parameter followed by its two-byte length. -/
def kdfGeneric (key : List UInt8) (fc : UInt8) (params : List (List UInt8)) : Octets 32 :=
  P.hmacSha256 key (fc :: params.flatMap fun p => p ++ (UInt16.ofNat p.length).toBeBytes.toList)

/-- Kasme from CK, IK, the serving network identity and SQN ⊕ AK. -/
def deriveKasme (ck ik : Octets 16) (snId : Octets 3) (sqnXorAk : Octets 6) : Octets 32 :=
  kdfGeneric P (ck.toList ++ ik.toList) fcKasmeDerivation [snId.toList, sqnXorAk.toList]

/-- The serving network name bound into the 5G-AKA derivations. -/
def servingNetworkName (plmn : Octets 3) : List UInt8 :=
  "5G:mnc-mcc.".toUTF8.toList ++ plmn.toList ++ ".3gppnetwork.org".toUTF8.toList

def deriveKausf (ck ik : Octets 16) (snn : List UInt8) (sqnXorAk : Octets 6) : Octets 32 :=
  kdfGeneric P (ck.toList ++ ik.toList) fcKausfDerivation [snn, sqnXorAk.toList]

/-- RES* on the UE side, XRES* on the network side: the low 128 bits of the derivation. -/
def deriveResStar (ck ik : Octets 16) (snn : List UInt8) (rand : Octets 16) (res : Octets 8) :
    Octets 16 :=
  (kdfGeneric P (ck.toList ++ ik.toList) fcResStarDerivation
    [snn, rand.toList, res.toList]).slice 16 16 Primitives.low_in_digest

def deriveKseaf (kausf : Octets 32) (snn : List UInt8) : Octets 32 :=
  kdfGeneric P kausf.toList fcKseafDerivation [snn]

def deriveKamf (kseaf : Octets 32) (supi : List UInt8) (abba : Octets 2) : Octets 32 :=
  kdfGeneric P kseaf.toList fcKamfDerivation [supi, abba.toList]

end Midn
