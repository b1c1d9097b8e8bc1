import Midn.Lib.Octets

/-!
# Subscriber components

The per-subscriber state other than the NAS security contexts: identity, authentication state, the
AKA material in flight for EPS-AKA and 5G-AKA, and the tunnel.
-/

namespace Midn.Ecs

structure IdentityComponent where
  imsi : UInt64
  enbUeS1apId : UInt32
  ueIp : Octets 4
deriving DecidableEq

def IdentityComponent.empty : IdentityComponent := ⟨0, 0, Octets.zeros 4⟩

inductive AuthFailReason where
  | resMismatch | macFailure | sqnOutOfRange | internalError
deriving DecidableEq, Repr

inductive AuthState where
  | unauthenticated
  | challengeIssued
  | authenticated
  | failed (reason : AuthFailReason)
deriving DecidableEq, Repr

/-- EPS-AKA material in flight during authentication and the Kasme derivation. -/
structure SecurityContext where
  pendingRand : Octets 16
  pendingXres : Octets 8
  ck : Octets 16
  ik : Octets 16
  ak : Octets 6
  plmn : Octets 3
  sqnUsed : Octets 6
deriving DecidableEq

namespace SecurityContext

def newEmpty : SecurityContext where
  pendingRand := Octets.zeros 16
  pendingXres := Octets.zeros 8
  ck := Octets.zeros 16
  ik := Octets.zeros 16
  ak := Octets.zeros 6
  plmn := Octets.zeros 3
  sqnUsed := Octets.zeros 6

/-- Wipe RAND and XRES, right after the RES verification. -/
def clearPendingChallenge (ctx : SecurityContext) : SecurityContext :=
  { ctx with pendingRand := Octets.zeros 16, pendingXres := Octets.zeros 8 }

/-- Wipe CK, IK and AK, right after Kasme is derived. -/
def clearPostKasme (ctx : SecurityContext) : SecurityContext :=
  { ctx with ck := Octets.zeros 16, ik := Octets.zeros 16, ak := Octets.zeros 6 }

end SecurityContext

/-- 5G-AKA material in flight during registration and the KAMF chain. -/
structure Nas5gsAkaContext where
  pendingRand : Octets 16
  pendingXresStar : Octets 16
  ck : Octets 16
  ik : Octets 16
  ak : Octets 6
  plmn : Octets 3
  sqnUsed : Octets 6
deriving DecidableEq

namespace Nas5gsAkaContext

def newEmpty : Nas5gsAkaContext where
  pendingRand := Octets.zeros 16
  pendingXresStar := Octets.zeros 16
  ck := Octets.zeros 16
  ik := Octets.zeros 16
  ak := Octets.zeros 6
  plmn := Octets.zeros 3
  sqnUsed := Octets.zeros 6

/-- Wipe RAND and XRES*, right after the RES* verification. -/
def clearPendingChallenge (ctx : Nas5gsAkaContext) : Nas5gsAkaContext :=
  { ctx with pendingRand := Octets.zeros 16, pendingXresStar := Octets.zeros 16 }

/-- Wipe CK, IK and AK, right after the KAMF chain is derived. -/
def clearPostKamf (ctx : Nas5gsAkaContext) : Nas5gsAkaContext :=
  { ctx with ck := Octets.zeros 16, ik := Octets.zeros 16, ak := Octets.zeros 6 }

end Nas5gsAkaContext

structure TunnelComponent where
  ulTeid : UInt32
  dlTeid : UInt32
  enbAddr : Octets 4
deriving DecidableEq

end Midn.Ecs
