import Midn.Crypto.Standard
import Midn.Lib.Mealy
import Midn.Proto.Nas5gs.Security

/-!
# The two NAS security contexts

The 5G context is a copy of the LTE one with the BEARER fixed and the algorithm identifiers left
raw. The two are compared as machines that answer the calls of a channel.
-/

namespace Midn.Nas5gs

open Midn.Nas

variable (P : Primitives)

/-- One call of a security context. -/
inductive Call where
  | protectDownlink (plain : List UInt8)
  | unprotectUplink (seqByte : UInt8) (macI : Octets 4) (ciphertext : List UInt8)
  | protectUplink (plain : List UInt8)
  | unprotectDownlink (seqByte : UInt8) (macI : Octets 4) (ciphertext : List UInt8)

/-- What a call returns. -/
inductive Reply where
  | sealed (count : UInt32) (macI : Octets 4) (payload : List UInt8)
  | opened (plain : Option (List UInt8))

def Nas5gsSecurityContext.call (ctx : Nas5gsSecurityContext) :
    Call → Nas5gsSecurityContext × Reply
  | .protectDownlink plain =>
      let (message, ctx) := ctx.protectDownlink P plain
      (ctx, .sealed message.count message.macI message.payload)
  | .unprotectUplink seqByte macI ciphertext =>
      let (plain, ctx) := ctx.unprotectUplink P seqByte macI ciphertext
      (ctx, .opened plain)
  | .protectUplink plain =>
      let (message, ctx) := ctx.protectUplink P plain
      (ctx, .sealed message.count message.macI message.payload)
  | .unprotectDownlink seqByte macI ciphertext =>
      let (plain, ctx) := ctx.unprotectDownlink P seqByte macI ciphertext
      (ctx, .opened plain)

/-- The same call of the LTE context, always with the BEARER of NAS. -/
def nasCall (ctx : NasSecurityContext) : Call → NasSecurityContext × Reply
  | .protectDownlink plain =>
      let (message, ctx) := ctx.protectDownlink P nasBearer plain
      (ctx, .sealed message.count message.macI message.payload)
  | .unprotectUplink seqByte macI ciphertext =>
      let (plain, ctx) := ctx.unprotectUplink P nasBearer seqByte macI ciphertext
      (ctx, .opened plain)
  | .protectUplink plain =>
      let (message, ctx) := ctx.protectUplink P nasBearer plain
      (ctx, .sealed message.count message.macI message.payload)
  | .unprotectDownlink seqByte macI ciphertext =>
      let (plain, ctx) := ctx.unprotectDownlink P nasBearer seqByte macI ciphertext
      (ctx, .opened plain)

/-- Equal keys and COUNTs, and null algorithms on the same sides. -/
structure Twins (ctx : Nas5gsSecurityContext) (ctx' : NasSecurityContext) : Prop where
  kNasEnc : ctx.kNasEnc = ctx'.kNasEnc
  kNasInt : ctx.kNasInt = ctx'.kNasInt
  dlCount : ctx.dlCount = ctx'.dlCount
  ulCount : ctx.ulCount = ctx'.ulCount
  cipher_null : ctx.nasCipherAlg = 0 ↔ ctx'.eea = .eea0
  integrity_null : ctx.nasIntegrityAlg = 0 ↔ ctx'.eia = .eia0

namespace Twins

variable {P} {ctx : Nas5gsSecurityContext} {ctx' : NasSecurityContext} (htwins : Twins ctx ctx')
include htwins

/-- Twins cipher and authenticate the same messages. -/
theorem enabled :
    (!ctx.cipherIsNull) = decide (ctx'.eea ≠ .eea0) ∧
      (!ctx.integrityIsNull) = decide (ctx'.eia ≠ .eia0) := by
  constructor
  · rw [Nas5gsSecurityContext.cipherIsNull, ← decide_not]
    exact decide_eq_decide.mpr (not_congr htwins.cipher_null)
  · rw [Nas5gsSecurityContext.integrityIsNull, ← decide_not]
    exact decide_eq_decide.mpr (not_congr htwins.integrity_null)

theorem protect_eq (count : UInt32) (dir : Direction) (plain : List UInt8) :
    (ctx.protect P count dir plain).count = (ctx'.protect P count nasBearer dir plain).count ∧
      (ctx.protect P count dir plain).macI = (ctx'.protect P count nasBearer dir plain).macI ∧
      (ctx.protect P count dir plain).payload =
        (ctx'.protect P count nasBearer dir plain).payload := by
  unfold Nas5gsSecurityContext.protect NasSecurityContext.protect
  rw [htwins.kNasEnc, htwins.kNasInt, htwins.enabled.1, htwins.enabled.2]
  exact ⟨rfl, rfl, rfl⟩

theorem unprotect_eq (count : UInt32) (dir : Direction) (macI : Octets 4)
    (ciphertext : List UInt8) :
    ctx.unprotect P count dir macI ciphertext =
      ctx'.unprotect P count nasBearer dir macI ciphertext := by
  unfold Nas5gsSecurityContext.unprotect NasSecurityContext.unprotect
  rw [htwins.kNasEnc, htwins.kNasInt, htwins.enabled.1, htwins.enabled.2]

/-- Twins answer a call alike and stay twins. -/
theorem call_eq (c : Call) :
    (ctx.call P c).2 = (nasCall P ctx' c).2 ∧ Twins (ctx.call P c).1 (nasCall P ctx' c).1 := by
  cases c with
  | protectDownlink plain =>
      obtain ⟨hcount, hmac, hpayload⟩ := htwins.protect_eq (P := P) ctx'.dlCount .downlink plain
      simp only [Nas5gsSecurityContext.call, nasCall, Nas5gsSecurityContext.protectDownlink,
        NasSecurityContext.protectDownlink, htwins.dlCount, hcount, hmac, hpayload, true_and]
      exact { htwins with dlCount := rfl }
  | unprotectUplink seqByte macI ciphertext =>
      simp only [Nas5gsSecurityContext.call, nasCall, Nas5gsSecurityContext.unprotectUplink,
        NasSecurityContext.unprotectUplink, htwins.ulCount, htwins.unprotect_eq]
      cases ctx'.unprotect P (reconstructCount ctx'.ulCount seqByte) nasBearer .uplink macI
          ciphertext with
      | none => exact ⟨rfl, htwins⟩
      | some plain => exact ⟨rfl, { htwins with ulCount := rfl }⟩
  | protectUplink plain =>
      obtain ⟨hcount, hmac, hpayload⟩ := htwins.protect_eq (P := P) ctx'.ulCount .uplink plain
      simp only [Nas5gsSecurityContext.call, nasCall, Nas5gsSecurityContext.protectUplink,
        NasSecurityContext.protectUplink, htwins.ulCount, hcount, hmac, hpayload, true_and]
      exact { htwins with ulCount := rfl }
  | unprotectDownlink seqByte macI ciphertext =>
      simp only [Nas5gsSecurityContext.call, nasCall, Nas5gsSecurityContext.unprotectDownlink,
        NasSecurityContext.unprotectDownlink, htwins.dlCount, htwins.unprotect_eq]
      cases ctx'.unprotect P (reconstructCount ctx'.dlCount seqByte) nasBearer .downlink macI
          ciphertext with
      | none => exact ⟨rfl, htwins⟩
      | some plain => exact ⟨rfl, { htwins with dlCount := rfl }⟩

end Twins

/-- Twins answer every sequence of calls alike, and hold equal COUNTs after each of them. -/
theorem twins_answer_alike (ctx : Nas5gsSecurityContext) (ctx' : NasSecurityContext)
    (htwins : Twins ctx ctx') (calls : List Call) :
    List.Forall₂
      (fun t t' => t.output = t'.output ∧ t.post.dlCount = t'.post.dlCount ∧
        t.post.ulCount = t'.post.ulCount)
      (Mealy.run (Nas5gsSecurityContext.call P) ctx calls)
      (Mealy.run (nasCall P) ctx' calls) := by
  have hcalls : ∀ ctx ctx' c, Twins ctx ctx' →
      (Nas5gsSecurityContext.call P ctx c).2 = (nasCall P ctx' c).2 ∧
        Twins (Nas5gsSecurityContext.call P ctx c).1 (nasCall P ctx' c).1 :=
    fun _ _ c h => Twins.call_eq h c
  have hrun := Mealy.forall₂_run hcalls htwins calls
  exact hrun.imp fun _ _ h => ⟨h.1, h.2.dlCount, h.2.ulCount⟩

/-- A context of each generation with null ciphering and a key of its own. -/
def plainContext (key : Octets 16) : Nas5gsSecurityContext := ⟨key, key, 0, 7, 3, 5⟩

def plainNasContext (key : Octets 16) : NasSecurityContext := ⟨key, key, .eea0, .eia3, 3, 5⟩

theorem plainContexts_answer_alike :
    List.Forall₂
      (fun t t' => t.output = t'.output ∧ t.post.dlCount = t'.post.dlCount ∧
        t.post.ulCount = t'.post.ulCount)
      (Mealy.run (Nas5gsSecurityContext.call .standard) (plainContext (Octets.zeros 16))
        [.protectDownlink [1], .unprotectUplink 0 (Octets.zeros 4) [2]])
      (Mealy.run (nasCall .standard) (plainNasContext (Octets.zeros 16))
        [.protectDownlink [1], .unprotectUplink 0 (Octets.zeros 4) [2]]) :=
  twins_answer_alike .standard (plainContext (Octets.zeros 16))
    (plainNasContext (Octets.zeros 16))
    ⟨rfl, rfl, rfl, rfl, iff_of_true rfl rfl, by decide⟩ _

end Midn.Nas5gs
