import Midn.Proto.Nas.Channel
import Midn.Proto.Nas5gs.Twin

/-!
# COUNT resynchronisation

A receiver knows the high octets of a COUNT and is told the low one. As long as fewer than 256
messages in a row are lost, that is enough for it to find the COUNT of the next message that arrives
and to continue from there.
-/

namespace Midn

namespace Nas

/-- The octet that travels with a message. -/
def seqOctet (count : UInt32) : UInt8 := (count &&& 0xFF).toUInt8

/-- A COUNT is found again from its octet, if it is less than 256 ahead. -/
theorem reconstructCount_seqOctet {lastCount count : UInt32}
    (hle : lastCount.toNat ≤ count.toNat) (hlt : count.toNat < lastCount.toNat + 256) :
    reconstructCount lastCount (seqOctet count) = count := by
  apply UInt32.toNat_inj.mp
  have hword : count.toNat < 2 ^ 32 := count.toNat_lt
  rw [reconstructCount_toNat, seqOctet, seqOctet_toNat]
  by_cases hblock : lastCount.toNat % 256 ≤ count.toNat % 256
  · rw [if_pos hblock]
    omega
  · -- the low octet has wrapped, so the COUNT is in the next block of 256
    rw [if_neg hblock]
    omega

namespace NasSecurityContext

variable (P : Primitives)

/-- Protect a message on its way in a direction. -/
def protectAlong (ctx : NasSecurityContext) (dir : Direction) (bearer : UInt8)
    (plain : List UInt8) : ProtectedNas × NasSecurityContext :=
  match dir with
  | .uplink => ctx.protectUplink P bearer plain
  | .downlink => ctx.protectDownlink P bearer plain

/-- Open a message on its way in a direction. -/
def unprotectAlong (ctx : NasSecurityContext) (dir : Direction) (bearer seqByte : UInt8)
    (macI : Octets 4) (ciphertext : List UInt8) : Option (List UInt8) × NasSecurityContext :=
  match dir with
  | .uplink => ctx.unprotectUplink P bearer seqByte macI ciphertext
  | .downlink => ctx.unprotectDownlink P bearer seqByte macI ciphertext

/-- The sender after protecting messages, each with its bearer, that never arrive. -/
def loseAlong (ctx : NasSecurityContext) (dir : Direction) (lost : List (UInt8 × List UInt8)) :
    NasSecurityContext :=
  lost.foldl (fun ctx message => (ctx.protectAlong P dir message.1 message.2).2) ctx

theorem protectAlong_eq (ctx : NasSecurityContext) (dir : Direction) (bearer : UInt8)
    (plain : List UInt8) :
    ctx.protectAlong P dir bearer plain =
      (ctx.protect P (ctx.count dir) bearer dir plain,
        ctx.withCount dir (ctx.count dir + 1)) := by
  cases dir <;> rfl

theorem loseAlong_sameKeys (ctx : NasSecurityContext) (dir : Direction)
    (lost : List (UInt8 × List UInt8)) : ctx.SameKeys (ctx.loseAlong P dir lost) := by
  induction lost generalizing ctx with
  | nil => exact .refl ctx
  | cons message lost ih =>
      have hstep := sameKeys_withCount ctx dir (ctx.count dir + 1)
      apply hstep.trans
      rw [loseAlong, List.foldl_cons, protectAlong_eq]
      exact ih _

/-- Every lost message has used up a COUNT. -/
theorem count_loseAlong {ctx : NasSecurityContext} {dir : Direction}
    {lost : List (UInt8 × List UInt8)} (hroom : (ctx.count dir).toNat + lost.length < 2 ^ 32) :
    ((ctx.loseAlong P dir lost).count dir).toNat = (ctx.count dir).toNat + lost.length := by
  induction lost generalizing ctx with
  | nil => rfl
  | cons message lost ih =>
      rw [List.length_cons] at hroom ⊢
      have hnext : ((ctx.withCount dir (ctx.count dir + 1)).count dir).toNat =
          (ctx.count dir).toNat + 1 := by
        rw [count_withCount, UInt32.toNat_add]
        exact Nat.mod_eq_of_lt (by rw [UInt32.toNat_one]; omega)
      rw [loseAlong, List.foldl_cons, protectAlong_eq]
      refine (ih (by rw [hnext]; omega)).trans ?_
      rw [hnext]
      omega

/-- A message that opens under the COUNT its octet expands to moves the COUNT past it. -/
theorem unprotectAlong_of_opens {ctx : NasSecurityContext} {dir : Direction}
    {bearer seqByte : UInt8} {found : UInt32} {macI : Octets 4} {ciphertext plain : List UInt8}
    (hfound : reconstructCount (ctx.count dir) seqByte = found)
    (hopen : ctx.unprotect P found bearer dir macI ciphertext = some plain) :
    ctx.unprotectAlong P dir bearer seqByte macI ciphertext =
      (some plain, ctx.withCount dir (found + 1)) := by
  subst hfound
  cases dir with
  | uplink =>
      rw [count] at hopen
      simp only [unprotectAlong, unprotectUplink, hopen]
      rfl
  | downlink =>
      rw [count] at hopen
      simp only [unprotectAlong, unprotectDownlink, hopen]
      rfl

/-- The next message opens after the loss of fewer than 256, and both COUNTs are the same again. -/
theorem resynchronise {sender receiver : NasSecurityContext} (hkeys : sender.SameKeys receiver)
    {dir : Direction} (hcount : receiver.count dir = sender.count dir)
    {lost : List (UInt8 × List UInt8)} (hlost : lost.length < 256)
    (hroom : (sender.count dir).toNat + lost.length < 2 ^ 32) (bearer : UInt8)
    (plain : List UInt8) :
    let sent := (sender.loseAlong P dir lost).protectAlong P dir bearer plain
    let opened := receiver.unprotectAlong P dir bearer (seqOctet sent.1.count) sent.1.macI
      sent.1.payload
    sent.1.count.toNat = (sender.count dir).toNat + lost.length ∧ opened.1 = some plain ∧
      opened.2.count dir = sent.2.count dir := by
  have hahead := count_loseAlong P hroom
  have hfound : reconstructCount (receiver.count dir)
      (seqOctet ((sender.loseAlong P dir lost).count dir)) =
        (sender.loseAlong P dir lost).count dir :=
    reconstructCount_seqOctet (by rw [hcount]; omega) (by rw [hcount]; omega)
  have hopen := unprotect_protect P ((sender.loseAlong_sameKeys P dir lost).symm.trans hkeys)
    ((sender.loseAlong P dir lost).count dir) bearer dir plain
  have hreceive := unprotectAlong_of_opens P hfound hopen
  simp only [protectAlong_eq]
  refine ⟨hahead, congrArg Prod.fst hreceive, ?_⟩
  refine (congrArg (fun opened => opened.2.count dir) hreceive).trans ?_
  simp only [count_withCount]

end NasSecurityContext

end Nas

namespace Nas5gs

open Midn.Nas

variable (P : Primitives)

namespace Nas5gsSecurityContext

/-- The COUNT of a direction. -/
def count (ctx : Nas5gsSecurityContext) : Direction → UInt32
  | .uplink => ctx.ulCount
  | .downlink => ctx.dlCount

/-- Protect a message on its way in a direction. -/
def protectAlong (ctx : Nas5gsSecurityContext) (dir : Direction) (plain : List UInt8) :
    ProtectedNas5gs × Nas5gsSecurityContext :=
  match dir with
  | .uplink => ctx.protectUplink P plain
  | .downlink => ctx.protectDownlink P plain

/-- Open a message on its way in a direction. -/
def unprotectAlong (ctx : Nas5gsSecurityContext) (dir : Direction) (seqByte : UInt8)
    (macI : Octets 4) (ciphertext : List UInt8) : Option (List UInt8) × Nas5gsSecurityContext :=
  match dir with
  | .uplink => ctx.unprotectUplink P seqByte macI ciphertext
  | .downlink => ctx.unprotectDownlink P seqByte macI ciphertext

/-- The sender after protecting messages that never arrive. -/
def loseAlong (ctx : Nas5gsSecurityContext) (dir : Direction) (lost : List (List UInt8)) :
    Nas5gsSecurityContext :=
  lost.foldl (fun ctx plain => (ctx.protectAlong P dir plain).2) ctx

/-- An LTE context with the same keys and COUNTs, and null algorithms on the same sides. -/
def twin (ctx : Nas5gsSecurityContext) : NasSecurityContext where
  kNasEnc := ctx.kNasEnc
  kNasInt := ctx.kNasInt
  eea := if ctx.nasCipherAlg = 0 then .eea0 else .eea2
  eia := if ctx.nasIntegrityAlg = 0 then .eia0 else .eia2
  dlCount := ctx.dlCount
  ulCount := ctx.ulCount

theorem twins_twin (ctx : Nas5gsSecurityContext) : Twins ctx ctx.twin where
  kNasEnc := rfl
  kNasInt := rfl
  dlCount := rfl
  ulCount := rfl
  cipher_null := by
    by_cases hnull : ctx.nasCipherAlg = 0
    · simp only [twin, hnull, if_true]
    · simp only [twin, hnull, if_false, reduceCtorEq]
  integrity_null := by
    by_cases hnull : ctx.nasIntegrityAlg = 0
    · simp only [twin, hnull, if_true]
    · simp only [twin, hnull, if_false, reduceCtorEq]

theorem SameKeys.twin {ctx ctx' : Nas5gsSecurityContext} (hkeys : ctx.SameKeys ctx') :
    ctx.twin.SameKeys ctx'.twin := by
  refine ⟨hkeys.kNasEnc, hkeys.kNasInt, ?_, ?_⟩
  · simp only [Nas5gsSecurityContext.twin, hkeys.nasCipherAlg]
  · simp only [Nas5gsSecurityContext.twin, hkeys.nasIntegrityAlg]

end Nas5gsSecurityContext

namespace Twins

variable {ctx : Nas5gsSecurityContext} {ctx' : NasSecurityContext}

theorem count_eq (htwins : Twins ctx ctx') (dir : Direction) : ctx.count dir = ctx'.count dir := by
  cases dir with
  | uplink => exact htwins.ulCount
  | downlink => exact htwins.dlCount

/-- Twins protect a message alike and stay twins. -/
theorem protectAlong (htwins : Twins ctx ctx') (dir : Direction) (plain : List UInt8) :
    ((ctx.protectAlong P dir plain).1.count = (ctx'.protectAlong P dir nasBearer plain).1.count ∧
      (ctx.protectAlong P dir plain).1.macI = (ctx'.protectAlong P dir nasBearer plain).1.macI ∧
      (ctx.protectAlong P dir plain).1.payload =
        (ctx'.protectAlong P dir nasBearer plain).1.payload) ∧
      Twins (ctx.protectAlong P dir plain).2 (ctx'.protectAlong P dir nasBearer plain).2 := by
  cases dir with
  | uplink =>
      obtain ⟨hreply, hpost⟩ := htwins.call_eq (P := P) (.protectUplink plain)
      exact ⟨Reply.sealed.inj hreply, hpost⟩
  | downlink =>
      obtain ⟨hreply, hpost⟩ := htwins.call_eq (P := P) (.protectDownlink plain)
      exact ⟨Reply.sealed.inj hreply, hpost⟩

/-- Twins open a message alike and stay twins. -/
theorem unprotectAlong (htwins : Twins ctx ctx') (dir : Direction) (seqByte : UInt8)
    (macI : Octets 4) (ciphertext : List UInt8) :
    (ctx.unprotectAlong P dir seqByte macI ciphertext).1 =
        (ctx'.unprotectAlong P dir nasBearer seqByte macI ciphertext).1 ∧
      Twins (ctx.unprotectAlong P dir seqByte macI ciphertext).2
        (ctx'.unprotectAlong P dir nasBearer seqByte macI ciphertext).2 := by
  cases dir with
  | uplink =>
      obtain ⟨hreply, hpost⟩ := htwins.call_eq (P := P) (.unprotectUplink seqByte macI ciphertext)
      exact ⟨Reply.opened.inj hreply, hpost⟩
  | downlink =>
      obtain ⟨hreply, hpost⟩ :=
        htwins.call_eq (P := P) (.unprotectDownlink seqByte macI ciphertext)
      exact ⟨Reply.opened.inj hreply, hpost⟩

theorem loseAlong (htwins : Twins ctx ctx') (dir : Direction) (lost : List (List UInt8)) :
    Twins (ctx.loseAlong P dir lost)
      (ctx'.loseAlong P dir (lost.map fun plain => (nasBearer, plain))) := by
  induction lost generalizing ctx ctx' with
  | nil => exact htwins
  | cons plain lost ih => exact ih (htwins.protectAlong P dir plain).2

end Twins

/-- The next message opens after the loss of fewer than 256, and both COUNTs are the same again. -/
theorem Nas5gsSecurityContext.resynchronise {sender receiver : Nas5gsSecurityContext}
    (hkeys : sender.SameKeys receiver) {dir : Direction}
    (hcount : receiver.count dir = sender.count dir) {lost : List (List UInt8)}
    (hlost : lost.length < 256) (hroom : (sender.count dir).toNat + lost.length < 2 ^ 32)
    (plain : List UInt8) :
    let sent := (sender.loseAlong P dir lost).protectAlong P dir plain
    let opened := receiver.unprotectAlong P dir (seqOctet sent.1.count) sent.1.macI
      sent.1.payload
    sent.1.count.toNat = (sender.count dir).toNat + lost.length ∧ opened.1 = some plain ∧
      opened.2.count dir = sent.2.count dir := by
  have hsender := sender.twins_twin
  have hreceiver := receiver.twins_twin
  have hlength : (lost.map fun plain => (nasBearer, plain)).length < 256 := by
    rwa [List.length_map]
  have htwin := NasSecurityContext.resynchronise P hkeys.twin
    (by rw [← hreceiver.count_eq, ← hsender.count_eq, hcount]) hlength
    (by rwa [List.length_map, ← hsender.count_eq]) nasBearer plain
  obtain ⟨⟨hsent, hmac, hpayload⟩, hsentPost⟩ :=
    (hsender.loseAlong P dir lost).protectAlong P dir plain
  simp only [← hsent, ← hmac, ← hpayload, ← hsentPost.count_eq, List.length_map,
    ← hsender.count_eq] at htwin
  obtain ⟨hopened, hopenedPost⟩ := hreceiver.unprotectAlong P dir (seqOctet
    ((sender.loseAlong P dir lost).protectAlong P dir plain).1.count)
    ((sender.loseAlong P dir lost).protectAlong P dir plain).1.macI
    ((sender.loseAlong P dir lost).protectAlong P dir plain).1.payload
  rw [← hopened, ← hopenedPost.count_eq] at htwin
  exact htwin

end Nas5gs

open Nas Nas5gs

/-- For each generation and each direction: when both COUNTs are `n` and the messages `n` up to
`n + k - 1` are lost, the message with the COUNT `n + k` opens to what was sent, and both COUNTs are
the same again. -/
theorem delivery_after_losses (P : Primitives) (dir : Direction) (n k : Nat) (hk : k < 256)
    (hroom : n + k + 1 < 2 ^ 32) :
    (∀ sender receiver : NasSecurityContext, sender.SameKeys receiver →
      (sender.count dir).toNat = n → (receiver.count dir).toNat = n →
      ∀ lost : List (UInt8 × List UInt8), lost.length = k → ∀ bearer plain,
        let sent := (sender.loseAlong P dir lost).protectAlong P dir bearer plain
        let opened := receiver.unprotectAlong P dir bearer (seqOctet sent.1.count) sent.1.macI
          sent.1.payload
        sent.1.count.toNat = n + k ∧ opened.1 = some plain ∧
          opened.2.count dir = sent.2.count dir) ∧
    ∀ sender receiver : Nas5gsSecurityContext, sender.SameKeys receiver →
      (sender.count dir).toNat = n → (receiver.count dir).toNat = n →
      ∀ lost : List (List UInt8), lost.length = k → ∀ plain,
        let sent := (sender.loseAlong P dir lost).protectAlong P dir plain
        let opened := receiver.unprotectAlong P dir (seqOctet sent.1.count) sent.1.macI
          sent.1.payload
        sent.1.count.toNat = n + k ∧ opened.1 = some plain ∧
          opened.2.count dir = sent.2.count dir := by
  constructor
  · intro sender receiver hkeys hsender hreceiver lost hlost bearer plain
    subst hsender hlost
    exact NasSecurityContext.resynchronise P hkeys (UInt32.toNat_inj.mp hreceiver) hk (by omega)
      bearer plain
  · intro sender receiver hkeys hsender hreceiver lost hlost plain
    subst hsender hlost
    exact Nas5gsSecurityContext.resynchronise P hkeys (UInt32.toNat_inj.mp hreceiver) hk (by omega)
      plain

/-- Seven losses take the low octet past its wrap. -/
theorem delivery_after_seven_losses :
    let ctx : NasSecurityContext := ⟨Octets.zeros 16, Octets.zeros 16, .eea2, .eia2, 250, 0⟩
    let sent := (ctx.loseAlong .standard .downlink (List.replicate 7 (0, [1]))).protectAlong
      .standard .downlink 0 [2]
    (ctx.unprotectAlong .standard .downlink 0 (seqOctet sent.1.count) sent.1.macI
      sent.1.payload).1 = some [2] :=
  ((delivery_after_losses .standard .downlink 250 7 (by decide) (by decide)).1
    ⟨Octets.zeros 16, Octets.zeros 16, .eea2, .eia2, 250, 0⟩ _ (.refl _) rfl rfl _
    (List.length_replicate ..) 0 [2]).2.1

end Midn
