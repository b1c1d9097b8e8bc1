import Midn.Crypto.Standard
import Midn.Lib.Delivery
import Midn.Lib.Mealy
import Midn.Proto.Nas.Codec

/-!
# Two peers over a hostile channel

A UE and a network with the same keys exchange protected envelopes over a channel that delivers
whatever it likes, whenever it likes. Each direction carries its own COUNT: the sender numbers its
messages with it, and the receiver accepts a number only beyond the last one, so that what it
accepts is a subsequence of what was sent.
-/

namespace Midn.Nas

/-- The two ends of a NAS connection. -/
inductive Peer where
  | ue | net
deriving DecidableEq, Repr

def Peer.other : Peer → Peer
  | ue => net
  | net => ue

/-- The direction of the messages a peer sends. -/
def Peer.outbound : Peer → Direction
  | ue => .uplink
  | net => .downlink

theorem Peer.outbound_other_ne (p : Peer) : p.other.outbound ≠ p.outbound := by
  cases p <;> decide

theorem Peer.other_ne (p : Peer) : p.other ≠ p := by
  cases p <;> decide

@[simp] theorem Peer.other_other (p : Peer) : p.other.other = p := by
  cases p <;> rfl

theorem Peer.eq_or_eq_other (p q : Peer) : q = p ∨ q = p.other := by
  cases p <;> cases q <;> decide

namespace NasSecurityContext

/-- The COUNT of a direction. -/
def count (ctx : NasSecurityContext) : Direction → UInt32
  | .uplink => ctx.ulCount
  | .downlink => ctx.dlCount

def withCount (ctx : NasSecurityContext) (dir : Direction) (next : UInt32) :
    NasSecurityContext :=
  match dir with
  | .uplink => { ctx with ulCount := next }
  | .downlink => { ctx with dlCount := next }

@[simp] theorem count_withCount (ctx : NasSecurityContext) (dir : Direction) (next : UInt32) :
    (ctx.withCount dir next).count dir = next := by
  cases dir <;> rfl

theorem count_withCount_of_ne (ctx : NasSecurityContext) {dir dir' : Direction} (next : UInt32)
    (hne : dir' ≠ dir) : (ctx.withCount dir next).count dir' = ctx.count dir' := by
  cases dir <;> cases dir' <;> first | rfl | exact absurd rfl hne

theorem sameKeys_withCount (ctx : NasSecurityContext) (dir : Direction) (next : UInt32) :
    ctx.SameKeys (ctx.withCount dir next) := by
  cases dir <;> exact ⟨rfl, rfl, rfl, rfl⟩

variable (P : Primitives)

/-- A message opens exactly if its MAC verifies, unless integrity is null. -/
theorem verifies_of_unprotect {ctx : NasSecurityContext} (heia : ctx.eia ≠ .eia0)
    {count : UInt32} {bearer : UInt8} {dir : Direction} {macI : Octets 4}
    {ciphertext plain : List UInt8}
    (hopen : ctx.unprotect P count bearer dir macI ciphertext = some plain) :
    eia2VerifyMac P ctx.kNasInt count bearer dir ciphertext macI = true := by
  by_contra hfails
  rw [Bool.not_eq_true] at hfails
  simp [unprotect, unprotectWith, heia, hfails] at hopen

/-- What a ciphertext opens to does not depend on the MAC it was accepted with. -/
theorem unprotect_unique {ctx : NasSecurityContext} {count : UInt32} {bearer : UInt8}
    {dir : Direction} {macI macI' : Octets 4} {ciphertext plain plain' : List UInt8}
    (hopen : ctx.unprotect P count bearer dir macI ciphertext = some plain)
    (hopen' : ctx.unprotect P count bearer dir macI' ciphertext = some plain') :
    plain = plain' := by
  simp only [unprotect, unprotectWith] at hopen hopen'
  split at hopen
  · cases hopen
  · split at hopen'
    · cases hopen'
    · split at hopen
      next hcipher =>
        rw [if_pos hcipher] at hopen'
        exact Option.some.inj (hopen.symm.trans hopen')
      next hplain =>
        rw [if_neg hplain] at hopen'
        exact Option.some.inj (hopen.symm.trans hopen')

end NasSecurityContext

variable (P : Primitives) (bearer : UInt8)

/-! ## The two ends -/

/-- Wrap a message for the other end. -/
def sendFrom (p : Peer) (ctx : NasSecurityContext) (sht : UInt8) (plain : List UInt8) :
    List UInt8 × NasSecurityContext :=
  match p with
  | .ue => encodeProtectedUplink P ctx sht bearer plain
  | .net => encodeProtected P ctx sht bearer plain

/-- Open whatever the channel delivers. -/
def receiveAt (p : Peer) (ctx : NasSecurityContext) (buf : List UInt8) :
    Option (List UInt8) × NasSecurityContext :=
  match p with
  | .ue => decodeProtectedDownlink P ctx buf bearer
  | .net => decodeProtected P ctx buf bearer

theorem sendFrom_eq (p : Peer) (ctx : NasSecurityContext) (sht : UInt8) (plain : List UInt8) :
    sendFrom P bearer p ctx sht plain =
      (encodeEnvelope sht (ctx.protect P (ctx.count p.outbound) bearer p.outbound plain),
        ctx.withCount p.outbound (ctx.count p.outbound + 1)) := by
  cases p <;> rfl

theorem receiveAt_of_no_envelope (p : Peer) (ctx : NasSecurityContext) {buf : List UInt8}
    (henvelope : decodeEnvelope buf = none) : receiveAt P bearer p ctx buf = (none, ctx) := by
  cases p <;> simp only [receiveAt, decodeProtectedDownlink, decodeProtected, henvelope]

/-- An envelope is opened under the COUNT its octet expands to, and only success moves the COUNT
past it. -/
theorem receiveAt_of_envelope (p : Peer) (ctx : NasSecurityContext) {buf : List UInt8}
    {macI : Octets 4} {seqByte : UInt8} {ciphertext : List UInt8}
    (henvelope : decodeEnvelope buf = some (macI, seqByte, ciphertext)) :
    receiveAt P bearer p ctx buf =
      let dir := p.other.outbound
      let count := reconstructCount (ctx.count dir) seqByte
      match ctx.unprotect P count bearer dir macI ciphertext with
      | none => (none, ctx)
      | some plain => (some plain, ctx.withCount dir (count + 1)) := by
  cases p <;> simp only [receiveAt, decodeProtectedDownlink, decodeProtected, henvelope] <;> rfl

/-- What an end makes of a delivery. -/
inductive ReceiveStep (p : Peer) (ctx : NasSecurityContext) (buf : List UInt8) : Prop
  | rejected (hreceive : receiveAt P bearer p ctx buf = (none, ctx))
  | accepted (macI : Octets 4) (seqByte : UInt8) (ciphertext plain : List UInt8)
      (henvelope : decodeEnvelope buf = some (macI, seqByte, ciphertext))
      (hopen : ctx.unprotect P (reconstructCount (ctx.count p.other.outbound) seqByte) bearer
        p.other.outbound macI ciphertext = some plain)
      (hreceive : receiveAt P bearer p ctx buf =
        (some plain, ctx.withCount p.other.outbound
          (reconstructCount (ctx.count p.other.outbound) seqByte + 1)))

/-- Every delivery is accounted for. -/
theorem receiveStep (p : Peer) (ctx : NasSecurityContext) (buf : List UInt8) :
    ReceiveStep P bearer p ctx buf := by
  cases henvelope : decodeEnvelope buf with
  | none => exact .rejected (receiveAt_of_no_envelope P bearer p ctx henvelope)
  | some envelope =>
      obtain ⟨macI, seqByte, ciphertext⟩ := envelope
      have hreceive := receiveAt_of_envelope P bearer p ctx henvelope
      cases hopen : ctx.unprotect P (reconstructCount (ctx.count p.other.outbound) seqByte) bearer
          p.other.outbound macI ciphertext with
      | none =>
          simp only [hopen] at hreceive
          exact .rejected hreceive
      | some plain =>
          simp only [hopen] at hreceive
          exact .accepted macI seqByte ciphertext plain henvelope hopen hreceive

/-! ## The system -/

/-- The contexts of the two ends. -/
abbrev Peers := Peer → NasSecurityContext

/-- An end sends a message, or the channel delivers some bytes to an end. -/
inductive ChannelInput where
  | send (p : Peer) (sht : UInt8) (plain : List UInt8)
  | deliver (p : Peer) (buf : List UInt8)

/-- The envelope handed to the channel, or what the receiver made of a delivery. -/
inductive ChannelOutput where
  | envelope (buf : List UInt8)
  | opened (plain : Option (List UInt8))

def channelStep (peers : Peers) : ChannelInput → Peers × ChannelOutput
  | .send p sht plain =>
      (Function.update peers p (sendFrom P bearer p (peers p) sht plain).2,
        .envelope (sendFrom P bearer p (peers p) sht plain).1)
  | .deliver p buf =>
      (Function.update peers p (receiveAt P bearer p (peers p) buf).2,
        .opened (receiveAt P bearer p (peers p) buf).1)

abbrev ChannelTransition := Mealy.Transition Peers ChannelInput ChannelOutput

/-- The message a step sends from an end. -/
def sentIn (p : Peer) (t : ChannelTransition) : Option (List UInt8) :=
  match t.input with
  | .send q _ plain => if q = p then some plain else none
  | .deliver _ _ => none

/-- The message a step makes an end accept. -/
def acceptedIn (p : Peer) (t : ChannelTransition) : Option (List UInt8) :=
  match t.input, t.output with
  | .deliver q _, .opened plain => if q = p then plain else none
  | _, _ => none

/-- The plaintexts an end has sent. -/
def sentBy (p : Peer) (past : List ChannelTransition) : List (List UInt8) :=
  past.filterMap (sentIn p)

/-- The plaintexts an end has accepted. -/
def acceptedBy (p : Peer) (past : List ChannelTransition) : List (List UInt8) :=
  past.filterMap (acceptedIn p)

/-- What a MAC is computed over. -/
structure MacInput where
  count : UInt32
  bearer : UInt8
  dir : Direction
  payload : List UInt8

/-- The MAC a step makes an end compute: for the message it sends, or to check a delivery. -/
def macComputed (p : Peer) (t : ChannelTransition) : Option MacInput :=
  match t.input with
  | .send q _ plain =>
      if q = p then
        let count := (t.pre p).count p.outbound
        some ⟨count, bearer, p.outbound,
          ((t.pre p).protect P count bearer p.outbound plain).payload⟩
      else none
  | .deliver q buf =>
      if q = p then
        (decodeEnvelope buf).map fun (_, seqByte, ciphertext) =>
          ⟨reconstructCount ((t.pre p).count p.other.outbound) seqByte, bearer,
            p.other.outbound, ciphertext⟩
      else none

/-- The MAC of a delivery verifies only if the other end has computed a MAC on that very input. -/
def Unforgeable (past : List ChannelTransition) (t : ChannelTransition) : Prop :=
  ∀ p buf macI seqByte ciphertext, t.input = .deliver p buf →
    decodeEnvelope buf = some (macI, seqByte, ciphertext) →
    let m : MacInput :=
      ⟨reconstructCount ((t.pre p).count p.other.outbound) seqByte, bearer, p.other.outbound,
        ciphertext⟩
    eia2VerifyMac P (t.pre p).kNasInt m.count m.bearer m.dir m.payload macI = true →
    ∃ u ∈ past, macComputed P bearer p.other u = some m

/-- Each end has accepted a subsequence of what the other has sent, and rejecting a delivery
leaves the receiver as it was. -/
def AcceptsSubsequence (past : List ChannelTransition) (t : ChannelTransition) : Prop :=
  (∀ p, (acceptedBy p.other (past ++ [t])).Sublist (sentBy p (past ++ [t]))) ∧
    ∀ p buf, t.input = .deliver p buf → t.output = .opened none → t.post p = t.pre p

/-! ## The invariant -/

theorem sentBy_append_singleton (p : Peer) (past : List ChannelTransition)
    (t : ChannelTransition) :
    sentBy p (past ++ [t]) = sentBy p past ++ (sentIn p t).toList := by
  rw [sentBy, List.filterMap_append, sentBy]
  cases hsent : sentIn p t <;> simp [hsent]

theorem acceptedBy_append_singleton (p : Peer) (past : List ChannelTransition)
    (t : ChannelTransition) :
    acceptedBy p (past ++ [t]) = acceptedBy p past ++ (acceptedIn p t).toList := by
  rw [acceptedBy, List.filterMap_append, acceptedBy]
  cases haccepted : acceptedIn p t <;> simp [haccepted]

/-- What the histories say about the two contexts, which share the keys of one. -/
structure ChannelInvariant (ctx : NasSecurityContext) (past : List ChannelTransition)
    (peers : Peers) : Prop where
  keys : ∀ p, ctx.SameKeys (peers p)
  /-- The COUNT of a sender is the number of messages it has sent. -/
  counted : ∀ p, ((peers p).count p.outbound).toNat = (sentBy p past).length
  /-- A MAC of the outbound direction is that of the message sent under its COUNT. -/
  computed : ∀ p u m, u ∈ past → macComputed P bearer p u = some m → m.dir = p.outbound →
    ∃ plain, (sentBy p past)[m.count.toNat]? = some plain ∧
      ∃ macI, ctx.unprotect P m.count bearer p.outbound macI m.payload = some plain
  /-- The COUNT of a receiver is beyond everything it has accepted. -/
  delivered : ∀ p, Delivery.InOrder (sentBy p past) (acceptedBy p.other past)
    ((peers p.other).count p.outbound).toNat

variable {P bearer} {ctx : NasSecurityContext} {past : List ChannelTransition} {peers : Peers}

/-- A MAC stays that of its message when more messages are sent. -/
theorem ChannelInvariant.computed_append (hinv : ChannelInvariant P bearer ctx past peers)
    {t : ChannelTransition} {p : Peer} {u : ChannelTransition} {m : MacInput} (hmem : u ∈ past)
    (hmac : macComputed P bearer p u = some m) (hdir : m.dir = p.outbound) :
    ∃ plain, (sentBy p (past ++ [t]))[m.count.toNat]? = some plain ∧
      ∃ macI, ctx.unprotect P m.count bearer p.outbound macI m.payload = some plain := by
  obtain ⟨plain, hsent, hopen⟩ := hinv.computed p u m hmem hmac hdir
  obtain ⟨hlt, -⟩ := List.getElem?_eq_some_iff.mp hsent
  refine ⟨plain, ?_, hopen⟩
  rw [sentBy_append_singleton, List.getElem?_append_left hlt]
  exact hsent

/-- Sending keeps the invariant, short of a wrap of the COUNT. -/
theorem channelInvariant_send (hinv : ChannelInvariant P bearer ctx past peers) (p : Peer)
    (sht : UInt8) (plain : List UInt8)
    (hroom : (sentBy p past).length + 1 < 2 ^ 32) :
    ChannelInvariant P bearer ctx
      (past ++ [Mealy.transition (channelStep P bearer) peers (.send p sht plain)])
      (channelStep P bearer peers (.send p sht plain)).1 := by
  have hsentSelf : sentBy p
      (past ++ [Mealy.transition (channelStep P bearer) peers (.send p sht plain)]) =
        sentBy p past ++ [plain] := by
    rw [sentBy_append_singleton]
    simp [sentIn, Mealy.transition]
  have hsentOther : sentBy p.other
      (past ++ [Mealy.transition (channelStep P bearer) peers (.send p sht plain)]) =
        sentBy p.other past := by
    rw [sentBy_append_singleton]
    simp [sentIn, Mealy.transition, p.other_ne.symm]
  have haccepted : ∀ q, acceptedBy q
      (past ++ [Mealy.transition (channelStep P bearer) peers (.send p sht plain)]) =
        acceptedBy q past := by
    intro q
    rw [acceptedBy_append_singleton]
    simp [acceptedIn, Mealy.transition]
  have hself : (channelStep P bearer peers (.send p sht plain)).1 p =
      (peers p).withCount p.outbound ((peers p).count p.outbound + 1) := by
    simp only [channelStep, Function.update_self, sendFrom_eq]
  have hother : (channelStep P bearer peers (.send p sht plain)).1 p.other = peers p.other := by
    simp only [channelStep, Function.update_of_ne p.other_ne]
  refine ⟨fun q => ?_, fun q => ?_, fun q u m hmem hmac hdir => ?_, fun q => ?_⟩
  · rcases p.eq_or_eq_other q with rfl | rfl
    · rw [hself]
      exact (hinv.keys _).trans (NasSecurityContext.sameKeys_withCount ..)
    · rw [hother]
      exact hinv.keys _
  · rcases p.eq_or_eq_other q with rfl | rfl
    · rw [hself, hsentSelf, NasSecurityContext.count_withCount, List.length_append,
        UInt32.toNat_add, hinv.counted]
      exact Nat.mod_eq_of_lt hroom
    · rw [hother, hsentOther]
      exact hinv.counted _
  · rcases List.mem_append.mp hmem with hpast | hlast
    · exact hinv.computed_append hpast hmac hdir
    · -- the MAC of the message just sent
      rw [List.mem_singleton] at hlast
      subst hlast
      simp only [macComputed, Mealy.transition] at hmac
      split at hmac
      next hsender =>
        subst hsender
        cases hmac
        refine ⟨plain, ?_, _, NasSecurityContext.unprotect_protect P (hinv.keys _).symm _ _ _ _⟩
        rw [hsentSelf, hinv.counted, List.getElem?_concat_length]
      next => cases hmac
  · rcases p.eq_or_eq_other q with rfl | rfl
    · rw [hsentSelf, haccepted, hother]
      exact (hinv.delivered _).send plain
    · have hcount : ((peers p).withCount p.outbound ((peers p).count p.outbound + 1)).count
          p.other.outbound = (peers p).count p.other.outbound :=
        NasSecurityContext.count_withCount_of_ne _ _ p.outbound_other_ne
      have hdelivered := hinv.delivered p.other
      rw [Peer.other_other] at hdelivered ⊢
      rw [hsentOther, haccepted, hself, hcount]
      exact hdelivered

/-- A delivery that is accepted is the message sent under the COUNT its octet expands to. -/
theorem ChannelInvariant.sent_of_accepted (hinv : ChannelInvariant P bearer ctx past peers)
    (heia : ctx.eia ≠ .eia0) {p : Peer} {buf : List UInt8}
    (hunforgeable : Unforgeable P bearer past
      (Mealy.transition (channelStep P bearer) peers (.deliver p buf)))
    {macI : Octets 4} {seqByte : UInt8} {ciphertext plain : List UInt8}
    (henvelope : decodeEnvelope buf = some (macI, seqByte, ciphertext))
    (hopen : (peers p).unprotect P
      (reconstructCount ((peers p).count p.other.outbound) seqByte) bearer p.other.outbound macI
      ciphertext = some plain) :
    (sentBy p.other past)[
      (reconstructCount ((peers p).count p.other.outbound) seqByte).toNat]? = some plain := by
  have hkeys := hinv.keys p
  have heia' : (peers p).eia ≠ .eia0 := by
    rw [← hkeys.eia]
    exact heia
  have hverifies := NasSecurityContext.verifies_of_unprotect P heia' hopen
  obtain ⟨u, hmem, hmac⟩ := hunforgeable p buf macI seqByte ciphertext rfl henvelope hverifies
  obtain ⟨plain', hsent, macI', hopen'⟩ := hinv.computed p.other u _ hmem hmac rfl
  -- both peers decipher with the same key
  have hopenSelf : (peers p).unprotect P
      (reconstructCount ((peers p).count p.other.outbound) seqByte) bearer p.other.outbound macI'
      ciphertext = some plain' := by
    rw [← hopen']
    unfold NasSecurityContext.unprotect
    rw [hkeys.kNasEnc, hkeys.kNasInt, hkeys.eea, hkeys.eia]
    rfl
  rw [NasSecurityContext.unprotect_unique P hopen hopenSelf]
  exact hsent

/-- A delivery keeps the invariant, as long as the COUNTs stay away from the end of their range. -/
theorem channelInvariant_deliver (hinv : ChannelInvariant P bearer ctx past peers)
    (heia : ctx.eia ≠ .eia0) (p : Peer) (buf : List UInt8)
    (hroom : (sentBy p.other past).length + 256 < 2 ^ 32)
    (hunforgeable : Unforgeable P bearer past
      (Mealy.transition (channelStep P bearer) peers (.deliver p buf))) :
    ChannelInvariant P bearer ctx
      (past ++ [Mealy.transition (channelStep P bearer) peers (.deliver p buf)])
      (channelStep P bearer peers (.deliver p buf)).1 := by
  have hsent : ∀ q, sentBy q
      (past ++ [Mealy.transition (channelStep P bearer) peers (.deliver p buf)]) =
        sentBy q past := by
    intro q
    rw [sentBy_append_singleton]
    simp [sentIn, Mealy.transition]
  have hacceptedSelf : acceptedBy p
      (past ++ [Mealy.transition (channelStep P bearer) peers (.deliver p buf)]) =
        acceptedBy p past ++ (receiveAt P bearer p (peers p) buf).1.toList := by
    rw [acceptedBy_append_singleton]
    simp [acceptedIn, Mealy.transition, channelStep]
  have hacceptedOther : acceptedBy p.other
      (past ++ [Mealy.transition (channelStep P bearer) peers (.deliver p buf)]) =
        acceptedBy p.other past := by
    rw [acceptedBy_append_singleton]
    simp [acceptedIn, Mealy.transition, channelStep, p.other_ne.symm]
  have hself : (channelStep P bearer peers (.deliver p buf)).1 p =
      (receiveAt P bearer p (peers p) buf).2 := by
    simp only [channelStep, Function.update_self]
  have hother : (channelStep P bearer peers (.deliver p buf)).1 p.other = peers p.other := by
    simp only [channelStep, Function.update_of_ne p.other_ne]
  have hkeys : (peers p).SameKeys (receiveAt P bearer p (peers p) buf).2 ∧
      (receiveAt P bearer p (peers p) buf).2.count p.outbound = (peers p).count p.outbound := by
    cases receiveStep P bearer p (peers p) buf with
    | rejected hreceive =>
        rw [hreceive]
        exact ⟨.refl _, rfl⟩
    | accepted macI seqByte ciphertext plain _ _ hreceive =>
        rw [hreceive]
        exact ⟨NasSecurityContext.sameKeys_withCount ..,
          NasSecurityContext.count_withCount_of_ne _ _ p.outbound_other_ne.symm⟩
  refine ⟨fun q => ?_, fun q => ?_, fun q u m hmem hmac hdir => ?_, fun q => ?_⟩
  · rcases p.eq_or_eq_other q with rfl | rfl
    · rw [hself]
      exact (hinv.keys _).trans hkeys.1
    · rw [hother]
      exact hinv.keys _
  · rcases p.eq_or_eq_other q with rfl | rfl
    · rw [hself, hsent, hkeys.2]
      exact hinv.counted _
    · rw [hother, hsent]
      exact hinv.counted _
  · rcases List.mem_append.mp hmem with hpast | hlast
    · exact hinv.computed_append hpast hmac hdir
    · -- the MAC of a check is of the other direction
      rw [List.mem_singleton] at hlast
      subst hlast
      simp only [macComputed, Mealy.transition] at hmac
      split at hmac
      next hreceiver =>
        subst hreceiver
        obtain ⟨envelope, -, rfl⟩ := Option.map_eq_some_iff.mp hmac
        exact absurd hdir (Peer.outbound_other_ne _)
      next => cases hmac
  · rcases p.eq_or_eq_other q with rfl | rfl
    · rw [hsent, hacceptedOther, hother]
      exact hinv.delivered _
    · have hdelivered := hinv.delivered p.other
      rw [Peer.other_other] at hdelivered ⊢
      rw [hsent, hacceptedSelf, hself]
      cases receiveStep P bearer p (peers p) buf with
      | rejected hreceive =>
          rw [hreceive, Option.toList_none, List.append_nil]
          exact hdelivered
      | accepted macI seqByte ciphertext plain henvelope hopen hreceive =>
          -- the envelope is that of a sent message, whose COUNT is not below the one expected
          have haccepted := hinv.sent_of_accepted heia hunforgeable henvelope hopen
          obtain ⟨hlt, -⟩ := List.getElem?_eq_some_iff.mp haccepted
          have hbelow := hdelivered.bound
          have hbeyond : ((peers p).count p.other.outbound).toNat ≤
              (reconstructCount ((peers p).count p.other.outbound) seqByte).toNat :=
            le_reconstructCount seqByte (by omega)
          have hnext : (reconstructCount ((peers p).count p.other.outbound) seqByte + 1).toNat =
              (reconstructCount ((peers p).count p.other.outbound) seqByte).toNat + 1 := by
            rw [UInt32.toNat_add, UInt32.toNat_one]
            exact Nat.mod_eq_of_lt (by omega)
          rw [hreceive, Option.toList_some, NasSecurityContext.count_withCount, hnext]
          exact hdelivered.accept hbeyond haccepted

variable (P bearer) in
/-- Two ends that start with the same keys, integrity enabled and COUNTs at zero: whatever the
channel does, if no MAC is forged and neither end sends close to 2^32 messages, each accepts a
subsequence of what the other has sent. -/
theorem always_acceptsSubsequence (peers : Peers) (hkeys : (peers .ue).SameKeys (peers .net))
    (heia : (peers .ue).eia ≠ .eia0) (hzero : ∀ p dir, (peers p).count dir = 0)
    (inputs : List ChannelInput)
    (hshort : ∀ p,
      (sentBy p (Mealy.run (channelStep P bearer) peers inputs)).length < 2 ^ 32 - 256)
    (hunforgeable :
      Mealy.Always (channelStep P bearer) peers inputs (Unforgeable P bearer)) :
    Mealy.Always (channelStep P bearer) peers inputs AcceptsSubsequence := by
  have hroom : Mealy.Always (channelStep P bearer) peers inputs fun past t =>
      ∀ p, (sentBy p (past ++ [t])).length < 2 ^ 32 - 256 := by
    intro past t future hrun p
    have hbound := hshort p
    rw [hrun, List.append_cons, sentBy, List.filterMap_append, List.length_append] at hbound
    exact lt_of_le_of_lt (Nat.le_add_right _ _) hbound
  have hadvance : ∀ (past : List ChannelTransition) (current : Peers) (input : ChannelInput),
      ChannelInvariant P bearer (peers .ue) past current →
      Unforgeable P bearer past (Mealy.transition (channelStep P bearer) current input) ∧
        (∀ p, (sentBy p (past ++ [Mealy.transition (channelStep P bearer) current input])).length
          < 2 ^ 32 - 256) →
      ChannelInvariant P bearer (peers .ue)
        (past ++ [Mealy.transition (channelStep P bearer) current input])
        (channelStep P bearer current input).1 := by
    intro past current input hinv hcondition
    cases input with
    | send p sht plain =>
        refine channelInvariant_send hinv p sht plain ?_
        have hbound := hcondition.2 p
        simp only [sentBy_append_singleton, sentIn, Mealy.transition, if_true, Option.toList_some,
          List.length_append, List.length_singleton] at hbound
        omega
    | deliver p buf =>
        refine channelInvariant_deliver hinv heia p buf ?_ hcondition.1
        have hbound := hcondition.2 p.other
        simp only [sentBy_append_singleton, sentIn, Mealy.transition, Option.toList_none,
          List.append_nil] at hbound
        omega
  refine Mealy.always_of_invariant (ChannelInvariant P bearer (peers .ue)) ?_ hadvance ?_
    (hunforgeable.and hroom)
  · refine ⟨fun p => ?_, fun p => ?_, fun p u m hmem => ?_, fun p => ?_⟩
    · cases p with
      | ue => exact .refl _
      | net => exact hkeys
    · rw [hzero]
      rfl
    · cases hmem
    · rw [hzero]
      exact Delivery.InOrder.nil
  · intro past current input hinv hcondition
    refine ⟨fun p => ((hadvance past current input hinv hcondition).delivered p).sublist, ?_⟩
    intro p buf hinput houtput
    cases hinput
    simp only [Mealy.transition, channelStep, ChannelOutput.opened.injEq] at houtput ⊢
    rw [Function.update_self]
    cases receiveStep P bearer p (current p) buf with
    | rejected hreceive => rw [hreceive]
    | accepted macI seqByte ciphertext plain _ _ hreceive =>
        rw [hreceive] at houtput
        cases houtput

/-! ## An exchange -/

variable (P)

def testContext : NasSecurityContext := .new P (Octets.zeros 32) .eea2 .eia2

/-- What the UE says, and the envelope of it under a COUNT. -/
def firstMessage : List UInt8 := [0x07, 0x43]

def secondMessage : List UInt8 := [0x07, 0x46]

def testEnvelope (count : UInt32) (plain : List UInt8) : List UInt8 :=
  encodeEnvelope shtIntegrityCiphered
    ((testContext P).protect P count nasBearer .uplink plain)

/-- The UE sends two messages. The channel delivers the second, then the first, the second again
and some noise. -/
def testExchange : List ChannelInput :=
  [.send .ue shtIntegrityCiphered firstMessage, .send .ue shtIntegrityCiphered secondMessage,
    .deliver .net (testEnvelope P 1 secondMessage), .deliver .net (testEnvelope P 0 firstMessage),
    .deliver .net (testEnvelope P 1 secondMessage), .deliver .net []]

theorem decodeEnvelope_testEnvelope (count : UInt32) (plain : List UInt8) :
    decodeEnvelope (testEnvelope P count plain) =
      some (((testContext P).protect P count nasBearer .uplink plain).macI,
        (count &&& 0xFF).toUInt8,
        ((testContext P).protect P count nasBearer .uplink plain).payload) :=
  @decodeEnvelope_encodeEnvelope shtIntegrityCiphered (by decide) (by decide) _

/-- The MAC of the message under the COUNT that its octet expands to. -/
def Verifies (net : NasSecurityContext) (count : UInt32) (plain : List UInt8) : Prop :=
  eia2VerifyMac P net.kNasInt (reconstructCount net.ulCount (count &&& 0xFF).toUInt8) nasBearer
    .uplink ((testContext P).protect P count nasBearer .uplink plain).payload
    ((testContext P).protect P count nasBearer .uplink plain).macI = true

instance (net : NasSecurityContext) (count : UInt32) (plain : List UInt8) :
    Decidable (Verifies P net count plain) :=
  inferInstanceAs (Decidable (_ = _))

variable {P}

/-- A delivery is no forgery if its MAC fails, or the UE has computed it. -/
theorem unforgeable_deliver {past : List ChannelTransition} {t : ChannelTransition}
    {count : UInt32} {plain : List UInt8}
    (hinput : t.input = .deliver .net (testEnvelope P count plain))
    (hcomputed : Verifies P (t.pre .net) count plain →
      ∃ u ∈ past, macComputed P nasBearer .ue u =
        some ⟨reconstructCount (t.pre .net).ulCount (count &&& 0xFF).toUInt8, nasBearer, .uplink,
          ((testContext P).protect P count nasBearer .uplink plain).payload⟩) :
    Unforgeable P nasBearer past t := by
  intro p buf macI seqByte ciphertext hdeliver henvelope m hverifies
  obtain ⟨rfl, rfl⟩ := ChannelInput.deliver.inj (hinput.symm.trans hdeliver)
  rw [decodeEnvelope_testEnvelope] at henvelope
  cases henvelope
  exact hcomputed hverifies

/-- A message whose MAC fails leaves the network as it was. -/
theorem receiveAt_of_fails {net : NasSecurityContext} {count : UInt32} {plain : List UInt8}
    (heia : net.eia ≠ .eia0) (hfails : ¬ Verifies P net count plain) :
    receiveAt P nasBearer .net net (testEnvelope P count plain) = (none, net) := by
  cases receiveStep P nasBearer .net net (testEnvelope P count plain) with
  | rejected hreceive => exact hreceive
  | accepted macI seqByte ciphertext opened henvelope hopen _ =>
      rw [decodeEnvelope_testEnvelope] at henvelope
      cases henvelope
      exact absurd (NasSecurityContext.verifies_of_unprotect P heia hopen) hfails

/-- The network has accepted the second message. -/
def afterSecond (P : Primitives) : NasSecurityContext := (testContext P).withCount .uplink 2

theorem receiveAt_second :
    receiveAt P nasBearer .net (testContext P) (testEnvelope P 1 secondMessage) =
      (some secondMessage, afterSecond P) := by
  have hdir : Peer.net.other.outbound = .uplink := rfl
  have hcount : reconstructCount ((testContext P).count .uplink)
      ((1 : UInt32) &&& 0xFF).toUInt8 = 1 :=
    (by decide : reconstructCount 0 ((1 : UInt32) &&& 0xFF).toUInt8 = 1)
  have hopen := NasSecurityContext.unprotect_protect P (.refl (testContext P)) 1 nasBearer .uplink
    secondMessage
  rw [receiveAt_of_envelope P nasBearer .net (testContext P) (decodeEnvelope_testEnvelope P 1 _)]
  simp only [hdir, hcount, hopen]
  rfl

theorem channelStep_send_net (peers : Peers) (sht : UInt8) (plain : List UInt8) :
    (channelStep P nasBearer peers (.send .ue sht plain)).1 .net = peers .net := rfl

theorem channelStep_deliver_net (peers : Peers) (buf : List UInt8) :
    (channelStep P nasBearer peers (.deliver .net buf)).1 .net =
      (receiveAt P nasBearer .net (peers .net) buf).2 := rfl

/-- COUNTs 0 and 1 are behind the network, which takes the octets for 256 and 257. -/
theorem late_fails :
    ¬ Verifies .standard (afterSecond .standard) 0 firstMessage ∧
      ¬ Verifies .standard (afterSecond .standard) 1 secondMessage := by
  decide +kernel

theorem testExchange_unforgeable :
    Mealy.Always (channelStep .standard nasBearer) (fun _ => testContext .standard)
      (testExchange .standard) (Unforgeable .standard nasBearer) := by
  obtain ⟨hlate, hduplicate⟩ := late_fails
  have heia : (afterSecond .standard).eia ≠ .eia0 := fun h => NasEiaAlgorithm.noConfusion h
  rw [testExchange, Mealy.always_cons, Mealy.always_cons, Mealy.always_cons, Mealy.always_cons,
    Mealy.always_cons, Mealy.always_cons]
  refine ⟨?_, ?_, ?_, ?_, ?_, ?_, Mealy.always_nil⟩
  · intro p buf macI seqByte ciphertext hinput
    cases hinput
  · intro p buf macI seqByte ciphertext hinput
    cases hinput
  · -- the second message comes first, under the COUNT the UE has computed its MAC for
    exact unforgeable_deliver rfl fun _ => ⟨_, List.mem_cons_of_mem _ List.mem_cons_self, rfl⟩
  · refine unforgeable_deliver rfl fun hverifies => absurd hverifies ?_
    simpa only [Mealy.transition, channelStep_deliver_net, channelStep_send_net,
      receiveAt_second] using hlate
  · refine unforgeable_deliver rfl fun hverifies => absurd hverifies ?_
    simpa only [Mealy.transition, channelStep_deliver_net, channelStep_send_net,
      receiveAt_second, receiveAt_of_fails heia hlate] using hduplicate
  · intro p buf macI seqByte ciphertext hinput henvelope
    cases hinput
    cases henvelope

theorem testExchange_acceptsSubsequence :
    Mealy.Always (channelStep .standard nasBearer) (fun _ => testContext .standard)
        (testExchange .standard) (Unforgeable .standard nasBearer) ∧
      Mealy.Always (channelStep .standard nasBearer) (fun _ => testContext .standard)
        (testExchange .standard) AcceptsSubsequence := by
  refine ⟨testExchange_unforgeable,
    always_acceptsSubsequence .standard nasBearer _ (.refl _) ?_ ?_ _ ?_
      testExchange_unforgeable⟩
  · exact fun h => NasEiaAlgorithm.noConfusion h
  · intro p dir
    cases dir <;> rfl
  · intro p
    cases p <;> decide

end Midn.Nas
