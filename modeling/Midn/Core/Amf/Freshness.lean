import Midn.Core.Amf.Procedure
import Midn.Core.Mme.Freshness
import Midn.Crypto.Standard

/-!
# Downlink COUNTs of the AMF are used once

The 5G side of the freshness of COUNTs, and the law of both cores.
-/

namespace Midn.Core.Amf

open Ecs Nas5gs Ngap

variable (P : Primitives)

/-- The NAS PDUs of an output. -/
def downlinkNas (output : Output) : List (List UInt8) := output.1.filterMap NgapMessage.nasPdu?

/-- The key and the next downlink COUNT of an entity. -/
def downlinkSlot (e : EntityId) (amf : Amf) : Option (Octets 16 × UInt32) :=
  (amf.world.nasSecurity5g? e).map fun ctx => (ctx.kNasEnc, ctx.dlCount)

/-- The key and COUNT of each envelope sent to an entity: the network has left the COUNT one
behind. -/
def protections (e : EntityId) (t : Transition) : List (Octets 16 × UInt32) :=
  match t.post.world.nasSecurity5g? e with
  | none => []
  | some ctx =>
      ((nasTo e t.output).filter fun pdu => (decodeEnvelope pdu).isSome).map fun _ =>
        (ctx.kNasEnc, ctx.dlCount - 1)

/-- The entity is gone after the step. -/
def Ended (e : EntityId) (t : Transition) : Prop := t.post.world.isLive e = false

instance (e : EntityId) : DecidablePred (Ended e) :=
  fun t => inferInstanceAs (Decidable (t.post.world.isLive e = false))

/-- The key and COUNT pairs under which messages were protected for the current incarnation of an
entity. -/
def protectionLog (e : EntityId) (past : List Transition) : List (Octets 16 × UInt32) :=
  Nonce.log (protections e) (Ended e) past

/-- No pair is used twice in one incarnation of any entity. -/
def FreshCounts (past : List Transition) (t : Transition) : Prop :=
  ∀ e, (protectionLog e (past ++ [t])).Nodup

/-- The messages a run sends down. -/
def downlinkCount (t : Transition) : Nat := (downlinkNas t.output).length

/-- No SecurityModeComplete of an entity that already has a NAS context is processed. -/
def SecuresWithoutContext (t : Transition) : Prop :=
  ∀ e ran, request P t.pre t.input = .securityModeComplete e ran →
    t.pre.world.nasSecurity5g? e = none

variable (amf : Amf) (input : Input) (e : EntityId)

theorem length_nasTo_le (output : Output) :
    (nasTo e output).length ≤ (downlinkNas output).length := by
  simp only [nasTo, downlinkNas, List.length_filterMap_eq_countP]
  apply List.countP_mono_left
  intro msg _ hsome
  obtain ⟨pdu, hpdu⟩ := Option.isSome_iff_exists.mp hsome
  rw [NgapMessage.nasPdu?_of_nasFor hpdu, Option.isSome_some]

theorem length_protections_le (t : Transition) : (protections e t).length ≤ downlinkCount t := by
  unfold protections downlinkCount
  split
  · exact Nat.zero_le _
  · rw [List.length_map]
    exact (List.length_filter_le _ _).trans (length_nasTo_le e t.output)

theorem decodeEnvelope_encodeProtected (ctx : Nas5gsSecurityContext) (plain : List UInt8) :
    (decodeEnvelope (encodeProtected P ctx nas5gsShtIntegrityCiphered plain).1).isSome =
      true := by
  rw [encodeProtected, decodeEnvelope_encodeEnvelope (by decide) (by decide)]
  rfl

/-- The one envelope of a step is logged under the context it was protected with. -/
theorem protections_encodeProtected (t : Transition) (ctx : Nas5gsSecurityContext)
    (plain : List UInt8)
    (hpost : t.post.world.nasSecurity5g? e =
      some (encodeProtected P ctx nas5gsShtIntegrityCiphered plain).2)
    (hnas : nasTo e t.output =
      [(encodeProtected P ctx nas5gsShtIntegrityCiphered plain).1]) :
    protections e t = [(ctx.kNasEnc, ctx.dlCount)] := by
  have henvelope := decodeEnvelope_encodeProtected P ctx plain
  simp only [protections, hpost, hnas, List.filter_singleton, henvelope, cond_true,
    List.map_singleton, encodeProtected_ctx, UInt32.add_sub_cancel]

/-- Conversely, every envelope a step sends is the protection of some plain message under the
logged pair. -/
theorem envelope_protected {pdu : List UInt8} (hmem : pdu ∈ nasTo e (step P amf input).2)
    (henvelope : (decodeEnvelope pdu).isSome = true) :
    ∃ ctx plain, pdu = (encodeProtected P ctx nas5gsShtIntegrityCiphered plain).1 ∧
      protections e (Mealy.transition (step P) amf input) = [(ctx.kNasEnc, ctx.dlCount)] := by
  cases contextStep P amf input e with
  | kept _ hplain =>
      rw [hplain pdu hmem] at henvelope
      cases henvelope
  | installed ran n _ _ hpost hnas =>
      rw [hnas] at hmem
      exact ⟨initialContext P n, registrationAcceptPlain e, List.mem_singleton.mp hmem,
        protections_encodeProtected P e _ _ _ hpost hnas⟩
  | used ctx _ hpost hnas =>
      rw [hnas] at hmem
      exact ⟨_, _, List.mem_singleton.mp hmem, protections_encodeProtected P e _ _ _ hpost hnas⟩
  | dropped _ hnas =>
      rw [hnas] at hmem
      cases hmem

/-- A step that keeps an entity alive moves its downlink counter, unless it secures it again. -/
theorem downlink_move
    (hfresh : ∀ ran, request P amf input = .securityModeComplete e ran →
      amf.world.nasSecurity5g? e = none)
    (halive : ¬ Ended e (Mealy.transition (step P) amf input)) :
    Nonce.Move (downlinkSlot e amf) (downlinkSlot e (step P amf input).1)
      (protections e (Mealy.transition (step P) amf input)) := by
  cases contextStep P amf input e with
  | kept hpost hplain =>
      refine .keep ?_ ?_
      · rw [downlinkSlot, downlinkSlot, hpost, Option.map_map]
        apply congrArg (Option.map · _)
        funext ctx
        simp only [Function.comp_apply, reopenContext_dlCount,
          (reopenContext_sameKeys P input e ctx).kNasEnc]
      · unfold protections
        split
        · rfl
        · rw [List.map_eq_nil_iff, List.filter_eq_nil_iff]
          intro pdu hmem
          rw [hplain pdu hmem]
          exact Bool.false_ne_true
  | installed ran n hrequest _ hpost hnas =>
      refine .install (initialContext P n).kNasEnc ?_ ?_ ?_
      · rw [downlinkSlot, hfresh ran hrequest, Option.map_none]
      · rw [downlinkSlot, hpost, Option.map_some]
        rfl
      · exact protections_encodeProtected P e _ _ _ hpost hnas
  | used ctx hctx hpost hnas =>
      have hkeys := (reopenContext_sameKeys P input e ctx).kNasEnc
      have hcount := reopenContext_dlCount P input e ctx
      refine .use ctx.kNasEnc ctx.dlCount ?_ ?_ ?_
      · rw [downlinkSlot, hctx, Option.map_some]
      · rw [downlinkSlot, hpost, Option.map_some, encodeProtected_ctx, hkeys, hcount]
      · rw [protections_encodeProtected P e _ _ _ hpost hnas, hkeys, hcount]
  | dropped hpost _ => exact absurd (World.get?_eq_none.mp hpost) halive

variable {amf input e}

/-- In a run with fewer than 2^32 downlink messages that secures no entity twice, no pair of key
and COUNT is used twice for one incarnation of an entity. -/
theorem always_freshCounts_amf (phaseBUpf : Option (Octets 4)) (inputs : List Input)
    (hshort : ((Mealy.run (step P) (Amf.new phaseBUpf) inputs).map downlinkCount).sum < 2 ^ 32)
    (honce : Mealy.Always (step P) (Amf.new phaseBUpf) inputs
      fun _ t => SecuresWithoutContext P t) :
    Mealy.Always (step P) (Amf.new phaseBUpf) inputs FreshCounts := by
  intro past t future hrun e
  refine Nonce.always_log_nodup downlinkCount (downlinkSlot e) ?_ ?_ ?_ ?_ hshort honce
    past t future hrun
  · simp [downlinkSlot, Amf.new, World.nasSecurity5g?]
  · intro amf input hended
    have hdead : (step P amf input).1.world.get? e = none := World.get?_eq_none.mpr hended
    rw [downlinkSlot, World.nasSecurity5g?, hdead]
    rfl
  · exact fun amf input hfresh halive => downlink_move P amf input e (hfresh e) halive
  · exact fun amf input => length_protections_le e _

theorem wholeSession_securesWithoutContext :
    Mealy.Always (step P) (Amf.new none) wholeSession fun _ t => SecuresWithoutContext P t := by
  obtain ⟨hss, hidentify⟩ := request_identifyTest P none
  rw [wholeSession, Mealy.always_cons, Mealy.always_cons, Mealy.always_cons, Mealy.always_cons,
    Mealy.always_cons, Mealy.always_cons, Mealy.always_cons]
  refine ⟨?_, ?_, ?_, ?_, ?_, ?_, ?_, Mealy.always_nil⟩
  · intro e ran hrequest
    cases hrequest
  · intro e ran hrequest
    cases (request_registerTest P _).symm.trans hrequest
  · intro e ran hrequest
    cases hidentify.symm.trans hrequest
  · intro e ran hrequest
    cases (request_completeSecurity P _).symm.trans hrequest
    exact congrArg (Option.bind · Entity.nasSecurity5g) (get?_identifyTest P none)
  · intro e ran hrequest
    cases hrequest
  · intro e ran hrequest
    cases (request_deregisterTest P _).symm.trans hrequest
  · intro e ran hrequest
    cases hrequest

end Midn.Core.Amf

namespace Midn.Core

/-- In runs of either core that secure no entity twice, with fewer than 2^32 downlink messages, no
pair of key and COUNT protects two messages to one incarnation of an entity. -/
theorem always_freshCounts (P : Primitives) (upf : Option (Octets 4)) :
    (∀ inputs,
      ((Mealy.run (Mme.step P) (Mme.new upf) inputs).map Mme.downlinkCount).sum < 2 ^ 32 →
      (Mealy.Always (Mme.step P) (Mme.new upf) inputs
        fun _ t => Mme.SecuresWithoutContext P t) →
      Mealy.Always (Mme.step P) (Mme.new upf) inputs Mme.FreshCounts) ∧
    ∀ inputs,
      ((Mealy.run (Amf.step P) (Amf.new upf) inputs).map Amf.downlinkCount).sum < 2 ^ 32 →
      (Mealy.Always (Amf.step P) (Amf.new upf) inputs
        fun _ t => Amf.SecuresWithoutContext P t) →
      Mealy.Always (Amf.step P) (Amf.new upf) inputs Amf.FreshCounts :=
  ⟨Mme.always_freshCounts_mme P upf, Amf.always_freshCounts_amf P upf⟩

/-- Securing once per incarnation, as the procedures have it, is enough: in a whole session the
accept message and the answer to the UE that leaves are protected under different COUNTs. -/
theorem wholeSession_freshCounts :
    Mealy.Always (Mme.step .standard) (Mme.new none) Mme.wholeSession Mme.FreshCounts ∧
      Mealy.Always (Amf.step .standard) (Amf.new none) Amf.wholeSession Amf.FreshCounts := by
  have hlaw := always_freshCounts .standard none
  have hmme := Mealy.cost_run_le_length (Mme.downlinkCount_le_one .standard) (Mme.new none)
    Mme.wholeSession
  refine ⟨hlaw.1 _ ?_ ?_, hlaw.2 _ ?_ ?_⟩
  · exact lt_of_le_of_lt hmme (by decide)
  · exact Mme.wholeSession_securesWithoutContext .standard
  · decide
  · exact Amf.wholeSession_securesWithoutContext .standard

end Midn.Core
