import Midn.Core.Mme.Procedure
import Midn.Lib.Nonce

/-!
# Downlink COUNTs are used once

The pair of NAS encryption key and downlink COUNT of every protected message an entity is sent,
over the life of the entity.
-/

namespace Midn.Core.Mme

open Ecs Nas S1ap

variable (P : Primitives)

/-- The NAS PDUs of an output. -/
def downlinkNas (output : Output) : List (List UInt8) := output.1.filterMap S1apMessage.nasPdu?

/-- The key and the next downlink COUNT of an entity. -/
def downlinkSlot (e : EntityId) (mme : Mme) : Option (Octets 16 × UInt32) :=
  (mme.world.nasSecurity? e).map fun ctx => (ctx.kNasEnc, ctx.dlCount)

/-- The key and COUNT of each envelope sent to an entity: the network has left the COUNT one
behind. -/
def protections (e : EntityId) (t : Transition) : List (Octets 16 × UInt32) :=
  match t.post.world.nasSecurity? e with
  | none => []
  | some ctx =>
      ((nasTo e t.output).filter fun pdu => (decodeEnvelope pdu).isSome).map fun _ =>
        (ctx.kNasEnc, ctx.dlCount - 1)

/-- The entity is gone after the step. -/
def Ended (e : EntityId) (t : Transition) : Prop := t.post.world.isLive e = false

instance (e : EntityId) : DecidablePred (Ended e) :=
  fun t => inferInstanceAs (Decidable (t.post.world.isLive e = false))

/-- The key and COUNT pairs under which messages were protected for the current incarnation of an
entity. -/
def protectionLog (e : EntityId) (past : List Transition) : List (Octets 16 × UInt32) :=
  Nonce.log (protections e) (Ended e) past

/-- No pair is used twice in one incarnation of any entity. -/
def FreshCounts (past : List Transition) (t : Transition) : Prop :=
  ∀ e, (protectionLog e (past ++ [t])).Nodup

/-- The messages a run sends down. -/
def downlinkCount (t : Transition) : Nat := (downlinkNas t.output).length

/-- No SecurityModeComplete of an entity that already has a NAS context is processed. -/
def SecuresWithoutContext (t : Transition) : Prop :=
  ∀ e enb, request P t.pre t.input = .securityModeComplete e enb →
    t.pre.world.nasSecurity? e = none

variable (mme : Mme) (input : Input) (e : EntityId)

theorem length_nasTo_le (output : Output) :
    (nasTo e output).length ≤ (downlinkNas output).length := by
  simp only [nasTo, downlinkNas, List.length_filterMap_eq_countP]
  apply List.countP_mono_left
  intro msg _ hsome
  obtain ⟨pdu, hpdu⟩ := Option.isSome_iff_exists.mp hsome
  rw [S1apMessage.nasPdu?_of_nasFor hpdu, Option.isSome_some]

theorem length_protections_le (t : Transition) : (protections e t).length ≤ downlinkCount t := by
  unfold protections downlinkCount
  split
  · exact Nat.zero_le _
  · rw [List.length_map]
    exact (List.length_filter_le _ _).trans (length_nasTo_le e t.output)

theorem decodeEnvelope_encodeProtected (ctx : NasSecurityContext) (plain : List UInt8) :
    (decodeEnvelope (encodeProtected P ctx shtIntegrityCiphered nasBearer plain).1).isSome =
      true := by
  rw [encodeProtected, decodeEnvelope_encodeEnvelope (by decide) (by decide)]
  rfl

/-- The one envelope of a step is logged under the context it was protected with. -/
theorem protections_encodeProtected (t : Transition) (ctx : NasSecurityContext)
    (plain : List UInt8)
    (hpost : t.post.world.nasSecurity? e =
      some (encodeProtected P ctx shtIntegrityCiphered nasBearer plain).2)
    (hnas : nasTo e t.output =
      [(encodeProtected P ctx shtIntegrityCiphered nasBearer plain).1]) :
    protections e t = [(ctx.kNasEnc, ctx.dlCount)] := by
  have henvelope := decodeEnvelope_encodeProtected P ctx plain
  simp only [protections, hpost, hnas, List.filter_singleton, henvelope, cond_true,
    List.map_singleton, encodeProtected_ctx, UInt32.add_sub_cancel]

/-- Conversely, every envelope a step sends is the protection of some plain message under the
logged pair. -/
theorem envelope_protected {pdu : List UInt8} (hmem : pdu ∈ nasTo e (step P mme input).2)
    (henvelope : (decodeEnvelope pdu).isSome = true) :
    ∃ ctx plain, pdu = (encodeProtected P ctx shtIntegrityCiphered nasBearer plain).1 ∧
      protections e (Mealy.transition (step P) mme input) = [(ctx.kNasEnc, ctx.dlCount)] := by
  cases contextStep P mme input e with
  | kept _ hplain =>
      rw [hplain pdu hmem] at henvelope
      cases henvelope
  | installed enb n _ _ hpost hnas =>
      rw [hnas] at hmem
      exact ⟨initialContext P n, attachAcceptPlain n.identity.ueIp, List.mem_singleton.mp hmem,
        protections_encodeProtected P e _ _ _ hpost hnas⟩
  | used ctx _ hpost hnas =>
      rw [hnas] at hmem
      exact ⟨_, _, List.mem_singleton.mp hmem, protections_encodeProtected P e _ _ _ hpost hnas⟩
  | dropped _ hnas =>
      rw [hnas] at hmem
      cases hmem

/-- A step that keeps an entity alive moves its downlink counter, unless it secures it again. -/
theorem downlink_move
    (hfresh : ∀ enb, request P mme input = .securityModeComplete e enb →
      mme.world.nasSecurity? e = none)
    (halive : ¬ Ended e (Mealy.transition (step P) mme input)) :
    Nonce.Move (downlinkSlot e mme) (downlinkSlot e (step P mme input).1)
      (protections e (Mealy.transition (step P) mme input)) := by
  cases contextStep P mme input e with
  | kept hpost hplain =>
      refine .keep ?_ ?_
      · rw [downlinkSlot, downlinkSlot, hpost, Option.map_map]
        apply congrArg (Option.map · _)
        funext ctx
        simp only [Function.comp_apply, reopenContext_dlCount,
          (reopenContext_sameKeys P input e ctx).kNasEnc]
      · unfold protections
        split
        · rfl
        · rw [List.map_eq_nil_iff, List.filter_eq_nil_iff]
          intro pdu hmem
          rw [hplain pdu hmem]
          exact Bool.false_ne_true
  | installed enb n hrequest _ hpost hnas =>
      refine .install (initialContext P n).kNasEnc ?_ ?_ ?_
      · rw [downlinkSlot, hfresh enb hrequest, Option.map_none]
      · rw [downlinkSlot, hpost, Option.map_some]
        rfl
      · exact protections_encodeProtected P e _ _ _ hpost hnas
  | used ctx hctx hpost hnas =>
      have hkeys := (reopenContext_sameKeys P input e ctx).kNasEnc
      have hcount := reopenContext_dlCount P input e ctx
      refine .use ctx.kNasEnc ctx.dlCount ?_ ?_ ?_
      · rw [downlinkSlot, hctx, Option.map_some]
      · rw [downlinkSlot, hpost, Option.map_some, encodeProtected_ctx, hkeys, hcount]
      · rw [protections_encodeProtected P e _ _ _ hpost hnas, hkeys, hcount]
  | dropped hpost _ => exact absurd (World.get?_eq_none.mp hpost) halive

/-- A request draws at most one NAS PDU. -/
theorem length_downlinkNas_perform_le (r : Request) :
    (downlinkNas (perform P mme r).2).length ≤ 1 := by
  rw [downlinkNas, List.length_filterMap_eq_countP]
  cases r with
  | challenge enb plmn imsi authInfo hss => exact List.countP_le_length
  | authResponse id enb res =>
      refine List.countP_le_length.trans ?_
      simp only [perform, verifyResponse]
      split
      · exact Nat.zero_le _
      · split
        · exact le_refl _
        · exact Nat.zero_le _
  | securityModeComplete id enb =>
      refine List.countP_le_length.trans ?_
      simp only [perform, handleSecurityModeComplete]
      split
      · split
        · exact le_refl _
        · exact le_refl _
      · exact Nat.zero_le _
  | detach id enb switchOff =>
      -- the release command carries no NAS PDU
      simp only [perform, acceptDetach]
      split
      · split
        · exact Nat.zero_le _
        · split
          · exact le_refl _
          · exact le_refl _
      · exact Nat.zero_le _
  | contextSetup resp =>
      simp only [perform, handleIcsrsp]
      split
      · exact Nat.zero_le _
      · split
        · exact Nat.zero_le _
        · exact Nat.zero_le _
  | release msg =>
      simp only [perform, handleReleaseComplete]
      split
      · exact Nat.zero_le _
      · exact Nat.zero_le _
  | hssMut hss => exact Nat.zero_le _
  | ignored => exact Nat.zero_le _

theorem downlinkCount_le_one : downlinkCount (Mealy.transition (step P) mme input) ≤ 1 := by
  simp only [downlinkCount, Mealy.transition, step_eq_perform]
  exact length_downlinkNas_perform_le P _ _

variable {mme input e}

/-- In a run with fewer than 2^32 downlink messages that secures no entity twice, no pair of key
and COUNT is used twice for one incarnation of an entity. -/
theorem always_freshCounts_mme (phase3Upf : Option (Octets 4)) (inputs : List Input)
    (hshort : ((Mealy.run (step P) (Mme.new phase3Upf) inputs).map downlinkCount).sum < 2 ^ 32)
    (honce : Mealy.Always (step P) (Mme.new phase3Upf) inputs
      fun _ t => SecuresWithoutContext P t) :
    Mealy.Always (step P) (Mme.new phase3Upf) inputs FreshCounts := by
  intro past t future hrun e
  refine Nonce.always_log_nodup downlinkCount (downlinkSlot e) ?_ ?_ ?_ ?_ hshort honce
    past t future hrun
  · simp [downlinkSlot, Mme.new, World.nasSecurity?]
  · intro mme input hended
    have hdead : (step P mme input).1.world.get? e = none := World.get?_eq_none.mpr hended
    rw [downlinkSlot, World.nasSecurity?, hdead]
    rfl
  · exact fun mme input hfresh halive => downlink_move P mme input e (hfresh e) halive
  · exact fun mme input => length_protections_le e _

theorem wholeSession_securesWithoutContext :
    Mealy.Always (step P) (Mme.new none) wholeSession fun _ t => SecuresWithoutContext P t := by
  obtain ⟨hss, hattach⟩ := request_attachTest P none
  rw [wholeSession, secureOnce, List.cons_append, List.cons_append, List.cons_append,
    Mealy.always_cons, Mealy.always_cons, Mealy.always_cons, List.nil_append, Mealy.always_cons,
    Mealy.always_cons, Mealy.always_cons]
  refine ⟨?_, ?_, ?_, ?_, ?_, ?_, Mealy.always_nil⟩
  · intro e enb hrequest
    cases hrequest
  · intro e enb hrequest
    cases hattach.symm.trans hrequest
  · intro e enb hrequest
    cases (request_completeSecurity P _).symm.trans hrequest
    exact congrArg (Option.bind · Entity.nasSecurity) (get?_attachTest P none)
  · intro e enb hrequest
    cases hrequest
  · intro e enb hrequest
    cases (request_detachTest P _).symm.trans hrequest
  · intro e enb hrequest
    cases hrequest

/-- A SecurityModeComplete of the test subscriber uses COUNT zero. -/
theorem protectionLog_completeSecurity (past : List Transition) {n : Entity}
    (hn : mme.world.get? 0 = some n) :
    protectionLog 0 (past ++ [Mealy.transition (step P) mme completeSecurity]) =
      protectionLog 0 past ++ [((initialContext P n).kNasEnc, 0)] := by
  have hpost := get?_completeSecurity P mme
  rw [hn, Option.map_some] at hpost
  have hnas : nasTo 0 (step P mme completeSecurity).2 = [(attachAcceptOf P n).1] := by
    rw [completeSecurity, step_secModeComplete P mme (Octets.zeros 16) rfl]
    refine (nasTo_perform P mme (.securityModeComplete 0 1) 0).trans ?_
    rw [hn]
    rfl
  have hused := protections_encodeProtected P 0
    (Mealy.transition (step P) mme completeSecurity) _ _
    (congrArg (Option.bind · Entity.nasSecurity) hpost) hnas
  have halive : ¬ Ended 0 (Mealy.transition (step P) mme completeSecurity) := by
    intro hended
    have hdead := World.get?_eq_none.mpr hended
    simp only [Mealy.transition, hpost] at hdead
    cases hdead
  rw [protectionLog, Nonce.log_append_singleton, if_neg halive, hused]
  rfl

/-- Once the material is wiped, two more completions protect under one key and COUNT. -/
theorem protectionLog_repeats (past : List Transition) {mme' : Mme} {n : Entity}
    (hn : mme.world.get? 0 = some (secured P mme' n)) :
    ¬ (protectionLog 0 (past ++ [Mealy.transition (step P) mme completeSecurity] ++
      [Mealy.transition (step P) (step P mme completeSecurity).1 completeSecurity])).Nodup := by
  have hnext := get?_completeSecurity P mme
  rw [hn, Option.map_some] at hnext
  -- wiping it again changes no key
  have hsame : initialContext P (secured P mme (secured P mme' n)) =
      initialContext P (secured P mme' n) := rfl
  rw [protectionLog_completeSecurity P _ hnext, protectionLog_completeSecurity P _ hn, hsame,
    List.append_assoc]
  intro hnodup
  exact absurd hnodup.of_append_right (by simp)

/-- A UE that completes security mode three times. -/
def secureThrice : List Input :=
  [provisionTest, attachTest, completeSecurity, completeSecurity, completeSecurity]

/-- Whatever the primitives, the last two completions protect under one key and COUNT. -/
theorem secureThrice_reuses_count :
    ¬ ∃ P : Primitives,
      ((Mealy.run (step P) (Mme.new none) secureThrice).map downlinkCount).sum < 2 ^ 32 →
        Mealy.Always (step P) (Mme.new none) secureThrice FreshCounts := by
  rintro ⟨P, hfresh⟩
  have hshort := Mealy.cost_run_le_length (downlinkCount_le_one P) (Mme.new none) secureThrice
  have hlaw : Mealy.Always (step P) (Mme.new none)
      (secureOnce ++ [completeSecurity] ++ [completeSecurity]) FreshCounts :=
    hfresh (lt_of_le_of_lt hshort (by decide))
  have hsecured := get?_completeSecurity P (step P (provisioned P none) attachTest).1
  rw [get?_attachTest, Option.map_some] at hsecured
  have hnodup := hlaw.last 0
  rw [Mealy.run_append, Mealy.after_concat] at hnodup
  exact protectionLog_repeats P _ hsecured hnodup

end Midn.Core.Mme
