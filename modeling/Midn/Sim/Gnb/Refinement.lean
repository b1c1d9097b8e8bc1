import Midn.Core.Amf.Pipeline
import Midn.Lib.Mux
import Midn.Sim.Gnb.CoreReactions

/-!
# The simulator refines the life cycles of its UEs

As long as the association holds, each UE is at a stage of its life cycle, however the events of the
UEs, the dispatcher and the core are interleaved: the channels they share hold for each UE what its
stage says is under way, and the core holds about it what its stage says. Every event takes at most
one UE to a next stage.
-/

namespace Midn.Sim.Gnb

open Midn.Core Midn.Core.Amf Ecs Nas5gs Ngap Userplane

/-! ## Shared channels -/

section Channels

variable (setup : Setup)

/-- The RAN-side id under which a gNodeB sends a message. -/
def senderOf : NgapMessage → Option UInt32
  | .initialUeMessage m => some m.ranUeNgapId
  | msg => msg.contextIds?.map Prod.snd

/-- Octets of a message, with the UE it belongs to. -/
def readBy (ranOf : NgapMessage → Option UInt32) (octets : List UInt8) :
    Option (Fin setup.nUes × NgapMessage) :=
  match decodeNgapPdu octets with
  | .error _ => none
  | .ok msg => ((ranOf msg).bind setup.ngapRoutes).map fun i => (i, msg)

def readUp : List UInt8 → Option (Fin setup.nUes × NgapMessage) := readBy setup senderOf

def readDown : List UInt8 → Option (Fin setup.nUes × NgapMessage) := readBy setup ranUeNgapIdOf

variable {setup} {ranOf : NgapMessage → Option UInt32} {i : Fin setup.nUes}
  {octets : List UInt8} {msg : NgapMessage}

theorem readBy_of_decode (hdecode : decodeNgapPdu octets = .ok msg)
    (hran : ranOf msg = some (setup.ranUeNgapId i)) :
    readBy setup ranOf octets = some (i, msg) := by
  have hroute : setup.ngapRoutes (setup.ranUeNgapId i) = some i :=
    Setup.routesBy_key Setup.ranUeNgapId_injective i
  simp only [readBy, hdecode, hran, Option.bind_some, hroute, Option.map_some]

/-- What belongs to a UE is decoded and routed to it. -/
theorem decode_of_readBy (hread : readBy setup ranOf octets = some (i, msg)) :
    decodeNgapPdu octets = .ok msg ∧ (ranOf msg).bind setup.ngapRoutes = some i := by
  rw [readBy] at hread
  split at hread
  · cases hread
  next decoded hdecode =>
    obtain ⟨i', hroute, heq⟩ := Option.map_eq_some_iff.mp hread
    cases heq
    exact ⟨hdecode, hroute⟩

/-- Messages of one UE travel in octets that belong to it. -/
theorem carries_of_decodes {channel : List (List UInt8)} {msgs : List NgapMessage}
    (hdecodes : Mux.Decodes decodeNgapPdu channel msgs)
    (hran : ∀ msg ∈ msgs, ranOf msg = some (setup.ranUeNgapId i)) :
    Mux.Carries (readBy setup ranOf) i channel msgs := by
  induction channel generalizing msgs with
  | nil =>
      rw [List.map_eq_nil_iff.mp hdecodes.symm]
      rfl
  | cons octets channel ih =>
      obtain ⟨msg, rest, hdecode, rfl, hrest⟩ := hdecodes.exists_cons
      obtain ⟨hfirst, hothers⟩ := List.forall_mem_cons.mp hran
      rw [Mux.Carries, List.map_cons, List.map_cons, ih hrest hothers,
        readBy_of_decode hdecode hfirst]

end Channels

/-! ## The relation -/

section Relation

variable {τ υ : Type} (P : Primitives) (setup : Setup)

/-- What a UE has sent and the core has not received. -/
def upOf (s : System setup.nUes τ υ) (i : Fin setup.nUes) : List NgapMessage :=
  Mux.view (readUp setup) i (s.toAmf ++ s.outQueue ++ (s.ues i).outbox)

/-- What the core has sent and the UE has not received. -/
def downOf (s : System setup.nUes τ υ) (i : Fin setup.nUes) : List NgapMessage :=
  (s.ues i).ngapRx ++ Mux.view (readDown setup) i s.toGnb

/-- Each UE is at its stage, and whatever there is belongs to a UE. -/
structure Follows (s : System setup.nUes τ υ) (f : Fin setup.nUes → Stage) : Prop where
  running : s.amfRunning = true
  linkUp : s.linkUp = true
  phase : s.node.1.phaseBUpf = some setup.upfIp
  addressedUp : Mux.Addressed (readUp setup) (s.toAmf ++ s.outQueue)
  addressedDown : Mux.Addressed (readDown setup) s.toGnb
  outbox : ∀ i, ∃ msgs, Mux.Carries (readUp setup) i (s.ues i).outbox msgs
  task : ∀ i, TaskAt P setup i (f i) (s.ues i)
  up : ∀ i, upOf setup s i = (f i).up P setup i
  down : ∀ i, downOf setup s i = (f i).down P setup i
  core : ∀ i, CoreAt P setup i (f i) s.node.1
  owned : ∀ e n, s.node.1.world.get? e = some n → ∃ i, (f i).entity? = some e
  slots : s.node.1.world.slots ≤ Family.left Stage.enrolled f

end Relation

/-! ## Stages -/

section Stages

variable {P : Primitives} {setup : Setup} {i : Fin setup.nUes} {st : Stage}

theorem senderOf_of_mem_confirmations {a : Admission} {confirmed : Confirmed} :
    ∀ msg ∈ Stage.confirmations setup i a confirmed,
      senderOf msg = some (setup.ranUeNgapId i) := by
  cases confirmed with
  | nothing => exact List.forall_mem_cons.mpr ⟨rfl, List.forall_mem_singleton.mpr rfl⟩
  | session => exact List.forall_mem_singleton.mpr rfl
  | registration => exact List.forall_mem_nil _

/-- A UE sends under its own id. -/
theorem senderOf_of_mem_up :
    ∀ msg ∈ st.up P setup i, senderOf msg = some (setup.ranUeNgapId i) := by
  cases st with
  | attached a confirmed activity =>
      cases activity with
      | leaving =>
          exact List.forall_mem_append.mpr
            ⟨senderOf_of_mem_confirmations, List.forall_mem_singleton.mpr rfl⟩
      | _ => exact senderOf_of_mem_confirmations
  | requesting => exact List.forall_mem_singleton.mpr rfl
  | identifying e => exact List.forall_mem_singleton.mpr rfl
  | answering e rand => exact List.forall_mem_singleton.mpr rfl
  | completing e rand => exact List.forall_mem_singleton.mpr rfl
  | releasing a => exact List.forall_mem_singleton.mpr rfl
  | _ => exact List.forall_mem_nil _

/-- The core answers under the id of the UE. -/
theorem ranUeNgapIdOf_of_mem_down :
    ∀ msg ∈ st.down P setup i, ranUeNgapIdOf msg = some (setup.ranUeNgapId i) := by
  cases st with
  | asked e => exact List.forall_mem_singleton.mpr rfl
  | challenged e rand => exact List.forall_mem_singleton.mpr rfl
  | commanded e rand => exact List.forall_mem_singleton.mpr rfl
  | accepted a => exact List.forall_mem_singleton.mpr rfl
  | dismissed a => exact List.forall_mem_cons.mpr ⟨rfl, List.forall_mem_singleton.mpr rfl⟩
  | ordered a => exact List.forall_mem_singleton.mpr rfl
  | _ => exact List.forall_mem_nil _

/-- A UE to which something is under way waits for it. -/
theorem progress_of_down (hdown : st.down P setup i ≠ []) : st.progress setup = .receiving := by
  cases st with
  | idle => exact absurd rfl hdown
  | attached a confirmed activity => exact absurd rfl hdown
  | releasing a => exact absurd rfl hdown
  | gone a => exact absurd rfl hdown
  | _ => rfl

/-- The entity of a UE carries its RAN-side id. -/
theorem exists_components (P : Primitives) (i : Fin setup.nUes) {e : EntityId}
    (hentity : st.entity? = some e) :
    ∃ n, st.components P setup i = some n ∧ n.identity.enbUeS1apId = setup.ranUeNgapId i := by
  cases st with
  | attached a confirmed activity => cases confirmed <;> exact ⟨_, rfl, rfl⟩
  | idle => cases hentity
  | requesting => cases hentity
  | gone a => cases hentity
  | _ => exact ⟨_, rfl, rfl⟩

theorem unchallenged_of_next {st' : Stage} (hnext : st.Next st')
    (hfresh : st'.unchallenged = true) : st.unchallenged = true := by
  cases hnext with
  | request => rfl
  | ask e => rfl
  | identify e => rfl
  | _ => cases hfresh

end Stages

/-! ## Tasks -/

section Tasks

variable {τ υ : Type} {P : Primitives} {setup : Setup} {s s' : System setup.nUes τ υ}
  {f : Fin setup.nUes → Stage} {i : Fin setup.nUes}

theorem enrolled_of_entity? {st st' : Stage} (hnext : st.Next st')
    (hentity : st'.entity? = st.entity?) : st'.enrolled = st.enrolled := by
  cases hnext with
  | ask e => cases hentity
  | go a => rfl
  | _ => rfl

/-- A task takes what it has received, and its UE is at the next stage. -/
theorem Follows.react (hfollows : Follows P setup s f) {received : List NgapMessage} {u u' : UeTask}
    {st' : Stage} (hreceived : (s.ues i).ngapRx = received ++ u.ngapRx)
    (hsent : u.outbox = (s.ues i).outbox) (hreaction : Reaction P setup i received (f i) st' u u') :
    Follows P setup (s.setUe i u') (Function.update f i st') := by
  obtain ⟨octets, msgs, hcarry, houtbox, hup, -⟩ := hreaction.up
  have hmine : ∀ msg ∈ msgs, senderOf msg = some (setup.ranUeNgapId i) := by
    intro msg hmem
    have hsender : ∀ msg ∈ st'.up P setup i, _ := senderOf_of_mem_up
    exact hsender msg (hup ▸ List.mem_append_right _ hmem)
  have hcarries : Mux.Carries (readUp setup) i octets msgs := carries_of_decodes hcarry hmine
  constructor
  · exact hfollows.running
  · exact hfollows.linkUp
  · exact hfollows.phase
  · exact hfollows.addressedUp
  · exact hfollows.addressedDown
  · intro j
    rcases eq_or_ne j i with rfl | hne
    · obtain ⟨before, hbefore⟩ := hfollows.outbox j
      refine ⟨before ++ msgs, ?_⟩
      rw [System.setUe_ues_self, houtbox, hsent]
      exact hbefore.append hcarries
    · rw [System.setUe_ues_of_ne _ _ _ hne]
      exact hfollows.outbox j
  · intro j
    rcases eq_or_ne j i with rfl | hne
    · rw [System.setUe_ues_self, Function.update_self]
      exact hreaction.task
    · rw [System.setUe_ues_of_ne _ _ _ hne, Function.update_of_ne hne]
      exact hfollows.task j
  · intro j
    rcases eq_or_ne j i with rfl | hne
    · have hbefore := hfollows.up j
      rw [upOf] at hbefore
      rw [upOf, System.setUe_ues_self, Function.update_self, System.setUe_toAmf,
        System.setUe_outQueue, houtbox, hsent, ← List.append_assoc, Mux.view_append, hbefore,
        hcarries.view_self, hup]
    · rw [upOf, System.setUe_ues_of_ne _ _ _ hne, Function.update_of_ne hne]
      exact hfollows.up j
  · intro j
    rcases eq_or_ne j i with rfl | hne
    · have hbefore := hfollows.down j
      rw [downOf, hreceived, hreaction.down, List.append_assoc] at hbefore
      rw [downOf, System.setUe_ues_self, Function.update_self, hreaction.ngapRx]
      exact List.append_cancel_left hbefore
    · rw [downOf, System.setUe_ues_of_ne _ _ _ hne, Function.update_of_ne hne]
      exact hfollows.down j
  · intro j
    rcases eq_or_ne j i with rfl | hne
    · rw [Function.update_self]
      refine ⟨?_, fun h => (hfollows.core j).subscriber (hreaction.unchallenged h)⟩
      rw [hreaction.entity?, hreaction.components]
      exact (hfollows.core j).entity
    · rw [Function.update_of_ne hne]
      exact hfollows.core j
  · intro e n hn
    obtain ⟨j, hentity⟩ := hfollows.owned e n hn
    refine ⟨j, ?_⟩
    rcases eq_or_ne j i with rfl | hne
    · rw [Function.update_self, hreaction.entity?, hentity]
    · rw [Function.update_of_ne hne, hentity]
  · have hsame := enrolled_of_entity? hreaction.next hreaction.entity?
    have hleft := Family.left_update_add Stage.enrolled f i st'
    have hbefore := hfollows.slots
    rw [System.setUe_node]
    omega

/-- A message goes into the channel that all share. -/
theorem Follows.send (hfollows : Follows P setup s f) (hsend : s.send i = some s') :
    Follows P setup s' f := by
  rw [System.send] at hsend
  split at hsend <;> cases hsend
  next octets outbox _ houtbox =>
    obtain ⟨msgs, hcarries⟩ := hfollows.outbox i
    rw [houtbox] at hcarries
    obtain ⟨msg, rest, hread, -, hrest⟩ := hcarries.exists_cons
    constructor
    · exact hfollows.running
    · exact hfollows.linkUp
    · exact hfollows.phase
    · rw [System.setUe_toAmf, ← List.append_assoc]
      exact List.forall_mem_append.mpr
        ⟨hfollows.addressedUp, List.forall_mem_singleton.mpr ⟨i, msg, hread⟩⟩
    · exact hfollows.addressedDown
    · intro j
      rcases eq_or_ne j i with rfl | hne
      · exact ⟨rest, by rw [System.setUe_ues_self]; exact hrest⟩
      · rw [System.setUe_ues_of_ne _ _ _ hne]
        exact hfollows.outbox j
    · intro j
      have htask := hfollows.task j
      rcases eq_or_ne j i with rfl | hne
      · rw [System.setUe_ues_self]
        exact ⟨htask.progress, htask.amfUeNgapId, htask.kamf⟩
      · rw [System.setUe_ues_of_ne _ _ _ hne]
        exact htask
    · intro j
      rw [← hfollows.up j]
      rcases eq_or_ne j i with rfl | hne
      · simp only [upOf, System.setUe_ues_self, System.setUe_toAmf, houtbox, List.append_assoc,
          List.singleton_append]
      · simp only [upOf, System.setUe_ues_of_ne _ _ _ hne, System.setUe_toAmf, Mux.view_append,
          Mux.view_cons_of_ne hread hne, Mux.view_nil, List.append_nil]
    · intro j
      rw [← hfollows.down j]
      rcases eq_or_ne j i with rfl | hne
      · simp only [downOf, System.setUe_ues_self, System.setUe_toGnb]
      · simp only [downOf, System.setUe_ues_of_ne _ _ _ hne, System.setUe_toGnb]
    · exact hfollows.core
    · exact hfollows.owned
    · exact hfollows.slots

end Tasks

/-! ## The association -/

section Association

variable {τ υ : Type} {P : Primitives} {setup : Setup} {s s' : System setup.nUes τ υ}
  {f : Fin setup.nUes → Stage}

/-- The dispatcher keeps the order of the messages. -/
theorem Follows.dispatchUplink (hfollows : Follows P setup s f)
    (hdispatch : s.dispatchUplink = some s') : Follows P setup s' f := by
  rw [System.dispatchUplink] at hdispatch
  split at hdispatch <;> cases hdispatch
  next octets outQueue _ hqueue =>
    have hshift : Link.put s.linkUp s.toAmf [octets] ++ outQueue = s.toAmf ++ s.outQueue := by
      rw [hfollows.linkUp, Link.put_true, hqueue, List.append_assoc, List.singleton_append]
    constructor
    · exact hfollows.running
    · exact hfollows.linkUp
    · exact hfollows.phase
    · show Mux.Addressed _ (Link.put s.linkUp s.toAmf [octets] ++ outQueue)
      rw [hshift]
      exact hfollows.addressedUp
    · exact hfollows.addressedDown
    · exact hfollows.outbox
    · exact hfollows.task
    · intro j
      show Mux.view _ j (Link.put s.linkUp s.toAmf [octets] ++ outQueue ++ (s.ues j).outbox) = _
      rw [hshift]
      exact hfollows.up j
    · exact hfollows.down
    · exact hfollows.core
    · exact hfollows.owned
    · exact hfollows.slots

/-- A UE to which something is under way has not ended. -/
theorem Follows.ended_eq_false (hfollows : Follows P setup s f) {i : Fin setup.nUes}
    {msg : NgapMessage} {rest : List NgapMessage} (hdown : downOf setup s i = msg :: rest) :
    (s.ues i).ended = false := by
  have hne : (f i).down P setup i ≠ [] := by
    rw [← hfollows.down i, hdown]
    exact List.cons_ne_nil _ _
  rw [UeTask.ended, (hfollows.task i).progress, progress_of_down hne]
  rfl

/-- Every message from the core is sorted out to the UE it is for. -/
theorem Follows.exists_handOver (hfollows : Follows P setup s f)
    (hdispatch : s.dispatchDownlink setup.ngapRoutes = some s') :
    ∃ i msg octets toGnb, s.toGnb = octets :: toGnb ∧
      s' = System.setUe { s with toGnb := toGnb } i
        { s.ues i with ngapRx := (s.ues i).ngapRx ++ [msg] } ∧
      (s.ues i).ended = false ∧ Follows P setup s' f := by
  rw [System.dispatchDownlink] at hdispatch
  split at hdispatch
  next octets toGnb _ hqueue =>
    obtain ⟨hfirst, hrest⟩ := List.forall_mem_cons.mp (hqueue ▸ hfollows.addressedDown)
    obtain ⟨i, msg, hread⟩ := hfirst
    obtain ⟨hdecode, hroute⟩ := decode_of_readBy hread
    have hdown : downOf setup s i =
        (s.ues i).ngapRx ++ msg :: Mux.view (readDown setup) i toGnb := by
      rw [downOf, hqueue, Mux.view_cons_self hread]
    have hlive : (s.ues i).ended = false := by
      cases hrx : (s.ues i).ngapRx with
      | nil => exact hfollows.ended_eq_false (by rw [hdown, hrx, List.nil_append])
      | cons first others => exact hfollows.ended_eq_false (by rw [hdown, hrx, List.cons_append])
    simp only [hdecode, hroute, Option.some.injEq] at hdispatch
    subst hdispatch
    simp only [System.handOver, hlive, Bool.false_eq_true, if_false]
    refine ⟨i, msg, octets, toGnb, hqueue, rfl, hlive, ?_⟩
    constructor
    · exact hfollows.running
    · exact hfollows.linkUp
    · exact hfollows.phase
    · exact hfollows.addressedUp
    · exact hrest
    · intro j
      rcases eq_or_ne j i with rfl | hne
      · rw [System.setUe_ues_self]
        exact hfollows.outbox j
      · rw [System.setUe_ues_of_ne _ _ _ hne]
        exact hfollows.outbox j
    · intro j
      have htask := hfollows.task j
      rcases eq_or_ne j i with rfl | hne
      · rw [System.setUe_ues_self]
        exact ⟨htask.progress, htask.amfUeNgapId, htask.kamf⟩
      · rw [System.setUe_ues_of_ne _ _ _ hne]
        exact htask
    · intro j
      rw [← hfollows.up j]
      rcases eq_or_ne j i with rfl | hne
      · simp only [upOf, System.setUe_ues_self, System.setUe_toAmf, System.setUe_outQueue]
      · simp only [upOf, System.setUe_ues_of_ne _ _ _ hne, System.setUe_toAmf,
          System.setUe_outQueue]
    · intro j
      rw [← hfollows.down j]
      rcases eq_or_ne j i with rfl | hne
      · simp only [downOf, System.setUe_ues_self, System.setUe_toGnb, hqueue,
          Mux.view_cons_self hread, List.append_assoc, List.singleton_append]
      · simp only [downOf, System.setUe_ues_of_ne _ _ _ hne, System.setUe_toGnb, hqueue,
          Mux.view_cons_of_ne hread hne]
    · exact hfollows.core
    · exact hfollows.owned
    · exact hfollows.slots
  · cases hdispatch

/-- Messages that survive the wire are all sent. -/
theorem exists_sendResponses {responses : List NgapMessage}
    (hround : ∀ resp ∈ responses, resp.RoundTrips) :
    ∃ octets, System.sendResponses responses = (octets, true) ∧
      Mux.Decodes decodeNgapPdu octets responses := by
  induction responses with
  | nil => exact ⟨[], rfl, rfl⟩
  | cons resp responses ih =>
      obtain ⟨⟨first, hput, hdecode⟩, hothers⟩ := List.forall_mem_cons.mp hround
      obtain ⟨octets, hsent, hcarry⟩ := ih hothers
      refine ⟨first :: octets, ?_, (Mux.decodes_singleton hdecode).append hcarry⟩
      rw [System.sendResponses, hput, hsent]

theorem enrolled_le (st : Stage) : st.enrolled ≤ 1 := by
  cases st with
  | idle => exact Nat.zero_le 1
  | requesting => exact Nat.zero_le 1
  | _ => exact le_refl 1

/-- One slot for each UE is enough. -/
theorem Follows.slots_le (hfollows : Follows P setup s f) :
    s.node.1.world.slots ≤ setup.nUes := by
  have hsum := Family.left_le fun i => enrolled_le (f i)
  rw [Fintype.card_fin, Nat.mul_one] at hsum
  exact hfollows.slots.trans hsum

theorem Follows.slots_lt (hfollows : Follows P setup s f) : s.node.1.world.slots < 2 ^ 32 :=
  hfollows.slots_le.trans_lt setup.nUes_lt

/-- No two UEs share an entity. -/
theorem Follows.entity_unique (hfollows : Follows P setup s f) {i j : Fin setup.nUes}
    {e : EntityId} (hi : (f i).entity? = some e) (hj : (f j).entity? = some e) : i = j := by
  obtain ⟨n, hn, hid⟩ := exists_components P i hi
  obtain ⟨n', hn', hid'⟩ := exists_components P j hj
  have hsame : some n = some n' := by
    rw [← hn, ← hn', ← (hfollows.core i).entity e hi, ← (hfollows.core j).entity e hj]
  rw [← Option.some.inj hsame] at hid'
  exact Setup.ranUeNgapId_injective (hid.symm.trans hid')

/-- What a message of a UE is about is no entity of another UE. -/
theorem Follows.subject_ne (hfollows : Follows P setup s f) {i j : Fin setup.nUes} (hne : j ≠ i)
    {e : EntityId} (hentity : (f j).entity? = some e) : e ≠ (f i).subject s.node.1 := by
  rintro rfl
  cases hmine : (f i).entity? with
  | some e =>
      rw [Stage.subject, hmine] at hentity
      exact hne (hfollows.entity_unique hentity hmine)
  | none =>
      rw [Stage.subject, hmine, Option.getD_none] at hentity
      obtain ⟨n, hn, -⟩ := exists_components P j hentity
      have halive := (hfollows.core j).entity _ hentity
      rw [World.get?_spawn_of_slots_lt hfollows.slots_lt, hn] at halive
      cases halive

/-- The core answers a UE, and the UE is at the next stage. -/
theorem Follows.answer (hfollows : Follows P setup s f) {i : Fin setup.nUes} {rand : Octets 16}
    {msg : NgapMessage} {octets : List UInt8} {toAmf : List (List UInt8)} {amf' : Amf}
    {output : Output} {st' : Stage} (hqueue : s.toAmf = octets :: toAmf)
    (hread : readUp setup octets = some (i, msg))
    (hreaction : CoreReaction P setup i rand msg s.node.1 amf' output (f i) st')
    (hphase : amf'.phaseBUpf = s.node.1.phaseBUpf)
    (hslots : amf'.world.slots ≤
      s.node.1.world.slots + slotsOf (request P s.node.1 (.ngap rand msg)))
    {sent : List (List UInt8)} (hsent : Mux.Decodes decodeNgapPdu sent output.1)
    (upf' : SessionManager τ υ) :
    Follows P setup
      { s with toAmf := toAmf, node := (amf', upf'), toGnb := s.toGnb ++ sent }
      (Function.update f i st') := by
  have hmine : ∀ resp ∈ output.1, ranUeNgapIdOf resp = some (setup.ranUeNgapId i) := by
    intro resp hmem
    have hran : ∀ msg ∈ st'.down P setup i, _ := ranUeNgapIdOf_of_mem_down
    exact hran resp (hreaction.down ▸ List.mem_append_right _ hmem)
  have hcarries : Mux.Carries (readDown setup) i sent output.1 := carries_of_decodes hsent hmine
  have haddressed := hqueue ▸ hfollows.addressedUp
  constructor
  · exact hfollows.running
  · exact hfollows.linkUp
  · exact hphase.trans hfollows.phase
  · exact (List.forall_mem_cons.mp haddressed).2
  · exact List.forall_mem_append.mpr ⟨hfollows.addressedDown, hcarries.addressed⟩
  · exact hfollows.outbox
  · intro j
    have htask := hfollows.task j
    rcases eq_or_ne j i with rfl | hne
    · rw [Function.update_self]
      exact
        { progress := htask.progress.trans hreaction.progress.symm
          amfUeNgapId := htask.amfUeNgapId.trans hreaction.amfUeNgapId.symm
          kamf := htask.kamf.trans hreaction.kamf.symm }
    · rw [Function.update_of_ne hne]
      exact htask
  · intro j
    have hup := hfollows.up j
    simp only [upOf, hqueue, List.cons_append] at hup
    rcases eq_or_ne j i with rfl | hne
    · rw [Mux.view_cons_self hread, hreaction.up] at hup
      rw [Function.update_self]
      exact List.tail_eq_of_cons_eq hup
    · rw [Mux.view_cons_of_ne hread hne] at hup
      rw [Function.update_of_ne hne]
      exact hup
  · intro j
    have hdown := hfollows.down j
    rw [downOf] at hdown
    rcases eq_or_ne j i with rfl | hne
    · rw [Function.update_self, hreaction.down, ← hdown, downOf, Mux.view_append,
        hcarries.view_self, List.append_assoc]
    · rw [Function.update_of_ne hne, ← hdown, downOf, Mux.view_append, hcarries.view_of_ne hne,
        List.append_nil]
  · intro j
    have hcore := hfollows.core j
    rcases eq_or_ne j i with rfl | hne
    · rw [Function.update_self]
      refine ⟨?_, ?_⟩
      · intro e hentity
        rw [hreaction.entity] at hentity
        split at hentity
        · cases hentity
          rw [hreaction.world, Function.update_self]
        · cases hentity
      · intro hfresh
        rw [hreaction.subscriber hfresh]
        exact hcore.subscriber (unchallenged_of_next hreaction.next hfresh)
    · rw [Function.update_of_ne hne]
      refine ⟨?_, ?_⟩
      · intro e hentity
        rw [hreaction.world, Function.update_of_ne (hfollows.subject_ne hne hentity)]
        exact hcore.entity e hentity
      · intro hfresh
        have hother : setup.imsi j ≠ setup.imsi i := fun h => hne (Setup.imsi_injective h)
        rw [hreaction.others _ hother]
        exact hcore.subscriber hfresh
  · intro e n hn
    rw [show _ = _ from congrFun hreaction.world e] at hn
    rcases eq_or_ne e ((f i).subject s.node.1) with rfl | hne
    · rw [Function.update_self] at hn
      refine ⟨i, ?_⟩
      rw [Function.update_self, hreaction.entity, hn]
      rfl
    · rw [Function.update_of_ne hne] at hn
      obtain ⟨j, hentity⟩ := hfollows.owned e n hn
      refine ⟨j, ?_⟩
      rcases eq_or_ne j i with rfl | hother
      · exact absurd (by rw [Stage.subject, hentity]; rfl) hne
      · rw [Function.update_of_ne hother, hentity]
  · have hleft := Family.left_update_add Stage.enrolled f i st'
    have hbefore := hfollows.slots
    have htaken := hreaction.request.slots
    show amf'.world.slots ≤ _
    omega

/-- One round of the loop of the core: it takes the next message of some UE. -/
theorem Follows.exists_answer {K : RouteMaps τ υ} (hfollows : Follows P setup s f)
    {rand : Octets 16} (hround : s.onAmf K P rand = some s') :
    ∃ i msg st' toAmf sent,
      let r := Amf.step P s.node.1 (.ngap rand msg)
      CoreReaction P setup i rand msg s.node.1 r.1 r.2 (f i) st' ∧
      s' = { s with
        toAmf := toAmf
        node := (N3.step K P s.node (.ngap rand msg)).1
        toGnb := s.toGnb ++ sent } ∧
      sent.length = r.2.1.length ∧ Follows P setup s' (Function.update f i st') := by
  obtain ⟨⟨responses, r⟩, hprocess, rfl⟩ := Option.map_eq_some_iff.mp hround
  rw [System.process] at hprocess
  split at hprocess
  next octets toAmf _ hqueue =>
    have haddressed := hqueue ▸ hfollows.addressedUp
    obtain ⟨i, msg, hread⟩ := (List.forall_mem_cons.mp haddressed).1
    obtain ⟨hdecode, -⟩ := decode_of_readBy hread
    have hup : (f i).up P setup i = msg :: Mux.view (readUp setup) i
        (toAmf ++ s.outQueue ++ (s.ues i).outbox) := by
      rw [← hfollows.up i, upOf, hqueue, List.cons_append, List.cons_append,
        Mux.view_cons_self hread]
    obtain ⟨st', hreaction⟩ := exists_coreReaction rand (hfollows.core i) hfollows.phase
      hfollows.slots_lt (Setup.imsi_lt i) hup
    have hperform := step_eq_perform P s.node.1 (.ngap rand msg)
    rw [hreaction.opened] at hperform
    have hslots := slots_perform P s.node.1 (request P s.node.1 (.ngap rand msg))
    have hsurvive := roundTrips_perform P s.node.1 (request P s.node.1 (.ngap rand msg))
    rw [← hperform] at hslots hsurvive
    obtain ⟨sent, hsent, hcarry⟩ := exists_sendResponses hsurvive
    have hfollows' := hfollows.answer hqueue hread hreaction (phaseBUpf_step ..) hslots hcarry
      (N3.step K P s.node (.ngap rand msg)).1.2
    have hlength := congrArg List.length hcarry
    rw [List.length_map, List.length_map] at hlength
    rw [show (Amf.step P s.node.1 (.ngap rand msg)).2.1 =
      (N3.step K P s.node (.ngap rand msg)).2.1 from rfl] at hsent
    simp only [hdecode, Option.some.injEq, Prod.mk.injEq] at hprocess
    obtain ⟨rfl, rfl⟩ := hprocess
    have hput : Link.put s.linkUp s.toGnb sent = s.toGnb ++ sent := by
      rw [hfollows.linkUp, Link.put_true]
    simp only [hsent, hput]
    rw [← hfollows.running]
    exact ⟨i, msg, st', toAmf, sent, hreaction, rfl, hlength, hfollows'⟩
  · cases hprocess

end Association

end Midn.Sim.Gnb
