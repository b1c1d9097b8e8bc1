import Midn.Crypto.Standard
import Midn.Sim.Enb.LinkLoss

/-!
# Completion of the LTE simulator

What holds after every schedule: the planes of the node agree on the bearer of the UE, the UE agrees
with both of them as long as it sends user data, and unless it has given up or the association is
lost it can still finish, after which nothing is left of it.
-/

namespace Midn.Sim.Enb

open Midn.Core Midn.Core.Mme Ecs Nas S1ap Userplane

section Agreement

variable {τ υ : Type} {P : Primitives} {setup : Setup} {s : System τ υ} {st : Stage}
  {node : S1u.Node τ υ}

/-! ## Agreement -/

theorem exists_stranded_of_progress {error : UeError}
    (hprogress : st.progress setup = .failed error) :
    ∃ why rand confirmed,
      error = .ofGivenUp why ∧ st = .attached rand confirmed (.stranded why) := by
  cases st with
  | attached rand confirmed activity =>
      cases activity with
      | stranded why =>
          cases hprogress
          exact ⟨why, rand, confirmed, rfl, rfl⟩
      | _ => cases hprogress
  | _ => cases hprogress

theorem Stage.Attempted.le {n : Nat} (hattempted : st.Attempted n) : n ≤ maxAttempts := by
  cases st with
  | attached rand confirmed activity =>
      cases activity with
      | sending attempt => exact hattempted.trans_le attempt.isLt.le
      | waiting attempt => exact hattempted.trans_le attempt.isLt
      | leaving => exact hattempted.2
      | stranded why =>
          cases why with
          | noEcho => exact hattempted.le
          | unsent => exact hattempted.le
  | dismissed rand => exact hattempted.2
  | ordered rand => exact hattempted.2
  | releasing rand => exact hattempted.2
  | gone rand => exact hattempted.2
  | _ => exact hattempted.trans_le (Nat.zero_le _)

theorem only_eq_some {κ α : Type} [DecidableEq κ] {k k' : κ} {entry : Option α} {a : α}
    (hfound : only k entry k' = some a) : k' = k ∧ entry = some a := by
  rcases eq_or_ne k' k with rfl | hne
  · rw [only_self] at hfound
    exact ⟨rfl, hfound⟩
  · rw [only, Function.update_of_ne hne] at hfound
    cases hfound

/-- All tunnels have the one TEID. -/
theorem Stage.ulTeid_of_tunnel {t : TunnelComponent} (htunnel : st.tunnel? setup = some t) :
    t.ulTeid = teidBase := by
  cases st with
  | attached rand confirmed activity => cases confirmed <;> cases htunnel <;> rfl
  | accepted rand =>
      cases htunnel
      rfl
  | dismissed rand =>
      cases htunnel
      rfl
  | ordered rand =>
      cases htunnel
      rfl
  | releasing rand =>
      cases htunnel
      rfl
  | _ => cases htunnel

/-- The bearer of the UE in the MME is its tunnel. -/
theorem bearerOf_components (P : Primitives) (setup : Setup) (st : Stage) :
    bearerOf entity ((st.components P setup).map Entity.identity)
        ((st.components P setup).bind Entity.tunnel) =
      (st.tunnel? setup).map fun t => sessionBearer (sessionOf t) := by
  cases st with
  | attached rand confirmed activity => cases confirmed <;> rfl
  | _ => rfl

theorem NodeAt.coreBearer (hnode : NodeAt P setup st node) :
    coreBearer node.1.world =
      only entity ((st.tunnel? setup).map fun t => sessionBearer (sessionOf t)) := by
  funext e
  rw [Sim.coreBearer, World.identity?, World.tunnel?, hnode.world]
  rcases eq_or_ne e entity with rfl | hne
  · rw [only_self, only_self]
    exact bearerOf_components P setup st
  · rw [only, only, Function.update_of_ne hne, Function.update_of_ne hne]
    rfl

/-- The planes are in step. -/
theorem NodeAt.inStep (hnode : NodeAt P setup st node) : InStep node.1.world node.2 := by
  constructor
  · intro ulTeid session hfound
    rw [hnode.plane.sessions] at hfound
    obtain ⟨rfl, hsession⟩ := only_eq_some hfound
    obtain ⟨t, ht, rfl⟩ := Option.map_eq_some_iff.mp hsession
    exact Stage.ulTeid_of_tunnel ht
  · intro b
    rw [hnode.coreBearer, upfBearer, hnode.plane.sessions]
    constructor
    · intro hcore
      obtain ⟨-, hbearer⟩ := only_eq_some hcore
      obtain ⟨t, ht, rfl⟩ := Option.map_eq_some_iff.mp hbearer
      have hteid : (sessionBearer (sessionOf t)).ulTeid = teidBase := Stage.ulTeid_of_tunnel ht
      rw [hteid, only_self, ht]
      rfl
    · intro hupf
      obtain ⟨session, hfound, rfl⟩ := Option.map_eq_some_iff.mp hupf
      obtain ⟨-, hsession⟩ := only_eq_some hfound
      obtain ⟨t, ht, rfl⟩ := Option.map_eq_some_iff.mp hsession
      rw [ht]
      exact only_self ..

/-- The routes of a session, in both directions. -/
theorem NodeAt.routes (hnode : NodeAt P setup st node) {ulTeid : UInt32}
    {session : UserPlaneSession} (hfound : node.2.sessions ulTeid = some session) :
    let route := RouteEntry.new session.ueIp session.dlTeid session.enbAddr 9
    node.2.routing.lookupUl ulTeid = some route ∧
      node.2.routing.lookupDl session.ueIp = some route := by
  rw [hnode.plane.sessions] at hfound
  obtain ⟨rfl, hsession⟩ := only_eq_some hfound
  obtain ⟨t, ht, rfl⟩ := Option.map_eq_some_iff.mp hsession
  rw [RoutingTable.lookupUl, RoutingTable.lookupDl, hnode.plane.uplink, hnode.plane.downlink, ht]
  exact ⟨only_self .., only_self ..⟩

/-- What the UE, the MME and the user plane have in common about a bearer. -/
structure Shared (P : Primitives) (setup : Setup) (s : System τ υ) (bearer : Bearer) (n : Entity)
    (kasme : Octets 32) : Prop where
  upfAddr : bearer.upfAddr = setup.upfIp
  entity : s.node.1.world.get? bearer.mmeUeS1apId = some n
  registered : s.node.1.registry.lookup testImsi = some bearer.mmeUeS1apId
  imsi : n.identity.imsi = testImsi
  authenticated : n.auth = .authenticated
  ueKasme : s.ue.kasme = some kasme
  keys : ∃ ctx, n.nasSecurity = some ctx ∧
    ctx.SameKeys (.new P kasme selectedEea selectedEia)
  tunnel : ∃ t, n.tunnel = some t ∧ t.ulTeid = bearer.ulTeid
  session : ∃ session, s.node.2.sessions bearer.ulTeid = some session ∧
    session.entityId = bearer.mmeUeS1apId ∧ session.imsi = testImsi

/-- A UE that sends user data shares its bearer with the MME and the user plane. -/
def Agrees (P : Primitives) (setup : Setup) (s : System τ υ) : Prop :=
  match s.ue.progress with
  | .transmitting _ bearer => ∃ n kasme, Shared P setup s bearer n kasme
  | .awaitingEcho _ bearer => ∃ n kasme, Shared P setup s bearer n kasme
  | _ => True

theorem Follows.shared {rand : Octets 16} {confirmed : Confirmed} {activity : Activity}
    (hfollows : Follows P setup s (.attached rand confirmed activity)) :
    ∃ n, Shared P setup s (Stage.bearer setup) n (kasmeFor P setup.ctx rand) := by
  have hnode := hfollows.node
  have hcomponents : ∃ n, (Stage.attached rand confirmed activity).components P setup = some n ∧
      n.identity.imsi = testImsi ∧ n.auth = (answeredUe P setup rand).auth ∧
      n.nasSecurity = some (attachAcceptOf P (answeredUe P setup rand)).2 ∧
      ∃ t, n.tunnel = some t ∧ t.ulTeid = teidBase := by
    cases confirmed <;> exact ⟨_, rfl, rfl, rfl, rfl, _, rfl, rfl⟩
  have htunnel : ∃ t, (Stage.attached rand confirmed activity).tunnel? setup = some t := by
    cases confirmed <;> exact ⟨_, rfl⟩
  obtain ⟨n, hn, himsi, hauth, hcontext, hown⟩ := hcomponents
  obtain ⟨t, ht⟩ := htunnel
  have hmatch : (answeredUe P setup rand).auth = .authenticated := if_pos (decide_eq_true rfl)
  have hregistry := congrFun hnode.registry testImsi
  have hsessions := congrFun hnode.plane.sessions teidBase
  rw [only_self, hn] at hregistry
  rw [only_self, ht] at hsessions
  exact ⟨n,
    { upfAddr := rfl
      entity := hnode.get?_entity.trans hn
      registered := hregistry
      imsi := himsi
      authenticated := hauth.trans hmatch
      ueKasme := hfollows.task.kasme
      keys := by
        refine ⟨_, hcontext, ?_⟩
        rw [kasmeFor_eq]
        exact ⟨rfl, rfl, rfl, rfl⟩
      tunnel := hown
      session := ⟨_, hsessions, rfl, rfl⟩ }⟩

/-- Nothing is left of the UE in either plane, and its TEID is the next to be lent. -/
structure Cleared (node : S1u.Node τ υ) : Prop where
  world : ∀ e, node.1.world.get? e = none
  registry : ∀ imsi, node.1.registry.lookup imsi = none
  sessions : ∀ ulTeid, node.2.sessions ulTeid = none
  uplink : ∀ ulTeid, node.2.routing.lookupUl ulTeid = none
  downlink : ∀ ueIp, node.2.routing.lookupDl ueIp = none
  teid : node.1.teidAllocator.alloc.1 = teidBase

theorem NodeAt.cleared {rand : Octets 16} (hnode : NodeAt P setup (.gone rand) node) :
    Cleared node where
  world := fun e => (congrFun hnode.world e).trans (congrFun (only_none entity) e)
  registry := fun imsi => (congrFun hnode.registry imsi).trans (congrFun (only_none testImsi) imsi)
  sessions := fun ulTeid =>
    (congrFun hnode.plane.sessions ulTeid).trans (congrFun (only_none teidBase) ulTeid)
  uplink := fun ulTeid =>
    (congrFun hnode.plane.uplink ulTeid).trans (congrFun (only_none teidBase) ulTeid)
  downlink := fun ueIp =>
    (congrFun hnode.plane.downlink ueIp).trans (congrFun (only_none (Octets.zeros 4)) ueIp)
  teid := by
    rw [hnode.teids]
    rfl

end Agreement

section Completion

variable {τ υ : Type} {K : RouteMaps τ υ} {P : Primitives} {setup : Setup} {s s' : System τ υ}
  {st st' : Stage}

/-! ## Something to do -/

/-- An event of the control plane other than the end of a wait is enabled. -/
def Busy (K : RouteMaps τ υ) (P : Primitives) (setup : Setup) (s : System τ υ) : Prop :=
  ∃ event, event.control = true ∧ event.patient = true ∧ (step? K P setup s event).isSome = true

theorem busy_of_outbox (hoctets : s.ue.outbox ≠ []) : Busy K P setup s := by
  obtain ⟨octets, outbox, houtbox⟩ := List.exists_cons_of_ne_nil hoctets
  refine ⟨.send, rfl, rfl, ?_⟩
  rw [step?, System.send, houtbox]
  rfl

theorem busy_of_toMme (hrunning : s.mmeRunning = true) (hoctets : s.toMme ≠ []) :
    Busy K P setup s := by
  obtain ⟨octets, toMme, hqueue⟩ := List.exists_cons_of_ne_nil hoctets
  refine ⟨.mme (Octets.zeros 16), rfl, rfl, ?_⟩
  rw [step?, System.onMme, Option.isSome_map, System.process, hrunning, hqueue]
  simp only
  split <;> rfl

theorem busy_of_toEnb (houtbox : s.ue.outbox = []) (hprogress : s.ue.progress = .receiving)
    (hoctets : s.toEnb ≠ []) : Busy K P setup s := by
  obtain ⟨octets, toEnb, hqueue⟩ := List.exists_cons_of_ne_nil hoctets
  refine ⟨.receive, rfl, rfl, ?_⟩
  rw [step?, System.receive, System.resume, houtbox]
  simp only [hprogress, hqueue]
  rfl

/-- Where the UE can stand when nothing is under way. -/
inductive Resting : Stage → Prop
  | waiting (rand : Octets 16) (attempt : Fin maxAttempts) :
      Resting (.attached rand .registration (.waiting attempt))
  | stranded (rand : Octets 16) (why : GivenUp) :
      Resting (.attached rand .registration (.stranded why))
  | gone (rand : Octets 16) : Resting (.gone rand)

/-- Whatever is under way can go on; when nothing is, the UE waits for an echo or has ended. -/
theorem Follows.busy_or_resting (hfollows : Follows P setup s st) :
    Busy K P setup s ∨ s.ue.outbox = [] ∧ Resting st := by
  by_cases houtbox : s.ue.outbox = []
  swap
  · exact Or.inl (busy_of_outbox houtbox)
  by_cases htoMme : s.toMme = []
  swap
  · exact Or.inl (busy_of_toMme hfollows.running htoMme)
  obtain ⟨-, -, -, ⟨hprogress, -, -⟩, hup, hdown, -⟩ := hfollows
  rw [htoMme, houtbox] at hup
  have hreceive : st.progress setup = .receiving → st.down P setup ≠ [] →
      Busy K P setup s ∨ s.ue.outbox = [] ∧ Resting st := by
    intro hreceiving hne
    refine Or.inl (busy_of_toEnb houtbox (hprogress.trans hreceiving) ?_)
    rintro hnone
    rw [hnone] at hdown
    exact hne (List.length_eq_zero_iff.mp hdown.length_eq.symm)
  cases st with
  | idle =>
      refine Or.inl ⟨.start, rfl, rfl, ?_⟩
      have hconnecting : s.ue.progress = .connecting := hprogress
      rw [step?, System.startUe, System.resume, houtbox]
      simp only [hconnecting, if_true]
      rfl
  | challenged rand => exact hreceive rfl (List.cons_ne_nil _ _)
  | commanded rand => exact hreceive rfl (List.cons_ne_nil _ _)
  | accepted rand => exact hreceive rfl (List.cons_ne_nil _ _)
  | dismissed rand => exact hreceive rfl (List.cons_ne_nil _ _)
  | ordered rand => exact hreceive rfl (List.cons_ne_nil _ _)
  | attached rand confirmed activity =>
      cases confirmed with
      | registration =>
          cases activity with
          | waiting attempt => exact Or.inr ⟨houtbox, .waiting rand attempt⟩
          | stranded why => exact Or.inr ⟨houtbox, .stranded rand why⟩
          | leaving => cases hup
          | sending attempt =>
              refine Or.inl ⟨.transmit, rfl, rfl, ?_⟩
              have hsending : s.ue.progress = .transmitting _ _ := hprogress
              rw [step?, System.transmit, System.resume, houtbox]
              simp only [hsending]
              rfl
      | _ => cases activity <;> cases hup
  | gone rand => exact Or.inr ⟨houtbox, .gone rand⟩
  | _ => cases hup

/-! ## An echo -/

/-- The system without its user data. -/
def System.control (s : System τ υ) : System τ υ := { s with gtpSock := [], traffic := .quiet }

/-- It can always stop waiting. -/
theorem isSome_timeout (houtbox : s.ue.outbox = []) {sent : Nat} {bearer : Bearer}
    (hprogress : s.ue.progress = .awaitingEcho sent bearer) :
    (step? K P setup s .timeout).isSome = true := by
  rw [step?, System.timeOut, System.resume, houtbox]
  simp only [hprogress]
  rfl

/-- An event other than the end of a wait goes on without giving up. -/
theorem Follows.go (hfollows : Follows P setup s st) (hkept : (st.progress setup).lost = false)
    {event : Event} (hcontrol : event.control = true) (hpatient : event.patient = true)
    (henabled : (step? K P setup s event).isSome = true) :
    ∃ st', Follows P setup (Enb.step K P setup s event) st' ∧
      (st'.progress setup).lost = false ∧
      weight (Enb.step K P setup s event) st' < weight s st := by
  obtain ⟨s', hstep⟩ := Option.isSome_iff_exists.mp henabled
  obtain ⟨st', hstepped⟩ := hfollows.exists_step (Event.cuts_of_control hcontrol) hstep
  have hlighter := hstepped.lighter
  rw [hcontrol, Bool.toNat_true] at hlighter
  rw [Enb.step, hstep, Option.getD_some]
  refine ⟨st', hstepped.follows, Bool.eq_false_iff.mpr fun hlost => ?_, hlighter⟩
  rw [hstepped.patient hpatient hlost] at hkept
  cases hkept

/-- The UE has not sent any user data. -/
def Stage.early : Stage → Bool
  | attached _ _ _ => false
  | dismissed _ => false
  | ordered _ => false
  | releasing _ => false
  | gone _ => false
  | _ => true

theorem early_of_next {st st' : Stage} (hnext : st.Next st') (hearly : st.early = true) :
    st'.early = true ∨ ∃ rand, st' = .attached rand .nothing (.sending firstAttempt) := by
  cases hnext with
  | attach rand => exact Or.inr ⟨rand, rfl⟩
  | confirm rand activity hnext => cases hearly
  | act rand confirmed hnext => cases hearly
  | dismiss rand => cases hearly
  | order rand => cases hearly
  | release rand => cases hearly
  | go rand => cases hearly
  | _ => exact Or.inl rfl

/-- It can get to send some. -/
theorem Follows.exists_transmitting (hfollows : Follows P setup s st)
    (hearly : st.early = true) :
    ∃ events sent bearer,
      (Family.run (Enb.step K P setup) s events).ue.progress = .transmitting sent bearer := by
  have hrun := Family.exists_run_of_decreasing (Enb.step K P setup) (s := s)
    (fun s n => ∃ st, Follows P setup s st ∧ weight s st = n ∧
      (st.early = true ∨ ∃ sent bearer, s.ue.progress = .transmitting sent bearer))
    (fun s => ∃ sent bearer, s.ue.progress = .transmitting sent bearer)
    ?_ ⟨st, hfollows, rfl, Or.inl hearly⟩
  · obtain ⟨events, n, -, hsending⟩ := hrun
    exact ⟨events, hsending⟩
  · rintro s n ⟨st, hfollows, rfl, hstage⟩ hgoing
    have hearly := hstage.resolve_right hgoing
    rcases hfollows.busy_or_resting (K := K) with
      ⟨event, hcontrol, hpatient, henabled⟩ | ⟨-, hresting⟩
    · obtain ⟨s', hstep⟩ := Option.isSome_iff_exists.mp henabled
      obtain ⟨st', hstepped⟩ := hfollows.exists_step (Event.cuts_of_control hcontrol) hstep
      have hlighter := hstepped.lighter
      rw [hcontrol, Bool.toNat_true] at hlighter
      have hrun : Family.run (Enb.step K P setup) s [event] = s' := by
        show Enb.step K P setup s event = s'
        rw [Enb.step, hstep, Option.getD_some]
      refine ⟨[event], weight s' st', ?_, hlighter⟩
      rw [hrun]
      refine ⟨st', hstepped.follows, rfl, ?_⟩
      cases hstepped.moves with
      | refl => exact Or.inl hearly
      | single hnext =>
          refine (early_of_next hnext hearly).imp_right ?_
          rintro ⟨rand, rfl⟩
          exact ⟨_, _, hstepped.follows.task.progress⟩
    · cases hresting <;> cases hearly

/-- The task has returned. -/
def UeTask.Ended (u : UeTask) : Prop :=
  u.outbox = [] ∧ (u.progress = .finished ∨ ∃ error, u.progress = .failed error)

/-- Something is enabled that does not depend on the network. -/
def Able (K : RouteMaps τ υ) (P : Primitives) (setup : Setup) (s : System τ υ) : Prop :=
  ∃ event, (event.control || event.notices) = true ∧ (step? K P setup s event).isSome = true

theorem able_of_busy (hbusy : Busy K P setup s) : Able K P setup s := by
  obtain ⟨event, hcontrol, -, henabled⟩ := hbusy
  exact ⟨event, by rw [hcontrol, Bool.true_or], henabled⟩

/-- An MME without its association takes what has arrived, and then it notices. -/
theorem able_of_running (hgone : s.linkUp = false) (hrunning : s.mmeRunning = true) :
    Able K P setup s := by
  cases hqueue : s.toMme with
  | nil =>
      refine ⟨.mmeLinkEnds, rfl, ?_⟩
      rw [step?, System.onMmeLinkEnds, hgone, hrunning, hqueue]
      rfl
  | cons octets toMme =>
      exact able_of_busy (busy_of_toMme hrunning (by rw [hqueue]; exact List.cons_ne_nil _ _))

/-- So does the task of the UE, until it has returned. -/
theorem able_or_ended (hgone : s.linkUp = false) : Able K P setup s ∨ s.ue.Ended := by
  by_cases houtbox : s.ue.outbox = []
  swap
  · exact Or.inl (able_of_busy (busy_of_outbox houtbox))
  cases hprogress : s.ue.progress with
  | connecting =>
      refine Or.inl ⟨.start, rfl, ?_⟩
      rw [step?, System.startUe, resume_of_outbox houtbox, if_pos hprogress]
      rfl
  | receiving =>
      cases hqueue : s.toEnb with
      | nil =>
          refine Or.inl ⟨.linkEnds .lost, rfl, ?_⟩
          rw [step?, System.linkEnds, resume_of_outbox houtbox]
          simp only [hgone, hprogress, hqueue]
          rfl
      | cons octets toEnb =>
          refine Or.inl (able_of_busy (busy_of_toEnb houtbox hprogress ?_))
          rw [hqueue]
          exact List.cons_ne_nil _ _
  | transmitting sent bearer =>
      refine Or.inl ⟨.transmit, rfl, ?_⟩
      rw [step?, System.transmit, resume_of_outbox houtbox]
      simp only [hprogress]
      rfl
  | awaitingEcho sent bearer => exact Or.inl ⟨.timeout, rfl, isSome_timeout houtbox hprogress⟩
  | finished => exact Or.inr ⟨houtbox, Or.inl hprogress⟩
  | failed error => exact Or.inr ⟨houtbox, Or.inr ⟨error, hprogress⟩⟩

/-! ## Every schedule -/

/-- A UE that sends user data has not noticed anything. -/
theorem Shadows.agrees {r : System τ υ} (hshadows : Shadows s r) (hagrees : Agrees P setup r) :
    Agrees P setup s := by
  have hshared : ∀ {bearer}, s.ue = r.ue → (∃ n kasme, Shared P setup r bearer n kasme) →
      ∃ n kasme, Shared P setup s bearer n kasme := by
    rintro bearer hue ⟨n, kasme, hshared⟩
    have hnode := hshadows.node
    refine ⟨n, kasme, hshared.upfAddr, ?_, ?_, hshared.imsi, hshared.authenticated, ?_,
      hshared.keys, hshared.tunnel, ?_⟩
    · rw [hnode]
      exact hshared.entity
    · rw [hnode]
      exact hshared.registered
    · rw [hue]
      exact hshared.ueKasme
    · rw [hnode]
      exact hshared.session
  rw [Agrees]
  split
  next sent bearer hprogress =>
    have hue := hshadows.ue_of_progress (by rw [hprogress]; rfl)
    rw [Agrees, ← hue, hprogress] at hagrees
    exact hshared hue hagrees
  next sent bearer hprogress =>
    have hue := hshadows.ue_of_progress (by rw [hprogress]; rfl)
    rw [Agrees, ← hue, hprogress] at hagrees
    exact hshared hue hagrees
  next => trivial

theorem Follows.agrees (hfollows : Follows P setup s st) : Agrees P setup s := by
  rw [Agrees]
  split
  next sent bearer hprogress =>
    obtain ⟨rand, confirmed, attempt, rfl, -, rfl⟩ :=
      exists_sending_of_progress (hfollows.progress hprogress)
    obtain ⟨n, hshared⟩ := hfollows.shared
    exact ⟨n, _, hshared⟩
  next sent bearer hprogress =>
    obtain ⟨rand, confirmed, attempt, rfl, -, rfl⟩ :=
      exists_waiting_of_progress (hfollows.progress hprogress)
    obtain ⟨n, hshared⟩ := hfollows.shared
    exact ⟨n, _, hshared⟩
  next => trivial

/-- Both processes on one host. -/
def onLoopback : Setup where
  ctx := ⟨Octets.zeros 16, Octets.zeros 16⟩
  upfIp := loopback 1
  myIp := loopback 2
  distinct := loopback_one_ne_two

variable (K P setup)

/-- Every schedule takes the system along the life cycle of its UE. The MME stops only without its
association, the UE sends at most five packets, and it fails only if it has had no echo of any of
them, or because of its socket or its association. -/
theorem unanswered_after (schedule : List Event) :
    let s := after K P setup schedule
    (∃ st, Relation.ReflTransGen Stage.Next .idle st ∧ Tracks P setup s st) ∧
      (s.mmeRunning = false → s.linkUp = false) ∧ attempts setup s.traffic.air ≤ maxAttempts ∧
      ∀ error, s.ue.progress = .failed error →
        error = .noEcho ∧ attempts setup s.traffic.air = maxAttempts ∨ error = .gtpSocket ∨
          error.ofLink = true ∧ s.linkUp = false := by
  intro s
  obtain ⟨r, st, hshadows, hfollows, hreached⟩ := exists_shadows K P setup schedule
  have hdata := (hshadows.tracks hfollows).data
  refine ⟨⟨st, hreached, hshadows.tracks hfollows⟩, ?_, hdata.attempted.le, ?_⟩
  · intro hended
    cases hup : s.linkUp with
    | false => rfl
    | true =>
        rw [show s = r from hshadows.up hup, hfollows.running] at hended
        cases hended
  · intro error hprogress
    have hstage : ∀ u : UeTask, TaskAt P setup st u → u.progress = .failed error →
        error = .noEcho ∧ attempts setup s.traffic.air = maxAttempts ∨ error = .gtpSocket := by
      intro u htask hfailed
      rw [htask.progress] at hfailed
      obtain ⟨why, rand, confirmed, rfl, rfl⟩ := exists_stranded_of_progress hfailed
      cases why with
      | noEcho => exact Or.inl ⟨rfl, hdata.attempted⟩
      | unsent => exact Or.inr rfl
    rcases (hshadows.tracks hfollows).task with htask | ⟨hgone, -, error', hlink, hfailed⟩
    · rcases hstage s.ue htask hprogress with hnoEcho | hsocket
      · exact Or.inl hnoEcho
      · exact Or.inr (Or.inl hsocket)
    · cases hprogress.symm.trans hfailed
      exact Or.inr (Or.inr ⟨hlink, hgone⟩)

/-- A UE that cannot send anything any more has failed because of the association. -/
theorem onLoopback_unanswered :
    let s := after .unbounded .standard onLoopback [.start, .cut 0 0, .sendFails]
    s.ue.progress = .failed .sendFailed ∧ s.linkUp = false ∧
      ∃ st, Relation.ReflTransGen Stage.Next .idle st ∧ Tracks .standard onLoopback s st := by
  have hprogress : (after .unbounded .standard onLoopback
      [.start, .cut 0 0, .sendFails]).ue.progress = .failed .sendFailed := by decide +kernel
  obtain ⟨htracks, -, -, hfailed⟩ :=
    unanswered_after .unbounded .standard onLoopback [.start, .cut 0 0, .sendFails]
  rcases hfailed _ hprogress with ⟨⟨⟩, -⟩ | hsocket | ⟨-, hgone⟩
  · cases hsocket
  · exact ⟨hprogress, hgone, htracks⟩

/-- The planes of the node always agree on the bearer, there are routes in both directions for every
session, and the UE that sends user data agrees with both planes. -/
theorem inStep_and_agrees_after (schedule : List Event) :
    let s := after K P setup schedule
    InStep s.node.1.world s.node.2 ∧
      (∀ ulTeid session, s.node.2.sessions ulTeid = some session →
        let route := RouteEntry.new session.ueIp session.dlTeid session.enbAddr 9
        s.node.2.routing.lookupUl ulTeid = some route ∧
          s.node.2.routing.lookupDl session.ueIp = some route) ∧
      Agrees P setup s := by
  intro s
  obtain ⟨r, st, hshadows, hfollows, -⟩ := exists_shadows K P setup schedule
  have hnode := (hshadows.tracks hfollows).node
  exact ⟨hnode.inStep, fun _ _ hfound => hnode.routes hfound, hshadows.agrees hfollows.agrees⟩

theorem onLoopback_agrees :
    ∃ schedule sent bearer,
      let s := after .unbounded .standard onLoopback schedule
      s.ue.progress = .transmitting sent bearer ∧
        ∃ n kasme, Shared .standard onLoopback s bearer n kasme := by
  have hfollows : Follows .standard onLoopback (after .unbounded .standard onLoopback []) .idle :=
    follows_init
  obtain ⟨schedule, sent, bearer, hprogress⟩ := hfollows.exists_transmitting (K := .unbounded) rfl
  obtain ⟨-, -, hagrees⟩ := inStep_and_agrees_after .unbounded .standard onLoopback schedule
  have hsending : (after .unbounded .standard onLoopback schedule).ue.progress =
      .transmitting sent bearer := hprogress
  rw [Agrees, hsending] at hagrees
  exact ⟨schedule, sent, bearer, hsending, hagrees⟩

/-- However events are ordered, the control plane comes to an end after a bounded number of them.
Then the UE has given up, or it has finished and nothing is left of it; without the association,
both tasks have returned. -/
theorem control_ends_after (schedule : List Event) :
    let s := after K P setup schedule
    Family.counted (step K P setup) (counts K P setup Event.control) (init setup) schedule ≤ 115 ∧
      Family.counted (step K P setup) (counts K P setup fun event => event.cuts || event.notices)
        (init setup) schedule ≤ 3 ∧
      (Able K P setup s ∨
        s.linkUp = true ∧ ((∃ why, s.ue.progress = .failed (.ofGivenUp why)) ∨
          s.ue.progress = .finished ∧ Cleared s.node) ∨
        s.linkUp = false ∧ s.mmeRunning = false ∧ s.ue.Ended) := by
  intro s
  obtain ⟨r, st, hshadows, hfollows, -⟩ := exists_shadows K P setup schedule
  refine ⟨?_, ?_, ?_⟩
  · exact counted_le_measure K P setup Event.control (fun _ r st => weight r st)
      (fun hmatched => hmatched.lighter) schedule
  · exact counted_le_measure K P setup (fun event => event.cuts || event.notices)
      (fun s _ _ => s.linked) (fun hmatched => hmatched.linked) schedule
  by_cases hable : Able K P setup s
  · exact Or.inl hable
  refine Or.inr ?_
  cases hup : s.linkUp with
  | false =>
      refine Or.inr ⟨rfl, ?_, (able_or_ended hup).resolve_left hable⟩
      rw [← Bool.not_eq_true]
      exact fun hrunning => hable (able_of_running hup hrunning)
  | true =>
      refine Or.inl ⟨rfl, ?_⟩
      cases hshadows.up hup
      have hprogress := hfollows.task.progress
      rcases hfollows.busy_or_resting (K := K) with hbusy | ⟨houtbox, hresting⟩
      · exact absurd (able_of_busy hbusy) hable
      · cases hresting with
        | waiting rand attempt =>
            exact absurd ⟨.timeout, rfl, isSome_timeout houtbox hprogress⟩ hable
        | stranded rand why => exact Or.inl ⟨why, hprogress⟩
        | gone rand => exact Or.inr ⟨hprogress, hfollows.node.cleared⟩

/-- Without the association both tasks return. -/
theorem onLoopback_control_ends :
    let s := after .unbounded .standard onLoopback [.start, .cut 0 0]
    Able .unbounded .standard onLoopback s ∨ s.mmeRunning = false ∧ s.ue.Ended := by
  have hgone : (after .unbounded .standard onLoopback [.start, .cut 0 0]).linkUp = false := by
    decide +kernel
  obtain ⟨-, -, hable | ⟨hup, -⟩ | ⟨-, hended⟩⟩ :=
    control_ends_after .unbounded .standard onLoopback [.start, .cut 0 0]
  · exact Or.inl hable
  · cases hup.symm.trans hgone
  · exact Or.inr hended

end Completion

end Midn.Sim.Enb
