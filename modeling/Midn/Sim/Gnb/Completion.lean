import Midn.Crypto.Standard
import Midn.Sim.Gnb.LinkLoss

/-!
# Completion of the simulator

There is always something to do until all UEs have ended. As long as the association holds and
nobody has given up there is a way for everyone to register, get an echo and deregister, after
which nothing is left of them in either plane of the core.
-/

namespace Midn.Sim.Gnb

open Midn.Core Midn.Core.Amf Ecs Nas5gs Ngap Userplane

section Completion

variable {τ υ : Type} {K : RouteMaps τ υ} {P : Primitives} {setup : Setup}
  {s s' : System setup.nUes τ υ} {f : Fin setup.nUes → Stage} {i : Fin setup.nUes}

/-! ## Something to do -/

/-- An event of the control plane other than the end of a wait is enabled. -/
def Busy (K : RouteMaps τ υ) (P : Primitives) (setup : Setup) (s : System setup.nUes τ υ) : Prop :=
  ∃ event, event.control = true ∧ event.patient = true ∧
    (step? K P setup s event).isSome = true

/-- Everything that was sent in the control plane has been received. -/
structure Settled (s : System setup.nUes τ υ) : Prop where
  toAmf : s.toAmf = []
  toGnb : s.toGnb = []
  outQueue : s.outQueue = []
  outbox : ∀ i, (s.ues i).outbox = []

theorem busy_of_outbox (hgoes : s.dispatching = true) (hoctets : (s.ues i).outbox ≠ []) :
    Busy K P setup s := by
  obtain ⟨octets, outbox, houtbox⟩ := List.exists_cons_of_ne_nil hoctets
  refine ⟨.send i, rfl, rfl, ?_⟩
  rw [step?, System.send, hgoes, houtbox]
  rfl

theorem busy_of_outQueue (hgoes : s.dispatching = true) (hoctets : s.outQueue ≠ []) :
    Busy K P setup s := by
  obtain ⟨octets, outQueue, hqueue⟩ := List.exists_cons_of_ne_nil hoctets
  refine ⟨.uplink, rfl, rfl, ?_⟩
  rw [step?, System.dispatchUplink, hgoes, hqueue]
  rfl

theorem busy_of_toAmf (hrunning : s.amfRunning = true) (hoctets : s.toAmf ≠ []) :
    Busy K P setup s := by
  obtain ⟨octets, toAmf, hqueue⟩ := List.exists_cons_of_ne_nil hoctets
  refine ⟨.amf (Octets.zeros 16), rfl, rfl, ?_⟩
  rw [step?, System.onAmf, Option.isSome_map, System.process, hrunning, hqueue]
  cases hdecode : decodeNgapPdu octets with
  | error error => simp only [hdecode, Option.isSome_some]
  | ok msg => simp only [hdecode, Option.isSome_some]

theorem busy_of_toGnb (hgoes : s.dispatching = true) (hoctets : s.toGnb ≠ []) :
    Busy K P setup s := by
  obtain ⟨octets, toGnb, hqueue⟩ := List.exists_cons_of_ne_nil hoctets
  refine ⟨.downlink, rfl, rfl, ?_⟩
  rw [step?, System.dispatchDownlink, hgoes, hqueue]
  cases hdecode : decodeNgapPdu octets with
  | error error => simp only [hdecode, Option.isSome_some]
  | ok msg =>
      cases hroute : (ranUeNgapIdOf msg).bind setup.ngapRoutes with
      | none => simp only [hdecode, hroute, Option.isSome_some]
      | some i => simp only [hdecode, hroute, Option.isSome_some]

/-- Whatever is under way can go on. -/
theorem Refines.settled_or_busy (hrefines : Refines P setup s f) (hjoined : s.joined = none) :
    Settled s ∨ Busy K P setup s := by
  by_cases hbusy : Busy K P setup s
  · exact Or.inr hbusy
  · have hgoes := hrefines.dispatching hjoined
    refine Or.inl ⟨?_, ?_, ?_, ?_⟩
    · by_contra hoctets
      exact hbusy (busy_of_toAmf hrefines.follows.running hoctets)
    · by_contra hoctets
      exact hbusy (busy_of_toGnb hgoes hoctets)
    · by_contra hoctets
      exact hbusy (busy_of_outQueue hgoes hoctets)
    · intro i
      by_contra hoctets
      exact hbusy (busy_of_outbox hgoes hoctets)

/-- Where a UE can stand when nothing is under way. -/
inductive Resting : Stage → Prop
  | waiting (a : Admission) (attempt : Fin maxAttempts) :
      Resting (.attached a .registration (.waiting attempt))
  | stranded (a : Admission) (why : GivenUp) :
      Resting (.attached a .registration (.stranded why))
  | gone (a : Admission) : Resting (.gone a)

/-- When nothing is under way, a UE can go on, or it waits for an echo, or it has ended. -/
theorem Refines.resting_or_busy (hrefines : Refines P setup s f) (hsettled : Settled s)
    (i : Fin setup.nUes) : Resting (f i) ∨ Busy K P setup s := by
  have houtbox := hsettled.outbox i
  have hup := hrefines.follows.up i
  have hdown := hrefines.follows.down i
  have hprogress := (hrefines.follows.task i).progress
  rw [upOf, hsettled.toAmf, hsettled.outQueue, houtbox] at hup
  rw [downOf, hsettled.toGnb, Mux.view_nil, List.append_nil] at hdown
  generalize hst : f i = st at hup hdown hprogress
  have hreceive : st.down P setup i ≠ [] → Resting st ∨ Busy K P setup s := by
    intro hne
    rw [progress_of_down hne] at hprogress
    rw [← hdown] at hne
    obtain ⟨msg, ngapRx, hqueue⟩ := List.exists_cons_of_ne_nil hne
    refine Or.inr ⟨.receive i, rfl, rfl, ?_⟩
    rw [step?, System.receive, System.resume, houtbox]
    simp only [hprogress, hqueue]
    rfl
  cases st with
  | idle =>
      refine Or.inr ⟨.start i, rfl, rfl, ?_⟩
      rw [step?, System.startUe, System.resume, houtbox]
      simp only [show (s.ues i).progress = .spawned from hprogress, if_true]
      rfl
  | asked e => exact hreceive (List.cons_ne_nil _ _)
  | challenged e rand => exact hreceive (List.cons_ne_nil _ _)
  | commanded e rand => exact hreceive (List.cons_ne_nil _ _)
  | accepted a => exact hreceive (List.cons_ne_nil _ _)
  | dismissed a => exact hreceive (List.cons_ne_nil _ _)
  | ordered a => exact hreceive (List.cons_ne_nil _ _)
  | attached a confirmed activity =>
      cases confirmed with
      | registration =>
          cases activity with
          | waiting attempt => exact Or.inl (.waiting a attempt)
          | stranded why => exact Or.inl (.stranded a why)
          | leaving => cases hup
          | sending attempt =>
              refine Or.inr ⟨.transmit i, rfl, rfl, ?_⟩
              rw [step?, System.transmit, houtbox,
                show (s.ues i).progress = .transmitting _ _ _ from hprogress]
              rfl
      | _ => cases activity <;> cases hup
  | gone a => exact Or.inl (.gone a)
  | _ => cases hup

/-! ## An echo -/

/-- What the network and the UPF do. -/
def Event.user {n : Nat} : Event n → Bool
  | deliver _ => true
  | echo => true
  | encapsulate => true
  | _ => false

variable (K) in
/-- Nothing of what they do concerns the control plane. -/
theorem Refines.user (hrefines : Refines P setup s f) {event : Event setup.nUes}
    (huser : event.user = true) :
    Refines P setup (step K P setup s event) f ∧
      (step K P setup s event).control = s.control := by
  rw [step]
  cases hstep : step? K P setup s event with
  | none => exact ⟨hrefines, rfl⟩
  | some s' =>
      rw [Option.getD_some]
      cases event with
      | deliver k =>
          have hsame := control_deliver hstep
          exact ⟨(hrefines.of_control hsame (hrefines.echoing.deliver hstep)
            (rfl : (Event.deliver k).control = false)).refines, hsame⟩
      | echo =>
          have hsame := control_echo hstep
          exact ⟨(hrefines.of_control hsame (hrefines.echoing.echo hstep)
            (rfl : Event.echo.control = false)).refines, hsame⟩
      | encapsulate =>
          have hsame := control_encapsulate hstep
          exact ⟨(hrefines.of_control hsame (hrefines.echoing.encapsulate hstep)
            (rfl : Event.encapsulate.control = false)).refines,
            hsame⟩
      | _ => cases huser

/-- Who has given up stays where it is. -/
theorem progress_of_moves {f' : Fin setup.nUes → Stage} (hmoves : Family.Moves Stage.Next f f')
    {error : UeError} (hfailed : (f i).progress setup = .failed error) :
    (f' i).progress setup = .failed error := by
  cases hmoves with
  | stay => exact hfailed
  | party j stage hnext =>
      rcases eq_or_ne i j with rfl | hne
      · rw [Function.update_self]
        generalize f i = st at hnext hfailed
        cases hnext with
        | confirm a activity hnext => cases activity <;> exact hfailed
        | act a confirmed hnext => cases hnext <;> cases hfailed
        | _ => cases hfailed
      · rw [Function.update_of_ne hne]
        exact hfailed

variable (setup) in
theorem stranded_iff {st : Stage} :
    st.stranded = true ↔ ∃ error, st.progress setup = .failed error := by
  cases st with
  | attached a confirmed activity => cases activity <;> simp [Stage.stranded, Stage.progress]
  | _ => simp [Stage.stranded, Stage.progress]

/-- It can always stop waiting. -/
theorem isSome_timeout (houtbox : (s.ues i).outbox = []) {sent : Nat} {upfAddr : Octets 4}
    {ulTeid : UInt32} (hprogress : (s.ues i).progress = .awaitingEcho sent upfAddr ulTeid) :
    (step? K P setup s (.timeout i)).isSome = true := by
  rw [step?, System.timeOut, System.resume, houtbox]
  simp only [hprogress]
  rfl

/-- A state on the way to the end, with what is left and who has given up. -/
structure OnWay (P : Primitives) (setup : Setup) (lost : Fin setup.nUes → Option UeError)
    (s : System setup.nUes τ υ) (f : Fin setup.nUes → Stage) : Prop where
  refines : Refines P setup s f
  joined : s.joined = none
  lost_iff : ∀ j error, (f j).progress setup = .failed error ↔ lost j = some error

variable {lost : Fin setup.nUes → Option UeError}

/-- An event other than the end of a wait goes on along the way. -/
theorem OnWay.step (hway : OnWay P setup lost s f) {event : Event setup.nUes}
    (hcontrol : event.control = true) (hpatient : event.patient = true)
    (henabled : (step? K P setup s event).isSome = true) :
    ∃ f', OnWay P setup lost (step K P setup s event) f' ∧
      weight setup (step K P setup s event) f' < weight setup s f := by
  obtain ⟨s', hstep⟩ := Option.isSome_iff_exists.mp henabled
  obtain ⟨f', hstepped⟩ := hway.refines.exists_step (Event.cuts_of_control hcontrol) hstep
  have hlighter := hstepped.lighter
  rw [hcontrol, Bool.toNat_true] at hlighter
  rw [Gnb.step, hstep, Option.getD_some]
  refine ⟨f', ⟨hstepped.refines, (hstepped.joined hcontrol).trans hway.joined, ?_⟩, hlighter⟩
  intro j error
  rw [← hway.lost_iff j]
  constructor
  · intro hafter
    have hstranded := hstepped.patient hpatient j ((stranded_iff setup).mpr ⟨error, hafter⟩)
    obtain ⟨error', hbefore⟩ := (stranded_iff setup).mp hstranded
    cases hafter.symm.trans (progress_of_moves hstepped.moves hbefore)
    exact hbefore
  · exact progress_of_moves hstepped.moves

variable (setup) in
/-- A UE at its end has given up, or it is gone. -/
theorem lost_of_resting {st : Stage} (hresting : Resting st) (hawaited : st.awaited = none) :
    (∃ why, st.progress setup = .failed (.ofGivenUp why)) ∨ ∃ a, st = .gone a := by
  cases hresting with
  | waiting a attempt => cases hawaited
  | stranded a why => exact Or.inl ⟨why, rfl⟩
  | gone a => exact Or.inr ⟨a, rfl⟩

/-- What either plane still holds belongs to UEs of a kind. -/
structure OnlyOf (setup : Setup) (kept : Fin setup.nUes → Prop) (node : N3.Node τ υ) : Prop where
  entity : ∀ e n, node.1.world.get? e = some n →
    ∃ i, kept i ∧ n.identity.enbUeS1apId = setup.ranUeNgapId i
  registry : ∀ imsi e, node.1.registry.lookup imsi = some e →
    ∃ n, node.1.world.get? e = some n ∧ n.identity.imsi = imsi
  teid : ∀ teid, (pool node.1).Minted teidBase teid →
    (pool node.1).free.count teid = 1 ∨
      ∃ e n t, node.1.world.get? e = some n ∧ n.tunnel = some t ∧ t.ulTeid = teid
  session : ∀ teid session, node.2.sessions teid = some session →
    ∃ i, kept i ∧ session.imsi = setup.imsi i
  uplink : ∀ teid route, node.2.routing.lookupUl teid = some route →
    ∃ session, node.2.sessions teid = some session
  downlink : setup.nUes ≤ 2 ^ 16 → ∀ ueIp route, node.2.routing.lookupDl ueIp = some route →
    ∃ teid session, node.2.sessions teid = some session ∧ session.ueIp = ueIp

theorem Refines.onlyOf (hrefines : Refines P setup s f) {kept : Fin setup.nUes → Prop}
    (hkept : ∀ j, (f j).entity? ≠ none → kept j) : OnlyOf setup kept s.node := by
  have hsession : ∀ {j t}, (f j).tunnel? setup j = some t →
      s.node.2.sessions t.admission.ulTeid = some (t.session (setup.imsi j)) := by
    intro j t ht
    exact hrefines.serves.sessions.found (i := j) (by rw [Stage.sessionEntry, ht]; rfl)
  constructor
  · intro e n hn
    obtain ⟨j, hentity⟩ := hrefines.follows.owned e n hn
    obtain ⟨m, hm, hid⟩ := exists_components P j hentity
    have hsame := ((hrefines.follows.core j).entity e hentity).symm.trans hn
    rw [hm] at hsame
    cases hsame
    exact ⟨j, hkept j (by rw [hentity]; exact Option.some_ne_none e), hid⟩
  · intro imsi e hlookup
    have hsound := hrefines.listed.sound imsi e hlookup
    obtain ⟨identity, hidentity, himsi⟩ := Option.map_eq_some_iff.mp hsound
    obtain ⟨n, hn, rfl⟩ := Option.map_eq_some_iff.mp hidentity
    exact ⟨n, hn, himsi⟩
  · intro teid hminted
    rcases hrefines.leases.conserved teid hminted with ⟨honce, -⟩ | ⟨-, e, hheld, -⟩
    · exact Or.inl honce
    · obtain ⟨t, ht, hteid⟩ := Option.map_eq_some_iff.mp hheld
      obtain ⟨n, hn, htunnel⟩ := Option.bind_eq_some_iff.mp ht
      exact Or.inr ⟨e, n, t, hn, htunnel, hteid⟩
  · intro teid session hfound
    obtain ⟨j, hentry⟩ := (hrefines.serves.sessions teid session).mp hfound
    obtain ⟨t, ht, heq⟩ := Option.map_eq_some_iff.mp hentry
    cases heq
    have hentity := ((hrefines.follows.core j).tunnel? ht).2
    exact ⟨j, hkept j (by rw [hentity]; exact Option.some_ne_none _), rfl⟩
  · intro teid route hfound
    obtain ⟨j, hentry⟩ := (hrefines.serves.uplink teid route).mp hfound
    obtain ⟨t, ht, heq⟩ := Option.map_eq_some_iff.mp hentry
    cases heq
    exact ⟨_, hsession ht⟩
  · intro hsmall ueIp route hfound
    obtain ⟨j, hentry⟩ := (hrefines.serves.downlink hsmall ueIp route).mp hfound
    obtain ⟨t, ht, heq⟩ := Option.map_eq_some_iff.mp hentry
    cases heq
    exact ⟨_, _, hsession ht, rfl⟩

/-- Something is enabled that does not depend on the network. -/
def Able (K : RouteMaps τ υ) (P : Primitives) (setup : Setup) (s : System setup.nUes τ υ) : Prop :=
  ∃ event, (event.control || event.notices) = true ∧ (step? K P setup s event).isSome = true

theorem able_of_busy (hbusy : Busy K P setup s) : Able K P setup s := by
  obtain ⟨event, hcontrol, -, henabled⟩ := hbusy
  exact ⟨event, by rw [hcontrol, Bool.true_or], henabled⟩

/-- An AMF without its association takes what has arrived, and then it notices. -/
theorem able_of_running (hgone : s.linkUp = false) (hrunning : s.amfRunning = true) :
    Able K P setup s := by
  cases hqueue : s.toAmf with
  | nil =>
      refine ⟨.amfLinkEnds, rfl, ?_⟩
      rw [step?, System.onAmfLinkEnds, hgone, hrunning, hqueue]
      rfl
  | cons octets toAmf =>
      exact able_of_busy (busy_of_toAmf hrunning (by rw [hqueue]; exact List.cons_ne_nil _ _))

/-- So does the dispatcher. -/
theorem able_of_dispatching (hgone : s.linkUp = false) (hgoes : s.dispatching = true) :
    Able K P setup s := by
  cases hqueue : s.toGnb with
  | nil =>
      refine ⟨.dispatcherEnds, rfl, ?_⟩
      rw [step?, System.dispatcherEnds, hgone, hgoes, hqueue]
      rfl
  | cons octets toGnb =>
      exact able_of_busy (busy_of_toGnb hgoes (by rw [hqueue]; exact List.cons_ne_nil _ _))

/-- Without the dispatcher, a task goes on until it has returned. -/
theorem able_or_ended (hstopped : s.dispatching = false) (i : Fin setup.nUes) :
    Able K P setup s ∨ (s.ues i).ended = true := by
  cases houtbox : (s.ues i).outbox with
  | cons octets outbox =>
      refine Or.inl ⟨.sendFails i, rfl, ?_⟩
      rw [step?, System.sendFails, hstopped, houtbox]
      rfl
  | nil =>
      cases hprogress : (s.ues i).progress with
      | spawned =>
          refine Or.inl ⟨.start i, rfl, ?_⟩
          rw [step?, System.startUe, System.resume, houtbox]
          simp only [hprogress, if_true]
          rfl
      | receiving =>
          cases hqueue : (s.ues i).ngapRx with
          | nil =>
              refine Or.inl ⟨.channelCloses i, rfl, ?_⟩
              rw [step?, System.channelCloses, System.resume, houtbox]
              simp only [hstopped, hprogress, hqueue]
              rfl
          | cons msg ngapRx =>
              refine Or.inl ⟨.receive i, rfl, ?_⟩
              rw [step?, System.receive, System.resume, houtbox]
              simp only [hprogress, hqueue]
              rfl
      | transmitting sent upfAddr ulTeid =>
          refine Or.inl ⟨.transmit i, rfl, ?_⟩
          rw [step?, System.transmit, houtbox, hprogress]
          rfl
      | awaitingEcho sent upfAddr ulTeid =>
          exact Or.inl ⟨.timeout i, rfl, isSome_timeout houtbox hprogress⟩
      | _ =>
          refine Or.inr ?_
          rw [UeTask.ended, houtbox, hprogress]
          rfl

/-! ## Every schedule -/

/-- When nothing is enabled as long as the association holds, all UEs have returned, and there is
nothing left of those that have not given up. -/
theorem Refines.quiet (hrefines : Refines P setup s f) (hjoined : s.joined = none)
    (hquiet : ¬ Able K P setup s) (i : Fin setup.nUes) :
    (s.ues i).ended = true ∧
      ((∃ why, (s.ues i).progress = .failed (.ofGivenUp why)) ∨ ∃ a, f i = .gone a) := by
  have hidle : ¬ Busy K P setup s := fun hbusy => hquiet (able_of_busy hbusy)
  have hsettled := (hrefines.settled_or_busy hjoined).resolve_right hidle
  have hresting := (hrefines.resting_or_busy hsettled i).resolve_right hidle
  have hprogress := (hrefines.follows.task i).progress
  have hawaited : (f i).awaited = none := by
    generalize f i = st at hresting hprogress
    cases hresting with
    | waiting a attempt =>
        exact absurd ⟨.timeout i, rfl, isSome_timeout (hsettled.outbox i) hprogress⟩ hquiet
    | _ => rfl
  rw [UeTask.ended, hsettled.outbox i, hprogress]
  rcases lost_of_resting setup hresting hawaited with ⟨why, hfailed⟩ | ⟨a, hgone⟩
  · rw [hfailed]
    exact ⟨rfl, Or.inl ⟨why, rfl⟩⟩
  · rw [hgone]
    exact ⟨rfl, Or.inr ⟨a, rfl⟩⟩

variable (K P setup)

/-- Only so much can happen in the control plane, and each task notices the loss of the association
once, however events are ordered. -/
theorem counted_after_le (schedule : List (Event setup.nUes)) :
    Family.counted (step K P setup) (counts K P setup Event.control) (init setup) schedule ≤
        125 * setup.nUes ∧
      Family.counted (step K P setup) (counts K P setup fun event => event.cuts || event.notices)
        (init setup) schedule ≤ setup.nUes + 3 := by
  constructor
  · have hcounted := counted_le_measure K P setup Event.control (fun _ r f => weight setup r f)
      (fun hmatched => hmatched.lighter) schedule
    rw [weight_init] at hcounted
    exact hcounted
  · have hcounted := counted_le_measure K P setup (fun event => event.cuts || event.notices)
      (fun s _ _ => s.linked) (fun hmatched => hmatched.linked) schedule
    rw [linked_init] at hcounted
    exact hcounted

/-- Something can happen until all UEs have returned. When nothing can, nothing is left in the core
but of UEs that have given up, as long as the association holds and the tasks have not been joined;
without the association, its ends have stopped. -/
theorem busy_or_ended_after (schedule : List (Event setup.nUes)) :
    let s := after K P setup schedule
    Able K P setup s ∨
      (∀ i, (s.ues i).ended = true) ∧
        (s.linkUp = true → s.joined = none →
          OnlyOf setup (fun i => ∃ why, (s.ues i).progress = .failed (.ofGivenUp why)) s.node) ∧
        (s.linkUp = false → s.amfRunning = false ∧ s.dispatching = false) := by
  intro s
  obtain ⟨r, f, hshadows, hrefines, -⟩ := exists_shadows K P setup schedule
  by_cases hable : Able K P setup s
  · exact Or.inl hable
  refine Or.inr ?_
  cases hup : s.linkUp with
  | false =>
      have hstopped : s.dispatching = false := by
        rw [← Bool.not_eq_true]
        exact fun hgoes => hable (able_of_dispatching hup hgoes)
      have hended : s.amfRunning = false := by
        rw [← Bool.not_eq_true]
        exact fun hrunning => hable (able_of_running hup hrunning)
      refine ⟨fun i => (able_or_ended hstopped i).resolve_left hable, ?_,
        fun _ => ⟨hended, hstopped⟩⟩
      rintro ⟨⟩
  | true =>
      cases hshadows.up hup
      refine ⟨?_, ?_, by rintro ⟨⟩⟩
      · intro i
        cases hjoined : s.joined with
        | some outcome => exact (hrefines.joined outcome hjoined).2 i
        | none => exact (hrefines.quiet hjoined hable i).1
      · intro _ hjoined
        refine hrefines.onlyOf fun j hentity => ?_
        rcases (hrefines.quiet hjoined hable j).2 with hlost | ⟨a, hgone⟩
        · exact hlost
        · rw [hgone] at hentity
          exact absurd rfl hentity

end Completion

end Midn.Sim.Gnb
