import Midn.Sim.Gnb.Sessions
import Midn.Sim.Gnb.UserData

/-!
# Schedules of the simulator

As long as the association holds, every event keeps what relates the system to the life cycles of
its UEs, and every event of the control plane brings the whole closer to its end. So it does not
matter in which order tasks and channels make progress.
-/

namespace Midn.Sim.Gnb

open Midn.Core Midn.Core.Amf Ecs Nas5gs Ngap Userplane

/-! ## One event -/

/-- The events of the control plane; those of the user plane happen as often as the network likes,
and the tasks are joined once. -/
def Event.control {n : Nat} : Event n → Bool
  | start _ => true
  | send _ => true
  | uplink => true
  | amf _ => true
  | downlink => true
  | receive _ => true
  | transmit _ => true
  | transmitFails _ => true
  | takeEcho _ => true
  | timeout _ => true
  | _ => false

/-- A task notices that the association is gone, or the task that has carried it. -/
def Event.notices {n : Nat} : Event n → Bool
  | amfLinkEnds => true
  | amfSendFails _ => true
  | dispatcherEnds => true
  | channelCloses _ => true
  | sendFails _ => true
  | _ => false

def Event.cuts {n : Nat} : Event n → Bool
  | cut _ _ => true
  | _ => false

theorem Event.cuts_of_control {n : Nat} {event : Event n} (hcontrol : event.control = true) :
    event.cuts = false := by
  cases event with
  | cut atAmf atGnb => cases hcontrol
  | _ => rfl

/-- The events other than those with which a UE may give up. -/
def Event.patient {n : Nat} : Event n → Bool
  | transmitFails _ => false
  | timeout _ => false
  | _ => true

section Step

variable {τ υ : Type} (K : RouteMaps τ υ) (P : Primitives) (setup : Setup)

/-- Whoever waits for an echo has sent something. -/
def Sent {setup : Setup} (air : List Datagram) (f : Fin setup.nUes → Stage) : Prop :=
  ∀ j a, (f j).awaited = some a → System.uplinkDatagram setup setup.upfIp a.ulTeid ∈ air

/-- The outcome of a join is the outcome of the tasks that have ended. -/
def Joined {n : Nat} (s : System n τ υ) : Prop :=
  ∀ outcome, s.joined = some outcome →
    outcome = s.firstError ∧ ∀ i, (s.ues i).ended = true

/-- The system and the life cycles of its UEs. -/
structure Refines (s : System setup.nUes τ υ) (f : Fin setup.nUes → Stage) : Prop where
  follows : Follows P setup s f
  leases : Leases s.node.1 f
  listed : Listed s.node.1
  serves : Serves setup s.node.2 f
  echoing : Echoing s
  sent : Sent s.traffic.air f
  joined : Joined s
  dispatching : s.joined = none → s.dispatching = true

/-- How much can happen at most. A stage outweighs all that is sent at it, and a message gets
lighter on its way. -/
def weight (s : System setup.nUes τ υ) (f : Fin setup.nUes → Stage) : Nat :=
  5 * Family.left Stage.rank f + Family.left (fun u => 2 * u.outbox.length) s.ues +
    s.outQueue.length + s.toGnb.length

variable {K P setup} {s s' : System setup.nUes τ υ} {f : Fin setup.nUes → Stage}
  {i : Fin setup.nUes} {u u' : UeTask} {received : List NgapMessage} {st' : Stage}

/-- What an event does to the system and the life cycles. -/
structure Stepped (P : Primitives) (setup : Setup) (s s' : System setup.nUes τ υ)
    (f f' : Fin setup.nUes → Stage) (event : Event setup.nUes) : Prop where
  refines : Refines P setup s' f'
  moves : Family.Moves Stage.Next f f'
  lighter : weight setup s' f' + event.control.toNat ≤ weight setup s f
  patient : event.patient = true → ∀ j, (f' j).stranded = true → (f j).stranded = true
  joined : event.control = true → s'.joined = s.joined

/-- A task that goes on has not been joined. -/
theorem Refines.not_joined (hrefines : Refines P setup s f)
    (hlive : (s.ues i).ended = false) : s.joined = none := by
  cases hjoined : s.joined with
  | none => rfl
  | some outcome =>
      have hended := (hrefines.joined outcome hjoined).2 i
      rw [hlive] at hended
      cases hended

/-- A UE other than the one that goes on is no more stranded than before. -/
theorem stranded_update {event : Event setup.nUes}
    (hpatient : event.patient = true → st'.stranded = true → (f i).stranded = true) :
    event.patient = true → ∀ j, (Function.update f i st' j).stranded = true →
      (f j).stranded = true := by
  intro hevent j hstranded
  rcases eq_or_ne j i with rfl | hne
  · rw [Function.update_self] at hstranded
    exact hpatient hevent hstranded
  · rw [Function.update_of_ne hne] at hstranded
    exact hstranded

theorem Sent.update {air air' : List Datagram} (hsent : Sent air f) (hair : air ⊆ air')
    (hawaited : ∀ a, st'.awaited = some a →
      System.uplinkDatagram setup setup.upfIp a.ulTeid ∈ air') :
    Sent air' (Function.update f i st') := by
  intro j a hj
  rcases eq_or_ne j i with rfl | hne
  · rw [Function.update_self] at hj
    exact hawaited a hj
  · rw [Function.update_of_ne hne] at hj
    exact hair (hsent j a hj)

/-- A reaction of a task is a step of its UE. -/
theorem Refines.react (hrefines : Refines P setup s f)
    (hreceived : (s.ues i).ngapRx = received ++ u.ngapRx) (hsent : u.outbox = (s.ues i).outbox)
    (hrx : ∀ dlPayload ∈ u.gtpRx, dlPayload ∈ (s.ues i).gtpRx)
    (hlive : (s.ues i).ended = false)
    (hreaction : Reaction P setup i received (f i) st' u u') {traffic : Traffic}
    (hair : s.traffic.air ⊆ traffic.air) (htraffic : traffic.Echoing)
    (hawaited : ∀ a, st'.awaited = some a →
      System.uplinkDatagram setup setup.upfIp a.ulTeid ∈ traffic.air)
    {event : Event setup.nUes} (hcontrol : event.control = true)
    (hpatient : event.patient = true → st'.stranded = false) :
    Stepped P setup s { s.setUe i u' with traffic := traffic } f (Function.update f i st')
      event := by
  obtain ⟨octets, msgs, hcarry, houtbox, -, hfew⟩ := hreaction.up
  have hfollows : Follows P setup (s.setUe i u') (Function.update f i st') :=
    hrefines.follows.react hreceived hsent hreaction
  have hechoing : Echoing (s.setUe i u') := by
    refine hrefines.echoing.setUe ?_
    intro dlPayload hmem
    rw [hreaction.gtpRx] at hmem
    exact hrefines.echoing.gtpRx i dlPayload (hrx dlPayload hmem)
  constructor
  · constructor
    · exact hfollows.of_control rfl
    · exact hrefines.leases.kept hreaction.keeps.2
    · exact hrefines.listed
    · exact hrefines.serves.kept hreaction.keeps.1
    · exact ⟨htraffic, hechoing.gtpRx⟩
    · exact hrefines.sent.update hair hawaited
    · intro outcome hjoined
      change s.joined = some outcome at hjoined
      rw [hrefines.not_joined hlive] at hjoined
      cases hjoined
    · exact hrefines.dispatching
  · exact .party i st' hreaction.next
  · have hstage := Stage.rank_lt_of_next hreaction.next
    have hleft := Family.left_update_add Stage.rank f i st'
    have houtboxes := Family.left_update_add (fun u : UeTask => 2 * u.outbox.length)
      s.ues i u'
    have hlength := congrArg List.length hcarry
    rw [List.length_map, List.length_map] at hlength
    simp only [houtbox, hsent, List.length_append] at houtboxes
    simp only [weight, System.setUe, hcontrol, Bool.toNat_true]
    omega
  · refine stranded_update fun hevent hstranded => ?_
    rw [hpatient hevent] at hstranded
    cases hstranded
  · exact fun _ => rfl

/-- The user plane takes no UE anywhere. -/
theorem Refines.of_control (hrefines : Refines P setup s f) (hsame : s'.control = s.control)
    (hechoing : Echoing s' ∧ s.traffic.air ⊆ s'.traffic.air) {event : Event setup.nUes}
    (hcontrol : event.control = false) : Stepped P setup s s' f f event := by
  have hnode := congrArg System.node hsame
  change s'.node = s.node at hnode
  constructor
  · constructor
    · exact hrefines.follows.of_control hsame
    · rw [hnode]
      exact hrefines.leases
    · rw [hnode]
      exact hrefines.listed
    · rw [hnode]
      exact hrefines.serves
    · exact hechoing.1
    · exact fun j a ha => hechoing.2 (hrefines.sent j a ha)
    · have hjoined : Joined s.control := hrefines.joined
      rw [← hsame] at hjoined
      exact hjoined
    · have hdispatching : s.control.joined = none → s.control.dispatching = true :=
        hrefines.dispatching
      rw [← hsame] at hdispatching
      exact hdispatching
  · exact .stay
  · have hweight : weight setup s.control f ≤ weight setup s f := le_refl _
    rw [← hsame] at hweight
    rw [hcontrol]
    exact hweight
  · exact fun _ _ h => h
  · intro hevent
    rw [hcontrol] at hevent
    cases hevent

/-- A task that has something to send has not ended. -/
theorem ended_of_outbox {octets : List UInt8} {outbox : List (List UInt8)}
    (houtbox : u.outbox = octets :: outbox) : u.ended = false := by
  rw [UeTask.ended, houtbox, List.isEmpty_cons, Bool.and_false]

theorem Refines.send (hrefines : Refines P setup s f) (hsend : s.send i = some s') :
    Stepped P setup s s' f f (.send i) := by
  have hfollows := hrefines.follows.send hsend
  rw [System.send] at hsend
  split at hsend <;> cases hsend
  next octets outbox _ houtbox =>
    constructor
    · constructor
      · exact hfollows
      · exact hrefines.leases
      · exact hrefines.listed
      · exact hrefines.serves
      · obtain ⟨htraffic, hrx⟩ := hrefines.echoing.setUe (i := i)
          (u := { s.ues i with outbox := outbox }) (hrefines.echoing.gtpRx i)
        exact ⟨htraffic, hrx⟩
      · exact hrefines.sent
      · intro outcome hjoined
        change s.joined = some outcome at hjoined
        rw [hrefines.not_joined (ended_of_outbox houtbox)] at hjoined
        cases hjoined
      · exact hrefines.dispatching
    · exact .stay
    · have houtboxes := Family.left_update_add (fun u : UeTask => 2 * u.outbox.length)
        s.ues i { s.ues i with outbox := outbox }
      simp only [houtbox, List.length_cons] at houtboxes
      simp only [weight, System.setUe, List.length_append, List.length_singleton, Event.control,
        Bool.toNat_true]
      omega
    · exact fun _ _ h => h
    · exact fun _ => rfl

theorem Refines.dispatchUplink (hrefines : Refines P setup s f)
    (hdispatch : s.dispatchUplink = some s') : Stepped P setup s s' f f .uplink := by
  have hfollows := hrefines.follows.dispatchUplink hdispatch
  rw [System.dispatchUplink] at hdispatch
  split at hdispatch <;> cases hdispatch
  next octets outQueue _ hqueue =>
    obtain ⟨htraffic, hrx⟩ := hrefines.echoing
    refine ⟨⟨hfollows, hrefines.leases, hrefines.listed, hrefines.serves, ⟨htraffic, hrx⟩,
      hrefines.sent, hrefines.joined, hrefines.dispatching⟩, .stay, ?_, fun _ _ h => h,
      fun _ => rfl⟩
    simp only [weight, hqueue, List.length_cons, Event.control, Bool.toNat_true]
    omega

theorem Refines.dispatchDownlink (hrefines : Refines P setup s f)
    (hdispatch : s.dispatchDownlink setup.ngapRoutes = some s') :
    Stepped P setup s s' f f .downlink := by
  obtain ⟨i, msg, octets, toGnb, hqueue, rfl, hlive, hfollows⟩ :=
    hrefines.follows.exists_handOver hdispatch
  obtain ⟨htraffic, hrx⟩ := hrefines.echoing
  have hechoing : Echoing { s with toGnb := toGnb } := ⟨htraffic, hrx⟩
  refine ⟨⟨hfollows, hrefines.leases, hrefines.listed, hrefines.serves, hechoing.setUe (hrx i),
    hrefines.sent, ?_, hrefines.dispatching⟩, .stay, ?_, fun _ _ h => h, fun _ => rfl⟩
  · intro outcome hjoined
    change s.joined = some outcome at hjoined
    rw [hrefines.not_joined hlive] at hjoined
    cases hjoined
  · have houtboxes := Family.left_update_add (fun u : UeTask => 2 * u.outbox.length) s.ues i
      { s.ues i with ngapRx := (s.ues i).ngapRx ++ [msg] }
    have hsame := Nat.add_right_cancel houtboxes
    simp only [weight, System.setUe, hqueue, hsame, List.length_cons, Event.control,
      Bool.toNat_true]
    omega

/-- The core sends at most two messages at once. -/
theorem length_down_le (P : Primitives) (i : Fin setup.nUes) (st : Stage) :
    (st.down P setup i).length ≤ 2 := by
  cases st <;> simp [Stage.down]

/-- A step of the core leaves the task of the UE where it stands. -/
theorem awaited_of_next {st st' : Stage} (hnext : st.Next st')
    (hprogress : st'.progress setup = st.progress setup) :
    st'.awaited = st.awaited ∧ st'.stranded = st.stranded := by
  cases hnext with
  | confirm a activity hnext => cases activity <;> exact ⟨rfl, rfl⟩
  | act a confirmed hnext => cases hnext <;> cases hprogress
  | _ => exact ⟨rfl, rfl⟩

theorem Refines.answer {rand : Octets 16} (hrefines : Refines P setup s f)
    (hround : s.onAmf K P rand = some s') :
    ∃ f', Stepped P setup s s' f f' (.amf rand) := by
  obtain ⟨i, msg, st', toAmf, sent, hreaction, rfl, hlength, hfollows⟩ :=
    hrefines.follows.exists_answer hround
  obtain ⟨htraffic, hrx⟩ := hrefines.echoing
  obtain ⟨hawaited, hstranded⟩ := awaited_of_next hreaction.next hreaction.progress
  refine ⟨Function.update f i st', ⟨hfollows, ?_, ?_, ?_, ⟨htraffic, hrx⟩, ?_,
    hrefines.joined, hrefines.dispatching⟩, .party i st' hreaction.next, ?_, ?_, fun _ => rfl⟩
  · exact hrefines.leases.step hrefines.follows.phase hreaction
  · exact hrefines.listed.step hreaction.request
  · exact hrefines.serves.step hrefines.follows hrefines.leases hreaction
  · exact hrefines.sent.update (List.Subset.refl _) fun a ha =>
      hrefines.sent i a (hawaited ▸ ha)
  · have hstage := Stage.rank_lt_of_next hreaction.next
    have hleft := Family.left_update_add Stage.rank f i st'
    have hdown := congrArg List.length hreaction.down
    have hfew := length_down_le P i st'
    rw [List.length_append] at hdown
    simp only [weight, List.length_append, Event.control, Bool.toNat_true]
    omega
  · exact stranded_update fun _ h => hstranded ▸ h

/-! ### Events of the tasks -/

theorem exists_of_resume {n : Nat} {s s' : System n τ υ} {i : Fin n}
    {next : UeTask → Option UeTask} (hresume : s.resume i next = some s') :
    ∃ u', next (s.ues i) = some u' ∧ s' = s.setUe i u' := by
  rw [System.resume] at hresume
  split at hresume
  · obtain ⟨u', hnext, rfl⟩ := Option.map_eq_some_iff.mp hresume
    exact ⟨u', hnext, rfl⟩
  · cases hresume

theorem eq_idle_of_progress {st : Stage} (hprogress : st.progress setup = .spawned) :
    st = .idle := by
  cases st with
  | idle => rfl
  | attached a confirmed activity => cases activity <;> cases hprogress
  | _ => cases hprogress

theorem exists_sending_of_progress {st : Stage} {sent : Nat} {upfAddr : Octets 4} {ulTeid : UInt32}
    (hprogress : st.progress setup = .transmitting sent upfAddr ulTeid) :
    ∃ a confirmed attempt, st = .attached a confirmed (.sending attempt) ∧
      sent = attempt.val ∧ upfAddr = setup.upfIp ∧ ulTeid = a.ulTeid := by
  cases st with
  | attached a confirmed activity =>
      cases activity with
      | sending attempt =>
          cases hprogress
          exact ⟨a, confirmed, attempt, rfl, rfl, rfl, rfl⟩
      | _ => cases hprogress
  | _ => cases hprogress

theorem exists_waiting_of_progress {st : Stage} {sent : Nat} {upfAddr : Octets 4} {ulTeid : UInt32}
    (hprogress : st.progress setup = .awaitingEcho sent upfAddr ulTeid) :
    ∃ a confirmed attempt, st = .attached a confirmed (.waiting attempt) ∧
      sent = attempt.val + 1 ∧ upfAddr = setup.upfIp ∧ ulTeid = a.ulTeid := by
  cases st with
  | attached a confirmed activity =>
      cases activity with
      | waiting attempt =>
          cases hprogress
          exact ⟨a, confirmed, attempt, rfl, rfl, rfl, rfl⟩
      | _ => cases hprogress
  | _ => cases hprogress

/-- Where the task of a UE stands, as its stage says. -/
theorem Refines.progress (hrefines : Refines P setup s f) (i : Fin setup.nUes) {progress : Progress}
    (hprogress : (s.ues i).progress = progress) : (f i).progress setup = progress := by
  rw [← hprogress, (hrefines.follows.task i).progress]

/-- A UE that receives messages does not wait for an echo afterwards. -/
theorem calm_of_next {st st' : Stage} (hnext : st.Next st')
    (hprogress : st.progress setup = .receiving) :
    st'.awaited = none ∧ st'.stranded = false := by
  cases hnext with
  | confirm a activity hnext =>
      cases activity with
      | leaving => exact ⟨rfl, rfl⟩
      | _ => cases hprogress
  | act a confirmed hnext => cases hnext <;> cases hprogress
  | _ => exact ⟨rfl, rfl⟩

theorem Refines.startUe (hrefines : Refines P setup s f) (hstart : s.startUe setup i = some s') :
    ∃ f', Stepped P setup s s' f f' (.start i) := by
  obtain ⟨u', hnext, rfl⟩ := exists_of_resume hstart
  split at hnext
  next hprogress =>
    cases hnext
    have hidle := eq_idle_of_progress (hrefines.progress i hprogress)
    have htask := hrefines.follows.task i
    rw [hidle] at htask
    have hreaction := reaction_start htask
    rw [← hidle] at hreaction
    exact ⟨_, hrefines.react rfl rfl (fun _ hmem => hmem)
      (by rw [UeTask.ended, hprogress]; rfl) hreaction (List.Subset.refl _)
      hrefines.echoing.traffic (by rintro _ ⟨⟩) rfl fun _ => rfl⟩
  · cases hnext

theorem Refines.receive (hrefines : Refines P setup s f)
    (hreceive : s.receive P setup i = some s') :
    ∃ f', Stepped P setup s s' f f' (.receive i) := by
  obtain ⟨u', hnext, rfl⟩ := exists_of_resume hreceive
  split at hnext
  next msg ngapRx hprogress hqueue =>
    cases hnext
    have hdown := hrefines.follows.down i
    rw [downOf, hqueue] at hdown
    obtain ⟨hprogress', hid, hkamf⟩ := hrefines.follows.task i
    have htask : TaskAt P setup i (f i) { s.ues i with ngapRx := ngapRx } :=
      ⟨hprogress', hid, hkamf⟩
    obtain ⟨st', -, hreaction⟩ := exists_reaction htask hdown.symm
    obtain ⟨hawaited, hstranded⟩ := calm_of_next hreaction.next (hrefines.progress i hprogress)
    exact ⟨_, hrefines.react (u := { s.ues i with ngapRx := ngapRx }) hqueue rfl
      (fun _ hmem => hmem) (by rw [UeTask.ended, hprogress]; rfl) hreaction (List.Subset.refl _)
      hrefines.echoing.traffic (by rw [hawaited]; rintro _ ⟨⟩) rfl fun _ => hstranded⟩
  · cases hnext

theorem Refines.takeEcho (hrefines : Refines P setup s f) (htake : s.takeEcho setup i = some s') :
    ∃ f', Stepped P setup s s' f f' (.takeEcho i) := by
  obtain ⟨u', hnext, rfl⟩ := exists_of_resume htake
  split at hnext
  next sent upfAddr ulTeid dlPayload gtpRx hprogress hqueue =>
    cases hnext
    obtain ⟨a, confirmed, attempt, hstage, -⟩ :=
      exists_waiting_of_progress (hrefines.progress i hprogress)
    have hpayload : dlPayload = payload :=
      hrefines.echoing.gtpRx i dlPayload (by rw [hqueue]; exact List.mem_cons_self)
    obtain ⟨hprogress', hid, hkamf⟩ := hrefines.follows.task i
    have htask : TaskAt P setup i (.attached a confirmed (.waiting attempt))
        { s.ues i with gtpRx := gtpRx } := by
      rw [← hstage]
      exact ⟨hprogress', hid, hkamf⟩
    have hreaction := reaction_echo htask
    rw [← hstage, ← hpayload] at hreaction
    refine ⟨_, hrefines.react (u := { s.ues i with gtpRx := gtpRx }) rfl rfl ?_
      (by rw [UeTask.ended, hprogress]; rfl) hreaction (List.Subset.refl _) hrefines.echoing.traffic
      (by rintro _ ⟨⟩) rfl fun _ => rfl⟩
    intro dlPayload' hmem
    rw [hqueue]
    exact List.mem_cons_of_mem _ hmem
  · cases hnext

theorem Refines.timeOut (hrefines : Refines P setup s f) (htimeout : s.timeOut i = some s') :
    ∃ f', Stepped P setup s s' f f' (.timeout i) := by
  obtain ⟨u', hnext, rfl⟩ := exists_of_resume htimeout
  split at hnext
  next sent upfAddr ulTeid hprogress =>
    cases hnext
    obtain ⟨a, confirmed, attempt, hstage, rfl, rfl, rfl⟩ :=
      exists_waiting_of_progress (hrefines.progress i hprogress)
    have htask := hrefines.follows.task i
    rw [hstage] at htask
    have hlive : (s.ues i).ended = false := by
      rw [UeTask.ended, hprogress]
      rfl
    split
    next hmore =>
      have hagain : (⟨attempt.val + 1, hmore⟩ : Fin maxAttempts).val = attempt.val + 1 := rfl
      have hreaction := reaction_retry hagain htask
      rw [← hstage] at hreaction
      exact ⟨_, hrefines.react rfl rfl (fun _ hmem => hmem) hlive hreaction
        (List.Subset.refl _) hrefines.echoing.traffic (by rintro _ ⟨⟩) rfl
        (by rintro ⟨⟩)⟩
    next hlast =>
      have hreaction := reaction_giveUp
        (Nat.le_antisymm attempt.isLt (Nat.le_of_not_lt hlast)) htask
      rw [← hstage] at hreaction
      exact ⟨_, hrefines.react rfl rfl (fun _ hmem => hmem) hlive hreaction
        (List.Subset.refl _) hrefines.echoing.traffic (by rintro _ ⟨⟩) rfl
        (by rintro ⟨⟩)⟩
  · cases hnext

theorem Refines.transmit (hrefines : Refines P setup s f)
    (htransmit : s.transmit setup i = some s') :
    ∃ f', Stepped P setup s s' f f' (.transmit i) := by
  rw [System.transmit] at htransmit
  split at htransmit
  next sent upfAddr ulTeid _ hprogress =>
    cases htransmit
    obtain ⟨a, confirmed, attempt, hstage, rfl, rfl, rfl⟩ :=
      exists_sending_of_progress (hrefines.progress i hprogress)
    have htask := hrefines.follows.task i
    rw [hstage] at htask
    have hreaction := reaction_transmit htask
    rw [← hstage] at hreaction
    refine ⟨_, hrefines.react rfl rfl (fun _ hmem => hmem)
      (by rw [UeTask.ended, hprogress]; rfl) hreaction (List.subset_append_left ..) ?_ ?_ rfl
      fun _ => rfl⟩
    · exact hrefines.echoing.traffic.send a.ulTeid rfl
    · intro a' ha'
      cases ha'
      exact List.mem_append_right _ (List.mem_singleton_self _)
  · cases htransmit

theorem Refines.transmitFails (hrefines : Refines P setup s f)
    (hfails : s.transmitFails i = some s') :
    ∃ f', Stepped P setup s s' f f' (.transmitFails i) := by
  obtain ⟨u', hnext, rfl⟩ := exists_of_resume hfails
  split at hnext
  next sent upfAddr ulTeid hprogress =>
    cases hnext
    obtain ⟨a, confirmed, attempt, hstage, rfl, rfl, rfl⟩ :=
      exists_sending_of_progress (hrefines.progress i hprogress)
    have htask := hrefines.follows.task i
    rw [hstage] at htask
    have hreaction := reaction_transmitFails htask
    rw [← hstage] at hreaction
    exact ⟨_, hrefines.react rfl rfl (fun _ hmem => hmem)
      (by rw [UeTask.ended, hprogress]; rfl) hreaction (List.Subset.refl _)
      hrefines.echoing.traffic (by rintro _ ⟨⟩) rfl (by rintro ⟨⟩)⟩
  · cases hnext

theorem Refines.join (hrefines : Refines P setup s f) (hjoin : s.join = some s') :
    Stepped P setup s s' f f .join := by
  rw [System.join] at hjoin
  split at hjoin
  next hended =>
    cases hjoin
    obtain ⟨hrunning, hlink, hphase, hup, hdown, houtbox, htask, hup', hdown', hcore, howned,
      hslots⟩ := hrefines.follows
    obtain ⟨htraffic, hrx⟩ := hrefines.echoing
    refine ⟨⟨⟨hrunning, hlink, hphase, hup, hdown, houtbox, htask, hup', hdown', hcore, howned,
      hslots⟩, hrefines.leases, hrefines.listed, hrefines.serves, ⟨htraffic, hrx⟩, hrefines.sent,
      ?_, ?_⟩, .stay,
      le_refl _, fun _ _ h => h, by rintro ⟨⟩⟩
    · intro outcome houtcome
      cases houtcome
      exact ⟨rfl, hended.2⟩
    · rintro ⟨⟩
  · cases hjoin

/-- Nobody notices anything as long as the association holds. -/
theorem Refines.not_notices (hrefines : Refines P setup s f) {event : Event setup.nUes}
    (hnotices : event.notices = true) : step? K P setup s event = none := by
  have hlink := hrefines.follows.linkUp
  have hgoes : ∀ i, (s.ues i).ended = false → s.dispatching = true :=
    fun i hlive => hrefines.dispatching (hrefines.not_joined hlive)
  cases event with
  | amfLinkEnds =>
      rw [step?, System.onAmfLinkEnds, hlink]
      split
      next hnever _ => cases hnever
      next => rfl
  | amfSendFails rand =>
      rw [step?, System.onAmfUnsent, Option.bind_eq_none_iff]
      rintro ⟨responses, r⟩ hprocess
      have hsame : r.linkUp = s.linkUp := by
        rw [System.process] at hprocess
        split at hprocess
        · simp only at hprocess
          split at hprocess <;> cases hprocess <;> rfl
        · cases hprocess
      simp only [hsame, hlink]
  | dispatcherEnds =>
      rw [step?, System.dispatcherEnds, hlink]
      split
      next hnever _ => cases hnever
      next => rfl
  | channelCloses i =>
      rw [step?, System.channelCloses, System.resume]
      split
      · rw [Option.map_eq_none_iff]
        split
        next hstopped hprogress _ =>
          rw [hgoes i (by rw [UeTask.ended, hprogress]; rfl)] at hstopped
          cases hstopped
        next => rfl
      · rfl
  | sendFails i =>
      rw [step?, System.sendFails]
      split
      next hstopped houtbox =>
        rw [hgoes i (ended_of_outbox houtbox)] at hstopped
        cases hstopped
      next => rfl
  | _ => cases hnotices

/-- Every event but the loss of the association takes at most one UE to its next stage, and one of
the control plane brings the system closer to its end. -/
theorem Refines.exists_step (hrefines : Refines P setup s f) {event : Event setup.nUes}
    (hcuts : event.cuts = false) (hstep : step? K P setup s event = some s') :
    ∃ f', Stepped P setup s s' f f' event := by
  have hnotices : event.notices = false := by
    cases hevent : event.notices with
    | false => rfl
    | true =>
        rw [hrefines.not_notices hevent] at hstep
        cases hstep
  cases event with
  | start i => exact hrefines.startUe hstep
  | send i => exact ⟨f, hrefines.send hstep⟩
  | uplink => exact ⟨f, hrefines.dispatchUplink hstep⟩
  | amf rand => exact hrefines.answer hstep
  | downlink => exact ⟨f, hrefines.dispatchDownlink hstep⟩
  | receive i => exact hrefines.receive hstep
  | transmit i => exact hrefines.transmit hstep
  | transmitFails i => exact hrefines.transmitFails hstep
  | takeEcho i => exact hrefines.takeEcho hstep
  | timeout i => exact hrefines.timeOut hstep
  | join => exact ⟨f, hrefines.join hstep⟩
  | deliver k =>
      exact ⟨f, hrefines.of_control (control_deliver hstep) (hrefines.echoing.deliver hstep) rfl⟩
  | echo =>
      exact ⟨f, hrefines.of_control (control_echo hstep) (hrefines.echoing.echo hstep) rfl⟩
  | encapsulate =>
      exact ⟨f, hrefines.of_control (control_encapsulate hstep)
        (hrefines.echoing.encapsulate hstep) rfl⟩
  | cut atAmf atGnb => cases hcuts
  | _ => cases hnotices

end Step

/-! ## Every schedule -/

section Schedules

variable {τ υ : Type} {K : RouteMaps τ υ} {P : Primitives} {setup : Setup}

/-- A table without entries. -/
theorem tabulates_none {ι κ ρ : Type} :
    Family.Tabulates (fun _ : ι => (none : Option (κ × ρ))) (fun _ => none) := by
  intro k r
  constructor
  · intro hfound
    cases hfound
  · rintro ⟨_, hentry⟩
    cases hentry

/-- At first every UE is idle. -/
theorem refines_init :
    Refines P setup (init setup : System setup.nUes τ υ) fun _ => .idle := by
  have hempty : ∀ e, (init setup : System setup.nUes τ υ).node.1.world.get? e = none :=
    World.get?_new
  constructor
  · refine ⟨rfl, rfl, rfl, List.forall_mem_nil _, List.forall_mem_nil _, fun _ => ⟨[], rfl⟩,
      fun _ => ⟨rfl, rfl, rfl⟩, fun _ => rfl, fun _ => rfl, fun i => ⟨?_, ?_⟩, ?_, Nat.zero_le _⟩
    · rintro _ ⟨⟩
    · exact fun _ => Setup.subscribers_imsi i
    · intro e n hn
      cases (hempty e).symm.trans hn
  · have hpool : pool (init setup : System setup.nUes τ υ).node.1 = Pool.new teidBase :=
      pool_new (some setup.upfIp)
    exact ⟨hpool ▸ Pool.owned_new, hpool ▸ Pool.conserved_new, Nat.le_add_right _ _⟩
  · exact ⟨ImsiRegistry.sound_new, rfl⟩
  · exact ⟨tabulates_none, tabulates_none, fun _ => tabulates_none⟩
  · exact ⟨Traffic.echoing_quiet, fun _ => List.forall_mem_nil _⟩
  · rintro _ _ ⟨⟩
  · rintro _ ⟨⟩
  · exact fun _ => rfl

/-- How much can happen at most. -/
theorem weight_init : weight setup (init setup : System setup.nUes τ υ) (fun _ => .idle) =
    125 * setup.nUes := by
  have hstages : Family.left Stage.rank (fun _ : Fin setup.nUes => Stage.idle) = _ * 25 :=
    Family.left_const Stage.idle
  have houtboxes : Family.left (fun u : UeTask => 2 * u.outbox.length)
      (init setup : System setup.nUes τ υ).ues = _ * 0 :=
    Family.left_const UeTask.new
  rw [Fintype.card_fin] at hstages
  have hempty : (init setup : System setup.nUes τ υ).outQueue.length +
    (init setup : System setup.nUes τ υ).toGnb.length = 0 := rfl
  rw [weight]
  omega

end Schedules

end Midn.Sim.Gnb
