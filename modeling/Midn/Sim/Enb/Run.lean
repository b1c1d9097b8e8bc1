import Midn.Core.Mme.Pipeline
import Midn.Sim.Enb.NodeReactions

/-!
# Schedules of the LTE simulator

As long as the association holds, every event keeps what relates the system to the life cycle of its
UE, and every event of the control plane brings it closer to its end, whatever the network does to
the user data meanwhile.
-/

namespace Midn.Sim.Enb

open Midn.Core Midn.Core.Mme Ecs Gtp S1ap Userplane

/-! ## Events -/

/-- What the network and the UPF do, which happens as often as the network likes. -/
def Event.user : Event → Bool
  | deliver _ => true
  | echo => true
  | encapsulate => true
  | _ => false

/-- The events of the control plane. -/
def Event.control : Event → Bool
  | start => true
  | send => true
  | mme _ => true
  | receive => true
  | transmit => true
  | transmitFails => true
  | takeDatagram => true
  | timeout => true
  | _ => false

/-- An end of the association notices that it is gone. -/
def Event.notices : Event → Bool
  | mmeLinkEnds => true
  | mmeSendFails _ => true
  | linkEnds _ => true
  | sendFails => true
  | _ => false

def Event.cuts : Event → Bool
  | cut _ _ => true
  | _ => false

theorem Event.cuts_of_control {event : Event} (hcontrol : event.control = true) :
    event.cuts = false := by
  cases event with
  | cut atMme atEnb => cases hcontrol
  | _ => rfl

/-- The events other than those with which a UE may give up. -/
def Event.patient : Event → Bool
  | transmitFails => false
  | timeout => false
  | _ => true

/-- Whether the task waits for an echo. -/
def Progress.waits : Progress → Bool
  | awaitingEcho _ _ => true
  | _ => false

/-- Whether the task has failed. -/
def Progress.lost : Progress → Bool
  | failed _ => true
  | _ => false

/-! ## User data -/

section UserData

variable (setup : Setup)

/-- How many packets the UE has sent. -/
def attempts (air : List Datagram) : Nat :=
  air.countP fun d => decide (d.src = setup.enbSocket)

/-- How many packets the UE may have sent at a stage. -/
def Stage.Attempted : Stage → Nat → Prop
  | attached _ _ activity, n => activity.Attempted n
  | dismissed _, n => Activity.leaving.Attempted n
  | ordered _, n => Activity.leaving.Attempted n
  | releasing _, n => Activity.leaving.Attempted n
  | gone _, n => Activity.leaving.Attempted n
  | _, n => n = 0

/-- What is on its way between the sockets: all of it is the payload, and the UE that waits for an
echo has sent something. -/
structure DataAt (st : Stage) (traffic : Traffic) (gtpSock : List (List UInt8)) : Prop where
  echoing : traffic.Echoing
  gtpSock : ∀ octets ∈ gtpSock, ∃ teid, octets = uplinkGpdu teid
  sent : (st.progress setup).waits = true →
    System.uplinkDatagram setup (Stage.bearer setup) ∈ traffic.air
  attempted : st.Attempted (attempts setup traffic.air)

variable {setup} {st st' : Stage} {traffic traffic' : Traffic} {gtpSock : List (List UInt8)}

/-- Only a transmission changes the number of packets. -/
theorem Stage.attempted_of_next {n : Nat} (hnext : st.Next st')
    (hwaits : (st'.progress setup).waits = true → (st.progress setup).waits = true)
    (hattempted : st.Attempted n) : st'.Attempted n := by
  cases hnext with
  | @act rand confirmed activity activity' hnext =>
      cases activity with
      | sending attempt =>
          cases hnext with
          | transmit attempt => cases hwaits rfl
          | fail attempt => exact hattempted.trans_lt attempt.isLt
      | waiting attempt => exact Activity.attempted_of_next hnext hattempted
      | _ => cases hnext
  | _ => exact hattempted

theorem DataAt.next (hdata : DataAt setup st traffic gtpSock) (hnext : st.Next st')
    (hwaits : (st'.progress setup).waits = true → (st.progress setup).waits = true) :
    DataAt setup st' traffic gtpSock :=
  ⟨hdata.echoing, hdata.gtpSock, fun hwait => hdata.sent (hwaits hwait),
    Stage.attempted_of_next hnext hwaits hdata.attempted⟩

/-- The UE takes what has arrived at its socket. -/
theorem DataAt.of_cons {octets : List UInt8}
    (hdata : DataAt setup st traffic (octets :: gtpSock)) :
    (∃ teid, octets = uplinkGpdu teid) ∧ DataAt setup st traffic gtpSock := by
  obtain ⟨hechoing, hsock, hsent, hattempted⟩ := hdata
  obtain ⟨hfirst, hrest⟩ := List.forall_mem_cons.mp hsock
  exact ⟨hfirst, hechoing, hrest, hsent, hattempted⟩

/-- The network has brought something to the socket. -/
theorem DataAt.arrive (hdata : DataAt setup st traffic gtpSock) (teid : UInt32) :
    DataAt setup st traffic (gtpSock ++ [uplinkGpdu teid]) :=
  ⟨hdata.echoing, List.forall_mem_append.mpr
    ⟨hdata.gtpSock, List.forall_mem_singleton.mpr ⟨teid, rfl⟩⟩, hdata.sent, hdata.attempted⟩

/-- A packet of the UE. -/
theorem DataAt.transmit {rand : Octets 16} {confirmed : Confirmed} {attempt : Fin maxAttempts}
    (hdata : DataAt setup (.attached rand confirmed (.sending attempt)) traffic gtpSock) :
    DataAt setup (.attached rand confirmed (.waiting attempt))
      (traffic.send (System.uplinkDatagram setup (Stage.bearer setup))) gtpSock := by
  obtain ⟨hechoing, hsock, -, hattempted⟩ := hdata
  refine ⟨hechoing.send teidBase rfl, hsock, ?_, ?_⟩
  · exact fun _ => List.mem_append_right _ (List.mem_singleton_self _)
  · have hmine : attempts setup [System.uplinkDatagram setup (Stage.bearer setup)] = 1 :=
      List.countP_cons_of_pos (decide_eq_true rfl)
    rw [Stage.Attempted, attempts, Traffic.send, List.countP_append]
    exact congrArg₂ (· + ·) hattempted hmine

/-- What the UPF sends is no packet of the UE. -/
theorem DataAt.upf (hdata : DataAt setup st traffic gtpSock) (hechoing : traffic'.Echoing)
    (hair : ∃ more, traffic'.air = traffic.air ++ more ∧ ∀ d ∈ more, d.src = setup.upfSocket) :
    DataAt setup st traffic' gtpSock := by
  obtain ⟨more, hmore, hsrc⟩ := hair
  refine ⟨hechoing, hdata.gtpSock, ?_, ?_⟩
  · intro hwaits
    rw [hmore]
    exact List.mem_append_left _ (hdata.sent hwaits)
  · have hother : attempts setup more = 0 := by
      rw [attempts, List.countP_eq_zero]
      intro d hmem hmine
      have hsame := (hsrc d hmem).symm.trans (of_decide_eq_true hmine)
      exact setup.distinct (congrArg SocketAddr.ip hsame)
    have hsame : attempts setup traffic'.air = attempts setup traffic.air := by
      rw [hmore]
      exact List.countP_append.trans (congrArg (attempts setup traffic.air + ·) hother)
    rw [hsame]
    exact hdata.attempted

/-- Nothing new is on its way. -/
theorem DataAt.of_air (hdata : DataAt setup st traffic gtpSock) (hechoing : traffic'.Echoing)
    (hair : traffic'.air = traffic.air) : DataAt setup st traffic' gtpSock :=
  hdata.upf hechoing ⟨[], hair.trans (List.append_nil _).symm, List.forall_mem_nil _⟩

end UserData

/-! ## One event -/

section Step

variable {τ υ : Type} (K : RouteMaps τ υ) (P : Primitives) (setup : Setup)

/-- The system is at a stage of the life cycle. -/
structure Follows (s : System τ υ) (st : Stage) : Prop where
  running : s.mmeRunning = true
  linkUp : s.linkUp = true
  node : NodeAt P setup st s.node
  task : TaskAt P setup st s.ue
  up : Mux.Decodes decodeS1apPdu (s.toMme ++ s.ue.outbox) (st.up P setup)
  down : Mux.Decodes decodeS1apPdu s.toEnb (st.down P setup)
  data : DataAt setup st s.traffic s.gtpSock

/-- How much can happen at most. A stage outweighs all that is sent at it, and a message gets
lighter on its way. -/
def weight (s : System τ υ) (st : Stage) : Nat :=
  5 * st.rank + 2 * s.ue.outbox.length + s.toMme.length + s.toEnb.length

/-- What an event does to the system and the life cycle. -/
structure Stepped (s s' : System τ υ) (st st' : Stage) (event : Event) : Prop where
  follows : Follows P setup s' st'
  moves : Relation.ReflGen Stage.Next st st'
  lighter : weight s' st' + event.control.toNat ≤ weight s st
  patient : event.patient = true → (st'.progress setup).lost = true →
    (st.progress setup).lost = true

variable {K P setup} {s s' : System τ υ} {st st' : Stage} {event : Event}

theorem Follows.progress (hfollows : Follows P setup s st) {progress : Progress}
    (hprogress : s.ue.progress = progress) : st.progress setup = progress := by
  rw [← hprogress, hfollows.task.progress]

/-- A reaction of the task is a step of the life cycle. -/
theorem Follows.react (hfollows : Follows P setup s st) {received : List S1apMessage}
    {u : UeTask} (hreaction : Reaction P setup received st st' s.ue u)
    {toEnb : List (List UInt8)} (hshorter : toEnb.length ≤ s.toEnb.length)
    (hdown : Mux.Decodes decodeS1apPdu toEnb (st'.down P setup)) {traffic : Traffic}
    {gtpSock : List (List UInt8)} (hdata : DataAt setup st' traffic gtpSock)
    (hpatient : event.patient = true → (st'.progress setup).lost = false) :
    Stepped P setup s
      { s with ue := u, toEnb := toEnb, traffic := traffic, gtpSock := gtpSock } st st' event := by
  obtain ⟨octets, msgs, hsends, houtbox, hup, hfew⟩ := hreaction.up
  constructor
  · constructor
    · exact hfollows.running
    · exact hfollows.linkUp
    · exact hreaction.keeps.nodeAt hfollows.node
    · exact hreaction.task
    · rw [hup, houtbox, ← List.append_assoc]
      exact hfollows.up.append hsends
    · exact hdown
    · exact hdata
  · exact .single hreaction.next
  · have hstage := Stage.rank_lt_of_next hreaction.next
    have hlength := hsends.length_eq
    have hcontrol := Bool.toNat_le event.control
    simp only [weight, houtbox, List.length_append]
    omega
  · intro hevent hlost
    rw [hpatient hevent] at hlost
    cases hlost

/-- Nothing that happens to the user data concerns the control plane. -/
theorem Follows.user (hfollows : Follows P setup s st) {traffic : Traffic}
    {gtpSock : List (List UInt8)} (hdata : DataAt setup st traffic gtpSock)
    (hcontrol : event.control = false) :
    Stepped P setup s { s with traffic := traffic, gtpSock := gtpSock } st st event := by
  obtain ⟨hrunning, hlink, hnode, htask, hup, hdown, -⟩ := hfollows
  refine ⟨⟨hrunning, hlink, hnode, htask, hup, hdown, hdata⟩, .refl, ?_, fun _ hlost => hlost⟩
  rw [hcontrol]
  exact le_refl _

/-! ### Events of the control plane -/

theorem exists_of_resume {next : UeTask → Option (System τ υ)} (hresume : s.resume next = some s') :
    s.ue.outbox = [] ∧ next s.ue = some s' := by
  rw [System.resume] at hresume
  split at hresume
  next houtbox => exact ⟨houtbox, hresume⟩
  next => cases hresume

theorem eq_idle_of_progress (hprogress : st.progress setup = .connecting) : st = .idle := by
  cases st with
  | idle => rfl
  | attached rand confirmed activity => cases activity <;> cases hprogress
  | _ => cases hprogress

theorem exists_sending_of_progress {sent : Nat} {bearer : Bearer}
    (hprogress : st.progress setup = .transmitting sent bearer) :
    ∃ rand confirmed attempt, st = .attached rand confirmed (.sending attempt) ∧
      sent = attempt.val ∧ bearer = Stage.bearer setup := by
  cases st with
  | attached rand confirmed activity =>
      cases activity with
      | sending attempt =>
          cases hprogress
          exact ⟨rand, confirmed, attempt, rfl, rfl, rfl⟩
      | _ => cases hprogress
  | _ => cases hprogress

theorem exists_waiting_of_progress {sent : Nat} {bearer : Bearer}
    (hprogress : st.progress setup = .awaitingEcho sent bearer) :
    ∃ rand confirmed attempt, st = .attached rand confirmed (.waiting attempt) ∧
      sent = attempt.val + 1 ∧ bearer = Stage.bearer setup := by
  cases st with
  | attached rand confirmed activity =>
      cases activity with
      | waiting attempt =>
          cases hprogress
          exact ⟨rand, confirmed, attempt, rfl, rfl, rfl⟩
      | _ => cases hprogress
  | _ => cases hprogress

/-- A UE that receives messages neither waits for an echo afterwards nor has failed. -/
theorem calm_of_next (hnext : st.Next st') (hprogress : st.progress setup = .receiving) :
    (st'.progress setup).waits = false ∧ (st'.progress setup).lost = false := by
  cases hnext with
  | confirm rand activity hnext => cases activity <;> first | exact ⟨rfl, rfl⟩ | cases hprogress
  | act rand confirmed hnext => cases hnext <;> cases hprogress
  | _ => exact ⟨rfl, rfl⟩

theorem Follows.startUe (hfollows : Follows P setup s st) (hstart : s.startUe = some s') :
    ∃ st', Stepped P setup s s' st st' .start := by
  obtain ⟨-, hnext⟩ := exists_of_resume hstart
  split at hnext
  next hprogress =>
    cases hnext
    have hidle := eq_idle_of_progress (hfollows.progress hprogress)
    subst hidle
    have hreaction := reaction_start hfollows.task
    have hdown : Mux.Decodes decodeS1apPdu s.toEnb (Stage.requesting.down P setup) :=
      hfollows.down
    refine ⟨_, hfollows.react hreaction (le_refl _) hdown ?_ fun _ => rfl⟩
    exact hfollows.data.next hreaction.next (by rintro ⟨⟩)
  next => cases hnext

theorem Follows.send (hfollows : Follows P setup s st) (hsend : s.send = some s') :
    Stepped P setup s s' st st .send := by
  rw [System.send] at hsend
  split at hsend
  · cases hsend
  next octets outbox houtbox =>
    cases hsend
    obtain ⟨hrunning, hlink, hnode, htask, hup, hdown, hdata⟩ := hfollows
    rw [hlink, Link.put_true]
    refine ⟨⟨hrunning, rfl, hnode, ?_, ?_, hdown, hdata⟩, .refl, ?_, fun _ hlost => hlost⟩
    · exact ⟨htask.progress, htask.mmeUeS1apId, htask.kasme⟩
    · rw [houtbox] at hup
      rw [List.append_assoc, List.singleton_append]
      exact hup
    · simp only [weight, houtbox, List.length_append, List.length_cons, List.length_nil,
        Event.control, Bool.toNat_true]
      omega

theorem Follows.receive (hfollows : Follows P setup s st) (hreceive : s.receive P setup = some s') :
    ∃ st', Stepped P setup s s' st st' .receive := by
  obtain ⟨-, hnext⟩ := exists_of_resume hreceive
  split at hnext
  next octets toEnb hprogress hqueue =>
    cases hnext
    have hdown := hfollows.down
    rw [hqueue] at hdown
    obtain ⟨msg, rest, hdecode, hmsgs, hrest⟩ := hdown.exists_cons
    obtain ⟨st', hdown', hreaction⟩ := exists_reaction hfollows.task hmsgs hdecode
    obtain ⟨hwaits, hlost⟩ := calm_of_next hreaction.next (hfollows.progress hprogress)
    have hshorter : toEnb.length ≤ s.toEnb.length := by
      rw [hqueue]
      exact Nat.le_succ _
    refine ⟨st', hfollows.react hreaction hshorter (hdown' ▸ hrest) ?_ fun _ => hlost⟩
    refine hfollows.data.next hreaction.next fun hwait => ?_
    rw [hwaits] at hwait
    cases hwait
  next => cases hnext

theorem Follows.transmit (hfollows : Follows P setup s st)
    (htransmit : s.transmit setup = some s') :
    ∃ st', Stepped P setup s s' st st' .transmit := by
  obtain ⟨-, hnext⟩ := exists_of_resume htransmit
  split at hnext
  next sent bearer hprogress =>
    cases hnext
    obtain ⟨rand, confirmed, attempt, rfl, rfl, rfl⟩ :=
      exists_sending_of_progress (hfollows.progress hprogress)
    have hdown : Mux.Decodes decodeS1apPdu s.toEnb
        ((Stage.attached rand confirmed (.waiting attempt)).down P setup) := hfollows.down
    exact ⟨_, hfollows.react (reaction_transmit hfollows.task) (le_refl _) hdown
      hfollows.data.transmit fun _ => rfl⟩
  next => cases hnext

theorem Follows.transmitFails (hfollows : Follows P setup s st)
    (hfails : s.transmitFails = some s') : ∃ st', Stepped P setup s s' st st' .transmitFails := by
  obtain ⟨-, hnext⟩ := exists_of_resume hfails
  split at hnext
  next sent bearer hprogress =>
    cases hnext
    obtain ⟨rand, confirmed, attempt, rfl, rfl, rfl⟩ :=
      exists_sending_of_progress (hfollows.progress hprogress)
    have hreaction := reaction_transmitFails hfollows.task
    have hdown : Mux.Decodes decodeS1apPdu s.toEnb
        ((Stage.attached rand confirmed (.stranded .unsent)).down P setup) := hfollows.down
    exact ⟨_, hfollows.react hreaction (le_refl _) hdown
      (hfollows.data.next hreaction.next (by rintro ⟨⟩)) (by rintro ⟨⟩)⟩
  next => cases hnext

theorem Follows.takeDatagram (hfollows : Follows P setup s st)
    (htake : s.takeDatagram = some s') : ∃ st', Stepped P setup s s' st st' .takeDatagram := by
  obtain ⟨-, hnext⟩ := exists_of_resume htake
  split at hnext
  next sent bearer octets gtpSock hprogress hqueue =>
    cases hnext
    obtain ⟨rand, confirmed, attempt, rfl, rfl, rfl⟩ :=
      exists_waiting_of_progress (hfollows.progress hprogress)
    have hdata := hfollows.data
    rw [hqueue] at hdata
    obtain ⟨⟨teid, rfl⟩, hrest⟩ := hdata.of_cons
    have hreaction := reaction_echo hfollows.task teid
    have hdown : Mux.Decodes decodeS1apPdu s.toEnb
        ((Stage.attached rand confirmed .leaving).down P setup) := hfollows.down
    exact ⟨_, hfollows.react hreaction (le_refl _) hdown
      (hrest.next hreaction.next (by rintro ⟨⟩)) fun _ => rfl⟩
  next => cases hnext

theorem Follows.timeOut (hfollows : Follows P setup s st) (htimeout : s.timeOut = some s') :
    ∃ st', Stepped P setup s s' st st' .timeout := by
  obtain ⟨-, hnext⟩ := exists_of_resume htimeout
  split at hnext
  next sent bearer hprogress =>
    cases hnext
    obtain ⟨rand, confirmed, attempt, rfl, rfl, rfl⟩ :=
      exists_waiting_of_progress (hfollows.progress hprogress)
    obtain ⟨activity, -, hreaction⟩ := exists_reaction_retry hfollows.task
    have hdown : Mux.Decodes decodeS1apPdu s.toEnb
        ((Stage.attached rand confirmed activity).down P setup) := hfollows.down
    exact ⟨_, hfollows.react hreaction (le_refl _) hdown
      (hfollows.data.next hreaction.next fun _ => rfl) (by rintro ⟨⟩)⟩
  next => cases hnext

/-! ### The MME -/

/-- Messages that survive the wire are all sent. -/
theorem exists_sendResponses {responses : List S1apMessage}
    (hround : ∀ resp ∈ responses, resp.RoundTrips) :
    ∃ octets, System.sendResponses responses = (octets, true) ∧
      Mux.Decodes decodeS1apPdu octets responses := by
  induction responses with
  | nil => exact ⟨[], rfl, rfl⟩
  | cons resp responses ih =>
      obtain ⟨⟨first, hput, hdecode⟩, hothers⟩ := List.forall_mem_cons.mp hround
      obtain ⟨octets, hsent, hdecodes⟩ := ih hothers
      refine ⟨first :: octets, ?_, (Mux.decodes_singleton hdecode).append hdecodes⟩
      rw [System.sendResponses, hput, hsent]

/-- The MME sends at most two messages at once. -/
theorem length_down_le (P : Primitives) (setup : Setup) (st : Stage) :
    (st.down P setup).length ≤ 2 := by
  cases st <;> simp [Stage.down]

theorem Follows.answer (hfollows : Follows P setup s st) {rand : Octets 16}
    (hround : s.onMme K P rand = some s') : ∃ st', Stepped P setup s s' st st' (.mme rand) := by
  obtain ⟨⟨responses, r⟩, hprocess, rfl⟩ := Option.map_eq_some_iff.mp hround
  rw [System.process] at hprocess
  split at hprocess
  next octets toMme _ hqueue =>
    have hup := hfollows.up
    rw [hqueue] at hup
    obtain ⟨msg, rest, hdecode, hmsgs, hrest⟩ := hup.exists_cons
    obtain ⟨st', hreaction⟩ := exists_nodeReaction (K := K) rand hfollows.node hmsgs
    have hrest' : rest = st'.up P setup :=
      (List.cons_eq_cons.mp (hmsgs.symm.trans hreaction.up)).2
    have harrived : Arrived (.s1ap rand msg) :=
      ⟨.message rand octets, Arrival.input?_message rand hdecode⟩
    obtain ⟨sent, hsent, hdecodes⟩ :=
      exists_sendResponses (roundTrips_step P s.node.1 harrived)
    rw [show (Mme.step P s.node.1 (.s1ap rand msg)).2.1 =
      (S1u.step K P s.node (.s1ap rand msg)).2.1 from rfl] at hsent hdecodes
    simp only [hdecode, Option.some.injEq, Prod.mk.injEq] at hprocess
    obtain ⟨rfl, rfl⟩ := hprocess
    simp only [hsent, hfollows.linkUp, Link.put_true]
    obtain ⟨hprogress, hid, hkasme⟩ := hfollows.task
    refine ⟨st', ⟨rfl, rfl, hreaction.nodeAt, ⟨?_, ?_, ?_⟩, hrest' ▸ hrest, ?_, ?_⟩,
      .single hreaction.next, ?_, ?_⟩
    · exact hprogress.trans hreaction.progress.symm
    · exact hid.trans hreaction.mmeUeS1apId.symm
    · exact hkasme.trans hreaction.kasme.symm
    · rw [hreaction.down]
      exact hfollows.down.append hdecodes
    · exact hfollows.data.next hreaction.next fun hwaits => hreaction.progress ▸ hwaits
    · have hstage := Stage.rank_lt_of_next hreaction.next
      have hdown := congrArg List.length hreaction.down
      have hfew := length_down_le P setup st'
      have hlength := hdecodes.length_eq
      rw [List.length_append] at hdown
      simp only [weight, hqueue, List.length_append, List.length_cons, Event.control,
        Bool.toNat_true]
      omega
    · exact fun _ hlost => hreaction.progress ▸ hlost
  · cases hprocess

/-! ### The network -/

theorem Follows.deliver (hfollows : Follows P setup s st) {k : Nat}
    (hdeliver : s.deliver setup k = some s') : Stepped P setup s s' st st (.deliver k) := by
  rw [System.deliver] at hdeliver
  split at hdeliver
  · cases hdeliver
  next d hd =>
    obtain ⟨teid, hoctets⟩ := hfollows.data.echoing.air d (List.mem_of_getElem? hd)
    split at hdeliver
    · cases hdeliver
      have hreceived : (s.traffic.receive s.node.2.routing setup.upfSocket d).Echoing ∧
          (s.traffic.receive s.node.2.routing setup.upfSocket d).air = s.traffic.air :=
        hfollows.data.echoing.receive hoctets
      exact hfollows.user (hfollows.data.of_air hreceived.1 hreceived.2) rfl
    · split at hdeliver
      · cases hdeliver
        have hdata := hfollows.data.arrive teid
        rw [← hoctets] at hdata
        exact hfollows.user hdata rfl
      · cases hdeliver

theorem Follows.echo (hfollows : Follows P setup s st) (hecho : s.echo = some s') :
    Stepped P setup s s' st st .echo := by
  obtain ⟨traffic, htraffic, rfl⟩ := Option.map_eq_some_iff.mp hecho
  obtain ⟨hechoing, hair⟩ := hfollows.data.echoing.echo htraffic
  exact hfollows.user (hfollows.data.of_air hechoing hair) rfl

theorem Follows.encapsulate (hfollows : Follows P setup s st)
    (hencapsulate : s.encapsulate setup = some s') :
    Stepped P setup s s' st st .encapsulate := by
  obtain ⟨traffic, htraffic, rfl⟩ := Option.map_eq_some_iff.mp hencapsulate
  obtain ⟨hechoing, -⟩ := hfollows.data.echoing.encapsulate htraffic
  exact hfollows.user
    (hfollows.data.upf hechoing (Traffic.exists_air_encapsulate htraffic)) rfl

/-- Nobody notices anything as long as the association holds. -/
theorem Follows.not_notices (hfollows : Follows P setup s st) (hnotices : event.notices = true) :
    step? K P setup s event = none := by
  cases event with
  | mmeLinkEnds =>
      rw [step?, System.onMmeLinkEnds, hfollows.linkUp]
      split
      next hnever _ => cases hnever
      next => rfl
  | mmeSendFails rand =>
      rw [step?, System.onMmeUnsent, Option.bind_eq_none_iff]
      rintro ⟨responses, r⟩ hprocess
      have hlink : r.linkUp = s.linkUp := by
        rw [System.process] at hprocess
        split at hprocess
        · simp only at hprocess
          split at hprocess <;> cases hprocess <;> rfl
        · cases hprocess
      simp only [hlink, hfollows.linkUp]
  | linkEnds ending =>
      simp only [step?, System.linkEnds, System.resume, hfollows.linkUp]
      split <;> rfl
  | sendFails => simp only [step?, System.sendFails, hfollows.linkUp]
  | _ => cases hnotices

/-- Every event but the loss of the association is at most one step of the life cycle, and one of
the control plane brings the system closer to its end. -/
theorem Follows.exists_step (hfollows : Follows P setup s st) (hcuts : event.cuts = false)
    (hstep : step? K P setup s event = some s') : ∃ st', Stepped P setup s s' st st' event := by
  have hnotices : event.notices = false := by
    cases hevent : event.notices with
    | false => rfl
    | true =>
        rw [hfollows.not_notices hevent] at hstep
        cases hstep
  cases event with
  | start => exact hfollows.startUe hstep
  | send => exact ⟨st, hfollows.send hstep⟩
  | mme rand => exact hfollows.answer hstep
  | receive => exact hfollows.receive hstep
  | transmit => exact hfollows.transmit hstep
  | transmitFails => exact hfollows.transmitFails hstep
  | deliver k => exact ⟨st, hfollows.deliver hstep⟩
  | echo => exact ⟨st, hfollows.echo hstep⟩
  | encapsulate => exact ⟨st, hfollows.encapsulate hstep⟩
  | takeDatagram => exact hfollows.takeDatagram hstep
  | timeout => exact hfollows.timeOut hstep
  | cut atMme atEnb => cases hcuts
  | _ => cases hnotices

end Step

/-! ## Every schedule -/

section Schedules

variable {τ υ : Type} {K : RouteMaps τ υ} {P : Primitives} {setup : Setup} {s : System τ υ}
  {st : Stage}

/-- At first the UE is idle. -/
theorem follows_init : Follows P setup (init setup : System τ υ) .idle := by
  have hnone : ∀ {κ α : Type} [DecidableEq κ] (k : κ), only k (none : Option α) = fun _ => none :=
    fun k => only_none k
  refine ⟨rfl, rfl, ⟨rfl, ?_, ?_, rfl, fun _ => ⟨rfl, rfl⟩, ?_, ?_, ?_⟩, ⟨rfl, rfl, rfl⟩, rfl, rfl,
    ?_⟩
  · exact (funext World.get?_new).trans (hnone entity).symm
  · exact (hnone testImsi).symm
  · exact (hnone teidBase).symm
  · exact (hnone teidBase).symm
  · exact (hnone (Octets.zeros 4)).symm
  · exact ⟨Traffic.echoing_quiet, List.forall_mem_nil _, by rintro ⟨⟩, rfl⟩

end Schedules

end Midn.Sim.Enb
