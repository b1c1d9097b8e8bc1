import Midn.Sim.Gnb.Run

/-!
# Schedules that lose the association

A system that has lost its association goes on like one whose association holds, for as long as
anything is left that has arrived: its UEs are at the same stages of their life cycles, only that
less of what is under way will still be received, and that some of them may have noticed.
-/

namespace Midn.Sim.Gnb

open Midn.Core Midn.Core.Amf Gtp Ngap Userplane

/-! ## Two systems -/

/-- The task has ended because it has lost the dispatcher. -/
def CutOff (u : UeTask) : Prop :=
  u.outbox = [] ∧ ∃ error : UeError, error.ofDispatcher = true ∧ u.progress = .failed error

/-- Whether the loss of the dispatcher has ended the task. -/
def Progress.cutOff : Progress → Bool
  | failed error => error.ofDispatcher
  | _ => false

theorem CutOff.ended {u : UeTask} (hcutOff : CutOff u) : u.ended = true := by
  obtain ⟨houtbox, error, -, hprogress⟩ := hcutOff
  rw [UeTask.ended, houtbox, hprogress]
  rfl

section Shadows

/-- A system beside one whose association holds, which has gone through the same: what has arrived
in the first is the beginning of what is under way in the second. -/
structure Shadows {n : Nat} {τ υ : Type} (s r : System n τ υ) : Prop where
  up : s.linkUp = true → s = r
  node : s.node = r.node
  toAmf : s.toAmf <+: r.toAmf
  toGnb : s.toGnb <+: r.toGnb
  dispatching : s.dispatching = true → r.dispatching = true ∧ s.outQueue = r.outQueue
  ues : ∀ i, s.ues i = r.ues i ∨ CutOff (s.ues i)
  traffic : s.traffic = r.traffic
  joined : Joined s

variable {τ υ : Type} {K : RouteMaps τ υ} {P : Primitives} {setup : Setup}
  {s s' r r' : System setup.nUes τ υ} {i : Fin setup.nUes}

theorem Shadows.refl (hjoined : Joined s) : Shadows s s :=
  ⟨fun _ => rfl, rfl, List.prefix_refl _, List.prefix_refl _, fun hgoes => ⟨hgoes, rfl⟩,
    fun _ => Or.inl rfl, rfl, hjoined⟩

/-- A task that goes on is the same in both. -/
theorem Shadows.ue_of_ended (hshadows : Shadows s r) (hlive : (s.ues i).ended = false) :
    s.ues i = r.ues i := by
  rcases hshadows.ues i with hue | hcutOff
  · exact hue
  · cases hcutOff.ended.symm.trans hlive

theorem Joined.none_of_ended {n : Nat} {s : System n τ υ} {i : Fin n} (hjoined : Joined s)
    (hlive : (s.ues i).ended = false) : s.joined = none := by
  cases houtcome : s.joined with
  | none => rfl
  | some outcome => cases ((hjoined outcome houtcome).2 i).symm.trans hlive

/-- As long as a task goes on, nothing has been joined. -/
theorem Joined.of_none {n : Nat} {s : System n τ υ} (hnone : s.joined = none) : Joined s := by
  intro outcome houtcome
  cases hnone.symm.trans houtcome

/-! ### The tasks of the UEs -/

theorem Shadows.setUe (hshadows : Shadows s r) (hgone : s.linkUp = false)
    (hlive : (s.ues i).ended = false) (u : UeTask) : Shadows (s.setUe i u) (r.setUe i u) where
  up := Link.of_gone hgone
  node := hshadows.node
  toAmf := hshadows.toAmf
  toGnb := hshadows.toGnb
  dispatching := hshadows.dispatching
  ues := by
    intro j
    rcases eq_or_ne j i with rfl | hne
    · rw [System.setUe_ues_self, System.setUe_ues_self]
      exact Or.inl rfl
    · rw [System.setUe_ues_of_ne _ _ _ hne, System.setUe_ues_of_ne _ _ _ hne]
      exact hshadows.ues j
  traffic := hshadows.traffic
  joined := .of_none (hshadows.joined.none_of_ended hlive)

/-- A UE notices, and the other system stays where it is. -/
theorem Shadows.cutOff (hshadows : Shadows s r) (hgone : s.linkUp = false)
    (hlive : (s.ues i).ended = false) {error : UeError} (herror : error.ofDispatcher = true) :
    Shadows (s.setUe i ((s.ues i).cutOff error)) r where
  up := Link.of_gone hgone
  node := hshadows.node
  toAmf := hshadows.toAmf
  toGnb := hshadows.toGnb
  dispatching := hshadows.dispatching
  ues := by
    intro j
    rcases eq_or_ne j i with rfl | hne
    · rw [System.setUe_ues_self]
      exact Or.inr ⟨rfl, error, herror, rfl⟩
    · rw [System.setUe_ues_of_ne _ _ _ hne]
      exact hshadows.ues j
  traffic := hshadows.traffic
  joined := .of_none (hshadows.joined.none_of_ended hlive)

/-- Something is put into a channel of a UE, which is closed if the task has ended. -/
theorem Shadows.push (hshadows : Shadows s r) (hgone : s.linkUp = false) (i : Fin setup.nUes)
    (put : UeTask → UeTask) :
    Shadows (if (s.ues i).ended then s else s.setUe i (put (s.ues i)))
      (if (r.ues i).ended then r else r.setUe i (put (r.ues i))) := by
  rcases hshadows.ues i with hue | hcutOff
  · cases hlive : (s.ues i).ended with
    | true =>
        rw [if_pos rfl, if_pos (hue ▸ hlive)]
        exact hshadows
    | false =>
        rw [← hue, hlive]
        exact hshadows.setUe hgone hlive _
  · rw [if_pos hcutOff.ended]
    split
    · exact hshadows
    · refine ⟨Link.of_gone hgone, hshadows.node, hshadows.toAmf, hshadows.toGnb,
        hshadows.dispatching, ?_, hshadows.traffic, hshadows.joined⟩
      intro j
      rcases eq_or_ne j i with rfl | hne
      · exact Or.inr hcutOff
      · rw [System.setUe_ues_of_ne _ _ _ hne]
        exact hshadows.ues j

/-- A task goes on in the same way in both. -/
theorem Shadows.resume {next : UeTask → Option UeTask}
    (hnext : ∀ {u u'}, next u = some u' → u.progress.ended = false) (hshadows : Shadows s r)
    (hgone : s.linkUp = false) (hresume : s.resume i next = some s') :
    ∃ r', r.resume i next = some r' ∧ Shadows s' r' := by
  rw [System.resume] at hresume
  split at hresume
  next houtbox =>
    obtain ⟨u', hu', rfl⟩ := Option.map_eq_some_iff.mp hresume
    have hlive : (s.ues i).ended = false := by rw [UeTask.ended, hnext hu', Bool.false_and]
    have hue := hshadows.ue_of_ended hlive
    refine ⟨r.setUe i u', ?_, hshadows.setUe hgone hlive u'⟩
    rw [System.resume, ← hue, houtbox, hu']
    rfl
  next => cases hresume

theorem Shadows.startUe (hshadows : Shadows s r) (hgone : s.linkUp = false)
    (hstart : s.startUe setup i = some s') : ∃ r', r.startUe setup i = some r' ∧ Shadows s' r' := by
  refine hshadows.resume (fun {u u'} hnext => ?_) hgone hstart
  split at hnext
  next hprogress =>
    rw [hprogress]
    rfl
  next => cases hnext

theorem Shadows.receive (hshadows : Shadows s r) (hgone : s.linkUp = false)
    (hreceive : s.receive P setup i = some s') :
    ∃ r', r.receive P setup i = some r' ∧ Shadows s' r' := by
  refine hshadows.resume (fun {u u'} hnext => ?_) hgone hreceive
  split at hnext
  next hprogress _ =>
    rw [hprogress]
    rfl
  next => cases hnext

theorem Shadows.transmitFails (hshadows : Shadows s r) (hgone : s.linkUp = false)
    (hfails : s.transmitFails i = some s') :
    ∃ r', r.transmitFails i = some r' ∧ Shadows s' r' := by
  refine hshadows.resume (fun {u u'} hnext => ?_) hgone hfails
  split at hnext
  next hprogress =>
    rw [hprogress]
    rfl
  next => cases hnext

theorem Shadows.takeEcho (hshadows : Shadows s r) (hgone : s.linkUp = false)
    (htake : s.takeEcho setup i = some s') :
    ∃ r', r.takeEcho setup i = some r' ∧ Shadows s' r' := by
  refine hshadows.resume (fun {u u'} hnext => ?_) hgone htake
  split at hnext
  next hprogress _ =>
    rw [hprogress]
    rfl
  next => cases hnext

theorem Shadows.timeOut (hshadows : Shadows s r) (hgone : s.linkUp = false)
    (htimeout : s.timeOut i = some s') : ∃ r', r.timeOut i = some r' ∧ Shadows s' r' := by
  refine hshadows.resume (fun {u u'} hnext => ?_) hgone htimeout
  split at hnext
  next hprogress =>
    rw [hprogress]
    rfl
  next => cases hnext

theorem Shadows.transmit (hshadows : Shadows s r) (hgone : s.linkUp = false)
    (htransmit : s.transmit setup i = some s') :
    ∃ r', r.transmit setup i = some r' ∧ Shadows s' r' := by
  rw [System.transmit] at htransmit
  split at htransmit <;> cases htransmit
  next sent upfAddr ulTeid houtbox hprogress =>
    have hlive : (s.ues i).ended = false := by
      rw [UeTask.ended, hprogress]
      rfl
    have hue := hshadows.ue_of_ended hlive
    let u := { s.ues i with progress := .awaitingEcho (sent + 1) upfAddr ulTeid }
    have hset := hshadows.setUe hgone hlive u
    refine ⟨{ r.setUe i u with
      traffic := r.traffic.send (System.uplinkDatagram setup upfAddr ulTeid) }, ?_, ?_⟩
    · rw [System.transmit, ← hue, houtbox, hprogress]
    · exact ⟨Link.of_gone hgone, hset.node, hset.toAmf, hset.toGnb, hset.dispatching, hset.ues,
        congrArg (Traffic.send · (System.uplinkDatagram setup upfAddr ulTeid)) hshadows.traffic,
        hset.joined⟩

theorem Shadows.send (hshadows : Shadows s r) (hgone : s.linkUp = false)
    (hsend : s.send i = some s') : ∃ r', r.send i = some r' ∧ Shadows s' r' := by
  rw [System.send] at hsend
  split at hsend <;> cases hsend
  next octets outbox hgoes houtbox =>
    have hlive := ended_of_outbox houtbox
    have hue := hshadows.ue_of_ended hlive
    obtain ⟨hgoes', hqueue⟩ := hshadows.dispatching hgoes
    let u := { s.ues i with outbox := outbox }
    have hset := hshadows.setUe hgone hlive u
    refine ⟨{ r.setUe i u with outQueue := r.outQueue ++ [octets] }, ?_, ?_⟩
    · rw [System.send, ← hue, hgoes', houtbox]
    · exact ⟨Link.of_gone hgone, hset.node, hset.toAmf, hset.toGnb,
        fun _ => ⟨hgoes', congrArg (· ++ [octets]) hqueue⟩, hset.ues, hset.traffic, hset.joined⟩

/-! ### The dispatcher -/

theorem Shadows.dispatchUplink (hshadows : Shadows s r) (hgone : s.linkUp = false)
    (hdispatch : s.dispatchUplink = some s') :
    ∃ r', r.dispatchUplink = some r' ∧ Shadows s' r' := by
  rw [System.dispatchUplink] at hdispatch
  split at hdispatch <;> cases hdispatch
  next octets outQueue hgoes hqueue =>
    obtain ⟨hgoes', hsame⟩ := hshadows.dispatching hgoes
    rw [hqueue] at hsame
    refine ⟨{ r with
      outQueue := outQueue
      toAmf := Link.put r.linkUp r.toAmf [octets] }, ?_, ?_⟩
    · rw [System.dispatchUplink, hgoes', ← hsame]
    · refine ⟨Link.of_gone hgone, hshadows.node, ?_, hshadows.toGnb, fun _ => ⟨hgoes', rfl⟩,
        hshadows.ues, hshadows.traffic, hshadows.joined⟩
      rw [hgone, Link.put_false]
      exact hshadows.toAmf.trans Link.prefix_put

theorem Shadows.dispatchDownlink {routes : UInt32 → Option (Fin setup.nUes)}
    (hshadows : Shadows s r) (hgone : s.linkUp = false)
    (hdispatch : s.dispatchDownlink routes = some s') :
    ∃ r', r.dispatchDownlink routes = some r' ∧ Shadows s' r' := by
  rw [System.dispatchDownlink] at hdispatch
  split at hdispatch
  next octets toGnb hgoes hqueue =>
    have hbegins := hshadows.toGnb
    rw [hqueue] at hbegins
    obtain ⟨rest, hrest, hbegins'⟩ := List.cons_prefix_iff.mp hbegins
    obtain ⟨hgoes', hsame⟩ := hshadows.dispatching hgoes
    have htaken : Shadows { s with toGnb := toGnb } { r with toGnb := rest } :=
      ⟨Link.of_gone hgone, hshadows.node, hshadows.toAmf, hbegins', hshadows.dispatching,
        hshadows.ues, hshadows.traffic, hshadows.joined⟩
    rw [System.dispatchDownlink, hgoes', hrest]
    simp only at hdispatch ⊢
    split at hdispatch
    next =>
      cases hdispatch
      exact ⟨_, rfl, hgoes' ▸ htaken⟩
    next msg _ =>
      split at hdispatch
      next =>
        cases hdispatch
        exact ⟨_, rfl, hgoes' ▸ htaken⟩
      next i _ =>
        cases hdispatch
        exact ⟨_, rfl, hgoes' ▸
          htaken.push hgone i fun u => { u with ngapRx := u.ngapRx ++ [msg] }⟩
  next => cases hdispatch

/-! ### The AMF -/

theorem Shadows.take (hshadows : Shadows s r) (hgone : s.linkUp = false)
    {toAmf toAmf' : List (List UInt8)} (hbegins : toAmf <+: toAmf') {node node' : N3.Node τ υ}
    (hnode : node = node') (running : Bool) :
    Shadows { s with toAmf := toAmf, node := node }
      { r with toAmf := toAmf', node := node', amfRunning := running } :=
  ⟨Link.of_gone hgone, hnode, hbegins, hshadows.toGnb, hshadows.dispatching, hshadows.ues,
    hshadows.traffic, hshadows.joined⟩

theorem Shadows.process {rand : Octets 16} {responses : List NgapMessage}
    (hshadows : Shadows s r) (hgone : s.linkUp = false) (hrunning : r.amfRunning = true)
    (hprocess : s.process K P rand = some (responses, s')) :
    ∃ r', r.process K P rand = some (responses, r') ∧ Shadows s' r' ∧ s'.linkUp = false := by
  rw [System.process] at hprocess
  split at hprocess
  next octets toAmf _ hqueue =>
    have hbegins := hshadows.toAmf
    rw [hqueue] at hbegins
    obtain ⟨rest, hrest, hbegins'⟩ := List.cons_prefix_iff.mp hbegins
    rw [System.process, hrunning, hrest]
    simp only at hprocess ⊢
    split at hprocess
    next hdecode =>
      cases hprocess
      exact ⟨_, rfl, hshadows.take hgone hbegins' hshadows.node true, hgone⟩
    next msg hdecode =>
      cases hprocess
      rw [hshadows.node]
      exact ⟨_, rfl, hshadows.take hgone hbegins' rfl true, hgone⟩
  next => cases hprocess

theorem Shadows.onAmf {rand : Octets 16} (hshadows : Shadows s r) (hgone : s.linkUp = false)
    (hrunning : r.amfRunning = true) (hround : s.onAmf K P rand = some s') :
    ∃ r', r.onAmf K P rand = some r' ∧ Shadows s' r' := by
  obtain ⟨⟨responses, s₁⟩, hprocess, rfl⟩ := Option.map_eq_some_iff.mp hround
  obtain ⟨r₁, hprocess', hshadows', hgone'⟩ := hshadows.process hgone hrunning hprocess
  refine ⟨_, congrArg (Option.map _) hprocess', ?_⟩
  refine ⟨Link.of_gone hgone', hshadows'.node, hshadows'.toAmf, ?_, hshadows'.dispatching,
    hshadows'.ues, hshadows'.traffic, hshadows'.joined⟩
  simp only [hgone', Link.put_false]
  exact hshadows'.toGnb.trans Link.prefix_put

/-- The responses that the AMF cannot send are lost; those of the other system are under way. -/
theorem Shadows.onAmfUnsent {rand : Octets 16} (hshadows : Shadows s r) (hgone : s.linkUp = false)
    (hrunning : r.amfRunning = true) (hround : s.onAmfUnsent K P rand = some s') :
    ∃ r', r.onAmf K P rand = some r' ∧ Shadows s' r' := by
  obtain ⟨⟨responses, s₁⟩, hprocess, hunsent⟩ := Option.bind_eq_some_iff.mp hround
  obtain ⟨r₁, hprocess', hshadows', hgone'⟩ := hshadows.process hgone hrunning hprocess
  refine ⟨_, congrArg (Option.map _) hprocess', ?_⟩
  simp only [hgone'] at hunsent
  split at hunsent <;> cases hunsent
  exact ⟨Link.of_gone rfl, hshadows'.node, hshadows'.toAmf,
    hshadows'.toGnb.trans Link.prefix_put, hshadows'.dispatching, hshadows'.ues,
    hshadows'.traffic, hshadows'.joined⟩

/-! ### User data -/

theorem Shadows.withTraffic (hshadows : Shadows s r) (hgone : s.linkUp = false)
    {traffic traffic' : Traffic} (hsame : traffic = traffic') :
    Shadows { s with traffic := traffic } { r with traffic := traffic' } :=
  ⟨Link.of_gone hgone, hshadows.node, hshadows.toAmf, hshadows.toGnb, hshadows.dispatching,
    hshadows.ues, hsame, hshadows.joined⟩

theorem Shadows.gtpDemux (hshadows : Shadows s r) (hgone : s.linkUp = false)
    (routes : UInt32 → Option (Fin setup.nUes)) (d : Datagram) :
    Shadows (s.gtpDemux routes d) (r.gtpDemux routes d) := by
  rw [System.gtpDemux, System.gtpDemux]
  split
  · exact hshadows
  next hdr dlPayload _ =>
    simp only
    split
    · exact hshadows
    next i _ => exact hshadows.push hgone i fun u => { u with gtpRx := u.gtpRx ++ [dlPayload] }

theorem Shadows.deliver {routes : UInt32 → Option (Fin setup.nUes)} {k : Nat}
    (hshadows : Shadows s r) (hgone : s.linkUp = false)
    (hdeliver : s.deliver setup routes k = some s') :
    ∃ r', r.deliver setup routes k = some r' ∧ Shadows s' r' := by
  rw [System.deliver] at hdeliver
  split at hdeliver
  · cases hdeliver
  next d hd =>
    rw [hshadows.traffic] at hd
    split at hdeliver
    next hupf =>
      cases hdeliver
      refine ⟨{ r with traffic := r.traffic.receive r.node.2.routing setup.upfSocket d }, ?_, ?_⟩
      · simp only [System.deliver, hd, hupf, if_true]
      · exact hshadows.withTraffic hgone (by rw [hshadows.node, hshadows.traffic])
    next hother =>
      split at hdeliver
      next hgnb =>
        cases hdeliver
        refine ⟨_, ?_, hshadows.gtpDemux hgone routes d⟩
        simp only [System.deliver, hd]
        rw [if_neg hother, if_pos hgnb]
      next => cases hdeliver

theorem Shadows.echo (hshadows : Shadows s r) (hgone : s.linkUp = false)
    (hecho : s.echo = some s') : ∃ r', r.echo = some r' ∧ Shadows s' r' := by
  obtain ⟨traffic, htraffic, rfl⟩ := Option.map_eq_some_iff.mp hecho
  rw [hshadows.traffic] at htraffic
  exact ⟨_, congrArg (Option.map _) htraffic, hshadows.withTraffic hgone rfl⟩

theorem Shadows.encapsulate (hshadows : Shadows s r) (hgone : s.linkUp = false)
    (hencapsulate : s.encapsulate setup = some s') :
    ∃ r', r.encapsulate setup = some r' ∧ Shadows s' r' := by
  obtain ⟨traffic, htraffic, rfl⟩ := Option.map_eq_some_iff.mp hencapsulate
  rw [hshadows.traffic, hshadows.node] at htraffic
  exact ⟨_, congrArg (Option.map _) htraffic, hshadows.withTraffic hgone rfl⟩

/-! ### One event -/

/-- Whatever a system without its association does, the other can do as well, except that it does
not join its tasks. -/
theorem Shadows.lockstep {f : Fin setup.nUes → Stage} {event : Event setup.nUes}
    (hshadows : Shadows s r) (hgone : s.linkUp = false) (hrefines : Refines P setup r f)
    (hcuts : event.cuts = false) (hnotices : event.notices = false)
    (hstep : step? K P setup s event = some s') :
    event = .join ∧ Shadows s' r ∨ ∃ r', step? K P setup r event = some r' ∧ Shadows s' r' := by
  cases event with
  | join =>
      rw [step?, System.join] at hstep
      split at hstep <;> cases hstep
      next hended =>
        refine Or.inl ⟨rfl, Link.of_gone hgone, hshadows.node, hshadows.toAmf, hshadows.toGnb, ?_,
          hshadows.ues, hshadows.traffic, ?_⟩
        · rintro ⟨⟩
        · intro outcome houtcome
          cases houtcome
          exact ⟨rfl, hended.2⟩
  | start i => exact Or.inr (hshadows.startUe hgone hstep)
  | send i => exact Or.inr (hshadows.send hgone hstep)
  | uplink => exact Or.inr (hshadows.dispatchUplink hgone hstep)
  | amf rand => exact Or.inr (hshadows.onAmf hgone hrefines.follows.running hstep)
  | downlink => exact Or.inr (hshadows.dispatchDownlink hgone hstep)
  | receive i => exact Or.inr (hshadows.receive hgone hstep)
  | transmit i => exact Or.inr (hshadows.transmit hgone hstep)
  | transmitFails i => exact Or.inr (hshadows.transmitFails hgone hstep)
  | deliver k => exact Or.inr (hshadows.deliver hgone hstep)
  | echo => exact Or.inr (hshadows.echo hgone hstep)
  | encapsulate => exact Or.inr (hshadows.encapsulate hgone hstep)
  | takeEcho i => exact Or.inr (hshadows.takeEcho hgone hstep)
  | timeout i => exact Or.inr (hshadows.timeOut hgone hstep)
  | cut atAmf atGnb => cases hcuts
  | _ => cases hnotices

end Shadows

/-! ## What is left of the association -/

section Linked

variable {τ υ : Type} {K : RouteMaps τ υ} {P : Primitives} {setup : Setup}
  {s s' : System setup.nUes τ υ} {event : Event setup.nUes} {i : Fin setup.nUes}

/-- Whether a task has yet to notice the loss of the dispatcher. -/
def UeTask.linked (u : UeTask) : Nat := (!u.progress.cutOff).toNat

/-- The association can still be lost, and the tasks can still notice. -/
def System.linked {n : Nat} (s : System n τ υ) : Nat :=
  s.linkUp.toNat + s.amfRunning.toNat + s.dispatching.toNat + Family.left UeTask.linked s.ues

theorem linked_init : (init setup : System setup.nUes τ υ).linked = setup.nUes + 3 := by
  have hues : Family.left UeTask.linked (fun _ : Fin setup.nUes => UeTask.new) = _ * 1 :=
    Family.left_const UeTask.new
  rw [Fintype.card_fin, Nat.mul_one] at hues
  simp only [System.linked, init, hues, Bool.toNat_true]
  omega

/-- An event may bring no task back that has noticed. -/
structure Frames {n : Nat} (s s' : System n τ υ) : Prop where
  linkUp : s'.linkUp = s.linkUp
  running : s'.amfRunning = true → s.amfRunning = true
  dispatching : s'.dispatching = true → s.dispatching = true
  cutOff : ∀ i, (s.ues i).progress.cutOff = true → (s'.ues i).progress.cutOff = true

theorem Frames.refl {n : Nat} (s : System n τ υ) : Frames s s :=
  ⟨rfl, fun h => h, fun h => h, fun _ h => h⟩

theorem frames_setUe {n : Nat} {s : System n τ υ} {i : Fin n} {u : UeTask}
    (hcutOff : (s.ues i).progress.cutOff = true → u.progress.cutOff = true) :
    Frames s (s.setUe i u) := by
  refine ⟨rfl, fun h => h, fun h => h, ?_⟩
  intro j hbefore
  rcases eq_or_ne j i with rfl | hne
  · rw [System.setUe_ues_self]
    exact hcutOff hbefore
  · rw [System.setUe_ues_of_ne _ _ _ hne]
    exact hbefore

/-- What a task that goes on has at hand does not matter. -/
theorem frames_push {n : Nat} {s : System n τ υ} {i : Fin n} {u : UeTask}
    (hkept : u.progress = (s.ues i).progress) :
    Frames s (if (s.ues i).ended then s else s.setUe i u) := by
  split
  · exact .refl s
  · exact frames_setUe fun hcutOff => hkept ▸ hcutOff

theorem frames_step (hcuts : event.cuts = false) (hnotices : event.notices = false)
    (hstep : step? K P setup s event = some s') : Frames s s' := by
  cases event with
  | start i | receive i | transmitFails i | takeEcho i | timeout i =>
      rw [step?] at hstep
      obtain ⟨u', hnext, rfl⟩ := exists_of_resume hstep
      refine frames_setUe fun hcutOff => ?_
      split at hnext
      next => simp only [*, Progress.cutOff, Bool.false_eq_true] at hcutOff
      next => cases hnext
  | send i =>
      rw [step?, System.send] at hstep
      split at hstep <;> cases hstep
      next outbox _ _ =>
        have hframes : Frames s (s.setUe i { s.ues i with outbox := outbox }) := frames_setUe id
        exact ⟨rfl, hframes.running, hframes.dispatching, hframes.cutOff⟩
  | transmit i =>
      rw [step?, System.transmit] at hstep
      split at hstep <;> cases hstep
      next sent upfAddr ulTeid _ hprogress =>
        have hframes : Frames s (s.setUe i
            { s.ues i with progress := .awaitingEcho (sent + 1) upfAddr ulTeid }) := by
          refine frames_setUe fun hcutOff => ?_
          rw [hprogress] at hcutOff
          cases hcutOff
        exact ⟨rfl, hframes.running, hframes.dispatching, hframes.cutOff⟩
  | uplink =>
      rw [step?, System.dispatchUplink] at hstep
      split at hstep <;> cases hstep
      exact ⟨rfl, fun h => h, fun h => h, fun _ h => h⟩
  | downlink =>
      rw [step?, System.dispatchDownlink] at hstep
      split at hstep
      next octets toGnb _ _ =>
        simp only at hstep
        split at hstep
        · cases hstep
          exact ⟨rfl, fun h => h, fun h => h, fun _ h => h⟩
        next msg _ =>
          split at hstep <;> cases hstep
          · exact ⟨rfl, fun h => h, fun h => h, fun _ h => h⟩
          next i _ =>
            have hframes : Frames { s with toGnb := toGnb } _ :=
              frames_push (i := i) (u := { s.ues i with ngapRx := (s.ues i).ngapRx ++ [msg] }) rfl
            exact ⟨hframes.linkUp, hframes.running, hframes.dispatching, hframes.cutOff⟩
      next => cases hstep
  | amf rand =>
      obtain ⟨⟨responses, s₁⟩, hprocess, rfl⟩ := Option.map_eq_some_iff.mp hstep
      rw [System.process] at hprocess
      split at hprocess
      next hrunning _ =>
        simp only at hprocess
        split at hprocess <;> cases hprocess <;>
          exact ⟨rfl, fun _ => hrunning, fun h => h, fun _ h => h⟩
      next => cases hprocess
  | deliver k =>
      rw [step?, System.deliver] at hstep
      split at hstep
      · cases hstep
      · split at hstep
        · cases hstep
          exact ⟨rfl, fun h => h, fun h => h, fun _ h => h⟩
        · split at hstep <;> cases hstep
          rw [System.gtpDemux]
          split
          · exact .refl s
          · simp only
            split
            · exact .refl s
            · exact frames_push rfl
  | echo | encapsulate =>
      obtain ⟨traffic, -, rfl⟩ := Option.map_eq_some_iff.mp hstep
      exact ⟨rfl, fun h => h, fun h => h, fun _ h => h⟩
  | join =>
      rw [step?, System.join] at hstep
      split at hstep <;> cases hstep
      refine ⟨rfl, fun h => h, ?_, fun _ h => h⟩
      rintro ⟨⟩
  | cut atAmf atGnb => cases hcuts
  | _ => cases hnotices

theorem Frames.linked_le {n : Nat} {s s' : System n τ υ} (hframes : Frames s s') :
    s'.linked ≤ s.linked := by
  have hrunning : s'.amfRunning.toNat ≤ s.amfRunning.toNat := Bool.toNat_le_toNat hframes.running
  have hdispatching : s'.dispatching.toNat ≤ s.dispatching.toNat :=
    Bool.toNat_le_toNat hframes.dispatching
  have hues : Family.left UeTask.linked s'.ues ≤ Family.left UeTask.linked s.ues := by
    refine Family.left_mono fun i => ?_
    rw [UeTask.linked, UeTask.linked]
    cases hbefore : (s.ues i).progress.cutOff with
    | false => exact Bool.toNat_le _
    | true => rw [hframes.cutOff i hbefore]
  rw [System.linked, System.linked, hframes.linkUp]
  omega

theorem linked_setUe_lt {n : Nat} {s : System n τ υ} {i : Fin n} {u : UeTask}
    (hbefore : (s.ues i).progress.cutOff = false) (hafter : u.progress.cutOff = true) :
    (s.setUe i u).linked < s.linked := by
  have hleft := Family.left_update_add UeTask.linked s.ues i u
  rw [UeTask.linked, UeTask.linked, hbefore, hafter, Bool.not_false, Bool.not_true,
    Bool.toNat_true, Bool.toNat_false] at hleft
  simp only [System.linked, System.setUe]
  omega

theorem exists_of_onAmfUnsent {rand : Octets 16} (hround : s.onAmfUnsent K P rand = some s') :
    s.amfRunning = true ∧ s'.amfRunning = false ∧ s'.linkUp = s.linkUp ∧
      s'.dispatching = s.dispatching ∧ s'.ues = s.ues := by
  obtain ⟨⟨responses, s₁⟩, hprocess, hunsent⟩ := Option.bind_eq_some_iff.mp hround
  have hkeeps : s.amfRunning = true ∧ s₁.linkUp = s.linkUp ∧ s₁.dispatching = s.dispatching ∧
      s₁.ues = s.ues := by
    rw [System.process] at hprocess
    split at hprocess
    next hrunning _ =>
      simp only at hprocess
      split at hprocess <;> cases hprocess <;> exact ⟨hrunning, rfl, rfl, rfl⟩
    next => cases hprocess
  simp only at hunsent
  split at hunsent <;> cases hunsent
  exact ⟨hkeeps.1, rfl, hkeeps.2⟩

/-- Each task notices once. -/
theorem linked_lt (hnotices : event.notices = true)
    (hkept : ∀ i, (s.ues i).outbox ≠ [] → (s.ues i).progress.cutOff = false)
    (hstep : step? K P setup s event = some s') : s'.linked < s.linked := by
  cases event with
  | amfLinkEnds =>
      rw [step?, System.onAmfLinkEnds] at hstep
      split at hstep <;> cases hstep
      next hrunning _ _ =>
        simp only [System.linked, hrunning, Bool.toNat_true, Bool.toNat_false]
        omega
  | amfSendFails rand =>
      obtain ⟨hrunning, hended, hlink, hgoes, hues⟩ := exists_of_onAmfUnsent hstep
      simp only [System.linked, hrunning, hended, hlink, hgoes, hues, Bool.toNat_true,
        Bool.toNat_false]
      omega
  | dispatcherEnds =>
      rw [step?, System.dispatcherEnds] at hstep
      split at hstep <;> cases hstep
      next hgoes _ _ =>
        simp only [System.linked, hgoes, Bool.toNat_true, Bool.toNat_false]
        omega
  | channelCloses i =>
      rw [step?, System.channelCloses] at hstep
      obtain ⟨u', hnext, rfl⟩ := exists_of_resume hstep
      split at hnext <;> cases hnext
      next hprogress _ =>
        refine linked_setUe_lt ?_ rfl
        rw [hprogress]
        rfl
  | sendFails i =>
      rw [step?, System.sendFails] at hstep
      split at hstep <;> cases hstep
      next houtbox =>
        refine linked_setUe_lt (hkept i ?_) rfl
        rw [houtbox]
        exact List.cons_ne_nil _ _
  | _ => cases hnotices

end Linked

/-! ## Every schedule -/

section Schedules

variable {τ υ : Type} {K : RouteMaps τ υ} {P : Primitives} {setup : Setup}
  {s s' r r' : System setup.nUes τ υ} {f f' : Fin setup.nUes → Stage}
  {event : Event setup.nUes} {i : Fin setup.nUes}

/-- What an event does to a system, to the one beside it and to the life cycles. -/
structure Matched (P : Primitives) (setup : Setup) (s s' r r' : System setup.nUes τ υ)
    (f f' : Fin setup.nUes → Stage) (event : Event setup.nUes) : Prop where
  shadows : Shadows s' r'
  refines : Refines P setup r' f'
  moves : Family.Moves Stage.Next f f'
  lighter : weight setup r' f' + event.control.toNat ≤ weight setup r f
  linked : s'.linked + (event.cuts || event.notices).toNat ≤ s.linked

/-- A UE at a stage of its life cycle is not cut off. -/
theorem cutOff_progress (setup : Setup) (st : Stage) : (st.progress setup).cutOff = false := by
  cases st with
  | attached a confirmed activity =>
      cases activity with
      | stranded why => cases why <;> rfl
      | _ => rfl
  | _ => rfl

/-- The association is lost. -/
theorem Shadows.cut (hshadows : Shadows s r) (hrefines : Refines P setup r f) {atAmf atGnb : Nat}
    (hcut : s.cut atAmf atGnb = some s') :
    Matched P setup s s' r r f f (.cut atAmf atGnb) := by
  rw [System.cut] at hcut
  split at hcut <;> cases hcut
  next hup =>
    cases hshadows.up hup
    refine ⟨⟨Link.of_gone rfl, rfl, List.take_prefix .., List.take_prefix ..,
      fun hgoes => ⟨hgoes, rfl⟩, fun _ => Or.inl rfl, rfl, hrefines.joined⟩, hrefines, .stay,
      le_refl _, ?_⟩
    simp only [System.linked, hup, Event.cuts, Bool.toNat_true, Bool.toNat_false, Bool.true_or]
    omega

/-- A task notices that the association is gone. -/
theorem Shadows.exists_noticed (hshadows : Shadows s r) (hrefines : Refines P setup r f)
    (hgone : s.linkUp = false) (hnotices : event.notices = true)
    (hstep : step? K P setup s event = some s') :
    ∃ r' f', Matched P setup s s' r r' f f' event := by
  have hlinked : s'.linked + (event.cuts || event.notices).toNat ≤ s.linked := by
    rw [hnotices, Bool.or_true, Bool.toNat_true]
    refine linked_lt hnotices (fun i houtbox => ?_) hstep
    rcases hshadows.ues i with hue | ⟨hnone, -⟩
    · rw [hue, (hrefines.follows.task i).progress]
      exact cutOff_progress setup (f i)
    · exact absurd hnone houtbox
  cases event with
  | amfLinkEnds =>
      rw [step?, System.onAmfLinkEnds] at hstep
      split at hstep <;> cases hstep
      exact ⟨r, f, ⟨Link.of_gone hgone, hshadows.node, hshadows.toAmf, hshadows.toGnb,
        hshadows.dispatching, hshadows.ues, hshadows.traffic, hshadows.joined⟩, hrefines, .stay,
        le_refl _, hlinked⟩
  | amfSendFails rand =>
      obtain ⟨r', hround, hshadows'⟩ := hshadows.onAmfUnsent hgone hrefines.follows.running hstep
      have hamf : (Event.amf rand : Event setup.nUes).cuts = false := rfl
      obtain ⟨f', hstepped⟩ := hrefines.exists_step hamf hround
      exact ⟨r', f', hshadows', hstepped.refines, hstepped.moves,
        (Nat.le_add_right _ _).trans hstepped.lighter, hlinked⟩
  | dispatcherEnds =>
      rw [step?, System.dispatcherEnds] at hstep
      split at hstep <;> cases hstep
      refine ⟨r, f, ⟨Link.of_gone hgone, hshadows.node, hshadows.toAmf, hshadows.toGnb, ?_,
        hshadows.ues, hshadows.traffic, ?_⟩, hrefines, .stay, le_refl _, hlinked⟩
      · rintro ⟨⟩
      · exact hshadows.joined
  | channelCloses i =>
      rw [step?, System.channelCloses] at hstep
      obtain ⟨u', hnext, rfl⟩ := exists_of_resume hstep
      split at hnext <;> cases hnext
      next hprogress _ =>
        have hlive : (s.ues i).ended = false := by
          rw [UeTask.ended, hprogress]
          rfl
        exact ⟨r, f, hshadows.cutOff hgone hlive rfl, hrefines, .stay, le_refl _, hlinked⟩
  | sendFails i =>
      rw [step?, System.sendFails] at hstep
      split at hstep <;> cases hstep
      next houtbox =>
        exact ⟨r, f, hshadows.cutOff hgone (ended_of_outbox houtbox) rfl, hrefines, .stay,
          le_refl _, hlinked⟩
  | _ => cases hnotices

/-- Every event of the system takes at most one UE to its next stage. -/
theorem Shadows.exists_step (hshadows : Shadows s r) (hrefines : Refines P setup r f)
    (hstep : step? K P setup s event = some s') :
    ∃ r' f', Matched P setup s s' r r' f f' event := by
  by_cases hcuts : event.cuts = true
  · cases event with
    | cut atAmf atGnb => exact ⟨r, f, hshadows.cut hrefines hstep⟩
    | _ => cases hcuts
  by_cases hnotices : event.notices = true
  · cases hup : s.linkUp with
    | false => exact hshadows.exists_noticed hrefines hup hnotices hstep
    | true =>
        cases hshadows.up hup
        rw [hrefines.not_notices hnotices] at hstep
        cases hstep
  rw [Bool.not_eq_true] at hcuts hnotices
  have hlinked : s'.linked + (event.cuts || event.notices).toNat ≤ s.linked := by
    rw [hcuts, hnotices]
    exact (frames_step hcuts hnotices hstep).linked_le
  have hmatched : ∀ r', step? K P setup r event = some r' → Shadows s' r' →
      ∃ r' f', Matched P setup s s' r r' f f' event := by
    intro r' hstep' hshadows'
    obtain ⟨f', hstepped⟩ := hrefines.exists_step hcuts hstep'
    exact ⟨r', f', hshadows', hstepped.refines, hstepped.moves, hstepped.lighter, hlinked⟩
  cases hup : s.linkUp with
  | false =>
      rcases hshadows.lockstep hup hrefines hcuts hnotices hstep with
        ⟨rfl, hshadows'⟩ | ⟨r', hstep', hshadows'⟩
      · exact ⟨r, f, hshadows', hrefines, .stay, le_refl _, hlinked⟩
      · exact hmatched r' hstep' hshadows'
  | true =>
      cases hshadows.up hup
      obtain ⟨f', hstepped⟩ := hrefines.exists_step hcuts hstep
      exact hmatched s' hstep (.refl hstepped.refines.joined)

/-- After every schedule the system goes along with one whose association holds, each UE of which is
at a stage of its life cycle that it has reached step by step. -/
theorem exists_shadows (K : RouteMaps τ υ) (P : Primitives) (setup : Setup)
    (schedule : List (Event setup.nUes)) :
    ∃ r f, Shadows (after K P setup schedule) r ∧ Refines P setup r f ∧
      Relation.ReflTransGen (Family.Moves Stage.Next) (fun _ => .idle) f := by
  refine Family.run_invariant (fun s => ∃ r f, Shadows s r ∧ Refines P setup r f ∧
    Relation.ReflTransGen (Family.Moves Stage.Next) (fun _ => .idle) f) ?_ ?_ schedule
  · exact ⟨_, _, .refl (refines_init (P := P)).joined, refines_init, .refl⟩
  · rintro s event ⟨r, f, hshadows, hrefines, hreached⟩
    rw [Gnb.step]
    cases hstep : step? K P setup s event with
    | none => exact ⟨r, f, hshadows, hrefines, hreached⟩
    | some s' =>
        obtain ⟨r', f', hmatched⟩ := hshadows.exists_step hrefines hstep
        exact ⟨r', f', hmatched.shadows, hmatched.refines, hreached.tail hmatched.moves⟩

/-- The task of a UE is at its stage, but for what has not arrived before the association was
lost. -/
structure Going (P : Primitives) (setup : Setup) (s : System setup.nUes τ υ) (i : Fin setup.nUes)
    (st : Stage) : Prop where
  task : TaskAt P setup i st (s.ues i)
  down : downOf setup s i <+: st.down P setup i
  gtpRx : ∀ dlPayload ∈ (s.ues i).gtpRx, dlPayload = payload

/-- The UEs are at stages of their life cycles, but for what has not arrived before the association
was lost, and for the tasks that have noticed. -/
structure Tracks (P : Primitives) (setup : Setup) (s : System setup.nUes τ υ)
    (f : Fin setup.nUes → Stage) : Prop where
  held : s.linkUp = true → Refines P setup s f
  core : ∀ i, CoreAt P setup i (f i) s.node.1
  owned : ∀ e n, s.node.1.world.get? e = some n → ∃ i, (f i).entity? = some e
  leases : Leases s.node.1 f
  serves : Serves setup s.node.2 f
  up : ∀ i, Mux.view (readUp setup) i s.toAmf <+: (f i).up P setup i
  ues : ∀ i, Going P setup s i (f i) ∨ s.linkUp = false ∧ CutOff (s.ues i)
  traffic : s.traffic.Echoing

theorem view_mono {ω μ ι : Type} [DecidableEq ι] {read : ω → Option (ι × μ)} {i : ι}
    {channel channel' : List ω} (hbegins : channel <+: channel') :
    Mux.view read i channel <+: Mux.view read i channel' := by
  obtain ⟨rest, rfl⟩ := hbegins
  rw [Mux.view_append]
  exact List.prefix_append _ _

theorem Shadows.tracks (hshadows : Shadows s r) (hrefines : Refines P setup r f) :
    Tracks P setup s f where
  held := fun hup => by
    rw [hshadows.up hup]
    exact hrefines
  core := by
    rw [hshadows.node]
    exact hrefines.follows.core
  owned := by
    rw [hshadows.node]
    exact hrefines.follows.owned
  leases := by
    rw [hshadows.node]
    exact hrefines.leases
  serves := by
    rw [hshadows.node]
    exact hrefines.serves
  up := by
    intro i
    rw [← hrefines.follows.up i, upOf, List.append_assoc]
    exact view_mono (hshadows.toAmf.trans (List.prefix_append _ _))
  ues := by
    intro i
    have hgoing : s.ues i = r.ues i → Going P setup s i (f i) := by
      intro hue
      constructor
      · rw [hue]
        exact hrefines.follows.task i
      · rw [← hrefines.follows.down i, downOf, downOf, hue]
        exact (List.prefix_append_right_inj _).mpr (view_mono hshadows.toGnb)
      · rw [hue]
        exact hrefines.echoing.gtpRx i
    cases hup : s.linkUp with
    | true => exact Or.inl (hgoing (by rw [hshadows.up hup]))
    | false => exact (hshadows.ues i).imp hgoing fun hcutOff => ⟨rfl, hcutOff⟩
  traffic := by
    rw [hshadows.traffic]
    exact hrefines.echoing.traffic

/-- A kind of events that find something to do. -/
def counts (K : RouteMaps τ υ) (P : Primitives) (setup : Setup)
    (kind : Event setup.nUes → Bool) (s : System setup.nUes τ υ) (event : Event setup.nUes) :
    Bool :=
  kind event && (step? K P setup s event).isSome

/-- Only so many events of a kind can happen, if each of them lowers a measure that no other event
raises. -/
theorem counted_le_measure (K : RouteMaps τ υ) (P : Primitives) (setup : Setup)
    (kind : Event setup.nUes → Bool)
    (measure : System setup.nUes τ υ → System setup.nUes τ υ → (Fin setup.nUes → Stage) → Nat)
    (hlower : ∀ {s s' r r' f f' event}, Matched P setup s s' r r' f f' event →
      measure s' r' f' + (kind event).toNat ≤ measure s r f)
    (schedule : List (Event setup.nUes)) :
    Family.counted (step K P setup) (counts K P setup kind) (init setup) schedule ≤
      measure (init setup) (init setup) fun _ => .idle := by
  refine Family.counted_le (fun s n => ∃ r f, Shadows s r ∧ Refines P setup r f ∧
    measure s r f ≤ n) ?_
    ⟨_, _, .refl (refines_init (P := P)).joined, refines_init, le_refl _⟩ schedule
  rintro s event n ⟨r, f, hshadows, hrefines, hmeasure⟩
  rw [Gnb.step, counts]
  cases hstep : step? K P setup s event with
  | none => exact ⟨n, ⟨r, f, hshadows, hrefines, hmeasure⟩, by simp⟩
  | some s' =>
      obtain ⟨r', f', hmatched⟩ := hshadows.exists_step hrefines hstep
      have hlower' := hlower hmatched
      refine ⟨measure s' r' f', ⟨r', f', hmatched.shadows, hmatched.refines, le_refl _⟩, ?_⟩
      cases hkind : kind event with
      | true =>
          rw [hkind, Bool.toNat_true] at hlower'
          simp only [Option.isSome_some, Bool.and_true, if_true]
          omega
      | false =>
          rw [hkind, Bool.toNat_false] at hlower'
          simp only [Bool.false_and, Bool.false_eq_true, if_false]
          omega

end Schedules

end Midn.Sim.Gnb
