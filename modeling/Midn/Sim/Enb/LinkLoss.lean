import Midn.Sim.Enb.Run

/-!
# Schedules that lose the association

A system that has lost its association goes on like one whose association holds, for as long as
anything is left that has arrived: it is at the same stage of the life cycle, only that less of what
is under way will still be received, and that its UE may have noticed.
-/

namespace Midn.Sim.Enb

open Midn.Core Midn.Core.Mme Gtp S1ap Userplane

/-! ## Two systems -/

/-- The task has ended because it has lost the association. -/
def CutOff (u : UeTask) : Prop :=
  u.outbox = [] ∧ ∃ error : UeError, error.ofLink = true ∧ u.progress = .failed error

/-- Whether an error of the association has ended the task. -/
def Progress.cutOff : Progress → Bool
  | failed error => error.ofLink
  | _ => false

section Shadows

variable {τ υ : Type}

/-- A system beside one whose association holds, which has gone through the same: what has arrived
in the first is the beginning of what is under way in the second. -/
structure Shadows (s r : System τ υ) : Prop where
  up : s.linkUp = true → s = r
  node : s.node = r.node
  toMme : s.toMme <+: r.toMme
  toEnb : s.toEnb <+: r.toEnb
  ue : s.ue = r.ue ∨ CutOff s.ue
  gtpSock : s.gtpSock = r.gtpSock
  traffic : s.traffic = r.traffic

variable {K : RouteMaps τ υ} {P : Primitives} {setup : Setup} {s s' r r' : System τ υ}
  {event : Event}

theorem Shadows.refl (s : System τ υ) : Shadows s s :=
  ⟨fun _ => rfl, rfl, List.prefix_refl _, List.prefix_refl _, Or.inl rfl, rfl, rfl⟩

/-- A task that has something to send or has not failed is not cut off. -/
theorem Shadows.ue_of_outbox (hshadows : Shadows s r) (houtbox : s.ue.outbox ≠ []) :
    s.ue = r.ue := by
  rcases hshadows.ue with hue | ⟨hnone, -⟩
  · exact hue
  · exact absurd hnone houtbox

theorem Shadows.ue_of_progress (hshadows : Shadows s r)
    (hprogress : s.ue.progress.cutOff = false) : s.ue = r.ue := by
  rcases hshadows.ue with hue | ⟨-, error, herror, hfailed⟩
  · exact hue
  · rw [hfailed] at hprogress
    cases herror.symm.trans hprogress

/-- The task goes on in the same way in both. -/
theorem Shadows.react (hshadows : Shadows s r) (hgone : s.linkUp = false) {u u' : UeTask}
    (hue : u = u') {toEnb toEnb' gtpSock gtpSock' : List (List UInt8)} (htoEnb : toEnb <+: toEnb')
    (hsock : gtpSock = gtpSock') {traffic traffic' : Traffic} (htraffic : traffic = traffic') :
    Shadows { s with ue := u, toEnb := toEnb, gtpSock := gtpSock, traffic := traffic }
      { r with ue := u', toEnb := toEnb', gtpSock := gtpSock', traffic := traffic' } where
  up := Link.of_gone hgone
  node := hshadows.node
  toMme := hshadows.toMme
  toEnb := htoEnb
  ue := Or.inl hue
  gtpSock := hsock
  traffic := htraffic

/-- The UE notices, and the other system stays where it is. -/
theorem Shadows.cutOff (hshadows : Shadows s r) (hgone : s.linkUp = false) {error : UeError}
    (herror : error.ofLink = true) (u : UeTask) :
    Shadows { s with ue := u.cutOff error } r where
  up := Link.of_gone hgone
  node := hshadows.node
  toMme := hshadows.toMme
  toEnb := hshadows.toEnb
  ue := Or.inr ⟨rfl, error, herror, rfl⟩
  gtpSock := hshadows.gtpSock
  traffic := hshadows.traffic

/-! ### The UE -/

theorem resume_of_outbox (houtbox : s.ue.outbox = []) (next : UeTask → Option (System τ υ)) :
    s.resume next = next s.ue := by rw [System.resume, houtbox]

theorem Shadows.startUe (hshadows : Shadows s r) (hgone : s.linkUp = false)
    (hstart : s.startUe = some s') : ∃ r', r.startUe = some r' ∧ Shadows s' r' := by
  obtain ⟨houtbox, hnext⟩ := exists_of_resume hstart
  split at hnext
  next hprogress =>
    cases hnext
    have hue := hshadows.ue_of_progress (by rw [hprogress]; rfl)
    refine ⟨{ r with ue := start r.ue }, ?_, ?_⟩
    · rw [System.startUe, resume_of_outbox (hue ▸ houtbox), if_pos (hue ▸ hprogress)]
    · exact hshadows.react hgone (congrArg start hue) hshadows.toEnb hshadows.gtpSock
        hshadows.traffic
  next => cases hnext

theorem Shadows.send (hshadows : Shadows s r) (hgone : s.linkUp = false)
    (hsend : s.send = some s') : ∃ r', r.send = some r' ∧ Shadows s' r' := by
  rw [System.send] at hsend
  split at hsend
  · cases hsend
  next octets outbox houtbox =>
    cases hsend
    have hue := hshadows.ue_of_outbox (by rw [houtbox]; exact List.cons_ne_nil _ _)
    have houtbox' : r.ue.outbox = octets :: outbox := by rw [← hue, houtbox]
    refine ⟨{ r with
      ue := { r.ue with outbox := outbox }
      toMme := Link.put r.linkUp r.toMme [octets] }, ?_, ?_⟩
    · rw [System.send, houtbox']
    · constructor
      · exact Link.of_gone hgone
      · exact hshadows.node
      · rw [hgone, Link.put_false]
        exact hshadows.toMme.trans Link.prefix_put
      · exact hshadows.toEnb
      · exact Or.inl (by rw [hue])
      · exact hshadows.gtpSock
      · exact hshadows.traffic

theorem Shadows.receive (hshadows : Shadows s r) (hgone : s.linkUp = false)
    (hreceive : s.receive P setup = some s') :
    ∃ r', r.receive P setup = some r' ∧ Shadows s' r' := by
  obtain ⟨houtbox, hnext⟩ := exists_of_resume hreceive
  split at hnext
  next octets toEnb hprogress hqueue =>
    cases hnext
    have hue := hshadows.ue_of_progress (by rw [hprogress]; rfl)
    have hbegins := hshadows.toEnb
    rw [hqueue] at hbegins
    obtain ⟨rest, hrest, hbegins'⟩ := List.cons_prefix_iff.mp hbegins
    refine ⟨{ r with ue := onMessage P setup.ctx setup.myIp r.ue octets, toEnb := rest }, ?_, ?_⟩
    · rw [System.receive, resume_of_outbox (hue ▸ houtbox)]
      simp only [← hue, hprogress, hrest]
    · exact hshadows.react hgone
        (congrArg (fun u => onMessage P setup.ctx setup.myIp u octets) hue) hbegins'
        hshadows.gtpSock hshadows.traffic
  next => cases hnext

theorem Shadows.transmit (hshadows : Shadows s r) (hgone : s.linkUp = false)
    (htransmit : s.transmit setup = some s') :
    ∃ r', r.transmit setup = some r' ∧ Shadows s' r' := by
  obtain ⟨houtbox, hnext⟩ := exists_of_resume htransmit
  split at hnext
  next sent bearer hprogress =>
    cases hnext
    have hue := hshadows.ue_of_progress (by rw [hprogress]; rfl)
    refine ⟨{ r with
      ue := { r.ue with progress := .awaitingEcho (sent + 1) bearer }
      traffic := r.traffic.send (System.uplinkDatagram setup bearer) }, ?_, ?_⟩
    · rw [System.transmit, resume_of_outbox (hue ▸ houtbox)]
      simp only [← hue, hprogress]
    · exact hshadows.react hgone
        (congrArg (fun u : UeTask => { u with progress := .awaitingEcho (sent + 1) bearer }) hue)
        hshadows.toEnb hshadows.gtpSock
        (congrArg (Traffic.send · (System.uplinkDatagram setup bearer)) hshadows.traffic)
  next => cases hnext

theorem Shadows.transmitFails (hshadows : Shadows s r) (hgone : s.linkUp = false)
    (hfails : s.transmitFails = some s') : ∃ r', r.transmitFails = some r' ∧ Shadows s' r' := by
  obtain ⟨houtbox, hnext⟩ := exists_of_resume hfails
  split at hnext
  next sent bearer hprogress =>
    cases hnext
    have hue := hshadows.ue_of_progress (by rw [hprogress]; rfl)
    refine ⟨{ r with ue := r.ue.fail .gtpSocket }, ?_, ?_⟩
    · rw [System.transmitFails, resume_of_outbox (hue ▸ houtbox)]
      simp only [← hue, hprogress]
    · exact hshadows.react hgone (congrArg (UeTask.fail · .gtpSocket) hue) hshadows.toEnb
        hshadows.gtpSock hshadows.traffic
  next => cases hnext

theorem Shadows.takeDatagram (hshadows : Shadows s r) (hgone : s.linkUp = false)
    (htake : s.takeDatagram = some s') : ∃ r', r.takeDatagram = some r' ∧ Shadows s' r' := by
  obtain ⟨houtbox, hnext⟩ := exists_of_resume htake
  split at hnext
  next sent bearer octets gtpSock hprogress hqueue =>
    cases hnext
    have hue := hshadows.ue_of_progress (by rw [hprogress]; rfl)
    have hqueue' : r.gtpSock = octets :: gtpSock := hshadows.gtpSock.symm.trans hqueue
    refine ⟨{ r with ue := onDatagram r.ue sent bearer octets, gtpSock := gtpSock }, ?_, ?_⟩
    · rw [System.takeDatagram, resume_of_outbox (hue ▸ houtbox)]
      simp only [← hue, hprogress, hqueue']
    · exact hshadows.react hgone (congrArg (onDatagram · sent bearer octets) hue) hshadows.toEnb
        rfl hshadows.traffic
  next => cases hnext

theorem Shadows.timeOut (hshadows : Shadows s r) (hgone : s.linkUp = false)
    (htimeout : s.timeOut = some s') : ∃ r', r.timeOut = some r' ∧ Shadows s' r' := by
  obtain ⟨houtbox, hnext⟩ := exists_of_resume htimeout
  split at hnext
  next sent bearer hprogress =>
    cases hnext
    have hue := hshadows.ue_of_progress (by rw [hprogress]; rfl)
    refine ⟨{ r with ue := retry r.ue sent bearer }, ?_, ?_⟩
    · rw [System.timeOut, resume_of_outbox (hue ▸ houtbox)]
      simp only [← hue, hprogress]
    · exact hshadows.react hgone (congrArg (retry · sent bearer) hue) hshadows.toEnb
        hshadows.gtpSock hshadows.traffic
  next => cases hnext

/-! ### The MME -/

theorem Shadows.take (hshadows : Shadows s r) (hgone : s.linkUp = false)
    {toMme toMme' : List (List UInt8)} (hbegins : toMme <+: toMme') {node node' : S1u.Node τ υ}
    (hnode : node = node') (running : Bool) :
    Shadows { s with toMme := toMme, node := node }
      { r with toMme := toMme', node := node', mmeRunning := running } :=
  ⟨Link.of_gone hgone, hnode, hbegins, hshadows.toEnb, hshadows.ue, hshadows.gtpSock,
    hshadows.traffic⟩

theorem Shadows.process {rand : Octets 16} {responses : List S1apMessage}
    (hshadows : Shadows s r) (hgone : s.linkUp = false) (hrunning : r.mmeRunning = true)
    (hprocess : s.process K P rand = some (responses, s')) :
    ∃ r', r.process K P rand = some (responses, r') ∧ Shadows s' r' ∧ s'.linkUp = false := by
  rw [System.process] at hprocess
  split at hprocess
  next octets toMme _ hqueue =>
    have hbegins := hshadows.toMme
    rw [hqueue] at hbegins
    obtain ⟨rest, hrest, hbegins'⟩ := List.cons_prefix_iff.mp hbegins
    rw [System.process, hrunning, hrest]
    simp only at hprocess ⊢
    split at hprocess
    next hdecode =>
      cases hprocess
      exact ⟨_, rfl, hshadows.take hgone hbegins' hshadows.node true, hgone⟩
    next msg hdecode =>
      cases hprocess
      rw [hshadows.node]
      exact ⟨_, rfl, hshadows.take hgone hbegins' rfl true, hgone⟩
  next => cases hprocess

theorem Shadows.onMme {rand : Octets 16} (hshadows : Shadows s r) (hgone : s.linkUp = false)
    (hrunning : r.mmeRunning = true) (hround : s.onMme K P rand = some s') :
    ∃ r', r.onMme K P rand = some r' ∧ Shadows s' r' := by
  obtain ⟨⟨responses, s₁⟩, hprocess, rfl⟩ := Option.map_eq_some_iff.mp hround
  obtain ⟨r₁, hprocess', hshadows', hgone'⟩ := hshadows.process hgone hrunning hprocess
  refine ⟨_, congrArg (Option.map _) hprocess', ?_⟩
  refine ⟨Link.of_gone hgone', hshadows'.node, hshadows'.toMme, ?_, hshadows'.ue,
    hshadows'.gtpSock, hshadows'.traffic⟩
  simp only [hgone', Link.put_false]
  exact hshadows'.toEnb.trans Link.prefix_put

/-- The responses that the MME cannot send are lost; those of the other system are under way. -/
theorem Shadows.onMmeUnsent {rand : Octets 16} (hshadows : Shadows s r) (hgone : s.linkUp = false)
    (hrunning : r.mmeRunning = true) (hround : s.onMmeUnsent K P rand = some s') :
    ∃ r', r.onMme K P rand = some r' ∧ Shadows s' r' := by
  obtain ⟨⟨responses, s₁⟩, hprocess, hunsent⟩ := Option.bind_eq_some_iff.mp hround
  obtain ⟨r₁, hprocess', hshadows', hgone'⟩ := hshadows.process hgone hrunning hprocess
  refine ⟨_, congrArg (Option.map _) hprocess', ?_⟩
  simp only [hgone'] at hunsent
  split at hunsent
  next =>
    cases hunsent
    exact ⟨Link.of_gone rfl, hshadows'.node, hshadows'.toMme,
      hshadows'.toEnb.trans Link.prefix_put, hshadows'.ue, hshadows'.gtpSock, hshadows'.traffic⟩
  next => cases hunsent

/-! ### User data -/

theorem Shadows.deliver {k : Nat} (hshadows : Shadows s r) (hgone : s.linkUp = false)
    (hdeliver : s.deliver setup k = some s') :
    ∃ r', r.deliver setup k = some r' ∧ Shadows s' r' := by
  rw [System.deliver] at hdeliver
  split at hdeliver
  · cases hdeliver
  next d hd =>
    rw [hshadows.traffic] at hd
    split at hdeliver
    next hupf =>
      cases hdeliver
      refine ⟨{ r with traffic := r.traffic.receive r.node.2.routing setup.upfSocket d }, ?_, ?_⟩
      · simp only [System.deliver, hd, hupf, if_true]
      · refine ⟨Link.of_gone hgone, hshadows.node, hshadows.toMme, hshadows.toEnb, hshadows.ue,
          hshadows.gtpSock, ?_⟩
        rw [hshadows.node, hshadows.traffic]
    next hother =>
      split at hdeliver
      next henb =>
        cases hdeliver
        refine ⟨{ r with gtpSock := r.gtpSock ++ [d.octets] }, ?_, ?_⟩
        · simp only [System.deliver, hd]
          rw [if_neg hother, if_pos henb]
        · exact ⟨Link.of_gone hgone, hshadows.node, hshadows.toMme, hshadows.toEnb, hshadows.ue,
            congrArg (· ++ [d.octets]) hshadows.gtpSock, hshadows.traffic⟩
      next => cases hdeliver

theorem Shadows.echo (hshadows : Shadows s r) (hgone : s.linkUp = false)
    (hecho : s.echo = some s') : ∃ r', r.echo = some r' ∧ Shadows s' r' := by
  obtain ⟨traffic, htraffic, rfl⟩ := Option.map_eq_some_iff.mp hecho
  rw [hshadows.traffic] at htraffic
  refine ⟨_, congrArg (Option.map _) htraffic, ?_⟩
  exact ⟨Link.of_gone hgone, hshadows.node, hshadows.toMme, hshadows.toEnb, hshadows.ue,
    hshadows.gtpSock, rfl⟩

theorem Shadows.encapsulate (hshadows : Shadows s r) (hgone : s.linkUp = false)
    (hencapsulate : s.encapsulate setup = some s') :
    ∃ r', r.encapsulate setup = some r' ∧ Shadows s' r' := by
  obtain ⟨traffic, htraffic, rfl⟩ := Option.map_eq_some_iff.mp hencapsulate
  rw [hshadows.traffic, hshadows.node] at htraffic
  refine ⟨_, congrArg (Option.map _) htraffic, ?_⟩
  exact ⟨Link.of_gone hgone, hshadows.node, hshadows.toMme, hshadows.toEnb, hshadows.ue,
    hshadows.gtpSock, rfl⟩

/-- Whatever a system without its association does, the other can do as well. -/
theorem Shadows.lockstep {st : Stage} (hshadows : Shadows s r) (hgone : s.linkUp = false)
    (hfollows : Follows P setup r st) (hcuts : event.cuts = false)
    (hnotices : event.notices = false) (hstep : step? K P setup s event = some s') :
    ∃ r', step? K P setup r event = some r' ∧ Shadows s' r' := by
  cases event with
  | start => exact hshadows.startUe hgone hstep
  | send => exact hshadows.send hgone hstep
  | mme rand => exact hshadows.onMme hgone hfollows.running hstep
  | receive => exact hshadows.receive hgone hstep
  | transmit => exact hshadows.transmit hgone hstep
  | transmitFails => exact hshadows.transmitFails hgone hstep
  | deliver k => exact hshadows.deliver hgone hstep
  | echo => exact hshadows.echo hgone hstep
  | encapsulate => exact hshadows.encapsulate hgone hstep
  | takeDatagram => exact hshadows.takeDatagram hgone hstep
  | timeout => exact hshadows.timeOut hgone hstep
  | cut atMme atEnb => cases hcuts
  | _ => cases hnotices

end Shadows

/-! ## What is left of the association -/

section Linked

variable {τ υ : Type} {K : RouteMaps τ υ} {P : Primitives} {setup : Setup} {s s' : System τ υ}
  {event : Event}

/-- It can still be lost, and its ends can still notice. -/
def System.linked (s : System τ υ) : Nat :=
  s.linkUp.toNat + s.mmeRunning.toNat + (!s.ue.progress.cutOff).toNat

/-- An event may bring no end back that has gone, and no UE that has failed. -/
structure Frames (s s' : System τ υ) : Prop where
  linkUp : s'.linkUp = s.linkUp
  running : s'.mmeRunning = true → s.mmeRunning = true
  lost : s.ue.progress.lost = true → s'.ue.progress = s.ue.progress

theorem frames_of_ue {u : UeTask} {toEnb gtpSock : List (List UInt8)} {traffic : Traffic}
    (hlive : s.ue.progress.lost = false) :
    Frames s { s with ue := u, toEnb := toEnb, gtpSock := gtpSock, traffic := traffic } :=
  ⟨rfl, fun hrunning => hrunning, fun hlost => by cases hlive.symm.trans hlost⟩

theorem frames_step (hcuts : event.cuts = false) (hnotices : event.notices = false)
    (hstep : step? K P setup s event = some s') : Frames s s' := by
  cases event with
  | start | receive | transmit | transmitFails | takeDatagram | timeout =>
      rw [step?] at hstep
      obtain ⟨-, hnext⟩ := exists_of_resume hstep
      split at hnext <;> cases hnext
      refine frames_of_ue ?_
      simp only [*, Progress.lost]
  | send =>
      rw [step?, System.send] at hstep
      split at hstep <;> cases hstep
      exact ⟨rfl, fun hrunning => hrunning, fun _ => rfl⟩
  | mme rand =>
      obtain ⟨⟨responses, s₁⟩, hprocess, rfl⟩ := Option.map_eq_some_iff.mp hstep
      rw [System.process] at hprocess
      split at hprocess
      next hrunning _ =>
        simp only at hprocess
        split at hprocess <;> cases hprocess <;> exact ⟨rfl, fun _ => hrunning, fun _ => rfl⟩
      next => cases hprocess
  | deliver k =>
      rw [step?, System.deliver] at hstep
      split at hstep
      · cases hstep
      · split at hstep
        · cases hstep
          exact ⟨rfl, fun hrunning => hrunning, fun _ => rfl⟩
        · split at hstep <;> cases hstep
          exact ⟨rfl, fun hrunning => hrunning, fun _ => rfl⟩
  | echo | encapsulate =>
      obtain ⟨traffic, -, rfl⟩ := Option.map_eq_some_iff.mp hstep
      exact ⟨rfl, fun hrunning => hrunning, fun _ => rfl⟩
  | cut atMme atEnb => cases hcuts
  | _ => cases hnotices

theorem Progress.lost_of_cutOff {progress : Progress} (hcutOff : progress.cutOff = true) :
    progress.lost = true := by
  cases progress with
  | failed error => rfl
  | _ => cases hcutOff

theorem Frames.linked_le (hframes : Frames s s') : s'.linked ≤ s.linked := by
  have hrunning : s'.mmeRunning.toNat ≤ s.mmeRunning.toNat := Bool.toNat_le_toNat hframes.running
  have hcutOff : (!s'.ue.progress.cutOff).toNat ≤ (!s.ue.progress.cutOff).toNat := by
    cases hbefore : s.ue.progress.cutOff with
    | false => exact Bool.toNat_le _
    | true => rw [hframes.lost (Progress.lost_of_cutOff hbefore), hbefore]
  rw [System.linked, System.linked, hframes.linkUp]
  omega

theorem UeError.ofLink_ofEnding (ending : LinkEnding) : (ofEnding ending).ofLink = true := by
  cases ending <;> rfl

theorem exists_of_onMmeUnsent {rand : Octets 16} (hround : s.onMmeUnsent K P rand = some s') :
    s.mmeRunning = true ∧ s'.mmeRunning = false ∧ s'.linkUp = s.linkUp ∧ s'.ue = s.ue := by
  obtain ⟨⟨responses, s₁⟩, hprocess, hunsent⟩ := Option.bind_eq_some_iff.mp hround
  have hkeeps : s.mmeRunning = true ∧ s₁.linkUp = s.linkUp ∧ s₁.ue = s.ue := by
    rw [System.process] at hprocess
    split at hprocess
    next hrunning _ =>
      simp only at hprocess
      split at hprocess <;> cases hprocess <;> exact ⟨hrunning, rfl, rfl⟩
    next => cases hprocess
  simp only at hunsent
  split at hunsent <;> cases hunsent
  exact ⟨hkeeps.1, rfl, hkeeps.2⟩

/-- Each end notices once. -/
theorem linked_lt (hnotices : event.notices = true)
    (hkept : s.ue.outbox ≠ [] → s.ue.progress.cutOff = false)
    (hstep : step? K P setup s event = some s') : s'.linked < s.linked := by
  cases event with
  | mmeLinkEnds =>
      rw [step?, System.onMmeLinkEnds] at hstep
      split at hstep <;> cases hstep
      next hrunning _ _ =>
        simp only [System.linked, hrunning, Bool.toNat_true, Bool.toNat_false]
        omega
  | mmeSendFails rand =>
      obtain ⟨hrunning, hended, hlink, hue⟩ := exists_of_onMmeUnsent hstep
      simp only [System.linked, hrunning, hended, hlink, hue, Bool.toNat_true, Bool.toNat_false]
      omega
  | linkEnds ending =>
      rw [step?] at hstep
      obtain ⟨-, hnext⟩ := exists_of_resume hstep
      split at hnext <;> cases hnext
      next hprogress _ =>
        have hended : Progress.cutOff (.failed (.ofEnding ending)) = true :=
          UeError.ofLink_ofEnding ending
        have hlive : s.ue.progress.cutOff = false := by
          rw [hprogress]
          rfl
        simp only [System.linked, UeTask.cutOff, UeTask.fail, hended, hlive, Bool.not_true,
          Bool.not_false, Bool.toNat_true, Bool.toNat_false]
        omega
  | sendFails =>
      rw [step?, System.sendFails] at hstep
      split at hstep <;> cases hstep
      next houtbox =>
        have hended : Progress.cutOff (.failed .sendFailed) = true := rfl
        have hlive := hkept (by rw [houtbox]; exact List.cons_ne_nil _ _)
        simp only [System.linked, UeTask.cutOff, UeTask.fail, hended, hlive, Bool.not_true,
          Bool.not_false, Bool.toNat_true, Bool.toNat_false]
        omega
  | _ => cases hnotices

end Linked

/-! ## Every schedule -/

section Schedules

variable {τ υ : Type} {K : RouteMaps τ υ} {P : Primitives} {setup : Setup} {s s' r r' : System τ υ}
  {st st' : Stage} {event : Event}

/-- What an event does to a system, to the one beside it and to the life cycle. -/
structure Matched (P : Primitives) (setup : Setup) (s s' r r' : System τ υ) (st st' : Stage)
    (event : Event) : Prop where
  shadows : Shadows s' r'
  follows : Follows P setup r' st'
  moves : Relation.ReflGen Stage.Next st st'
  lighter : weight r' st' + event.control.toNat ≤ weight r st
  linked : s'.linked + (event.cuts || event.notices).toNat ≤ s.linked

/-- A UE at a stage of its life cycle is not cut off. -/
theorem cutOff_progress (setup : Setup) (st : Stage) : (st.progress setup).cutOff = false := by
  cases st with
  | attached rand confirmed activity =>
      cases activity with
      | stranded why => cases why <;> rfl
      | _ => rfl
  | _ => rfl

theorem Follows.cutOff_eq_false (hfollows : Follows P setup r st) :
    r.ue.progress.cutOff = false := by
  rw [hfollows.task.progress]
  exact cutOff_progress setup st

/-- The association is lost. -/
theorem Shadows.cut (hshadows : Shadows s r) (hfollows : Follows P setup r st) {atMme atEnb : Nat}
    (hcut : s.cut atMme atEnb = some s') :
    Matched P setup s s' r r st st (.cut atMme atEnb) := by
  rw [System.cut] at hcut
  split at hcut
  next hup =>
    cases hcut
    cases hshadows.up hup
    refine ⟨⟨Link.of_gone rfl, rfl, List.take_prefix .., List.take_prefix .., Or.inl rfl, rfl, rfl⟩,
      hfollows, .refl, le_refl _, ?_⟩
    simp only [System.linked, hup, Event.cuts, Bool.toNat_true, Bool.toNat_false, Bool.true_or]
    omega
  next => cases hcut

/-- An end notices that the association is gone. -/
theorem Shadows.exists_noticed (hshadows : Shadows s r) (hfollows : Follows P setup r st)
    (hgone : s.linkUp = false) (hnotices : event.notices = true)
    (hstep : step? K P setup s event = some s') :
    ∃ r' st', Matched P setup s s' r r' st st' event := by
  have hlinked : s'.linked + (event.cuts || event.notices).toNat ≤ s.linked := by
    rw [hnotices, Bool.or_true, Bool.toNat_true]
    refine linked_lt hnotices (fun houtbox => ?_) hstep
    rw [hshadows.ue_of_outbox houtbox]
    exact hfollows.cutOff_eq_false
  cases event with
  | mmeLinkEnds =>
      rw [step?, System.onMmeLinkEnds] at hstep
      split at hstep <;> cases hstep
      exact ⟨r, st, ⟨Link.of_gone hgone, hshadows.node, hshadows.toMme, hshadows.toEnb,
        hshadows.ue, hshadows.gtpSock, hshadows.traffic⟩, hfollows, .refl, le_refl _, hlinked⟩
  | mmeSendFails rand =>
      obtain ⟨r', hround, hshadows'⟩ := hshadows.onMmeUnsent hgone hfollows.running hstep
      have hmme : (Event.mme rand).cuts = false := rfl
      obtain ⟨st', hstepped⟩ := hfollows.exists_step hmme hround
      exact ⟨r', st', hshadows', hstepped.follows, hstepped.moves,
        (Nat.le_add_right _ _).trans hstepped.lighter, hlinked⟩
  | linkEnds ending =>
      rw [step?] at hstep
      obtain ⟨-, hnext⟩ := exists_of_resume hstep
      split at hnext <;> cases hnext
      exact ⟨r, st, hshadows.cutOff hgone (UeError.ofLink_ofEnding ending) s.ue, hfollows, .refl,
        le_refl _, hlinked⟩
  | sendFails =>
      rw [step?, System.sendFails] at hstep
      split at hstep <;> cases hstep
      exact ⟨r, st, hshadows.cutOff hgone rfl s.ue, hfollows, .refl, le_refl _, hlinked⟩
  | _ => cases hnotices

/-- Every event of the system is at most one step of the life cycle. -/
theorem Shadows.exists_step (hshadows : Shadows s r) (hfollows : Follows P setup r st)
    (hstep : step? K P setup s event = some s') :
    ∃ r' st', Matched P setup s s' r r' st st' event := by
  by_cases hcuts : event.cuts = true
  · cases event with
    | cut atMme atEnb => exact ⟨r, st, hshadows.cut hfollows hstep⟩
    | _ => cases hcuts
  by_cases hnotices : event.notices = true
  · cases hup : s.linkUp with
    | false => exact hshadows.exists_noticed hfollows hup hnotices hstep
    | true =>
        cases hshadows.up hup
        rw [hfollows.not_notices hnotices] at hstep
        cases hstep
  rw [Bool.not_eq_true] at hcuts hnotices
  have hlinked := (frames_step hcuts hnotices hstep).linked_le
  have hmatched : ∀ r', step? K P setup r event = some r' → Shadows s' r' →
      ∃ r' st', Matched P setup s s' r r' st st' event := by
    intro r' hstep' hshadows'
    obtain ⟨st', hstepped⟩ := hfollows.exists_step hcuts hstep'
    refine ⟨r', st', hshadows', hstepped.follows, hstepped.moves, hstepped.lighter, ?_⟩
    rw [hcuts, hnotices]
    exact hlinked
  cases hup : s.linkUp with
  | false =>
      obtain ⟨r', hstep', hshadows'⟩ := hshadows.lockstep hup hfollows hcuts hnotices hstep
      exact hmatched r' hstep' hshadows'
  | true =>
      cases hshadows.up hup
      exact hmatched s' hstep (.refl s')

/-- After every schedule the system goes along with one whose association holds, which is at a stage
of the life cycle that it has reached step by step. -/
theorem exists_shadows (K : RouteMaps τ υ) (P : Primitives) (setup : Setup)
    (schedule : List Event) :
    ∃ r st, Shadows (after K P setup schedule) r ∧ Follows P setup r st ∧
      Relation.ReflTransGen Stage.Next .idle st := by
  refine Family.run_invariant (fun s => ∃ r st, Shadows s r ∧ Follows P setup r st ∧
    Relation.ReflTransGen Stage.Next .idle st) ?_ ?_ schedule
  · exact ⟨_, .idle, .refl _, follows_init, .refl⟩
  · rintro s event ⟨r, st, hshadows, hfollows, hreached⟩
    rw [Enb.step]
    cases hstep : step? K P setup s event with
    | none => exact ⟨r, st, hshadows, hfollows, hreached⟩
    | some s' =>
        obtain ⟨r', st', hmatched⟩ := hshadows.exists_step hfollows hstep
        exact ⟨r', st', hmatched.shadows, hmatched.follows,
          hreached.trans hmatched.moves.to_reflTransGen⟩

/-- The system is at a stage of the life cycle, but for what has not arrived before the association
was lost, and for a UE that has noticed. -/
structure Tracks (P : Primitives) (setup : Setup) (s : System τ υ) (st : Stage) : Prop where
  held : s.linkUp = true → Follows P setup s st
  node : NodeAt P setup st s.node
  task : TaskAt P setup st s.ue ∨ s.linkUp = false ∧ CutOff s.ue
  up : ∃ lost, Mux.Decodes decodeS1apPdu (s.toMme ++ lost) (st.up P setup)
  down : ∃ lost, Mux.Decodes decodeS1apPdu (s.toEnb ++ lost) (st.down P setup)
  data : DataAt setup st s.traffic s.gtpSock

theorem Shadows.tracks (hshadows : Shadows s r) (hfollows : Follows P setup r st) :
    Tracks P setup s st where
  held := fun hup => by
    rw [hshadows.up hup]
    exact hfollows
  node := by
    rw [hshadows.node]
    exact hfollows.node
  task := by
    cases hup : s.linkUp with
    | true =>
        rw [hshadows.up hup]
        exact Or.inl hfollows.task
    | false =>
        rcases hshadows.ue with hue | hcutOff
        · rw [hue]
          exact Or.inl hfollows.task
        · exact Or.inr ⟨rfl, hcutOff⟩
  up := by
    obtain ⟨rest, hrest⟩ := hshadows.toMme
    refine ⟨rest ++ r.ue.outbox, ?_⟩
    rw [← List.append_assoc, hrest]
    exact hfollows.up
  down := by
    obtain ⟨rest, hrest⟩ := hshadows.toEnb
    refine ⟨rest, ?_⟩
    rw [hrest]
    exact hfollows.down
  data := by
    rw [hshadows.traffic, hshadows.gtpSock]
    exact hfollows.data

/-- A kind of events that find something to do. -/
def counts (K : RouteMaps τ υ) (P : Primitives) (setup : Setup) (kind : Event → Bool)
    (s : System τ υ) (event : Event) : Bool :=
  kind event && (step? K P setup s event).isSome

/-- Only so many events of a kind can happen, if each of them lowers a measure that no other event
raises. -/
theorem counted_le_measure (K : RouteMaps τ υ) (P : Primitives) (setup : Setup)
    (kind : Event → Bool) (measure : System τ υ → System τ υ → Stage → Nat)
    (hlower : ∀ {s s' r r' st st' event}, Matched P setup s s' r r' st st' event →
      measure s' r' st' + (kind event).toNat ≤ measure s r st) (schedule : List Event) :
    Family.counted (step K P setup) (counts K P setup kind) (init setup) schedule ≤
      measure (init setup) (init setup) .idle := by
  refine Family.counted_le (fun s n => ∃ r st, Shadows s r ∧ Follows P setup r st ∧
    measure s r st ≤ n) ?_ ⟨_, .idle, .refl _, follows_init, le_refl _⟩ schedule
  rintro s event n ⟨r, st, hshadows, hfollows, hmeasure⟩
  rw [Enb.step, counts]
  cases hstep : step? K P setup s event with
  | none => exact ⟨n, ⟨r, st, hshadows, hfollows, hmeasure⟩, by simp⟩
  | some s' =>
      obtain ⟨r', st', hmatched⟩ := hshadows.exists_step hfollows hstep
      have hlower' := hlower hmatched
      refine ⟨measure s' r' st', ⟨r', st', hmatched.shadows, hmatched.follows, le_refl _⟩, ?_⟩
      cases hkind : kind event with
      | true =>
          rw [hkind, Bool.toNat_true] at hlower'
          simp only [Option.isSome_some, Bool.and_true, if_true]
          omega
      | false =>
          rw [hkind, Bool.toNat_false] at hlower'
          simp only [Bool.false_and, Bool.false_eq_true, if_false]
          omega

end Schedules

end Midn.Sim.Enb
