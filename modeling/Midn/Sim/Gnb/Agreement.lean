import Midn.Crypto.Standard
import Midn.Sim.Gnb.LinkLoss

/-!
# What the parties of the simulator agree on

Whatever the order of events, and whenever the association is lost, no UE is let down by the gNodeB
or the core, the planes of the core agree on every bearer, and a UE that sends user data agrees with
both of them on who it is, on its keys and on its tunnel.
-/

namespace Midn.Sim.Gnb

open Midn.Core Midn.Core.Amf Ecs Nas5gs Ngap Userplane

section Stages

variable {P : Primitives} {setup : Setup} {i : Fin setup.nUes} {st : Stage}

theorem exists_givenUp_of_progress {error : UeError}
    (hprogress : st.progress setup = .failed error) : ∃ why, error = .ofGivenUp why := by
  cases st with
  | attached a confirmed activity =>
      cases activity with
      | stranded why =>
          cases hprogress
          exact ⟨why, rfl⟩
      | _ => cases hprogress
  | _ => cases hprogress

/-- The bearer of a UE is the same in both planes. -/
theorem bearerOf_components {e : EntityId} {n : Entity} (hentity : st.entity? = some e)
    (hn : st.components P setup i = some n) :
    bearerOf e (some n.identity) n.tunnel =
      (st.tunnel? setup i).map fun t => sessionBearer (t.session (setup.imsi i)) := by
  cases st with
  | attached a confirmed activity => cases confirmed <;> cases hn <;> cases hentity <;> rfl
  | idle => cases hentity
  | requesting => cases hentity
  | gone a => cases hentity
  | _ =>
      cases hn
      cases hentity
      rfl

end Stages

section Agreement

variable {τ υ : Type} {K : RouteMaps τ υ} {P : Primitives} {setup : Setup}
  {s : System setup.nUes τ υ} {f : Fin setup.nUes → Stage} {i : Fin setup.nUes}

/-- The bearer that the core has for the entity of a UE. -/
theorem Refines.coreBearer (hrefines : Refines P setup s f) {e : EntityId}
    (hentity : (f i).entity? = some e) :
    coreBearer s.node.1.world e =
      ((f i).tunnel? setup i).map fun t => sessionBearer (t.session (setup.imsi i)) := by
  obtain ⟨n, hn, -⟩ := exists_components P i hentity
  have hsome := (hrefines.follows.core i).entity e hentity
  rw [hn] at hsome
  rw [Sim.coreBearer, World.identity?_of_some hsome, World.tunnel?, hsome, Option.bind_some]
  exact bearerOf_components hentity hn

/-- The planes are in step. -/
theorem Refines.inStep (hrefines : Refines P setup s f) : InStep s.node.1.world s.node.2 := by
  have hsession : ∀ {teid session}, s.node.2.sessions teid = some session →
      ∃ j t, (f j).tunnel? setup j = some t ∧ t.admission.ulTeid = teid ∧
        t.session (setup.imsi j) = session := by
    intro teid session hfound
    obtain ⟨j, hentry⟩ := (hrefines.serves.sessions teid session).mp hfound
    obtain ⟨t, ht, heq⟩ := Option.map_eq_some_iff.mp hentry
    exact ⟨j, t, ht, congrArg Prod.fst heq, congrArg Prod.snd heq⟩
  constructor
  · intro teid session hfound
    obtain ⟨j, t, -, hteid, rfl⟩ := hsession hfound
    exact hteid
  · intro b
    constructor
    · intro hcore
      obtain ⟨hown, tunnel, htunnel, -⟩ := entityId_of_coreBearer hcore
      obtain ⟨n, hn, -⟩ := Option.bind_eq_some_iff.mp htunnel
      obtain ⟨j, hentity⟩ := hrefines.follows.owned _ n hn
      rw [hrefines.coreBearer hentity] at hcore
      obtain ⟨t, ht, rfl⟩ := Option.map_eq_some_iff.mp hcore
      have hfound := hrefines.serves.sessions.found (i := j)
        (k := t.admission.ulTeid) (r := t.session (setup.imsi j))
        (by rw [Stage.sessionEntry, ht]; rfl)
      exact congrArg (Option.map sessionBearer) hfound
    · intro hupf
      obtain ⟨session, hfound, rfl⟩ := Option.map_eq_some_iff.mp hupf
      obtain ⟨j, t, ht, -, rfl⟩ := hsession hfound
      have hentity := ((hrefines.follows.core j).tunnel? ht).2
      have hcore := hrefines.coreBearer hentity
      rw [ht] at hcore
      exact hcore

/-- What a UE with a session, the core and the user plane have in common. -/
structure Shared (P : Primitives) (setup : Setup) (s : System setup.nUes τ υ)
    (i : Fin setup.nUes) (upfAddr : Octets 4) (ulTeid : UInt32) (e : EntityId) (n : Entity)
    (kamf : Octets 32) : Prop where
  upfAddr : upfAddr = setup.upfIp
  amfUeNgapId : (s.ues i).amfUeNgapId = some e
  entity : s.node.1.world.get? e = some n
  imsi : n.identity.imsi = setup.imsi i
  ranUeNgapId : n.identity.enbUeS1apId = setup.ranUeNgapId i
  authenticated : n.auth = .authenticated
  ueKamf : (s.ues i).kamf = some kamf
  keys : ∃ ctx, n.nasSecurity5g = some ctx ∧
    ctx.SameKeys (.new P kamf selectedNasCipherAlg selectedNasIntegrityAlg)
  tunnel : ∃ t, n.tunnel = some t ∧ t.ulTeid = ulTeid
  session : ∃ session, s.node.2.sessions ulTeid = some session ∧ session.entityId = e ∧
    session.imsi = setup.imsi i

/-- A UE with a session shares it with the core and the user plane. -/
def Agrees (P : Primitives) (setup : Setup) (s : System setup.nUes τ υ)
    (i : Fin setup.nUes) : Prop :=
  match (s.ues i).progress with
  | .transmitting _ upfAddr ulTeid => ∃ e n kamf, Shared P setup s i upfAddr ulTeid e n kamf
  | .awaitingEcho _ upfAddr ulTeid => ∃ e n kamf, Shared P setup s i upfAddr ulTeid e n kamf
  | _ => True

/-- Confirmed or not, the entity of the UE has all that its challenge and its answer gave it. -/
theorem exists_components_attached (P : Primitives) (setup : Setup) (i : Fin setup.nUes)
    (a : Admission) (confirmed : Confirmed) (activity : Activity) :
    ∃ n, (Stage.attached a confirmed activity).components P setup i = some n ∧
      n.identity.imsi = setup.imsi i ∧ n.identity.enbUeS1apId = setup.ranUeNgapId i ∧
      n.auth = (securedUe P setup i a).auth ∧
      n.nasSecurity5g = (securedUe P setup i a).nasSecurity5g ∧
      ∃ t, n.tunnel = some t ∧ t.ulTeid = a.ulTeid := by
  cases confirmed <;> exact ⟨_, rfl, rfl, rfl, rfl, rfl, _, rfl, rfl⟩

theorem Refines.shared (hrefines : Refines P setup s f) {a : Admission} {confirmed : Confirmed}
    {activity : Activity} (hstage : f i = .attached a confirmed activity) :
    ∃ n, Shared P setup s i setup.upfIp a.ulTeid a.entity n
      (kamfFor P setup.ctx (setup.ueArgs i) a.rand) := by
  have htask := hrefines.follows.task i
  have hcore := hrefines.follows.core i
  rw [hstage] at htask hcore
  have hsession : ∃ t : Tunnel, (f i).tunnel? setup i = some t ∧ t.admission = a := by
    rw [hstage]
    cases confirmed <;> exact ⟨_, rfl, rfl⟩
  obtain ⟨t, ht, rfl⟩ := hsession
  obtain ⟨n, hn, himsi, hid, hauth, hcontext, hown⟩ :=
    exists_components_attached P setup i t.admission confirmed activity
  have hfound := hrefines.serves.sessions.found (i := i) (k := t.admission.ulTeid)
    (r := t.session (setup.imsi i)) (by rw [Stage.sessionEntry, ht]; rfl)
  have hmatch : (securedUe P setup i t.admission).auth = .authenticated :=
    if_pos (rfl : (challengedUe P setup i t.admission.rand).security5g.pendingXresStar =
      (challengedUe P setup i t.admission.rand).security5g.pendingXresStar)
  exact ⟨n,
    { upfAddr := rfl
      amfUeNgapId := htask.amfUeNgapId
      entity := (hcore.entity _ rfl).trans hn
      imsi := himsi
      ranUeNgapId := hid
      authenticated := hauth.trans hmatch
      ueKamf := htask.kamf
      keys := by
        refine ⟨_, hcontext, ?_⟩
        rw [kamfFor_eq]
        exact ⟨rfl, rfl, rfl, rfl⟩
      tunnel := hown
      session := ⟨_, hfound, rfl, rfl⟩ }⟩

theorem Refines.agrees (hrefines : Refines P setup s f) (i : Fin setup.nUes) :
    Agrees P setup s i := by
  rw [Agrees]
  split
  next sent upfAddr ulTeid hprogress =>
    obtain ⟨a, confirmed, attempt, hstage, -, rfl, rfl⟩ :=
      exists_sending_of_progress (hrefines.progress i hprogress)
    obtain ⟨n, hshared⟩ := hrefines.shared hstage
    exact ⟨_, n, _, hshared⟩
  next sent upfAddr ulTeid hprogress =>
    obtain ⟨a, confirmed, attempt, hstage, -, rfl, rfl⟩ :=
      exists_waiting_of_progress (hrefines.progress i hprogress)
    obtain ⟨n, hshared⟩ := hrefines.shared hstage
    exact ⟨_, n, _, hshared⟩
  · trivial

/-- A UE that sends user data has not noticed anything. -/
theorem Shadows.agrees {r : System setup.nUes τ υ} (hshadows : Shadows s r)
    (hagrees : Agrees P setup r i) : Agrees P setup s i := by
  have hshared : ∀ {upfAddr ulTeid}, s.ues i = r.ues i →
      (∃ e n kamf, Shared P setup r i upfAddr ulTeid e n kamf) →
      ∃ e n kamf, Shared P setup s i upfAddr ulTeid e n kamf := by
    rintro upfAddr ulTeid hue ⟨e, n, kamf, hshared⟩
    have hnode := hshadows.node
    refine ⟨e, n, kamf, hshared.upfAddr, ?_, ?_, hshared.imsi, hshared.ranUeNgapId,
      hshared.authenticated, ?_, hshared.keys, hshared.tunnel, ?_⟩
    · rw [hue]
      exact hshared.amfUeNgapId
    · rw [hnode]
      exact hshared.entity
    · rw [hue]
      exact hshared.ueKamf
    · rw [hnode]
      exact hshared.session
  rw [Agrees]
  split
  next sent upfAddr ulTeid hprogress =>
    have hue := hshadows.ue_of_ended (i := i) (by rw [UeTask.ended, hprogress]; rfl)
    rw [Agrees, ← hue, hprogress] at hagrees
    exact hshared hue hagrees
  next sent upfAddr ulTeid hprogress =>
    have hue := hshadows.ue_of_ended (i := i) (by rw [UeTask.ended, hprogress]; rfl)
    rw [Agrees, ← hue, hprogress] at hagrees
    exact hshared hue hagrees
  next => trivial

/-! ## Every schedule -/

/-- What may end a task other than the end of its life cycle: it gets no echo, its socket fails, or
it has lost the dispatcher. -/
def Excused {n : Nat} (s : System n τ υ) (error : UeError) : Prop :=
  (∃ why, error = .ofGivenUp why) ∨ error.ofDispatcher = true ∧ s.linkUp = false

variable (K P setup)

/-- Every schedule takes the UEs along their life cycles. The AMF stops only without its
association, and a UE fails only if it gets no echo, or because of its socket or the association. -/
theorem only_noEcho_after (schedule : List (Event setup.nUes)) :
    let s := after K P setup schedule
    (∃ f, Relation.ReflTransGen (Family.Moves Stage.Next) (fun _ => .idle) f ∧
        Tracks P setup s f) ∧
      (s.amfRunning = false → s.linkUp = false) ∧
      (s.joined = none → s.dispatching = false → s.linkUp = false) ∧
      (∀ i error, (s.ues i).progress = .failed error → Excused s error) ∧
      ∀ error, s.joined = some (some error) → Excused s error := by
  intro s
  obtain ⟨r, f, hshadows, hrefines, hreached⟩ := exists_shadows K P setup schedule
  have htracks := hshadows.tracks hrefines
  have hfailed : ∀ i error, (s.ues i).progress = .failed error → Excused s error := by
    intro i error hprogress
    rcases htracks.ues i with hgoing | ⟨hgone, -, error', hlink, hcutOff⟩
    · rw [hgoing.task.progress] at hprogress
      exact Or.inl (exists_givenUp_of_progress hprogress)
    · cases hprogress.symm.trans hcutOff
      exact Or.inr ⟨hlink, hgone⟩
  refine ⟨⟨f, hreached, htracks⟩, ?_, ?_, hfailed, ?_⟩
  · intro hended
    rw [← Bool.not_eq_true]
    intro hup
    cases (htracks.held hup).follows.running.symm.trans hended
  · intro hjoined hstopped
    rw [← Bool.not_eq_true]
    intro hup
    cases ((htracks.held hup).dispatching hjoined).symm.trans hstopped
  · intro error hjoined
    obtain ⟨herror, -⟩ := hshadows.joined _ hjoined
    obtain ⟨i, -, hfirst⟩ := List.exists_of_findSome?_eq_some herror.symm
    split at hfirst
    next hprogress =>
      cases hfirst
      exact hfailed i error hprogress
    · cases hfirst

/-- The first of two UEs fails to send because the dispatcher has lost the association. -/
theorem twoUes_cutOff :
    let first : Fin twoUes.nUes := ⟨0, by decide⟩
    let s := after .unbounded .standard twoUes
      [.start first, .cut 0 0, .dispatcherEnds, .sendFails first]
    (s.ues first).progress = .failed .dispatcherGone ∧ s.linkUp = false ∧
      ∃ f, Relation.ReflTransGen (Family.Moves Stage.Next) (fun _ => .idle) f ∧
        Tracks .standard twoUes s f := by
  intro first s
  have hprogress : (s.ues first).progress = .failed .dispatcherGone := by decide +kernel
  obtain ⟨htracks, -, -, hfailed, -⟩ := only_noEcho_after .unbounded .standard twoUes
    [.start first, .cut 0 0, .dispatcherEnds, .sendFails first]
  rcases hfailed first _ hprogress with ⟨why, hwhy⟩ | ⟨-, hgone⟩
  · cases why with
    | noEcho => cases hwhy
    | unsent => cases hwhy
  · exact ⟨hprogress, hgone, htracks⟩

/-- A UE with a session, the core and the user plane always agree. -/
theorem agrees_after (schedule : List (Event setup.nUes)) (i : Fin setup.nUes) :
    Agrees P setup (after K P setup schedule) i := by
  obtain ⟨r, f, hshadows, hrefines, -⟩ := exists_shadows K P setup schedule
  exact hshadows.agrees (hrefines.agrees i)

/-- The planes of the core agree on every bearer, no TEID is lost or lent twice, and no UE has two
entities. -/
theorem planes_after (schedule : List (Event setup.nUes)) :
    let s := after K P setup schedule
    InStep s.node.1.world s.node.2 ∧ (pool s.node.1).Conserved teidBase ∧
      ∀ e e' n n', s.node.1.world.get? e = some n → s.node.1.world.get? e' = some n' →
        n.identity.enbUeS1apId = n'.identity.enbUeS1apId → e = e' := by
  intro s
  obtain ⟨r, f, hshadows, hrefines, -⟩ := exists_shadows K P setup schedule
  rw [show s.node = r.node from hshadows.node]
  have hfollows := hrefines.follows
  refine ⟨hrefines.inStep, hrefines.leases.conserved, ?_⟩
  intro e e' n n' hn hn' hsame
  obtain ⟨i, hi⟩ := hfollows.owned e n hn
  obtain ⟨j, hj⟩ := hfollows.owned e' n' hn'
  obtain ⟨m, hm, hid⟩ := exists_components P i hi
  obtain ⟨m', hm', hid'⟩ := exists_components P j hj
  have hmine := ((hfollows.core i).entity e hi).symm.trans hn
  have hother := ((hfollows.core j).entity e' hj).symm.trans hn'
  rw [hm] at hmine
  rw [hm'] at hother
  cases hmine
  cases hother
  have hij : i = j := Setup.ranUeNgapId_injective (hid.symm.trans (hsame.trans hid'))
  subst hij
  exact Option.some.inj (hi.symm.trans hj)

end Agreement

end Midn.Sim.Gnb
