import Midn.Core.Amf.Procedure
import Midn.Core.Amf.Resources
import Midn.Sim.Bearer

/-!
# The 5G core with its user plane

The node that plays AMF and UPF applies every event of the AMF to its session manager. The two
planes stay in step exactly as long as the AMF does not abandon a tunnel, or rename the subscriber
of one, without telling the user plane.
-/

namespace Midn.Sim.N3

open Midn.Core Midn.Core.Amf Ecs Userplane

variable {τ υ : Type} (K : RouteMaps τ υ) (P : Primitives)

/-- Apply one event of the AMF to the session manager. -/
def applyN3Event (upf : SessionManager τ υ) : N3Event → SessionManager τ υ
  | .createSession ulTeid entityId imsi _ qfi ueIp gnbAddr =>
      upf.createSessionWithTeid K ulTeid entityId imsi ueIp gnbAddr qfi
  | .updateBearer ulTeid dlTeid gnbAddr => (upf.updateBearerInfo K ulTeid dlTeid gnbAddr).2
  | .removeSession ulTeid => (upf.removeSession K ulTeid).2

/-- The AMF and the session manager of one node. -/
abbrev Node (τ υ : Type) := Amf × SessionManager τ υ

/-- A fresh node in phase B, with or without a program loaded in the kernel. -/
def Node.new (upfAddr : Octets 4) (bpf : Option (BpfHandle τ υ)) : Node τ υ :=
  (Amf.new (some upfAddr), { (SessionManager.new : SessionManager τ υ) with bpf := bpf })

/-- Process one input and apply the events in order. -/
def step : Node τ υ → Input → Node τ υ × Output :=
  Mealy.feeding (Amf.step P) fun upf output => output.2.foldl (applyN3Event K) upf

/-- The request abandons no tunnel, hands out no TEID in use, and gives no entity with a tunnel
another IMSI. -/
def StaysInStep (amf : Amf) : Request → Prop
  | .register _ _ => ∀ t, amf.world.tunnel? amf.world.spawn.1 = some t →
      ∀ identity, amf.world.identity? amf.world.spawn.1 = some identity → identity.imsi = 0
  | .challenge e _ imsi _ _ => ∀ t, amf.world.tunnel? e = some t →
      ∀ identity, amf.world.identity? e = some identity → identity.imsi = imsi
  | .securityModeComplete e _ => (∃ identity, amf.world.identity? e = some identity) →
      ∀ e' t, amf.world.tunnel? e' = some t → (e' = e ↔ t.ulTeid = amf.teidAllocator.alloc.1)
  | _ => True

/-- What holds of a node of this kind whether or not its planes are in step. -/
def Sane (node : Node τ υ) : Prop := node.1.phaseBUpf.isSome = true ∧ node.2.Coherent

section Step

variable {K P} {amf : Amf} {upf : SessionManager τ υ} {input : Input}

theorem coherent_applyN3Event (hcoherent : upf.Coherent) (event : N3Event) :
    (applyN3Event K upf event).Coherent := by
  cases event with
  | createSession ulTeid entityId imsi pduSessionId qfi ueIp gnbAddr =>
      exact SessionManager.coherent_install hcoherent ulTeid entityId imsi ueIp 0 gnbAddr qfi
  | updateBearer ulTeid dlTeid gnbAddr =>
      exact SessionManager.coherent_updateBearerInfo hcoherent ulTeid dlTeid gnbAddr
  | removeSession ulTeid => exact SessionManager.coherent_removeSession hcoherent ulTeid

theorem coherent_foldl (hcoherent : upf.Coherent) (events : List N3Event) :
    (events.foldl (applyN3Event K) upf).Coherent := by
  induction events generalizing upf with
  | nil => exact hcoherent
  | cons event events ih => exact ih (coherent_applyN3Event hcoherent event)

theorem sane_step (hsane : Sane (amf, upf)) : Sane (step K P (amf, upf) input).1 := by
  obtain ⟨hphase, hcoherent⟩ := hsane
  constructor
  · rw [step, Mealy.feeding, phaseBUpf_step]
    exact hphase
  · exact coherent_foldl hcoherent _

/-- Nothing that a step leaves as it was puts the planes out of step. -/
theorem inStep_of_unchanged {w' : World} {upf' : SessionManager τ υ}
    (hcore : coreBearer w' = coreBearer amf.world) (hupf : upf' = upf)
    (hinStep : InStep amf.world upf) : InStep w' upf' := by
  rw [InStep, hcore, hupf]
  exact hinStep

/-- Rewriting the identity of one entity keeps the planes in step exactly if its bearer, should
it have one, keeps the IMSI. -/
theorem inStep_reidentified_iff (hinStep : InStep amf.world upf) {w' : World} {e : EntityId}
    {identity : IdentityComponent}
    (hidentity : w'.identity? = Function.update amf.world.identity? e (some identity))
    (htunnel : w'.tunnel? = amf.world.tunnel?) :
    InStep w' upf ↔ ∀ t, amf.world.tunnel? e = some t →
      ∀ old, amf.world.identity? e = some old → old.imsi = identity.imsi := by
  have hcore := coreBearer_of_update hidentity
    (htunnel.trans (Function.update_eq_self e amf.world.tunnel?).symm)
  cases hnone : amf.world.tunnel? e with
  | none =>
      rw [hnone, bearerOf_no_tunnel, ← coreBearer_of_no_tunnel hnone,
        Function.update_eq_self] at hcore
      refine iff_of_true (inStep_of_unchanged hcore rfl hinStep) ?_
      intro t ht
      cases ht
  | some t =>
      obtain ⟨old, hold⟩ := identity?_of_tunnel? hnone
      let before : Bearer := ⟨e, old.imsi, t.ulTeid, t.dlTeid, t.enbAddr⟩
      let after : Bearer := ⟨e, identity.imsi, t.ulTeid, t.dlTeid, t.enbAddr⟩
      have hbearer : coreBearer amf.world before.entityId = some before :=
        coreBearer_of_tunnel? hold hnone
      rw [hnone, bearerOf] at hcore
      rw [InStep, and_iff_right hinStep.1, hcore]
      have howner : after.entityId = before.entityId := rfl
      have hkey : after.ulTeid = before.ulTeid := rfl
      refine (Index.paired_rewrite_left_iff hinStep.2 hbearer howner hkey).trans ?_
      constructor
      · intro hsame t' _ old' hold'
        cases hold.symm.trans hold'
        exact (congrArg Bearer.imsi hsame).symm
      · intro hkept
        simp only [after, before, hkept t rfl old hold]

/-- A tunnel with its session keeps the planes in step exactly if it replaces the tunnel of its
entity and the session of its TEID together, or neither. -/
theorem inStep_opened_iff (hinStep : InStep amf.world upf) {w' : World}
    {upf' : SessionManager τ υ} {e : EntityId} {identity : IdentityComponent} {ulTeid : UInt32}
    (hlive : amf.world.identity? e = some identity)
    (hidentity : w'.identity? = amf.world.identity?)
    (htunnel : w'.tunnel? = Function.update amf.world.tunnel? e
      (some ⟨ulTeid, 0, Octets.zeros 4⟩)) {ueIp : Octets 4}
    (hsessions : upf'.sessions = Function.update upf.sessions ulTeid
      (some ⟨e, identity.imsi, ulTeid, 0, ueIp, Octets.zeros 4, true, 0, 0⟩)) :
    InStep w' upf' ↔
      ∀ e' t, amf.world.tunnel? e' = some t → (e' = e ↔ t.ulTeid = ulTeid) := by
  let opened : Bearer := ⟨e, identity.imsi, ulTeid, 0, Octets.zeros 4⟩
  have hcore := coreBearer_of_update
    (hidentity.trans (Function.update_eq_self e amf.world.identity?).symm) htunnel
  have hupf := upfBearer_of_update hsessions
  have hkeyed : Keyed upf' := by
    apply hinStep.1.of_update hsessions
    intro s hs
    cases hs
    rfl
  rw [hlive, bearerOf] at hcore
  rw [InStep, and_iff_right hkeyed, hcore, hupf]
  refine (Index.paired_store_iff hinStep.2 opened).trans ?_
  constructor
  · intro hreplaces e' t ht
    obtain ⟨identity', hidentity'⟩ := identity?_of_tunnel? ht
    exact hreplaces ⟨e', identity'.imsi, t.ulTeid, t.dlTeid, t.enbAddr⟩
      (coreBearer_of_tunnel? hidentity' ht)
  · intro hreplaces b hb
    obtain ⟨-, t, ht, hteid⟩ := entityId_of_coreBearer hb
    rw [← hteid]
    exact hreplaces b.entityId t ht

/-- Updating the far end of a tunnel on both sides keeps them in step. -/
theorem inStep_updated (hinStep : InStep amf.world upf) {w' : World} {upf' : SessionManager τ υ}
    {e : EntityId} {t : TunnelComponent} (ht : amf.world.tunnel? e = some t)
    (hidentity : w'.identity? = amf.world.identity?) {dlTeid : UInt32} {gnbAddr : Octets 4}
    (htunnel : w'.tunnel? = Function.update amf.world.tunnel? e
      (some ⟨t.ulTeid, dlTeid, gnbAddr⟩))
    (hsessions : upf'.sessions = Function.update upf.sessions t.ulTeid
      ((upf.sessions t.ulTeid).map fun s => { s with dlTeid := dlTeid, enbAddr := gnbAddr })) :
    InStep w' upf' := by
  obtain ⟨identity, hlive⟩ := identity?_of_tunnel? ht
  let before : Bearer := ⟨e, identity.imsi, t.ulTeid, t.dlTeid, t.enbAddr⟩
  let after : Bearer := ⟨e, identity.imsi, t.ulTeid, dlTeid, gnbAddr⟩
  have hbefore : coreBearer amf.world after.entityId = some before := coreBearer_of_tunnel? hlive ht
  -- the session that goes with the tunnel is the one rewritten
  obtain ⟨s, hs, hbearer⟩ := Option.map_eq_some_iff.mp ((hinStep.2 before).mp hbefore)
  have hafter : sessionBearer { s with dlTeid := dlTeid, enbAddr := gnbAddr } = after := by
    simp only [sessionBearer, before, Bearer.mk.injEq] at hbearer
    simp only [sessionBearer, after, hbearer]
  have hteid : s.ulTeid = t.ulTeid := hinStep.1 _ _ hs
  have hcore := coreBearer_of_update
    (hidentity.trans (Function.update_eq_self e amf.world.identity?).symm) htunnel
  rw [hs, Option.map_some] at hsessions
  have hupf := upfBearer_of_update hsessions
  rw [hlive, bearerOf] at hcore
  rw [Option.map_some, hafter] at hupf
  refine ⟨hinStep.1.of_update hsessions ?_, ?_⟩
  · intro s' hs'
    cases hs'
    exact hteid
  · have howner : before.entityId = after.entityId := rfl
    have hkey : before.ulTeid = after.ulTeid := rfl
    rw [hcore, hupf]
    exact Index.paired_rewrite hinStep.2 hbefore howner hkey

/-- Removing a tunnel with its session keeps the planes in step. -/
theorem inStep_removed (hinStep : InStep amf.world upf) {w' : World} {upf' : SessionManager τ υ}
    {e : EntityId} {t : TunnelComponent} (ht : amf.world.tunnel? e = some t)
    (hidentity : w'.identity? = Function.update amf.world.identity? e none)
    (htunnel : w'.tunnel? = Function.update amf.world.tunnel? e none)
    (hsessions : upf'.sessions = Function.update upf.sessions t.ulTeid none) :
    InStep w' upf' := by
  obtain ⟨identity, hlive⟩ := identity?_of_tunnel? ht
  let removed : Bearer := ⟨e, identity.imsi, t.ulTeid, t.dlTeid, t.enbAddr⟩
  have hbefore : coreBearer amf.world removed.entityId = some removed :=
    coreBearer_of_tunnel? hlive ht
  have hcore := coreBearer_of_update hidentity htunnel
  have hupf := upfBearer_of_update hsessions
  rw [bearerOf_no_tunnel] at hcore
  rw [Option.map_none] at hupf
  refine ⟨hinStep.1.of_update hsessions ?_, ?_⟩
  · intro s' hs'
    cases hs'
  · rw [hcore, hupf]
    exact Index.paired_remove hinStep.2 hbefore

variable (K P input) in
/-- A step that changes no bearer and emits no event keeps the planes in step. -/
theorem inStep_step_of_unchanged (hinStep : InStep amf.world upf)
    (hcore : coreBearer (Amf.step P amf input).1.world = coreBearer amf.world)
    (hevents : (request P amf input).events amf = []) :
    InStep (step K P (amf, upf) input).1.1.world (step K P (amf, upf) input).1.2 := by
  refine inStep_of_unchanged hcore ?_ hinStep
  rw [step, Mealy.feeding, (resources_step P amf input).events_eq, hevents, List.foldl_nil]

variable (P amf input) in
theorem coreBearer_step_of_unchanged
    (hidentity : (request P amf input).identities amf = amf.world.identity?)
    (htunnel : (request P amf input).tunnels amf = amf.world.tunnel?) :
    coreBearer (Amf.step P amf input).1.world = coreBearer amf.world := by
  funext e
  rw [coreBearer, identity?_step, tunnel?_step, hidentity, htunnel, coreBearer]

/-- A step keeps the planes in step exactly when its request does. -/
theorem inStep_step_iff (hsane : Sane (amf, upf)) (hinStep : InStep amf.world upf) :
    InStep (step K P (amf, upf) input).1.1.world (step K P (amf, upf) input).1.2 ↔
      StaysInStep amf (request P amf input) := by
  obtain ⟨hsome, hcoherent⟩ := hsane
  have hphase : ∃ upfAddr, amf.phaseBUpf = some upfAddr := Option.isSome_iff_exists.mp hsome
  obtain ⟨upfAddr, hphase⟩ := hphase
  have hidentity := identity?_step P amf input
  have htunnel := tunnel?_step P amf input
  have hsame := coreBearer_step_of_unchanged P amf input
  have hunchanged := inStep_step_of_unchanged K P input hinStep
  have hupf : (step K P (amf, upf) input).1.2 =
      ((request P amf input).events amf).foldl (applyN3Event K) upf := by
    rw [step, Mealy.feeding, (resources_step P amf input).events_eq]
  cases hrequest : request P amf input with
  | register ran plmn =>
      rw [hrequest] at hidentity htunnel hupf
      rw [hupf]
      exact inStep_reidentified_iff hinStep hidentity htunnel
  | challenge e ran imsi authInfo hss =>
      rw [hrequest] at hidentity htunnel hupf hsame hunchanged
      cases hlive : amf.world.identity? e with
      | none =>
          -- the entity is gone, and only a live one has a bearer
          have hnone : (Request.challenge e ran imsi authInfo hss).identities amf =
              amf.world.identity? := by
            rw [Request.identities, hlive, Option.map_none, ← hlive, Function.update_eq_self]
          refine iff_of_true (hunchanged (hsame hnone rfl) rfl) ?_
          intro t ht
          obtain ⟨identity, hsome⟩ := identity?_of_tunnel? ht
          cases hlive.symm.trans hsome
      | some old =>
          rw [Request.identities, hlive, Option.map_some] at hidentity
          rw [hupf]
          exact inStep_reidentified_iff hinStep hidentity htunnel
  | securityModeComplete e ran =>
      rw [hrequest] at hidentity htunnel hupf hsame hunchanged
      cases hlive : amf.world.identity? e with
      | none =>
          refine iff_of_true (hunchanged (hsame rfl ?_) ?_) ?_
          · simp only [Request.tunnels, hlive]
          · simp only [Request.events, hlive]
          · rintro ⟨identity, hsome⟩
            cases hlive.symm.trans hsome
      | some identity =>
          simp only [Request.tunnels, hlive, hphase] at htunnel
          simp only [Request.events, hlive, hphase, List.foldl_cons, List.foldl_nil] at hupf
          rw [hupf]
          refine (inStep_opened_iff hinStep hlive hidentity htunnel rfl).trans ?_
          constructor
          · exact fun hreplaces _ => hreplaces
          · exact fun hreplaces => hreplaces ⟨identity, hlive⟩
  | contextSetup resp =>
      rw [hrequest] at hidentity htunnel hupf hsame hunchanged
      refine iff_of_true ?_ trivial
      cases hsessions : resp.pduSessionsSetup with
      | nil =>
          refine hunchanged (hsame rfl ?_) ?_
          · simp only [Request.tunnels, hsessions]
          · simp only [Request.events, hsessions]
      | cons session rest =>
          cases ht : amf.world.tunnel? resp.amfUeNgapId with
          | none =>
              refine hunchanged (hsame rfl ?_) ?_
              · simp only [Request.tunnels, hsessions, ht, Option.map_none]
                rw [← ht, Function.update_eq_self]
              · simp only [Request.events, hsessions, ht]
          | some t =>
              simp only [Request.tunnels, hsessions, ht, Option.map_some] at htunnel
              simp only [Request.events, hsessions, ht, List.foldl_cons, List.foldl_nil] at hupf
              rw [hupf]
              exact inStep_updated hinStep ht hidentity htunnel
                (sessions_updateBearerInfo hcoherent ..)
  | release msg =>
      rw [hrequest] at hidentity htunnel hupf hunchanged
      refine iff_of_true ?_ trivial
      -- the entity loses its identity even if it has no bearer to remove
      cases ht : amf.world.tunnel? msg.amfUeNgapId with
      | none =>
          have hcore := coreBearer_of_update hidentity htunnel
          rw [bearerOf_no_tunnel, ← coreBearer_of_no_tunnel ht, Function.update_eq_self] at hcore
          refine hunchanged hcore ?_
          simp only [Request.events, ht]
      | some t =>
          simp only [Request.events, ht, List.foldl_cons, List.foldl_nil] at hupf
          rw [hupf]
          exact inStep_removed hinStep ht hidentity htunnel sessions_removeSession
  | _ =>
      rw [hrequest] at hsame hunchanged
      exact iff_of_true (hunchanged (hsame rfl rfl) rfl) trivial

end Step

theorem sane_new (upfAddr : Octets 4) (bpf : Option (BpfHandle τ υ)) :
    Sane (Node.new upfAddr bpf) :=
  ⟨rfl, fun _ => rfl⟩

theorem inStep_new (upfAddr : Octets 4) (bpf : Option (BpfHandle τ υ)) :
    InStep (Node.new upfAddr bpf).1.world (Node.new upfAddr bpf).2 := by
  constructor
  · intro ulTeid s hs
    cases hs
  · intro b
    have hnone : coreBearer (Node.new upfAddr bpf).1.world b.entityId = none := by
      apply coreBearer_of_no_tunnel
      exact congrArg (Option.bind · Entity.tunnel) (World.get?_new b.entityId)
    rw [hnone]
    constructor
    · intro hbearer
      cases hbearer
    · intro hsession
      cases hsession

/-- In a run of a node in phase B the planes are in step in all states exactly when no request
abandons a tunnel, is handed a TEID in use, or renames the subscriber of a tunnel. -/
theorem inStep_iff (upfAddr : Octets 4) (bpf : Option (BpfHandle τ υ)) (inputs : List Input) :
    (∀ node ∈ Mealy.states (step K P) (Node.new upfAddr bpf) inputs,
        InStep node.1.world node.2) ↔
      Mealy.Always (step K P) (Node.new upfAddr bpf) inputs
        fun _ t => StaysInStep t.pre.1 (request P t.pre.1 t.input) := by
  refine Mealy.forall_mem_states_iff Sane (sane_new upfAddr bpf) (inStep_new upfAddr bpf) ?_ ?_
  · intro node input hsane _ _
    exact sane_step hsane
  · intro node input hsane hinStep
    exact inStep_step_iff hsane hinStep

/-- A second SecurityModeComplete abandons the tunnel of the first. -/
theorem not_staysInStep_of_secured {amf : Amf} {upfAddr : Octets 4}
    (hphase : amf.phaseBUpf = some upfAddr) {identity : IdentityComponent}
    (hlive : amf.world.identity? 0 = some identity) (hfree : amf.teidAllocator.free = []) :
    ¬ StaysInStep (Amf.step P amf completeSecurity).1 (.securityModeComplete 0 1) := by
  intro hstays
  have hidentity := congrFun (identity?_step P amf completeSecurity) 0
  have htunnel := congrFun (tunnel?_step P amf completeSecurity) 0
  have hallocator := (resources_step P amf completeSecurity).teidAllocator
  rw [request_completeSecurity] at hidentity htunnel hallocator
  simp only [Request.tunnels, hlive, hphase, Function.update_self] at htunnel
  simp only [Request.allocator, hlive, hphase] at hallocator
  have hreused := (hstays ⟨identity, hidentity.trans hlive⟩ 0 _ htunnel).mp rfl
  simp only [hallocator, TeidAllocator.alloc, hfree] at hreused
  have hnat := congrArg UInt32.toNat hreused
  rw [UInt32.toNat_add] at hnat
  have hbound := amf.teidAllocator.next.toNat_lt
  have hone : UInt32.toNat 1 = 1 := rfl
  omega

/-- A UE in phase B repeats its SecurityModeComplete. -/
def secureTwice : List Input := [registerTest, completeSecurity, completeSecurity]

/-- The session of its first tunnel stays behind. -/
theorem secureTwice_out_of_step :
    ¬ ∃ P : Primitives,
      ∀ node ∈ Mealy.states (step .unbounded P) (Node.new (Octets.zeros 4) none) secureTwice,
        InStep node.1.world node.2 := by
  rintro ⟨P, hlaw⟩
  obtain ⟨-, hsteps⟩ := Mealy.forall_mem_states.mp hlaw
  have hregistered := get?_registerTest P (show (Amf.new (some (Octets.zeros 4))).world = .new
    from rfl)
  have hlive : (Amf.step P (Amf.new (some (Octets.zeros 4))) registerTest).1.world.identity? 0 =
      some ⟨0, 1, Octets.zeros 4⟩ := congrArg (Option.map Entity.identity) hregistered
  have hphase := phaseBUpf_step P (Amf.new (some (Octets.zeros 4))) registerTest
  have hallocator := (resources_step P (Amf.new (some (Octets.zeros 4))) registerTest).teidAllocator
  rw [request_registerTest] at hallocator
  have hfree : (Amf.step P (Amf.new (some (Octets.zeros 4))) registerTest).1.teidAllocator.free =
      [] := congrArg TeidAllocator.free hallocator
  have hsane : Sane (step .unbounded P (step .unbounded P (Node.new (Octets.zeros 4) none)
      registerTest).1 completeSecurity).1 := sane_step (sane_step (sane_new _ _))
  have hstays := (inStep_step_iff hsane (hsteps [_] _ [_] rfl)).mp (hsteps [_, _] _ [] rfl)
  rw [request_completeSecurity] at hstays
  exact not_staysInStep_of_secured P hphase hlive hfree hstays

end Midn.Sim.N3
