import Midn.Core.Mme.Lifecycle

/-!
# What a step does to the resources of the MME

The registry, the TEID allocator, the identities and tunnels of the entities and the events for
the user plane after a request, as functions of the state before it.
-/

namespace Midn.Core.Mme

open Ecs Nas S1ap

variable (P : Primitives)

/-- The registry after a request. -/
def Request.registry (mme : Mme) : Request → ImsiRegistry
  | .challenge _ _ imsi _ _ => mme.registry.register imsi mme.world.spawn.1
  | .release msg =>
      match mme.world.identity? msg.mmeUeS1apId with
      | some identity => mme.registry.deregister identity.imsi
      | none => mme.registry
  | _ => mme.registry

/-- The allocator after a request. -/
def Request.allocator (mme : Mme) : Request → TeidAllocator
  | .securityModeComplete entity _ =>
      match mme.world.identity? entity, mme.phase3Upf with
      | some _, some _ => mme.teidAllocator.alloc.2
      | _, _ => mme.teidAllocator
  | .release msg =>
      match mme.world.tunnel? msg.mmeUeS1apId with
      | some t => mme.teidAllocator.release t.ulTeid
      | none => mme.teidAllocator
  | _ => mme.teidAllocator

/-- The events a request emits. -/
def Request.events (mme : Mme) : Request → List UpfEvent
  | .securityModeComplete entity _ =>
      match mme.world.identity? entity, mme.phase3Upf with
      | some identity, some _ =>
          [.createSession mme.teidAllocator.alloc.1 entity identity.imsi identity.ueIp
            (Octets.zeros 4) 9]
      | _, _ => []
  | .contextSetup resp =>
      match resp.eRabsSetup, mme.world.tunnel? resp.mmeUeS1apId with
      | erab :: _, some t =>
          [.updateBearer t.ulTeid (UInt32.fromBeBytes erab.gtpTeid) erab.transportLayerAddr]
      | _, _ => []
  | .release msg =>
      match mme.world.tunnel? msg.mmeUeS1apId with
      | some t => [.removeSession t.ulTeid]
      | none => []
  | _ => []

/-- The identities after a request. -/
def Request.identities (mme : Mme) : Request → EntityId → Option IdentityComponent
  | .challenge enbUeS1apId _ imsi _ _ =>
      Function.update mme.world.identity? mme.world.spawn.1
        (some ⟨imsi, enbUeS1apId, Octets.zeros 4⟩)
  | .release msg => Function.update mme.world.identity? msg.mmeUeS1apId none
  | _ => mme.world.identity?

/-- The tunnels after a request. -/
def Request.tunnels (mme : Mme) : Request → EntityId → Option TunnelComponent
  | .securityModeComplete entity _ =>
      match mme.world.identity? entity, mme.phase3Upf with
      | some _, some _ =>
          Function.update mme.world.tunnel? entity
            (some ⟨mme.teidAllocator.alloc.1, 0, Octets.zeros 4⟩)
      | _, _ => mme.world.tunnel?
  | .contextSetup resp =>
      match resp.eRabsSetup with
      | [] => mme.world.tunnel?
      | erab :: _ =>
          Function.update mme.world.tunnel? resp.mmeUeS1apId
            ((mme.world.tunnel? resp.mmeUeS1apId).map fun t =>
              ⟨t.ulTeid, UInt32.fromBeBytes erab.gtpTeid, erab.transportLayerAddr⟩)
  | .release msg => Function.update mme.world.tunnel? msg.mmeUeS1apId none
  | _ => mme.world.tunnel?

section Perform

variable (mme : Mme) (r : Request)

/-- What a state and the events emitted on the way to it are after a request. -/
structure Resources (mme' : Mme) (events : List UpfEvent) : Prop where
  registry : mme'.registry = r.registry mme
  teidAllocator : mme'.teidAllocator = r.allocator mme
  phase3Upf : mme'.phase3Upf = mme.phase3Upf
  events_eq : events = r.events mme

theorem resources_perform : Resources mme r (perform P mme r).1 (perform P mme r).2.2 := by
  cases r with
  | authResponse entity enb res =>
      simp only [perform, verifyResponse]
      split
      · exact ⟨rfl, rfl, rfl, rfl⟩
      · split <;> exact ⟨rfl, rfl, rfl, rfl⟩
  | securityModeComplete entity enb =>
      cases hentity : mme.world.get? entity with
      | none =>
          have hidentity := World.identity?_of_none hentity
          have hallocator : Request.allocator mme (.securityModeComplete entity enb) =
              mme.teidAllocator := by
            simp only [Request.allocator, hidentity]
          have hevents : Request.events mme (.securityModeComplete entity enb) = [] := by
            simp only [Request.events, hidentity]
          simp only [perform, handleSecurityModeComplete, hidentity]
          exact ⟨rfl, hallocator.symm, rfl, hevents.symm⟩
      | some n =>
          have hidentity := World.identity?_of_some hentity
          have hsecurity := World.security?_of_some hentity
          simp only [perform, handleSecurityModeComplete, hidentity, hsecurity]
          cases hupf : mme.phase3Upf with
          | none =>
              refine ⟨rfl, ?_, hupf.symm, ?_⟩
              · simp only [Request.allocator, hidentity, hupf]
              · simp only [Request.events, hidentity, hupf]
          | some upfAddr =>
              refine ⟨rfl, ?_, hupf.symm, ?_⟩
              · simp only [Request.allocator, hidentity, hupf]
              · simp only [Request.events, hidentity, hupf]
  | detach entity enb switchOff =>
      simp only [perform, acceptDetach]
      split
      · split
        · exact ⟨rfl, rfl, rfl, rfl⟩
        · split <;> exact ⟨rfl, rfl, rfl, rfl⟩
      · exact ⟨rfl, rfl, rfl, rfl⟩
  | contextSetup resp =>
      simp only [perform, handleIcsrsp]
      split
      next hrabs => exact ⟨rfl, rfl, rfl, by simp only [Request.events, hrabs, silent]⟩
      next erab rest hrabs =>
        cases htunnel : mme.world.tunnel? resp.mmeUeS1apId with
        | none => exact ⟨rfl, rfl, rfl, by simp only [Request.events, hrabs, htunnel, silent]⟩
        | some t => exact ⟨rfl, rfl, rfl, by simp only [Request.events, hrabs, htunnel]⟩
  | release msg =>
      simp only [perform, handleReleaseComplete]
      cases htunnel : mme.world.tunnel? msg.mmeUeS1apId with
      | none =>
          exact ⟨rfl, by simp only [Request.allocator, htunnel], rfl, by
            simp only [Request.events, htunnel, silent]⟩
      | some t =>
          exact ⟨rfl, by simp only [Request.allocator, htunnel], rfl, by
            simp only [Request.events, htunnel]⟩
  | _ => exact ⟨rfl, rfl, rfl, rfl⟩

theorem identity?_perform : (perform P mme r).1.world.identity? = r.identities mme := by
  cases r with
  | challenge enb plmn imsi authInfo hss =>
      exact World.identity?_of_update (get?_issueChallenge mme enb plmn imsi authInfo hss)
  | authResponse e enb res =>
      exact World.identity?_of_kept (get?_verifyResponse mme enb e res) fun _ => rfl
  | securityModeComplete e enb =>
      exact World.identity?_of_kept (get?_handleSecurityModeComplete P mme enb e) fun _ => rfl
  | detach e enb switchOff =>
      refine World.identity?_of_kept (get?_acceptDetach P mme enb e switchOff) ?_
      intro n
      rw [detaching]
      split <;> rfl
  | contextSetup resp =>
      refine World.identity?_of_kept (get?_handleIcsrsp mme resp) ?_
      intro n
      rw [connected]
      split <;> rfl
  | release msg => exact World.identity?_of_update (get?_handleReleaseComplete mme msg)
  | hssMut hss => rfl
  | ignored => rfl

theorem tunnel?_perform : (perform P mme r).1.world.tunnel? = r.tunnels mme := by
  cases r with
  | challenge enb plmn imsi authInfo hss =>
      have htunnel := World.tunnel?_of_update
        (get?_issueChallenge mme enb plmn imsi authInfo hss)
      have hcell : (some (challenged enb plmn imsi authInfo
          ((mme.world.get? mme.world.spawn.1).getD .empty))).bind Entity.tunnel =
          mme.world.tunnel? mme.world.spawn.1 := by
        rw [World.tunnel?]
        cases mme.world.get? mme.world.spawn.1 <;> rfl
      rw [hcell, Function.update_eq_self] at htunnel
      exact htunnel
  | authResponse e enb res =>
      exact World.tunnel?_of_kept (get?_verifyResponse mme enb e res) fun _ => rfl
  | securityModeComplete e enb =>
      have hget := get?_handleSecurityModeComplete P mme enb e
      have htunnel := World.tunnel?_of_update hget
      simp only [perform, Request.tunnels, World.identity?]
      cases hentity : mme.world.get? e with
      | none =>
          rw [hentity, Option.map_none, Option.bind_none] at htunnel
          have hdead := World.tunnel?_of_none hentity
          rw [← hdead, Function.update_eq_self] at htunnel
          exact htunnel
      | some n =>
          cases hupf : mme.phase3Upf with
          | none => exact World.tunnel?_of_kept hget fun _ => by simp only [secured, hupf]
          | some upfAddr =>
              rw [hentity, Option.map_some, Option.bind_some] at htunnel
              simpa only [secured, hupf, Option.map_some] using htunnel
  | detach e enb switchOff =>
      refine World.tunnel?_of_kept (get?_acceptDetach P mme enb e switchOff) ?_
      intro n
      rw [detaching]
      split <;> rfl
  | contextSetup resp =>
      have htunnel := World.tunnel?_of_update (get?_handleIcsrsp mme resp)
      simp only [perform, Request.tunnels]
      cases hrabs : resp.eRabsSetup with
      | nil =>
          refine World.tunnel?_of_kept (get?_handleIcsrsp mme resp) ?_
          intro n
          simp only [connected, hrabs]
      | cons erab rest =>
          rw [htunnel, World.tunnel?, Option.bind_map]
          simp only [Option.map_bind, Function.comp_def, connected, hrabs]
  | release msg => exact World.tunnel?_of_update (get?_handleReleaseComplete mme msg)
  | hssMut hss => rfl
  | ignored => rfl

end Perform

section Step

variable (mme : Mme) (input : Input)

/-- Opening an envelope changes nothing outside the NAS security contexts. -/
theorem resources_opened : (opened P mme input).registry = mme.registry ∧
    (opened P mme input).teidAllocator = mme.teidAllocator ∧
    (opened P mme input).phase3Upf = mme.phase3Upf := by
  unfold opened openUplink
  split
  · split
    · exact ⟨rfl, rfl, rfl⟩
    · split <;> exact ⟨rfl, rfl, rfl⟩
  · exact ⟨rfl, rfl, rfl⟩

theorem identity?_opened (e : EntityId) :
    (opened P mme input).world.identity? e = mme.world.identity? e := by
  rw [World.identity?, get?_opened, Option.map_map]
  rfl

theorem tunnel?_opened (e : EntityId) :
    (opened P mme input).world.tunnel? e = mme.world.tunnel? e := by
  rw [World.tunnel?, get?_opened, Option.bind_map]
  rfl

/-- What a step does outside the entities is what its request does in the state before it. -/
theorem resources_step :
    Resources mme (request P mme input) (step P mme input).1 (step P mme input).2.2 := by
  obtain ⟨hregistry, hallocator, hupf⟩ := resources_opened P mme input
  have hresources := resources_perform P (opened P mme input) (request P mme input)
  rw [step_eq_perform]
  cases hrequest : request P mme input with
  | challenge enb plmn imsi authInfo hss =>
      rw [hrequest, opened_of_challenge hrequest] at hresources
      rw [opened_of_challenge hrequest]
      exact hresources
  | _ =>
      rw [hrequest] at hresources
      obtain ⟨hregistry', hallocator', hupf', hevents'⟩ := hresources
      constructor
      · rw [hregistry']
        simp only [Request.registry, identity?_opened, hregistry]
      · rw [hallocator']
        simp only [Request.allocator, identity?_opened, tunnel?_opened, hallocator, hupf]
      · rw [hupf', hupf]
      · rw [hevents']
        simp only [Request.events, identity?_opened, tunnel?_opened, hallocator, hupf]

/-- The phase never changes. -/
theorem phase3Upf_step : (step P mme input).1.phase3Upf = mme.phase3Upf :=
  (resources_step P mme input).phase3Upf

theorem phase3Upf_after (inputs : List Input) :
    (Mealy.after (step P) mme inputs).phase3Upf = mme.phase3Upf := by
  induction inputs generalizing mme with
  | nil => rfl
  | cons input inputs ih => rw [Mealy.after_cons, ih, phase3Upf_step]

/-- Every state of a run is in the phase of the first. -/
theorem always_phase3Upf (inputs : List Input) :
    Mealy.Always (step P) mme inputs fun _ t => t.pre.phase3Upf = mme.phase3Upf :=
  Mealy.always_of_invariant (fun _ mme' => mme'.phase3Upf = mme.phase3Upf) rfl
    (fun _ mme' input hphase _ => (phase3Upf_step P mme' input).trans hphase)
    (fun _ _ _ hphase _ => hphase) fun _ _ _ _ => trivial

/-- The identities after a step are those after its request. -/
theorem identity?_step :
    (step P mme input).1.world.identity? = (request P mme input).identities mme := by
  have hopened : (opened P mme input).world.identity? = mme.world.identity? :=
    funext (identity?_opened P mme input)
  rw [step_eq_perform, identity?_perform]
  cases hrequest : request P mme input with
  | challenge enb plmn imsi authInfo hss => rw [opened_of_challenge hrequest]
  | _ => simp only [Request.identities, hopened]

/-- The tunnels after a step are those after its request. -/
theorem tunnel?_step :
    (step P mme input).1.world.tunnel? = (request P mme input).tunnels mme := by
  have hopened : (opened P mme input).world.tunnel? = mme.world.tunnel? :=
    funext (tunnel?_opened P mme input)
  obtain ⟨-, hallocator, hupf⟩ := resources_opened P mme input
  rw [step_eq_perform, tunnel?_perform]
  cases request P mme input <;>
    simp only [Request.tunnels, hopened, identity?_opened, hallocator, hupf]

end Step

end Midn.Core.Mme
