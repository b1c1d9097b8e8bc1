import Midn.Core.Amf.Lifecycle

/-!
# What a step does to the resources of the AMF

The registry, the TEID allocator, the identities and tunnels of the entities and the events for
the user plane after a request, as functions of the state before it.
-/

namespace Midn.Core.Amf

open Ecs Nas5gs Ngap

variable (P : Primitives)

/-- The registry after a request. -/
def Request.registry (amf : Amf) : Request → ImsiRegistry
  | .challenge entity _ imsi _ _ =>
      match amf.world.identity? entity with
      | some _ => amf.registry.register imsi entity
      | none => amf.registry
  | .release msg =>
      match amf.world.identity? msg.amfUeNgapId with
      | some identity => amf.registry.deregister identity.imsi
      | none => amf.registry
  | _ => amf.registry

/-- The allocator after a request. -/
def Request.allocator (amf : Amf) : Request → TeidAllocator
  | .securityModeComplete entity _ =>
      match amf.world.identity? entity, amf.phaseBUpf with
      | some _, some _ => amf.teidAllocator.alloc.2
      | _, _ => amf.teidAllocator
  | .release msg =>
      match amf.world.tunnel? msg.amfUeNgapId with
      | some t => amf.teidAllocator.release t.ulTeid
      | none => amf.teidAllocator
  | _ => amf.teidAllocator

/-- The events a request emits. -/
def Request.events (amf : Amf) : Request → List N3Event
  | .securityModeComplete entity _ =>
      match amf.world.identity? entity, amf.phaseBUpf with
      | some identity, some _ =>
          [.createSession amf.teidAllocator.alloc.1 entity identity.imsi defaultPduSessionId
            defaultQfi (sessionUeIp entity) (Octets.zeros 4)]
      | _, _ => []
  | .contextSetup resp =>
      match resp.pduSessionsSetup, amf.world.tunnel? resp.amfUeNgapId with
      | session :: _, some t =>
          [.updateBearer t.ulTeid (UInt32.fromBeBytes session.gtpTeid)
            session.transportLayerAddr]
      | _, _ => []
  | .release msg =>
      match amf.world.tunnel? msg.amfUeNgapId with
      | some t => [.removeSession t.ulTeid]
      | none => []
  | _ => []

/-- The identities after a request. -/
def Request.identities (amf : Amf) : Request → EntityId → Option IdentityComponent
  | .register ranUeNgapId _ =>
      Function.update amf.world.identity? amf.world.spawn.1
        (some ⟨0, ranUeNgapId, Octets.zeros 4⟩)
  | .challenge entity ranUeNgapId imsi _ _ =>
      Function.update amf.world.identity? entity
        ((amf.world.identity? entity).map fun _ => ⟨imsi, ranUeNgapId, Octets.zeros 4⟩)
  | .release msg => Function.update amf.world.identity? msg.amfUeNgapId none
  | _ => amf.world.identity?

/-- The tunnels after a request. -/
def Request.tunnels (amf : Amf) : Request → EntityId → Option TunnelComponent
  | .securityModeComplete entity _ =>
      match amf.world.identity? entity, amf.phaseBUpf with
      | some _, some _ =>
          Function.update amf.world.tunnel? entity
            (some ⟨amf.teidAllocator.alloc.1, 0, Octets.zeros 4⟩)
      | _, _ => amf.world.tunnel?
  | .contextSetup resp =>
      match resp.pduSessionsSetup with
      | [] => amf.world.tunnel?
      | session :: _ =>
          Function.update amf.world.tunnel? resp.amfUeNgapId
            ((amf.world.tunnel? resp.amfUeNgapId).map fun t =>
              ⟨t.ulTeid, UInt32.fromBeBytes session.gtpTeid, session.transportLayerAddr⟩)
  | .release msg => Function.update amf.world.tunnel? msg.amfUeNgapId none
  | _ => amf.world.tunnel?

section Perform

variable (amf : Amf) (r : Request)

/-- What a state and the events emitted on the way to it are after a request. -/
structure Resources (amf' : Amf) (events : List N3Event) : Prop where
  registry : amf'.registry = r.registry amf
  teidAllocator : amf'.teidAllocator = r.allocator amf
  phaseBUpf : amf'.phaseBUpf = amf.phaseBUpf
  events_eq : events = r.events amf

theorem resources_perform : Resources amf r (perform P amf r).1 (perform P amf r).2.2 := by
  cases r with
  | challenge entity ran imsi authInfo hss =>
      cases hentity : amf.world.get? entity with
      | none =>
          have hidentity := World.identity?_of_none hentity
          have hsecurity := World.security5g?_of_none hentity
          simp only [perform, issueChallenge, hsecurity]
          exact ⟨by simp only [Request.registry, hidentity], rfl, rfl, rfl⟩
      | some n =>
          have hidentity := World.identity?_of_some hentity
          have hsecurity := World.security5g?_of_some hentity
          simp only [perform, issueChallenge, hsecurity]
          exact ⟨by simp only [Request.registry, hidentity], rfl, rfl, rfl⟩
  | authResponse entity ran resStar =>
      simp only [perform, verifyResponse]
      split
      · exact ⟨rfl, rfl, rfl, rfl⟩
      · split <;> exact ⟨rfl, rfl, rfl, rfl⟩
  | securityModeComplete entity ran =>
      cases hentity : amf.world.get? entity with
      | none =>
          have hidentity := World.identity?_of_none hentity
          have hallocator : Request.allocator amf (.securityModeComplete entity ran) =
              amf.teidAllocator := by
            simp only [Request.allocator, hidentity]
          have hevents : Request.events amf (.securityModeComplete entity ran) = [] := by
            simp only [Request.events, hidentity]
          simp only [perform, handleSecurityModeComplete, hidentity]
          exact ⟨rfl, hallocator.symm, rfl, hevents.symm⟩
      | some n =>
          have hidentity := World.identity?_of_some hentity
          have hsecurity := World.security5g?_of_some hentity
          simp only [perform, handleSecurityModeComplete, hidentity, hsecurity]
          cases hupf : amf.phaseBUpf with
          | none =>
              refine ⟨rfl, ?_, hupf.symm, ?_⟩
              · simp only [Request.allocator, hidentity, hupf]
              · simp only [Request.events, hidentity, hupf]
          | some upfAddr =>
              refine ⟨rfl, ?_, hupf.symm, ?_⟩
              · simp only [Request.allocator, hidentity, hupf]
              · simp only [Request.events, hidentity, hupf]
  | deregister entity ran switchOff =>
      simp only [perform, acceptDeregistration]
      split
      · split
        · exact ⟨rfl, rfl, rfl, rfl⟩
        · split <;> exact ⟨rfl, rfl, rfl, rfl⟩
      · exact ⟨rfl, rfl, rfl, rfl⟩
  | contextSetup resp =>
      simp only [perform, handleIcsResponse]
      split
      next hsessions => exact ⟨rfl, rfl, rfl, by simp only [Request.events, hsessions, silent]⟩
      next session rest hsessions =>
        cases htunnel : amf.world.tunnel? resp.amfUeNgapId with
        | none =>
            exact ⟨rfl, rfl, rfl, by simp only [Request.events, hsessions, htunnel, silent]⟩
        | some t => exact ⟨rfl, rfl, rfl, by simp only [Request.events, hsessions, htunnel]⟩
  | release msg =>
      simp only [perform, handleReleaseComplete]
      cases htunnel : amf.world.tunnel? msg.amfUeNgapId with
      | none =>
          exact ⟨rfl, by simp only [Request.allocator, htunnel], rfl, by
            simp only [Request.events, htunnel, silent]⟩
      | some t =>
          exact ⟨rfl, by simp only [Request.allocator, htunnel], rfl, by
            simp only [Request.events, htunnel]⟩
  | _ => exact ⟨rfl, rfl, rfl, rfl⟩

theorem identity?_perform : (perform P amf r).1.world.identity? = r.identities amf := by
  cases r with
  | register ran plmn => exact World.identity?_of_update (get?_requestIdentity amf ran plmn)
  | challenge e ran imsi authInfo hss =>
      have hidentity := World.identity?_of_update
        (get?_issueChallenge P amf ran e imsi authInfo hss)
      rw [Option.map_map] at hidentity
      simp only [perform, Request.identities, World.identity?, Option.map_map]
      exact hidentity
  | authResponse e ran resStar =>
      exact World.identity?_of_kept (get?_verifyResponse amf ran e resStar) fun _ => rfl
  | securityModeComplete e ran =>
      exact World.identity?_of_kept (get?_handleSecurityModeComplete P amf ran e) fun _ => rfl
  | deregister e ran switchOff =>
      refine World.identity?_of_kept (get?_acceptDeregistration P amf ran e switchOff) ?_
      intro n
      rw [deregistering]
      split <;> rfl
  | contextSetup resp =>
      refine World.identity?_of_kept (get?_handleIcsResponse amf resp) ?_
      intro n
      rw [connected]
      split <;> rfl
  | release msg => exact World.identity?_of_update (get?_handleReleaseComplete amf msg)
  | hssMut hss => rfl
  | ignored => rfl

theorem tunnel?_perform : (perform P amf r).1.world.tunnel? = r.tunnels amf := by
  cases r with
  | register ran plmn =>
      have htunnel := World.tunnel?_of_update (get?_requestIdentity amf ran plmn)
      have hcell : (some (registering ran plmn
          ((amf.world.get? amf.world.spawn.1).getD .empty))).bind Entity.tunnel =
          amf.world.tunnel? amf.world.spawn.1 := by
        rw [World.tunnel?]
        cases amf.world.get? amf.world.spawn.1 <;> rfl
      rw [hcell, Function.update_eq_self] at htunnel
      exact htunnel
  | challenge e ran imsi authInfo hss =>
      exact World.tunnel?_of_kept (get?_issueChallenge P amf ran e imsi authInfo hss) fun _ => rfl
  | authResponse e ran resStar =>
      exact World.tunnel?_of_kept (get?_verifyResponse amf ran e resStar) fun _ => rfl
  | securityModeComplete e ran =>
      have hget := get?_handleSecurityModeComplete P amf ran e
      have htunnel := World.tunnel?_of_update hget
      simp only [perform, Request.tunnels, World.identity?]
      cases hentity : amf.world.get? e with
      | none =>
          rw [hentity, Option.map_none, Option.bind_none] at htunnel
          have hdead := World.tunnel?_of_none hentity
          rw [← hdead, Function.update_eq_self] at htunnel
          exact htunnel
      | some n =>
          cases hupf : amf.phaseBUpf with
          | none => exact World.tunnel?_of_kept hget fun _ => by simp only [secured, hupf]
          | some upfAddr =>
              rw [hentity, Option.map_some, Option.bind_some] at htunnel
              simpa only [secured, hupf, Option.map_some] using htunnel
  | deregister e ran switchOff =>
      refine World.tunnel?_of_kept (get?_acceptDeregistration P amf ran e switchOff) ?_
      intro n
      rw [deregistering]
      split <;> rfl
  | contextSetup resp =>
      have htunnel := World.tunnel?_of_update (get?_handleIcsResponse amf resp)
      simp only [perform, Request.tunnels]
      cases hsessions : resp.pduSessionsSetup with
      | nil =>
          refine World.tunnel?_of_kept (get?_handleIcsResponse amf resp) ?_
          intro n
          simp only [connected, hsessions]
      | cons session rest =>
          rw [htunnel, World.tunnel?, Option.bind_map]
          simp only [Option.map_bind, Function.comp_def, connected, hsessions]
  | release msg => exact World.tunnel?_of_update (get?_handleReleaseComplete amf msg)
  | hssMut hss => rfl
  | ignored => rfl

end Perform

section Step

variable (amf : Amf) (input : Input)

/-- Opening an envelope changes nothing outside the NAS security contexts. -/
theorem resources_opened : (opened P amf input).registry = amf.registry ∧
    (opened P amf input).teidAllocator = amf.teidAllocator ∧
    (opened P amf input).phaseBUpf = amf.phaseBUpf := by
  unfold opened openUplink
  split
  · split
    · exact ⟨rfl, rfl, rfl⟩
    · split <;> exact ⟨rfl, rfl, rfl⟩
  · exact ⟨rfl, rfl, rfl⟩

theorem identity?_opened (e : EntityId) :
    (opened P amf input).world.identity? e = amf.world.identity? e := by
  rw [World.identity?, get?_opened, Option.map_map]
  rfl

theorem tunnel?_opened (e : EntityId) :
    (opened P amf input).world.tunnel? e = amf.world.tunnel? e := by
  rw [World.tunnel?, get?_opened, Option.bind_map]
  rfl

/-- What a step does outside the entities is what its request does in the state before it. -/
theorem resources_step :
    Resources amf (request P amf input) (step P amf input).1 (step P amf input).2.2 := by
  obtain ⟨hregistry, hallocator, hupf⟩ := resources_opened P amf input
  obtain ⟨hregistry', hallocator', hupf', hevents'⟩ :=
    resources_perform P (opened P amf input) (request P amf input)
  rw [step_eq_perform]
  constructor
  · rw [hregistry']
    cases request P amf input <;> simp only [Request.registry, identity?_opened, hregistry]
  · rw [hallocator']
    cases request P amf input <;>
      simp only [Request.allocator, identity?_opened, tunnel?_opened, hallocator, hupf]
  · rw [hupf', hupf]
  · rw [hevents']
    cases request P amf input <;>
      simp only [Request.events, identity?_opened, tunnel?_opened, hallocator, hupf]

/-- The phase never changes. -/
theorem phaseBUpf_step : (step P amf input).1.phaseBUpf = amf.phaseBUpf :=
  (resources_step P amf input).phaseBUpf

theorem phaseBUpf_after (inputs : List Input) :
    (Mealy.after (step P) amf inputs).phaseBUpf = amf.phaseBUpf := by
  induction inputs generalizing amf with
  | nil => rfl
  | cons input inputs ih => rw [Mealy.after_cons, ih, phaseBUpf_step]

/-- Every state of a run is in the phase of the first. -/
theorem always_phaseBUpf (inputs : List Input) :
    Mealy.Always (step P) amf inputs fun _ t => t.pre.phaseBUpf = amf.phaseBUpf :=
  Mealy.always_of_invariant (fun _ amf' => amf'.phaseBUpf = amf.phaseBUpf) rfl
    (fun _ amf' input hphase _ => (phaseBUpf_step P amf' input).trans hphase)
    (fun _ _ _ hphase _ => hphase) fun _ _ _ _ => trivial

/-- The identities after a step are those after its request. -/
theorem identity?_step :
    (step P amf input).1.world.identity? = (request P amf input).identities amf := by
  have hopened : (opened P amf input).world.identity? = amf.world.identity? :=
    funext (identity?_opened P amf input)
  rw [step_eq_perform, identity?_perform]
  cases hrequest : request P amf input with
  | register ran plmn => rw [opened_of_register hrequest]
  | _ => simp only [Request.identities, hopened]

/-- The tunnels after a step are those after its request. -/
theorem tunnel?_step :
    (step P amf input).1.world.tunnel? = (request P amf input).tunnels amf := by
  have hopened : (opened P amf input).world.tunnel? = amf.world.tunnel? :=
    funext (tunnel?_opened P amf input)
  obtain ⟨-, hallocator, hupf⟩ := resources_opened P amf input
  rw [step_eq_perform, tunnel?_perform]
  cases request P amf input <;>
    simp only [Request.tunnels, hopened, identity?_opened, hallocator, hupf]

end Step

end Midn.Core.Amf
