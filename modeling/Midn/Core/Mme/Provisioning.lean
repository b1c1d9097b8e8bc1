import Midn.Core.Mme.Procedure

/-!
# Which subscribers the MME provisions

A subscriber is provisioned when it receives a NAS security context, a user-plane session, a
bearer or an AttachAccept. The handler of SecurityModeComplete is the only one that provisions,
and it provisions every live entity it is asked for.
-/

namespace Midn.Core.Mme

open Ecs Nas S1ap

variable (P : Primitives)

/-- What a UE reads in a NAS PDU, given the context the network holds after sending it. -/
def readDownlink (ctx? : Option NasSecurityContext) (pdu : List UInt8) : Option NasPdu :=
  match decodeNas pdu with
  | .ok message => some message
  | .error _ =>
      match ctx? with
      | none => none
      | some ctx =>
          match (decodeProtectedDownlink P { ctx with dlCount := ctx.dlCount - 1 } pdu
            nasBearer).1 with
          | none => none
          | some plain => (decodeNas plain).toOption

/-- A PDU with a nonzero security header type is no plain message. -/
theorem decodeNas_encodeProtected (ctx : NasSecurityContext) (plain : List UInt8) :
    ∃ err, decodeNas (encodeProtected P ctx shtIntegrityCiphered nasBearer plain).1 =
      .error err := by
  simp only [encodeProtected, encodeEnvelope, NasSecurityContext.protectDownlink,
    List.cons_append]
  generalize (ctx.protect P ctx.dlCount nasBearer .downlink plain).macI = macI
  obtain ⟨octets, hlength⟩ := macI
  obtain ⟨a, b, c, d, rfl⟩ := List.length_eq_four.mp hlength
  have hpd : ¬ ((shtIntegrityCiphered <<< 4) ||| nasEpsMmPd) &&& 0x0F ≠
      nasEpsMmPd &&& 0x0F := by decide
  have hsht : (((shtIntegrityCiphered <<< 4) ||| nasEpsMmPd) >>> 4) &&& 0x0F ≠ 0 := by decide
  simp only [List.Vector.toList_mk, List.cons_append, List.nil_append, decodeNas,
    if_neg hpd, if_pos hsht]
  exact ⟨_, rfl⟩

/-- The UE reads what the network wrapped. -/
theorem readDownlink_encodeProtected (ctx : NasSecurityContext) (plain : List UInt8) :
    readDownlink P (some (encodeProtected P ctx shtIntegrityCiphered nasBearer plain).2)
      (encodeProtected P ctx shtIntegrityCiphered nasBearer plain).1 =
      (decodeNas plain).toOption := by
  obtain ⟨err, herr⟩ := decodeNas_encodeProtected P ctx plain
  have hrewind : { (encodeProtected P ctx shtIntegrityCiphered nasBearer plain).2 with
      dlCount := (encodeProtected P ctx shtIntegrityCiphered nasBearer plain).2.dlCount - 1 } =
      ctx := by
    simp only [encodeProtected_ctx, UInt32.add_sub_cancel]
  have hopen := decodeProtectedDownlink_encodeProtected P (.refl ctx) rfl
    (show shtIntegrityCiphered ≠ 0 by decide) (by decide) nasBearer plain
  simp only [readDownlink, herr, hrewind, hopen]

/-- The messages a step sends to an entity, as its UE reads them. -/
def delivered (t : Transition) (e : EntityId) : List NasPdu :=
  (nasTo e t.output).filterMap (readDownlink P (t.post.world.nasSecurity? e))

/-- The step provisions the entity. -/
inductive Provisions (t : Transition) (e : EntityId) : Prop
  | context (ctx : NasSecurityContext) (hinstalls : Installs t e ctx)
  | session (ulTeid : UInt32) (imsi : UInt64) (ueIp enbAddr : Octets 4) (qci : UInt8)
      (hmem : .createSession ulTeid e imsi ueIp enbAddr qci ∈ t.output.2)
  | bearer (m : InitialContextSetupRequest) (hentity : m.mmeUeS1apId = e)
      (hmem : .initialContextSetupRequest m ∈ t.output.1)
  | accept (inner : DecodedAttachAccept) (hmem : .attachAccept inner ∈ delivered P t e)

variable {P} {mme : Mme} {input : Input} {e : EntityId}

/-- Only a SecurityModeComplete makes the UE read an AttachAccept. -/
theorem request_of_attachAccept_delivered {inner : DecodedAttachAccept}
    (hmem : .attachAccept inner ∈ delivered P (Mealy.transition (step P) mme input) e) :
    ∃ enb, request P mme input = .securityModeComplete e enb ∧ mme.world.isLive e = true := by
  obtain ⟨pdu, hpdu, hread⟩ := List.mem_filterMap.mp hmem
  simp only [Mealy.transition, nasTo_step] at hpdu hread
  split at hpdu
  next htarget =>
    cases hrequest : request P mme input with
    | challenge enb plmn imsi authInfo hss =>
        simp only [hrequest, Request.nas, Option.toList_some, List.mem_singleton] at hpdu
        subst hpdu
        simp [readDownlink, decodeNas_encodeAuthRequest] at hread
    | authResponse id enb res =>
        rw [hrequest] at hpdu
        cases hentity : mme.world.get? e with
        | none => simp [hentity, Request.nas] at hpdu
        | some n =>
            simp only [hentity, Option.map_some, Request.nas] at hpdu
            split at hpdu
            · simp only [Option.toList_some, List.mem_singleton] at hpdu
              subst hpdu
              simp [readDownlink, decodeNas_encodeSecModeCmd] at hread
            · simp at hpdu
    | securityModeComplete id enb =>
        rw [hrequest] at htarget hpdu
        cases htarget
        refine ⟨enb, rfl, ?_⟩
        rw [World.isLive_eq_isSome]
        cases hentity : mme.world.get? e with
        | none => simp [hentity, Request.nas] at hpdu
        | some n => rfl
    | detach id enb switchOff =>
        have hpost := get?_step P mme input e
        rw [if_pos htarget, hrequest] at hpost
        rw [hrequest] at hpdu
        cases hentity : mme.world.get? e with
        | none => simp [hentity, Request.nas] at hpdu
        | some n =>
            cases switchOff with
            | true => simp [hentity, Request.nas] at hpdu
            | false =>
                simp only [hentity, Option.map_some, Request.nas, Bool.false_eq_true, if_false,
                  Option.toList_some, List.mem_singleton, detachAcceptOf] at hpdu
                simp only [hentity, Option.map_some, Request.rewrite, detaching,
                  Bool.false_eq_true, if_false] at hpost
                simp only [World.nasSecurity?, hpost, Option.bind_some] at hread
                cases hctx : (reopen P input e n).nasSecurity with
                | none =>
                    simp only [hctx] at hpdu
                    subst hpdu
                    simp [readDownlink, decodeNas_encodeDetachAccept] at hread
                | some ctx =>
                    simp only [hctx] at hpdu
                    subst hpdu
                    simp only [hctx, Option.map_some, readDownlink_encodeProtected,
                      decodeNas_encodeDetachAccept] at hread
                    cases hread
    | _ => simp [hrequest, Request.nas] at hpdu
  next => cases hpdu

/-- A step provisions exactly the live entity whose SecurityModeComplete it processes. -/
theorem provisions_iff :
    Provisions P (Mealy.transition (step P) mme input) e ↔
      ∃ enb, request P mme input = .securityModeComplete e enb ∧ mme.world.isLive e = true := by
  constructor
  · rintro (⟨ctx, hinstalls⟩ | ⟨ulTeid, imsi, ueIp, enbAddr, qci, hmem⟩ | ⟨m, rfl, hmem⟩ |
      ⟨inner, hmem⟩)
    · obtain ⟨enb, n, hrequest, hn, _⟩ := request_of_installs P mme hinstalls
      exact ⟨enb, hrequest, World.isLive_of_some hn⟩
    · simp only [Mealy.transition, step_eq_perform] at hmem
      obtain ⟨enb, n, hrequest, hn, _⟩ := createSession_mem_perform P _ hmem
      refine ⟨enb, hrequest, ?_⟩
      rw [← isLive_opened P mme input, World.isLive_eq_isSome, hn,
        Option.isSome_some]
    · simp only [Mealy.transition, step_eq_perform] at hmem
      obtain ⟨enb, n, hrequest, hn, _⟩ := contextSetupRequest_mem_perform P _ hmem
      refine ⟨enb, hrequest, ?_⟩
      rw [← isLive_opened P mme input, World.isLive_eq_isSome, hn,
        Option.isSome_some]
    · exact request_of_attachAccept_delivered hmem
  · rintro ⟨enb, hrequest, hlive⟩
    rw [World.isLive_eq_isSome, Option.isSome_iff_exists] at hlive
    obtain ⟨n, hn⟩ := hlive
    have hpost := get?_step P mme input e
    have hnas := nasTo_step P mme input e
    rw [hrequest] at hpost hnas
    simp only [Request.target, if_true, hn, Option.map_some, Request.rewrite, Request.nas,
      Option.toList_some] at hpost hnas
    have hpdu : (attachAcceptOf P n).1 ∈ nasTo e (step P mme input).2 := by
      rw [hnas]
      exact List.mem_singleton.mpr rfl
    have hread : readDownlink P ((step P mme input).1.world.nasSecurity? e)
        (attachAcceptOf P n).1 =
          some (.attachAccept ⟨1 &&& 0x07 &&& 0x07, 0x54, none, some n.identity.ueIp, none⟩) := by
      simp only [World.nasSecurity?, hpost, Option.bind_some, secured]
      refine (readDownlink_encodeProtected P _ _).trans ?_
      exact congrArg Except.toOption (decodeNas_encodeAttachAccept 1 0x54 n.identity.ueIp)
    exact .accept _ (List.mem_filterMap.mpr ⟨_, hpdu, hread⟩)

variable (P)

/-- No SecurityModeComplete of a live entity that is not authenticated is processed. -/
def SecurityModeGated (t : Transition) : Prop :=
  ∀ e enb, request P t.pre t.input = .securityModeComplete e enb → t.pre.world.isLive e = true →
    t.pre.world.isAuthenticated e = true

/-- Only authenticated subscribers are provisioned. -/
def ProvisionsOnlyAuthenticated (t : Transition) : Prop :=
  ∀ e, Provisions P t e → t.pre.world.isAuthenticated e = true

/-- A run provisions only authenticated subscribers exactly when no SecurityModeComplete of an
unauthenticated entity is processed in it: the handler itself does not look. -/
theorem always_provisionsOnlyAuthenticated_iff (phase3Upf : Option (Octets 4))
    (inputs : List Input) :
    Mealy.Always (step P) (Mme.new phase3Upf) inputs
        (fun _ t => ProvisionsOnlyAuthenticated P t) ↔
      Mealy.Always (step P) (Mme.new phase3Upf) inputs (fun _ t => SecurityModeGated P t) := by
  refine Mealy.always_iff_of_invariant (fun _ _ => True) trivial (fun _ _ _ _ _ => trivial) ?_
  intro past mme input _
  constructor
  · intro hlaw e enb hrequest hlive
    exact hlaw e (provisions_iff.mpr ⟨enb, hrequest, hlive⟩)
  · intro hgated e hprovisions
    obtain ⟨enb, hrequest, hlive⟩ := provisions_iff.mp hprovisions
    exact hgated e enb hrequest hlive

/-- A UE that skips authentication: attach request, then SecurityModeComplete. -/
def skipAuthentication : List Input :=
  [provisionTest, attachTest, completeSecurity]

/-- Whatever the primitives, the UE that skips authentication is provisioned. -/
theorem skipAuthentication_provisions_unauthenticated :
    ¬ ∃ P : Primitives, Mealy.Always (step P) (Mme.new none) skipAuthentication
      fun _ t => ProvisionsOnlyAuthenticated P t := by
  rintro ⟨P, halways⟩
  have hlaw := halways [_, _] _ [] rfl 0
  have hattached := get?_attachTest P none
  have hrequest := request_completeSecurity P (step P (provisioned P none) attachTest).1
  have hlive := World.isLive_of_some hattached
  have hauthenticated := hlaw (provisions_iff.mpr ⟨1, hrequest, hlive⟩)
  have hchallenged : (step P (provisioned P none) attachTest).1.world.isAuthenticated 0 =
      false := by
    rw [World.isAuthenticated, World.authState, hattached]
    rfl
  exact absurd (hchallenged.symm.trans hauthenticated) Bool.false_ne_true

end Midn.Core.Mme
