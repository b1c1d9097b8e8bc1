import Midn.Proto.Ngap.Codec

/-!
# NGAP round trip

Whatever the encoder makes of a message is decoded to it, and a message whose fields are in their
ranges and whose container is short enough is encoded.
-/

namespace Midn.Ngap

open Midn.Per Midn.Per.PerReader Midn.Container

/-! ## Items of lists -/

section PduSessions

variable (s : PduSessionToSetup) (it : PduSessionSetupItem)

theorem undoes_writePduSessionToSetup :
    tape.Undoes (fun w => writePduSessionToSetup w s) readPduSessionToSetup s := by
  let session (id qfi : Nat) (gtpTeid transportLayerAddr : Octets 4) : PduSessionToSetup :=
    ⟨.ofNat id, .ofNat qfi, gtpTeid, transportLayerAddr⟩
  let afterQfi (id qfi : Nat) : PerRead PduSessionToSetup :=
    readArray 4 >>= fun gtpTeid => readArray 4 >>= fun transportLayerAddr =>
      pure (session id qfi gtpTeid transportLayerAddr)
  let afterId (id : Nat) : PerRead PduSessionToSetup :=
    readConstrainedInt 0 qfiMax >>= afterQfi id
  have hsession : session s.pduSessionId.toNat s.qfi.toNat s.gtpTeid s.transportLayerAddr = s := by
    simp only [session, UInt8.ofNat_toNat]
  have harrays := undoes_writeArrays s.gtpTeid s.transportLayerAddr
    (session s.pduSessionId.toNat s.qfi.toNat)
  rw [hsession] at harrays
  have hqfi := (undoes_writeUpTo s.qfi.toNat qfiMax (by decide)).bind
    (afterQfi s.pduSessionId.toNat) harrays
  have hid := (undoes_writeUpTo s.pduSessionId.toNat pduSessionIdMax (by decide)).bind afterId hqfi
  exact hid

variable {s} in
theorem grows_writePduSessionToSetup (hqfi : s.qfi.toNat ≤ qfiMax) {p : Nat} (hp : p % 8 = 0) :
    tape.Grows (fun w => writePduSessionToSetup w s) p (p + 80) := by
  have hid : s.pduSessionId.toNat ≤ pduSessionIdMax := Nat.le_of_lt_succ s.pduSessionId.toNat_lt
  have hall := (grows_writeUpTo (by decide) hid p).bind ((grows_writeUpTo (by decide) hqfi _).bind
    (grows_writeArrays s.gtpTeid s.transportLayerAddr _))
  have hstop : alignUp (constrainedEnd 0 qfiMax (constrainedEnd 0 pduSessionIdMax p)) +
      8 * (4 + 4) = p + 80 := by
    have hfields : constrainedEnd 0 qfiMax (constrainedEnd 0 pduSessionIdMax p) = p + 14 := rfl
    rw [hfields]
    unfold alignUp
    split <;> omega
  rw [hstop] at hall
  exact hall

variable {s} in
theorem covers_readPduSessionToSetup {r r' : PerReader}
    (hread : readPduSessionToSetup.run r = some (s, r')) :
    tape.Covers (fun w => writePduSessionToSetup w s) r r' := by
  obtain ⟨id, r₁, hid, hread⟩ := Tape.run_bind_eq_some.mp hread
  obtain ⟨qfi, r₂, hqfi, hread⟩ := Tape.run_bind_eq_some.mp hread
  obtain ⟨gtpTeid, transportLayerAddr, rfl, harrays⟩ := covers_readArrays hread
  obtain ⟨_, hidCovers⟩ := readUpTo_eq_some (by decide) hid
  obtain ⟨hqfiLt, hqfiCovers⟩ := readUpTo_eq_some (by decide) hqfi
  have hidLe : (UInt8.ofNat id).toNat ≤ pduSessionIdMax := Nat.le_of_lt_succ (UInt8.toNat_lt _)
  have hqfiLe : (UInt8.ofNat qfi).toNat ≤ qfiMax :=
    (toNat_ofNat_le8 qfi).trans (Nat.le_of_lt_succ hqfiLt)
  exact (hidCovers _ hidLe).trans ((hqfiCovers _ hqfiLe).trans harrays)

theorem undoes_writePduSessionSetupItem :
    tape.Undoes (fun w => writePduSessionSetupItem w it) readPduSessionSetupItem it := by
  let item (id : Nat) (transportLayerAddr gtpTeid : Octets 4) : PduSessionSetupItem :=
    ⟨.ofNat id, transportLayerAddr, gtpTeid⟩
  let afterId (id : Nat) : PerRead PduSessionSetupItem :=
    readArray 4 >>= fun transportLayerAddr => readArray 4 >>= fun gtpTeid =>
      pure (item id transportLayerAddr gtpTeid)
  have hitem : item it.pduSessionId.toNat it.transportLayerAddr it.gtpTeid = it := by
    simp only [item, UInt8.ofNat_toNat]
  have harrays := undoes_writeArrays it.transportLayerAddr it.gtpTeid (item it.pduSessionId.toNat)
  rw [hitem] at harrays
  have hid := (undoes_writeUpTo it.pduSessionId.toNat pduSessionIdMax (by decide)).bind afterId
    harrays
  exact hid

theorem grows_writePduSessionSetupItem {p : Nat} (hp : p % 8 = 0) :
    tape.Grows (fun w => writePduSessionSetupItem w it) p (p + 72) := by
  have hid : it.pduSessionId.toNat ≤ pduSessionIdMax := Nat.le_of_lt_succ it.pduSessionId.toNat_lt
  have hall := (grows_writeUpTo (by decide) hid p).bind
    (grows_writeArrays it.transportLayerAddr it.gtpTeid _)
  have hstop : alignUp (constrainedEnd 0 pduSessionIdMax p) + 8 * (4 + 4) = p + 72 := by
    have hfield : constrainedEnd 0 pduSessionIdMax p = p + 8 := rfl
    rw [hfield, alignUp_eq_self (by omega)]
  rw [hstop] at hall
  exact hall

variable {it} in
theorem covers_readPduSessionSetupItem {r r' : PerReader}
    (hread : readPduSessionSetupItem.run r = some (it, r')) :
    tape.Covers (fun w => writePduSessionSetupItem w it) r r' := by
  obtain ⟨id, r₁, hid, hread⟩ := Tape.run_bind_eq_some.mp hread
  obtain ⟨transportLayerAddr, gtpTeid, rfl, harrays⟩ := covers_readArrays hread
  obtain ⟨_, hidCovers⟩ := readUpTo_eq_some (by decide) hid
  have hidLe : (UInt8.ofNat id).toNat ≤ pduSessionIdMax := Nat.le_of_lt_succ (UInt8.toNat_lt _)
  exact (hidCovers _ hidLe).trans harrays

end PduSessions

/-! ## Elements -/

theorem laws_amfUeNgapIdIe (criticality : UInt8) :
    ElementLaws (amfUeNgapIdIe criticality) readAmfUeNgapId (fun _ => criticality.toNat ≤ 2)
      (fun _ => 4) where
  carries _ := carries_number (by decide) UInt32.ofNat UInt32.ofNat_toNat
  fits v hcriticality := by
    have hid : idAmfUeNgapId.toNat ≤ protocolIeIdMax := by decide
    have hv : v.toNat ≤ amfUeNgapIdMax := Nat.le_of_lt_succ v.toNat_lt
    exact ⟨⟨hid, hcriticality⟩, fills_number (by decide) hv⟩

theorem laws_ranUeNgapIdIe (criticality : UInt8) :
    ElementLaws (ranUeNgapIdIe criticality) readRanUeNgapId (fun _ => criticality.toNat ≤ 2)
      (fun _ => 4) where
  carries _ := carries_number (by decide) UInt32.ofNat UInt32.ofNat_toNat
  fits v hcriticality := by
    have hid : idRanUeNgapId.toNat ≤ protocolIeIdMax := by decide
    have hv : v.toNat ≤ ranUeNgapIdMax := Nat.le_of_lt_succ v.toNat_lt
    exact ⟨⟨hid, hcriticality⟩, fills_number (by decide) hv⟩

theorem header_nasPduIe : HeaderInRange idNasPdu criticalityReject := by decide

theorem laws_nasPduIe : ElementLaws nasPduIe readOctetString (fun nasPdu => nasPdu.length < 16384)
    (fun nasPdu => octetStringLength nasPdu.length) where
  carries := carries_octetString
  fits _ hlen := ⟨header_nasPduIe, fills_octetString hlen⟩

theorem writeUserLocationInfo_new (nrCgi : Octets 9) (tai : Octets 6) :
    some ((PerWriter.new.align.writeOctets nrCgi.toList).writeOctets tai.toList) =
      some (writeUserLocationInfo .new nrCgi tai) := by
  rw [align_new, writeUserLocationInfo]

theorem header_userLocationInfoIe : HeaderInRange idUserLocationInfo criticalityIgnore := by decide

theorem laws_userLocationInfoIe :
    ElementLaws (fun location : Octets 9 × Octets 6 => userLocationInfoIe location.1 location.2)
      readUserLocationInfo (fun _ => True) (fun _ => 15) where
  carries location := by
    have hread := undoes_writeArrays location.1 location.2 Prod.mk
    exact (carries_of_undoes hread).of_fresh (writeUserLocationInfo_new location.1 location.2)
  fits location _ := by
    have hfills := fills_of_grows (grows_writeArrays location.1 location.2 0)
    exact ⟨header_userLocationInfoIe,
      hfills.of_fresh (writeUserLocationInfo_new location.1 location.2)⟩

theorem header_rrcEstablishmentCauseIe :
    HeaderInRange idRrcEstablishmentCause criticalityIgnore := by
  decide

theorem laws_rrcEstablishmentCauseIe :
    ElementLaws rrcEstablishmentCauseIe readRrcEstablishmentCause
      (fun cause => cause.toNat ≤ rrcEstablishmentCauseMax) (fun _ => 1) where
  carries _ := carries_number (by decide) UInt8.ofNat UInt8.ofNat_toNat
  fits _ hrange := ⟨header_rrcEstablishmentCauseIe,
    fills_number (by decide) hrange⟩

theorem header_securityKeyIe : HeaderInRange idSecurityKey criticalityReject := by decide

theorem laws_securityKeyIe :
    ElementLaws securityKeyIe (readArray 32) (fun _ => True) (fun _ => 32) where
  carries := carries_array
  fits securityKey _ := ⟨header_securityKeyIe, fills_array securityKey⟩

/-- Both bit rates are in the range of the element. -/
def RatesInRange (ueAmbr : UInt64 × UInt64) : Prop :=
  ueAmbr.1.toNat ≤ bitRateMax ∧ ueAmbr.2.toNat ≤ bitRateMax

theorem header_ueAmbrIe : HeaderInRange idUeAggregateMaxBitRate criticalityIgnore := by decide

theorem laws_ueAmbrIe :
    ElementLaws ueAmbrIe (readBitRates bitRateMax) RatesInRange (fun _ => 12) where
  carries := carries_bitRates (by decide)
  fits _ hrange := ⟨header_ueAmbrIe, fills_bitRates (by decide) hrange.1 hrange.2⟩

theorem header_pduSessionsToSetupIe :
    HeaderInRange idPduSessionResourceSetupListCtxtReq criticalityReject := by
  decide

theorem laws_pduSessionsToSetupIe :
    ElementLaws pduSessionsToSetupIe readPduSessionsToSetup
      (fun sessions => sessions.length < 16384 ∧ ∀ s ∈ sessions, s.qfi.toNat ≤ qfiMax)
      (fun sessions => lengthDeterminantLength sessions.length + 10 * sessions.length) where
  carries sessions := carries_list fun s _ => undoes_writePduSessionToSetup s
  fits sessions hrange := by
    have hgrows : ∀ s ∈ sessions, ∀ p, p % 8 = 0 →
        tape.Grows (writePduSessionToSetup · s) p (p + 80) ∧ (p + 80) % 8 = 0 :=
      fun s hmem p hp => ⟨grows_writePduSessionToSetup (hrange.2 s hmem) hp, by omega⟩
    have hfills := fills_list hrange.1 hgrows fun _ hp => hp
    have hoctets : (sessions.length * 80 + 7) / 8 = 10 * sessions.length := by omega
    rw [hoctets] at hfills
    exact ⟨header_pduSessionsToSetupIe, hfills⟩

theorem header_pduSessionsSetupIe :
    HeaderInRange idPduSessionResourceSetupListCtxtRes criticalityIgnore := by
  decide

theorem laws_pduSessionsSetupIe :
    ElementLaws pduSessionsSetupIe readPduSessionsSetup (fun items => items.length < 16384)
      (fun items => lengthDeterminantLength items.length + 9 * items.length) where
  carries items := carries_list fun it _ => undoes_writePduSessionSetupItem it
  fits items hlen := by
    have hgrows : ∀ it ∈ items, ∀ p, p % 8 = 0 →
        tape.Grows (writePduSessionSetupItem · it) p (p + 72) ∧ (p + 72) % 8 = 0 :=
      fun it _ p hp => ⟨grows_writePduSessionSetupItem it hp, by omega⟩
    have hfills := fills_list hlen hgrows fun _ hp => hp
    have hoctets : (items.length * 72 + 7) / 8 = 9 * items.length := by omega
    rw [hoctets] at hfills
    exact ⟨header_pduSessionsSetupIe, hfills⟩

theorem header_pduSessionsFailedIe :
    HeaderInRange idPduSessionResourceFailedToSetupListCtxtRes criticalityIgnore := by
  decide

theorem laws_pduSessionsFailedIe :
    ElementLaws pduSessionsFailedIe readPduSessionIds (fun ids => ids.length < 16384)
      (fun ids => lengthDeterminantLength ids.length + ids.length) where
  carries ids := by
    refine carries_list fun id _ => ?_
    have hread := (undoes_writeUpTo id.toNat pduSessionIdMax (by decide)).map UInt8.ofNat
    rwa [UInt8.ofNat_toNat] at hread
  fits ids hlen := by
    have hgrows : ∀ id ∈ ids, ∀ p, True →
        tape.Grows (fun w => w.writeConstrainedInt id.toNat 0 pduSessionIdMax) p (p + 8) ∧ True :=
      fun id _ p _ => ⟨grows_writeUpTo (by decide) (Nat.le_of_lt_succ id.toNat_lt) p, trivial⟩
    have hfills := fills_list hlen hgrows fun _ _ => trivial
    have hoctets : (ids.length * 8 + 7) / 8 = ids.length := by omega
    rw [hoctets] at hfills
    exact ⟨header_pduSessionsFailedIe, hfills⟩

theorem ngapCauseFromU64_toU64 (cause : NgapCause) :
    ngapCauseFromU64 (ngapCauseToU64 cause) = some cause := by
  cases cause <;> rfl

theorem ngapCauseToU64_le (cause : NgapCause) : ngapCauseToU64 cause ≤ causeMax := by
  cases cause <;> decide

theorem header_causeIe : HeaderInRange idCause criticalityIgnore := by decide

theorem laws_causeIe : ElementLaws causeIe readCause (fun _ => True) (fun _ => 1) where
  carries cause := by
    refine carries_of_undoes
      ((undoes_writeUpTo (ngapCauseToU64 cause) causeMax (by decide)).bind_of_eq_pure ?_)
    rw [ngapCauseFromU64_toU64]
  fits cause _ := ⟨header_causeIe,
    fills_number (by decide) (ngapCauseToU64_le cause)⟩

/-! ## Encoded messages are decoded -/

theorem decodeNgapPdu_eq {buf value : List UInt8} {choice : Nat} {procCode : UInt32}
    {criticality : UInt8} {entries : List IeEntry}
    (hwrapper : decodePduWrapper buf = some (choice, procCode, criticality, value))
    (hcontainer : parse readIeContainer value = some entries) :
    decodeNgapPdu buf = decodeProcedure choice procCode entries := by
  simp only [decodeNgapPdu, hwrapper, okOr]
  change (okOr (parse readIeContainer value) _ >>= decodeProcedure choice procCode) = _
  rw [hcontainer]
  rfl

section Messages

variable {bytes : List UInt8}

/-- The two ids of a UE are read back from any message that begins with them. -/
theorem assigned_ueIds {ies rest : List Ie} {entries : List IeEntry}
    (hencode : List.Forall₂ (fun ie entry => ie.encode = some entry) ies entries)
    (hnodup : (ies.map fun ie => ie.id).Nodup) {criticality : UInt8}
    {amfUeNgapId ranUeNgapId : UInt32}
    (hies : ies = amfUeNgapIdIe criticality amfUeNgapId ::
      ranUeNgapIdIe criticality ranUeNgapId :: rest) :
    assigned readAmfUeNgapId entries idAmfUeNgapId = some amfUeNgapId ∧
      assigned readRanUeNgapId entries idRanUeNgapId = some ranUeNgapId := by
  subst hies
  exact ⟨(laws_amfUeNgapIdIe criticality).assigned_eq hencode hnodup List.mem_cons_self,
    (laws_ranUeNgapIdIe criticality).assigned_eq hencode hnodup
      (List.mem_cons_of_mem _ List.mem_cons_self)⟩

theorem nodup_initialUeMessage (m : NgapInitialUeMessage) : (m.ies.map fun ie => ie.id).Nodup :=
  (by decide : [idRanUeNgapId, idNasPdu, idUserLocationInfo, idRrcEstablishmentCause].Nodup)

theorem decode_encodeInitialUeMessage {m : NgapInitialUeMessage}
    (hput : encodeInitialUeMessage m = some bytes) :
    decodeNgapPdu bytes = .ok (.initialUeMessage m) := by
  obtain ⟨value, entries, hwrapper, hcontainer, hencode⟩ := decode_encodePdu hput
  have hnodup := nodup_initialUeMessage m
  have hran : assigned readRanUeNgapId entries idRanUeNgapId = some m.ranUeNgapId :=
    (laws_ranUeNgapIdIe criticalityReject).assigned_eq hencode hnodup
      (by simp [NgapInitialUeMessage.ies])
  have hnas : assigned readOctetString entries idNasPdu = some m.nasPdu :=
    laws_nasPduIe.assigned_eq hencode hnodup (by simp [NgapInitialUeMessage.ies])
  have hlocation : assigned readUserLocationInfo entries idUserLocationInfo =
      some (m.nrCgi, m.tai) :=
    laws_userLocationInfoIe.assigned_eq hencode hnodup (by simp [NgapInitialUeMessage.ies])
  have hcause : assigned readRrcEstablishmentCause entries idRrcEstablishmentCause =
      some m.rrcEstablishmentCause :=
    laws_rrcEstablishmentCauseIe.assigned_eq hencode hnodup (by simp [NgapInitialUeMessage.ies])
  rw [decodeNgapPdu_eq hwrapper hcontainer]
  change decodeInitialUeMessage entries = _
  exact decodeInitialUeMessage_eq_ok_iff.mpr ⟨m, ⟨hlocation, hran, hnas, hcause⟩, rfl⟩

theorem nodup_uplinkNasTransport (m : NgapUplinkNasTransport) : (m.ies.map fun ie => ie.id).Nodup :=
  (by decide : [idAmfUeNgapId, idRanUeNgapId, idNasPdu, idUserLocationInfo].Nodup)

theorem decode_encodeUplinkNasTransport {m : NgapUplinkNasTransport}
    (hput : encodeUplinkNasTransport m = some bytes) :
    decodeNgapPdu bytes = .ok (.uplinkNasTransport m) := by
  obtain ⟨value, entries, hwrapper, hcontainer, hencode⟩ := decode_encodePdu hput
  have hnodup := nodup_uplinkNasTransport m
  obtain ⟨hamf, hran⟩ := assigned_ueIds hencode hnodup rfl
  have hnas : assigned readOctetString entries idNasPdu = some m.nasPdu :=
    laws_nasPduIe.assigned_eq hencode hnodup (by simp [NgapUplinkNasTransport.ies])
  have hlocation : assigned readUserLocationInfo entries idUserLocationInfo =
      some (m.nrCgi, m.tai) :=
    laws_userLocationInfoIe.assigned_eq hencode hnodup (by simp [NgapUplinkNasTransport.ies])
  rw [decodeNgapPdu_eq hwrapper hcontainer]
  change decodeUplinkNasTransport entries = _
  exact decodeUplinkNasTransport_eq_ok_iff.mpr ⟨m, ⟨hlocation, hamf, hran, hnas⟩, rfl⟩

theorem nodup_downlinkNasTransport (m : NgapDownlinkNasTransport) :
    (m.ies.map fun ie => ie.id).Nodup :=
  (by decide : [idAmfUeNgapId, idRanUeNgapId, idNasPdu].Nodup)

theorem decode_encodeDownlinkNasTransport {m : NgapDownlinkNasTransport}
    (hput : encodeDownlinkNasTransport m = some bytes) :
    decodeNgapPdu bytes = .ok (.downlinkNasTransport m) := by
  obtain ⟨value, entries, hwrapper, hcontainer, hencode⟩ := decode_encodePdu hput
  have hnodup := nodup_downlinkNasTransport m
  obtain ⟨hamf, hran⟩ := assigned_ueIds hencode hnodup rfl
  have hnas : assigned readOctetString entries idNasPdu = some m.nasPdu :=
    laws_nasPduIe.assigned_eq hencode hnodup (by simp [NgapDownlinkNasTransport.ies])
  rw [decodeNgapPdu_eq hwrapper hcontainer]
  change decodeDownlinkNasTransport entries = _
  exact decodeDownlinkNasTransport_eq_ok_iff.mpr ⟨m, ⟨hamf, hran, hnas⟩, rfl⟩

theorem map_id_initialContextSetupRequest (m : NgapInitialContextSetupRequest) :
    (m.ies.map fun ie => ie.id) =
      [idAmfUeNgapId, idRanUeNgapId, idSecurityKey, idUeAggregateMaxBitRate] ++
        (if m.pduSessions.isEmpty then [] else [idPduSessionResourceSetupListCtxtReq]) ++
        (if m.nasPdu.isSome then [idNasPdu] else []) := by
  rw [NgapInitialContextSetupRequest.ies, List.map_append, List.map_append, map_id_unlessEmpty]
  cases m.nasPdu <;> rfl

theorem nodup_initialContextSetupRequest (m : NgapInitialContextSetupRequest) :
    (m.ies.map fun ie => ie.id).Nodup := by
  rw [map_id_initialContextSetupRequest]
  cases m.pduSessions.isEmpty <;> cases m.nasPdu.isSome <;> decide

theorem decode_encodeInitialContextSetupRequest {m : NgapInitialContextSetupRequest}
    (hput : encodeInitialContextSetupRequest m = some bytes) :
    decodeNgapPdu bytes = .ok (.initialContextSetupRequest m) := by
  obtain ⟨value, entries, hwrapper, hcontainer, hencode⟩ := decode_encodePdu hput
  have hids := map_id_initialContextSetupRequest m
  have hnodup := nodup_initialContextSetupRequest m
  obtain ⟨hamf, hran⟩ := assigned_ueIds hencode hnodup rfl
  have hkey : assignedIfRead (readArray 32) none some entries idSecurityKey = some m.securityKey :=
    laws_securityKeyIe.assignedIfRead_eq hencode hnodup
      (by simp [NgapInitialContextSetupRequest.ies]) none some
  have hambr : assignedIfRead (readBitRates bitRateMax) none some entries
      idUeAggregateMaxBitRate = some m.ueAmbr :=
    laws_ueAmbrIe.assignedIfRead_eq hencode hnodup
      (by simp [NgapInitialContextSetupRequest.ies]) none some
  have hsessions : assignedIfRead readPduSessionsToSetup [] id entries
      idPduSessionResourceSetupListCtxtReq = m.pduSessions := by
    refine laws_pduSessionsToSetupIe.unlessEmpty_eq hencode hnodup (fun ie hmem => ?_)
      fun hempty => ?_
    · simp [NgapInitialContextSetupRequest.ies, hmem]
    · rw [hids, hempty]
      cases m.nasPdu.isSome <;> decide
  have hnas : assigned readOctetString entries idNasPdu = m.nasPdu := by
    cases hsome : m.nasPdu with
    | none =>
        refine assigned_of_not_mem hencode ?_ _
        rw [hids, hsome]
        cases m.pduSessions.isEmpty <;> decide
    | some nasPdu =>
        exact laws_nasPduIe.assigned_eq hencode hnodup
          (by simp [NgapInitialContextSetupRequest.ies, hsome])
  rw [decodeNgapPdu_eq hwrapper hcontainer]
  change decodeInitialContextSetupRequest entries = _
  exact decodeInitialContextSetupRequest_eq_ok_iff.mpr
    ⟨m, ⟨hamf, hran, hambr, hkey, hsessions, hnas⟩, rfl⟩

theorem map_id_initialContextSetupResponse (m : NgapInitialContextSetupResponse) :
    (m.ies.map fun ie => ie.id) =
      [idAmfUeNgapId, idRanUeNgapId] ++
        (if m.pduSessionsSetup.isEmpty then [] else [idPduSessionResourceSetupListCtxtRes]) ++
        (if m.pduSessionsFailed.isEmpty then []
          else [idPduSessionResourceFailedToSetupListCtxtRes]) := by
  rw [NgapInitialContextSetupResponse.ies, List.map_append, List.map_append, map_id_unlessEmpty,
    map_id_unlessEmpty]
  rfl

theorem nodup_initialContextSetupResponse (m : NgapInitialContextSetupResponse) :
    (m.ies.map fun ie => ie.id).Nodup := by
  rw [map_id_initialContextSetupResponse]
  cases m.pduSessionsSetup.isEmpty <;> cases m.pduSessionsFailed.isEmpty <;> decide

theorem decode_encodeInitialContextSetupResponse {m : NgapInitialContextSetupResponse}
    (hput : encodeInitialContextSetupResponse m = some bytes) :
    decodeNgapPdu bytes = .ok (.initialContextSetupResponse m) := by
  obtain ⟨value, entries, hwrapper, hcontainer, hencode⟩ := decode_encodePdu hput
  have hids := map_id_initialContextSetupResponse m
  have hnodup := nodup_initialContextSetupResponse m
  obtain ⟨hamf, hran⟩ := assigned_ueIds hencode hnodup rfl
  have hsetup : assignedIfRead readPduSessionsSetup [] id entries
      idPduSessionResourceSetupListCtxtRes = m.pduSessionsSetup := by
    refine laws_pduSessionsSetupIe.unlessEmpty_eq hencode hnodup (fun ie hmem => ?_)
      fun hempty => ?_
    · simp [NgapInitialContextSetupResponse.ies, hmem]
    · rw [hids, hempty]
      cases m.pduSessionsFailed.isEmpty <;> decide
  have hfailed : assignedIfRead readPduSessionIds [] id entries
      idPduSessionResourceFailedToSetupListCtxtRes = m.pduSessionsFailed := by
    refine laws_pduSessionsFailedIe.unlessEmpty_eq hencode hnodup (fun ie hmem => ?_)
      fun hempty => ?_
    · simp [NgapInitialContextSetupResponse.ies, hmem]
    · rw [hids, hempty]
      cases m.pduSessionsSetup.isEmpty <;> decide
  rw [decodeNgapPdu_eq hwrapper hcontainer]
  change decodeInitialContextSetupResponse entries = _
  exact decodeInitialContextSetupResponse_eq_ok_iff.mpr ⟨m, ⟨hamf, hran, hsetup, hfailed⟩, rfl⟩

theorem nodup_ueContextReleaseCommand (amfUeNgapId ranUeNgapId : UInt32) (cause : NgapCause) :
    ((ueContextReleaseCommandIes amfUeNgapId ranUeNgapId cause).map fun ie => ie.id).Nodup :=
  (by decide : [idAmfUeNgapId, idRanUeNgapId, idCause].Nodup)

theorem decode_encodeUeContextReleaseCommand {amfUeNgapId ranUeNgapId : UInt32} {cause : NgapCause}
    (hput : encodeUeContextReleaseCommand amfUeNgapId ranUeNgapId cause = some bytes) :
    decodeNgapPdu bytes = .ok (.ueContextReleaseCommand amfUeNgapId ranUeNgapId cause) := by
  obtain ⟨value, entries, hwrapper, hcontainer, hencode⟩ := decode_encodePdu hput
  have hnodup := nodup_ueContextReleaseCommand amfUeNgapId ranUeNgapId cause
  obtain ⟨hamf, hran⟩ := assigned_ueIds hencode hnodup rfl
  have hcause : assigned readCause entries idCause = some cause :=
    laws_causeIe.assigned_eq hencode hnodup (by simp [ueContextReleaseCommandIes])
  rw [decodeNgapPdu_eq hwrapper hcontainer]
  change decodeUeContextReleaseCommand entries = _
  exact decodeUeContextReleaseCommand_eq_ok_iff.mpr
    ⟨amfUeNgapId, ranUeNgapId, cause, ⟨hamf, hran, hcause⟩, rfl⟩

theorem nodup_ueContextReleaseComplete (m : NgapUeContextReleaseComplete) :
    (m.ies.map fun ie => ie.id).Nodup :=
  (by decide : [idAmfUeNgapId, idRanUeNgapId].Nodup)

theorem decode_encodeUeContextReleaseComplete {m : NgapUeContextReleaseComplete}
    (hput : encodeUeContextReleaseComplete m = some bytes) :
    decodeNgapPdu bytes = .ok (.ueContextReleaseComplete m) := by
  obtain ⟨value, entries, hwrapper, hcontainer, hencode⟩ := decode_encodePdu hput
  have hnodup := nodup_ueContextReleaseComplete m
  obtain ⟨hamf, hran⟩ := assigned_ueIds hencode hnodup rfl
  rw [decodeNgapPdu_eq hwrapper hcontainer]
  change decodeUeContextReleaseComplete entries = _
  exact decodeUeContextReleaseComplete_eq_ok_iff.mpr ⟨m, ⟨hamf, hran⟩, rfl⟩

end Messages

/-- Whatever the encoder makes of a message is decoded to it. -/
theorem decode_encodeNgapPdu {msg : NgapMessage} {bytes : List UInt8}
    (hput : encodeNgapPdu msg = some (.ok bytes)) : decodeNgapPdu bytes = .ok msg := by
  cases msg with
  | initialUeMessage m => exact decode_encodeInitialUeMessage (map_ok_eq_some_iff.mp hput)
  | uplinkNasTransport m => exact decode_encodeUplinkNasTransport (map_ok_eq_some_iff.mp hput)
  | downlinkNasTransport m => exact decode_encodeDownlinkNasTransport (map_ok_eq_some_iff.mp hput)
  | initialContextSetupRequest m =>
      exact decode_encodeInitialContextSetupRequest (map_ok_eq_some_iff.mp hput)
  | initialContextSetupResponse m =>
      exact decode_encodeInitialContextSetupResponse (map_ok_eq_some_iff.mp hput)
  | ueContextReleaseCommand amfUeNgapId ranUeNgapId cause =>
      exact decode_encodeUeContextReleaseCommand (map_ok_eq_some_iff.mp hput)
  | ueContextReleaseComplete m =>
      exact decode_encodeUeContextReleaseComplete (map_ok_eq_some_iff.mp hput)
  | ngSetupRequest | ngSetupResponse | initialContextSetupFailure | pduSessionResourceSetupRequest
    | pduSessionResourceSetupResponse | pduSessionResourceSetupFailure => cases hput

/-! ## Messages in their ranges are encoded -/

/-- The seven messages with an encoder. -/
def NgapMessage.Supported : NgapMessage → Prop
  | initialUeMessage _ | uplinkNasTransport _ | downlinkNasTransport _
  | initialContextSetupRequest _ | initialContextSetupResponse _ | ueContextReleaseCommand _ _ _
  | ueContextReleaseComplete _ => True
  | _ => False

/-- The fields that are wider than the ranges of their elements are in these ranges. -/
def NgapMessage.InRange : NgapMessage → Prop
  | initialUeMessage m => m.rrcEstablishmentCause.toNat ≤ rrcEstablishmentCauseMax
  | initialContextSetupRequest m =>
      RatesInRange m.ueAmbr ∧ ∀ s ∈ m.pduSessions, s.qfi.toNat ≤ qfiMax
  | _ => True

/-- The octets that the values of the elements of a message take up. -/
def NgapMessage.ieLengths : NgapMessage → List Nat
  | initialUeMessage m => [4, octetStringLength m.nasPdu.length, 15, 1]
  | uplinkNasTransport m => [4, 4, octetStringLength m.nasPdu.length, 15]
  | downlinkNasTransport m => [4, 4, octetStringLength m.nasPdu.length]
  | initialContextSetupRequest m =>
      [4, 4, 32, 12] ++
        (if m.pduSessions.isEmpty then []
          else [lengthDeterminantLength m.pduSessions.length + 10 * m.pduSessions.length]) ++
        (m.nasPdu.map fun nasPdu => octetStringLength nasPdu.length).toList
  | initialContextSetupResponse m =>
      [4, 4] ++
        (if m.pduSessionsSetup.isEmpty then []
          else [lengthDeterminantLength m.pduSessionsSetup.length +
            9 * m.pduSessionsSetup.length]) ++
        (if m.pduSessionsFailed.isEmpty then []
          else [lengthDeterminantLength m.pduSessionsFailed.length + m.pduSessionsFailed.length])
  | ueContextReleaseCommand _ _ _ => [4, 4, 1]
  | ueContextReleaseComplete _ => [4, 4]
  | _ => []

section Fits

theorem fits_ueIds (amfUeNgapId ranUeNgapId : UInt32) {criticality : UInt8}
    (hcriticality : criticality.toNat ≤ 2) {ies : List Ie} {lengths : List Nat}
    (hrest : List.Forall₂ Ie.Fits ies lengths) :
    List.Forall₂ Ie.Fits (amfUeNgapIdIe criticality amfUeNgapId ::
      ranUeNgapIdIe criticality ranUeNgapId :: ies) (4 :: 4 :: lengths) :=
  .cons ((laws_amfUeNgapIdIe criticality).fits amfUeNgapId hcriticality)
    (.cons ((laws_ranUeNgapIdIe criticality).fits ranUeNgapId hcriticality) hrest)

theorem exists_encodeInitialUeMessage {m : NgapInitialUeMessage}
    (hrange : (NgapMessage.initialUeMessage m).InRange)
    (hsmall : containerLength (NgapMessage.initialUeMessage m).ieLengths < 16384) :
    ∃ bytes, encodeInitialUeMessage m = some bytes := by
  have hlen : m.nasPdu.length < 16384 :=
    lt_of_octetString_mem (by simp [NgapMessage.ieLengths]) hsmall
  exact exists_encodePdu (by decide) (by decide) (by decide)
    (.cons ((laws_ranUeNgapIdIe criticalityReject).fits m.ranUeNgapId (by decide))
      (.cons (laws_nasPduIe.fits m.nasPdu hlen)
        (.cons (laws_userLocationInfoIe.fits (m.nrCgi, m.tai) trivial)
          (.cons (laws_rrcEstablishmentCauseIe.fits m.rrcEstablishmentCause hrange) .nil)))) hsmall

theorem exists_encodeUplinkNasTransport {m : NgapUplinkNasTransport}
    (hsmall : containerLength (NgapMessage.uplinkNasTransport m).ieLengths < 16384) :
    ∃ bytes, encodeUplinkNasTransport m = some bytes := by
  have hlen : m.nasPdu.length < 16384 :=
    lt_of_octetString_mem (by simp [NgapMessage.ieLengths]) hsmall
  exact exists_encodePdu (by decide) (by decide) (by decide)
    (fits_ueIds m.amfUeNgapId m.ranUeNgapId (by decide)
      (.cons (laws_nasPduIe.fits m.nasPdu hlen)
        (.cons (laws_userLocationInfoIe.fits (m.nrCgi, m.tai) trivial) .nil))) hsmall

theorem exists_encodeDownlinkNasTransport {m : NgapDownlinkNasTransport}
    (hsmall : containerLength (NgapMessage.downlinkNasTransport m).ieLengths < 16384) :
    ∃ bytes, encodeDownlinkNasTransport m = some bytes := by
  have hlen : m.nasPdu.length < 16384 :=
    lt_of_octetString_mem (by simp [NgapMessage.ieLengths]) hsmall
  exact exists_encodePdu (by decide) (by decide) (by decide)
    (fits_ueIds m.amfUeNgapId m.ranUeNgapId (by decide)
      (.cons (laws_nasPduIe.fits m.nasPdu hlen) .nil)) hsmall

theorem exists_encodeInitialContextSetupRequest {m : NgapInitialContextSetupRequest}
    (hrange : (NgapMessage.initialContextSetupRequest m).InRange)
    (hsmall : containerLength (NgapMessage.initialContextSetupRequest m).ieLengths < 16384) :
    ∃ bytes, encodeInitialContextSetupRequest m = some bytes := by
  obtain ⟨hrates, hqfi⟩ := hrange
  have hsessions : List.Forall₂ Ie.Fits
      (unlessEmpty m.pduSessions (pduSessionsToSetupIe m.pduSessions))
      (if m.pduSessions.isEmpty then []
        else [lengthDeterminantLength m.pduSessions.length + 10 * m.pduSessions.length]) := by
    refine fits_unlessEmpty fun hsome => laws_pduSessionsToSetupIe.fits m.pduSessions ⟨?_, hqfi⟩
    have hmem : lengthDeterminantLength m.pduSessions.length + 10 * m.pduSessions.length ∈
        (NgapMessage.initialContextSetupRequest m).ieLengths := by
      simp [NgapMessage.ieLengths, hsome]
    exact length_lt_of_mem hmem (by omega) hsmall
  have hnas : List.Forall₂ Ie.Fits (m.nasPdu.map nasPduIe).toList
      (m.nasPdu.map fun nasPdu => octetStringLength nasPdu.length).toList := by
    cases hnas : m.nasPdu with
    | none => exact .nil
    | some nasPdu =>
        refine .cons (laws_nasPduIe.fits nasPdu ?_) .nil
        exact lt_of_octetString_mem (by simp [NgapMessage.ieLengths, hnas]) hsmall
  have hfixed : List.Forall₂ Ie.Fits
      [amfUeNgapIdIe criticalityReject m.amfUeNgapId, ranUeNgapIdIe criticalityReject m.ranUeNgapId,
        securityKeyIe m.securityKey, ueAmbrIe m.ueAmbr] [4, 4, 32, 12] :=
    fits_ueIds m.amfUeNgapId m.ranUeNgapId (by decide)
      (.cons (laws_securityKeyIe.fits m.securityKey trivial)
        (.cons (laws_ueAmbrIe.fits m.ueAmbr hrates) .nil))
  exact exists_encodePdu (by decide) (by decide) (by decide)
    (fits_append (fits_append hfixed hsessions) hnas) hsmall

theorem exists_encodeInitialContextSetupResponse {m : NgapInitialContextSetupResponse}
    (hsmall : containerLength (NgapMessage.initialContextSetupResponse m).ieLengths < 16384) :
    ∃ bytes, encodeInitialContextSetupResponse m = some bytes := by
  have hsetup := fits_unlessEmpty fun hsome : m.pduSessionsSetup ≠ [] => by
    refine laws_pduSessionsSetupIe.fits m.pduSessionsSetup ?_
    have hmem : lengthDeterminantLength m.pduSessionsSetup.length + 9 * m.pduSessionsSetup.length ∈
        (NgapMessage.initialContextSetupResponse m).ieLengths := by
      simp [NgapMessage.ieLengths, hsome]
    exact length_lt_of_mem hmem (by omega) hsmall
  have hfailed := fits_unlessEmpty fun hsome : m.pduSessionsFailed ≠ [] => by
    refine laws_pduSessionsFailedIe.fits m.pduSessionsFailed ?_
    have hmem : lengthDeterminantLength m.pduSessionsFailed.length + m.pduSessionsFailed.length ∈
        (NgapMessage.initialContextSetupResponse m).ieLengths := by
      simp [NgapMessage.ieLengths, hsome]
    exact length_lt_of_mem hmem (by omega) hsmall
  exact exists_encodePdu (by decide) (by decide) (by decide)
    (fits_append (fits_append (fits_ueIds m.amfUeNgapId m.ranUeNgapId (by decide) .nil) hsetup)
      hfailed) hsmall

theorem exists_encodeUeContextReleaseCommand (amfUeNgapId ranUeNgapId : UInt32)
    (cause : NgapCause) :
    ∃ bytes, encodeUeContextReleaseCommand amfUeNgapId ranUeNgapId cause = some bytes :=
  exists_encodePdu (by decide) (by decide) (by decide)
    (fits_ueIds amfUeNgapId ranUeNgapId (by decide) (.cons (laws_causeIe.fits cause trivial) .nil))
    (by decide)

theorem exists_encodeUeContextReleaseComplete (m : NgapUeContextReleaseComplete) :
    ∃ bytes, encodeUeContextReleaseComplete m = some bytes :=
  exists_encodePdu (by decide) (by decide) (by decide)
    (fits_ueIds m.amfUeNgapId m.ranUeNgapId (by decide) .nil) (by decide)

end Fits

/-- A message in its ranges whose container is short enough is encoded. -/
theorem exists_encodeNgapPdu {msg : NgapMessage} (hsupported : msg.Supported)
    (hrange : msg.InRange) (hsmall : containerLength msg.ieLengths < 16384) :
    ∃ bytes, encodeNgapPdu msg = some (.ok bytes) := by
  cases msg with
  | initialUeMessage m => exact exists_map_ok (exists_encodeInitialUeMessage hrange hsmall)
  | uplinkNasTransport m => exact exists_map_ok (exists_encodeUplinkNasTransport hsmall)
  | downlinkNasTransport m => exact exists_map_ok (exists_encodeDownlinkNasTransport hsmall)
  | initialContextSetupRequest m =>
      exact exists_map_ok (exists_encodeInitialContextSetupRequest hrange hsmall)
  | initialContextSetupResponse m =>
      exact exists_map_ok (exists_encodeInitialContextSetupResponse hsmall)
  | ueContextReleaseCommand amfUeNgapId ranUeNgapId cause =>
      exact exists_map_ok (exists_encodeUeContextReleaseCommand amfUeNgapId ranUeNgapId cause)
  | ueContextReleaseComplete m => exact exists_map_ok (exists_encodeUeContextReleaseComplete m)
  | ngSetupRequest | ngSetupResponse | initialContextSetupFailure | pduSessionResourceSetupRequest
    | pduSessionResourceSetupResponse | pduSessionResourceSetupFailure => cases hsupported

/-- The message is encoded, and the octets are decoded to it. -/
def NgapMessage.RoundTrips (msg : NgapMessage) : Prop :=
  ∃ bytes, encodeNgapPdu msg = some (.ok bytes) ∧ decodeNgapPdu bytes = .ok msg

theorem NgapMessage.roundTrips_of_encode {msg : NgapMessage}
    (hencode : ∃ bytes, encodeNgapPdu msg = some (.ok bytes)) : msg.RoundTrips := by
  obtain ⟨bytes, hput⟩ := hencode
  exact ⟨bytes, hput, decode_encodeNgapPdu hput⟩

/-- A short NAS PDU is carried to any UE. -/
theorem roundTrips_downlinkNasTransport (amfUeNgapId ranUeNgapId : UInt32) {nasPdu : List UInt8}
    (hshort : nasPdu.length < 128) :
    (NgapMessage.downlinkNasTransport ⟨amfUeNgapId, ranUeNgapId, nasPdu⟩).RoundTrips := by
  refine NgapMessage.roundTrips_of_encode (exists_map_ok (exists_encodeDownlinkNasTransport ?_))
  have hoctets : octetStringLength nasPdu.length ≤ octetStringLength 128 :=
    octetStringLength_mono hshort.le
  have hlonger : List.Forall₂ (· ≤ ·) [4, 4, octetStringLength nasPdu.length]
      [4, 4, octetStringLength 128] :=
    .cons (le_refl _) (.cons (le_refl _) (.cons hoctets .nil))
  exact lt_of_le_of_lt (containerLength_mono hlonger) (by decide)

/-- A setup request for one session with a short NAS PDU. -/
theorem roundTrips_initialContextSetupRequest (amfUeNgapId ranUeNgapId : UInt32)
    {session : PduSessionToSetup} (hqfi : session.qfi.toNat ≤ qfiMax) {nasPdu : List UInt8}
    (hshort : nasPdu.length < 128) {ueAmbr : UInt64 × UInt64} (hrates : RatesInRange ueAmbr)
    (securityKey : Octets 32) :
    (NgapMessage.initialContextSetupRequest
      ⟨amfUeNgapId, ranUeNgapId, [session], some nasPdu, ueAmbr, securityKey⟩).RoundTrips := by
  refine NgapMessage.roundTrips_of_encode (exists_map_ok
    (exists_encodeInitialContextSetupRequest
      ⟨hrates, List.forall_mem_singleton.mpr hqfi⟩ ?_))
  have hoctets : octetStringLength nasPdu.length ≤ octetStringLength 128 :=
    octetStringLength_mono hshort.le
  have hlonger : List.Forall₂ (· ≤ ·) [4, 4, 32, 12, 11, octetStringLength nasPdu.length]
      [4, 4, 32, 12, 11, octetStringLength 128] :=
    .cons (le_refl _) (.cons (le_refl _) (.cons (le_refl _) (.cons (le_refl _)
      (.cons (le_refl _) (.cons hoctets .nil)))))
  exact lt_of_le_of_lt (containerLength_mono hlonger) (by decide)

theorem roundTrips_ueContextReleaseCommand (amfUeNgapId ranUeNgapId : UInt32)
    (cause : NgapCause) :
    (NgapMessage.ueContextReleaseCommand amfUeNgapId ranUeNgapId cause).RoundTrips :=
  NgapMessage.roundTrips_of_encode
    (exists_map_ok (exists_encodeUeContextReleaseCommand amfUeNgapId ranUeNgapId cause))

/-- Every supported message in its ranges whose container stays below 16384 octets is encoded, and
decoded to itself. -/
theorem ngapPdu_round_trip {msg : NgapMessage} (hsupported : msg.Supported) (hrange : msg.InRange)
    (hsmall : containerLength msg.ieLengths < 16384) :
    ∃ bytes, encodeNgapPdu msg = some (.ok bytes) ∧ decodeNgapPdu bytes = .ok msg := by
  obtain ⟨bytes, hput⟩ := exists_encodeNgapPdu hsupported hrange hsmall
  exact ⟨bytes, hput, decode_encodeNgapPdu hput⟩

/-- The setup request with two sessions, a NAS PDU and the largest bit rates. -/
theorem ngapPdu_round_trip_setup :
    ∃ bytes,
      encodeNgapPdu (.initialContextSetupRequest ⟨7, 9,
        [⟨5, 9, Octets.zeros 4, Octets.zeros 4⟩, ⟨6, 63, Octets.zeros 4, Octets.zeros 4⟩],
        some [0x7E, 0, 0x42], (4000000000000, 4000000000000), Octets.zeros 32⟩) =
          some (.ok bytes) ∧
        decodeNgapPdu bytes = .ok (.initialContextSetupRequest ⟨7, 9,
          [⟨5, 9, Octets.zeros 4, Octets.zeros 4⟩, ⟨6, 63, Octets.zeros 4, Octets.zeros 4⟩],
          some [0x7E, 0, 0x42], (4000000000000, 4000000000000), Octets.zeros 32⟩) :=
  ngapPdu_round_trip trivial
    ⟨⟨by decide, by decide⟩, by decide⟩ (by decide)

end Midn.Ngap
