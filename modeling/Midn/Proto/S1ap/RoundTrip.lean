import Midn.Proto.S1ap.Codec

/-!
# S1AP round trip

Whatever the encoder makes of a message is decoded to it, and a message whose fields are in their
ranges and whose container is short enough is encoded.
-/

namespace Midn.S1ap

open Midn.Per Midn.Per.PerReader Midn.Container

/-! ## Items of lists -/

section Erabs

variable (e : ErabToSetup) (it : ErabSetupItem)

theorem undoes_writeErabToSetup :
    tape.Undoes (fun w => writeErabToSetup w e) readErabToSetup e := by
  let erab (id qci : Nat) (gtpTeid transportLayerAddr : Octets 4) : ErabToSetup :=
    ⟨.ofNat id, .ofNat qci, gtpTeid, transportLayerAddr⟩
  let afterQci (id qci : Nat) : PerRead ErabToSetup :=
    readArray 4 >>= fun gtpTeid => readArray 4 >>= fun transportLayerAddr =>
      pure (erab id qci gtpTeid transportLayerAddr)
  let afterId (id : Nat) : PerRead ErabToSetup := readConstrainedInt 0 qciMax >>= afterQci id
  have herab : erab e.erabId.toNat e.qci.toNat e.gtpTeid e.transportLayerAddr = e := by
    simp only [erab, UInt8.ofNat_toNat]
  have harrays := undoes_writeArrays e.gtpTeid e.transportLayerAddr
    (erab e.erabId.toNat e.qci.toNat)
  rw [herab] at harrays
  have hqci := (undoes_writeUpTo e.qci.toNat qciMax (by decide)).bind (afterQci e.erabId.toNat)
    harrays
  have hid := (undoes_writeUpTo e.erabId.toNat erabIdMax (by decide)).bind afterId hqci
  exact hid

variable {e} in
theorem grows_writeErabToSetup (hid : e.erabId.toNat ≤ erabIdMax) {p : Nat} (hp : p % 8 = 0) :
    tape.Grows (fun w => writeErabToSetup w e) p (p + 80) := by
  have hqci : e.qci.toNat ≤ qciMax := Nat.le_of_lt_succ e.qci.toNat_lt
  have hall := (grows_writeUpTo (by decide) hid p).bind ((grows_writeUpTo (by decide) hqci _).bind
    (grows_writeArrays e.gtpTeid e.transportLayerAddr _))
  have hstop : alignUp (constrainedEnd 0 qciMax (constrainedEnd 0 erabIdMax p)) + 8 * (4 + 4) =
      p + 80 := by
    have hfields : constrainedEnd 0 qciMax (constrainedEnd 0 erabIdMax p) = p + 12 := rfl
    rw [hfields]
    unfold alignUp
    split <;> omega
  rw [hstop] at hall
  exact hall

variable {e} in
theorem covers_readErabToSetup {r r' : PerReader} (hread : readErabToSetup.run r = some (e, r')) :
    tape.Covers (fun w => writeErabToSetup w e) r r' := by
  obtain ⟨id, r₁, hid, hread⟩ := Tape.run_bind_eq_some.mp hread
  obtain ⟨qci, r₂, hqci, hread⟩ := Tape.run_bind_eq_some.mp hread
  obtain ⟨gtpTeid, transportLayerAddr, rfl, harrays⟩ := covers_readArrays hread
  obtain ⟨hidLt, hidCovers⟩ := readUpTo_eq_some (by decide) hid
  obtain ⟨_, hqciCovers⟩ := readUpTo_eq_some (by decide) hqci
  have hidLe : (UInt8.ofNat id).toNat ≤ erabIdMax :=
    (toNat_ofNat_le8 id).trans (Nat.le_of_lt_succ hidLt)
  have hqciLe : (UInt8.ofNat qci).toNat ≤ qciMax := Nat.le_of_lt_succ (UInt8.toNat_lt _)
  exact (hidCovers _ hidLe).trans ((hqciCovers _ hqciLe).trans harrays)

theorem undoes_writeErabSetupItem :
    tape.Undoes (fun w => writeErabSetupItem w it) readErabSetupItem it := by
  let item (id : Nat) (transportLayerAddr gtpTeid : Octets 4) : ErabSetupItem :=
    ⟨.ofNat id, transportLayerAddr, gtpTeid⟩
  let afterId (id : Nat) : PerRead ErabSetupItem :=
    readArray 4 >>= fun transportLayerAddr => readArray 4 >>= fun gtpTeid =>
      pure (item id transportLayerAddr gtpTeid)
  have hitem : item it.eRabId.toNat it.transportLayerAddr it.gtpTeid = it := by
    simp only [item, UInt8.ofNat_toNat]
  have harrays := undoes_writeArrays it.transportLayerAddr it.gtpTeid (item it.eRabId.toNat)
  rw [hitem] at harrays
  have hid := (undoes_writeUpTo it.eRabId.toNat erabIdMax (by decide)).bind afterId harrays
  exact hid

variable {it} in
theorem grows_writeErabSetupItem (hid : it.eRabId.toNat ≤ erabIdMax) {p : Nat} (hp : p % 8 = 0) :
    tape.Grows (fun w => writeErabSetupItem w it) p (p + 72) := by
  have hall := (grows_writeUpTo (by decide) hid p).bind
    (grows_writeArrays it.transportLayerAddr it.gtpTeid _)
  have hstop : alignUp (constrainedEnd 0 erabIdMax p) + 8 * (4 + 4) = p + 72 := by
    have hfield : constrainedEnd 0 erabIdMax p = p + 4 := rfl
    rw [hfield]
    unfold alignUp
    split <;> omega
  rw [hstop] at hall
  exact hall

variable {it} in
theorem covers_readErabSetupItem {r r' : PerReader}
    (hread : readErabSetupItem.run r = some (it, r')) :
    tape.Covers (fun w => writeErabSetupItem w it) r r' := by
  obtain ⟨id, r₁, hid, hread⟩ := Tape.run_bind_eq_some.mp hread
  obtain ⟨transportLayerAddr, gtpTeid, rfl, harrays⟩ := covers_readArrays hread
  obtain ⟨hidLt, hidCovers⟩ := readUpTo_eq_some (by decide) hid
  have hidLe : (UInt8.ofNat id).toNat ≤ erabIdMax :=
    (toNat_ofNat_le8 id).trans (Nat.le_of_lt_succ hidLt)
  exact (hidCovers _ hidLe).trans harrays

end Erabs

/-! ## Elements -/

theorem laws_mmeUeS1apIdIe (criticality : UInt8) :
    ElementLaws (mmeUeS1apIdIe criticality) readMmeUeS1apId (fun _ => criticality.toNat ≤ 2)
      (fun _ => 4) where
  carries _ := carries_number (by decide) UInt32.ofNat UInt32.ofNat_toNat
  fits v hcriticality := by
    have hid : idMmeUeS1apId.toNat ≤ protocolIeIdMax := by decide
    have hv : v.toNat ≤ mmeUeS1apIdMax := Nat.le_of_lt_succ v.toNat_lt
    exact ⟨⟨hid, hcriticality⟩, fills_number (by decide) hv⟩

theorem laws_enbUeS1apIdIe (criticality : UInt8) :
    ElementLaws (enbUeS1apIdIe criticality) readEnbUeS1apId
      (fun enbUeS1apId => criticality.toNat ≤ 2 ∧ enbUeS1apId.toNat ≤ enbUeS1apIdMax)
      (fun _ => 3) where
  carries _ := carries_number (by decide) UInt32.ofNat UInt32.ofNat_toNat
  fits _ hrange := by
    have hid : idEnbUeS1apId.toNat ≤ protocolIeIdMax := by decide
    exact ⟨⟨hid, hrange.1⟩, fills_number (by decide) hrange.2⟩

theorem header_nasPduIe : HeaderInRange idNasPdu criticalityReject := by decide

theorem laws_nasPduIe : ElementLaws nasPduIe readOctetString (fun nasPdu => nasPdu.length < 16384)
    (fun nasPdu => octetStringLength nasPdu.length) where
  carries := carries_octetString
  fits _ hlen := ⟨header_nasPduIe, fills_octetString hlen⟩

theorem header_taiIe : HeaderInRange idTai criticalityIgnore := by decide

theorem laws_taiIe : ElementLaws taiIe (readArray 5) (fun _ => True) (fun _ => 5) where
  carries := carries_array
  fits tai _ := ⟨header_taiIe, fills_array tai⟩

theorem header_eutranCgiIe : HeaderInRange idEutranCgi criticalityIgnore := by decide

theorem laws_eutranCgiIe : ElementLaws eutranCgiIe (readArray 7) (fun _ => True) (fun _ => 7) where
  carries := carries_array
  fits eutranCgi _ := ⟨header_eutranCgiIe, fills_array eutranCgi⟩

theorem header_rrcEstablishmentCauseIe :
    HeaderInRange idRrcEstablishmentCause criticalityIgnore := by decide

theorem laws_rrcEstablishmentCauseIe :
    ElementLaws rrcEstablishmentCauseIe readRrcEstablishmentCause
      (fun cause => cause.toNat ≤ rrcEstablishmentCauseMax) (fun _ => 1) where
  carries _ := carries_number (by decide) UInt8.ofNat UInt8.ofNat_toNat
  fits _ hrange := ⟨header_rrcEstablishmentCauseIe, fills_number (by decide) hrange⟩

theorem header_securityKeyIe : HeaderInRange idSecurityKey criticalityReject := by decide

theorem laws_securityKeyIe :
    ElementLaws securityKeyIe (readArray 32) (fun _ => True) (fun _ => 32) where
  carries := carries_array
  fits securityKey _ := ⟨header_securityKeyIe, fills_array securityKey⟩

/-- Both bit rates are in the range of the element. -/
def RatesInRange (ueAmbr : UInt64 × UInt64) : Prop :=
  ueAmbr.1.toNat ≤ bitRateMax ∧ ueAmbr.2.toNat ≤ bitRateMax

theorem header_ueAmbrIe : HeaderInRange idUeAggregateMaximumBitrate criticalityReject := by decide

theorem laws_ueAmbrIe :
    ElementLaws ueAmbrIe (readBitRates bitRateMax) RatesInRange (fun _ => 10) where
  carries := carries_bitRates (by decide)
  fits _ hrange := ⟨header_ueAmbrIe, fills_bitRates (by decide) hrange.1 hrange.2⟩

theorem header_erabsToSetupIe :
    HeaderInRange idERabToBeSetupListCtxtSuReq criticalityReject := by decide

theorem laws_erabsToSetupIe :
    ElementLaws erabsToSetupIe readErabsToSetup
      (fun erabs => erabs.length < 16384 ∧ ∀ e ∈ erabs, e.erabId.toNat ≤ erabIdMax)
      (fun erabs => lengthDeterminantLength erabs.length + 10 * erabs.length) where
  carries erabs := carries_list fun e _ => undoes_writeErabToSetup e
  fits erabs hrange := by
    have hgrows : ∀ e ∈ erabs, ∀ p, p % 8 = 0 →
        tape.Grows (writeErabToSetup · e) p (p + 80) ∧ (p + 80) % 8 = 0 :=
      fun e hmem p hp => ⟨grows_writeErabToSetup (hrange.2 e hmem) hp, by omega⟩
    have hfills := fills_list hrange.1 hgrows fun _ hp => hp
    have hoctets : (erabs.length * 80 + 7) / 8 = 10 * erabs.length := by omega
    rw [hoctets] at hfills
    exact ⟨header_erabsToSetupIe, hfills⟩

theorem header_erabsSetupIe : HeaderInRange idERabSetupListCtxtSuRes criticalityReject := by decide

theorem laws_erabsSetupIe :
    ElementLaws erabsSetupIe readErabsSetup
      (fun items => items.length < 16384 ∧ ∀ it ∈ items, it.eRabId.toNat ≤ erabIdMax)
      (fun items => lengthDeterminantLength items.length + 9 * items.length) where
  carries items := carries_list fun it _ => undoes_writeErabSetupItem it
  fits items hrange := by
    have hgrows : ∀ it ∈ items, ∀ p, p % 8 = 0 →
        tape.Grows (writeErabSetupItem · it) p (p + 72) ∧ (p + 72) % 8 = 0 :=
      fun it hmem p hp => ⟨grows_writeErabSetupItem (hrange.2 it hmem) hp, by omega⟩
    have hfills := fills_list hrange.1 hgrows fun _ hp => hp
    have hoctets : (items.length * 72 + 7) / 8 = 9 * items.length := by omega
    rw [hoctets] at hfills
    exact ⟨header_erabsSetupIe, hfills⟩

theorem header_erabsFailedIe :
    HeaderInRange idERabFailedToSetupListCtxtSuRes criticalityIgnore := by decide

/-- Two failed ids share an octet, so their list is the only one that no boundary separates. -/
theorem laws_erabsFailedIe :
    ElementLaws erabsFailedIe readErabIds
      (fun ids => ids.length < 16384 ∧ ∀ id ∈ ids, id.toNat ≤ erabIdMax)
      (fun ids => lengthDeterminantLength ids.length + (ids.length + 1) / 2) where
  carries ids := by
    refine carries_list fun id _ => ?_
    have hread := (undoes_writeUpTo id.toNat erabIdMax (by decide)).map UInt8.ofNat
    rwa [UInt8.ofNat_toNat] at hread
  fits ids hrange := by
    have hgrows : ∀ id ∈ ids, ∀ p, True →
        tape.Grows (fun w => w.writeConstrainedInt id.toNat 0 erabIdMax) p (p + 4) ∧ True :=
      fun id hmem p _ => ⟨grows_writeUpTo (by decide) (hrange.2 id hmem) p, trivial⟩
    have hfills := fills_list hrange.1 hgrows fun _ _ => trivial
    have hoctets : (ids.length * 4 + 7) / 8 = (ids.length + 1) / 2 := by omega
    rw [hoctets] at hfills
    exact ⟨header_erabsFailedIe, hfills⟩

theorem s1apCauseFromU64_toU64 (cause : S1apCause) :
    s1apCauseFromU64 (s1apCauseToU64 cause) = some cause := by
  cases cause <;> rfl

theorem s1apCauseToU64_le (cause : S1apCause) : s1apCauseToU64 cause ≤ causeMax := by
  cases cause <;> decide

theorem header_causeIe : HeaderInRange idCause criticalityIgnore := by decide

theorem laws_causeIe : ElementLaws causeIe readCause (fun _ => True) (fun _ => 1) where
  carries cause := by
    refine carries_of_undoes
      ((undoes_writeUpTo (s1apCauseToU64 cause) causeMax (by decide)).bind_of_eq_pure ?_)
    rw [s1apCauseFromU64_toU64]
  fits cause _ := ⟨header_causeIe, fills_number (by decide) (s1apCauseToU64_le cause)⟩

/-! ## Encoded messages are decoded -/

theorem decodeS1apPdu_eq {buf value : List UInt8} {choice : Nat} {procCode : UInt32}
    {criticality : UInt8} {entries : List IeEntry}
    (hwrapper : decodePduWrapper buf = some (choice, procCode, criticality, value))
    (hcontainer : parse readIeContainer value = some entries) :
    decodeS1apPdu buf = decodeProcedure choice procCode entries := by
  simp only [decodeS1apPdu, hwrapper, okOr]
  change (okOr (parse readIeContainer value) _ >>= decodeProcedure choice procCode) = _
  rw [hcontainer]
  rfl

section Messages

variable {bytes : List UInt8}

/-- The two ids of a UE are read back from any message that begins with them. -/
theorem assigned_ueIds {ies rest : List Ie} {entries : List IeEntry}
    (hencode : List.Forall₂ (fun ie entry => ie.encode = some entry) ies entries)
    (hnodup : (ies.map fun ie => ie.id).Nodup) {criticality : UInt8}
    {mmeUeS1apId enbUeS1apId : UInt32}
    (hies : ies = mmeUeS1apIdIe criticality mmeUeS1apId ::
      enbUeS1apIdIe criticality enbUeS1apId :: rest) :
    assigned readMmeUeS1apId entries idMmeUeS1apId = some mmeUeS1apId ∧
      assigned readEnbUeS1apId entries idEnbUeS1apId = some enbUeS1apId := by
  subst hies
  exact ⟨(laws_mmeUeS1apIdIe criticality).assigned_eq hencode hnodup List.mem_cons_self,
    (laws_enbUeS1apIdIe criticality).assigned_eq hencode hnodup
      (List.mem_cons_of_mem _ List.mem_cons_self)⟩

theorem nodup_initialUeMessage (m : InitialUeMessage) : (m.ies.map fun ie => ie.id).Nodup :=
  (by decide : [idEnbUeS1apId, idNasPdu, idTai, idEutranCgi, idRrcEstablishmentCause].Nodup)

theorem decode_encodeInitialUeMessage {m : InitialUeMessage}
    (hput : encodeInitialUeMessage m = some bytes) :
    decodeS1apPdu bytes = .ok (.initialUeMessage m) := by
  obtain ⟨value, entries, hwrapper, hcontainer, hencode⟩ := decode_encodePdu hput
  have hnodup := nodup_initialUeMessage m
  have henb : assigned readEnbUeS1apId entries idEnbUeS1apId = some m.enbUeS1apId :=
    (laws_enbUeS1apIdIe criticalityReject).assigned_eq hencode hnodup
      (by simp [InitialUeMessage.ies])
  have hnas : assigned readOctetString entries idNasPdu = some m.nasPdu :=
    laws_nasPduIe.assigned_eq hencode hnodup (by simp [InitialUeMessage.ies])
  have htai : assigned (readArray 5) entries idTai = some m.tai :=
    laws_taiIe.assigned_eq hencode hnodup (by simp [InitialUeMessage.ies])
  have hcgi : assigned (readArray 7) entries idEutranCgi = some m.eutranCgi :=
    laws_eutranCgiIe.assigned_eq hencode hnodup (by simp [InitialUeMessage.ies])
  have hcause : assigned readRrcEstablishmentCause entries idRrcEstablishmentCause =
      some m.rrcCause :=
    laws_rrcEstablishmentCauseIe.assigned_eq hencode hnodup (by simp [InitialUeMessage.ies])
  rw [decodeS1apPdu_eq hwrapper hcontainer]
  change decodeInitialUeMessage entries = _
  exact decodeInitialUeMessage_eq_ok_iff.mpr ⟨m, ⟨henb, hnas, htai, hcgi, hcause⟩, rfl⟩

theorem nodup_uplinkNasTransport (m : UplinkNasTransport) : (m.ies.map fun ie => ie.id).Nodup :=
  (by decide : [idMmeUeS1apId, idEnbUeS1apId, idNasPdu, idTai, idEutranCgi].Nodup)

theorem decode_encodeUplinkNasTransport {m : UplinkNasTransport}
    (hput : encodeUplinkNasTransport m = some bytes) :
    decodeS1apPdu bytes = .ok (.uplinkNasTransport m) := by
  obtain ⟨value, entries, hwrapper, hcontainer, hencode⟩ := decode_encodePdu hput
  have hnodup := nodup_uplinkNasTransport m
  obtain ⟨hmme, henb⟩ := assigned_ueIds hencode hnodup rfl
  have hnas : assigned readOctetString entries idNasPdu = some m.nasPdu :=
    laws_nasPduIe.assigned_eq hencode hnodup (by simp [UplinkNasTransport.ies])
  have htai : assigned (readArray 5) entries idTai = some m.tai :=
    laws_taiIe.assigned_eq hencode hnodup (by simp [UplinkNasTransport.ies])
  have hcgi : assigned (readArray 7) entries idEutranCgi = some m.eutranCgi :=
    laws_eutranCgiIe.assigned_eq hencode hnodup (by simp [UplinkNasTransport.ies])
  rw [decodeS1apPdu_eq hwrapper hcontainer]
  change decodeUplinkNasTransport entries = _
  exact decodeUplinkNasTransport_eq_ok_iff.mpr ⟨m, ⟨hmme, henb, hnas, htai, hcgi⟩, rfl⟩

theorem nodup_downlinkNasTransport (m : DownlinkNasTransport) : (m.ies.map fun ie => ie.id).Nodup :=
  (by decide : [idMmeUeS1apId, idEnbUeS1apId, idNasPdu].Nodup)

theorem decode_encodeDownlinkNasTransport {m : DownlinkNasTransport}
    (hput : encodeDownlinkNasTransport m = some bytes) :
    decodeS1apPdu bytes = .ok (.downlinkNasTransport m) := by
  obtain ⟨value, entries, hwrapper, hcontainer, hencode⟩ := decode_encodePdu hput
  have hnodup := nodup_downlinkNasTransport m
  obtain ⟨hmme, henb⟩ := assigned_ueIds hencode hnodup rfl
  have hnas : assigned readOctetString entries idNasPdu = some m.nasPdu :=
    laws_nasPduIe.assigned_eq hencode hnodup (by simp [DownlinkNasTransport.ies])
  rw [decodeS1apPdu_eq hwrapper hcontainer]
  change decodeDownlinkNasTransport entries = _
  exact decodeDownlinkNasTransport_eq_ok_iff.mpr ⟨m, ⟨hmme, henb, hnas⟩, rfl⟩

theorem map_id_initialContextSetupRequest (m : InitialContextSetupRequest) :
    (m.ies.map fun ie => ie.id) =
      [idMmeUeS1apId, idEnbUeS1apId, idUeAggregateMaximumBitrate, idSecurityKey] ++
        (if m.eRabs.isEmpty then [] else [idERabToBeSetupListCtxtSuReq]) ++
        (if m.nasPdu.isSome then [idNasPdu] else []) := by
  rw [InitialContextSetupRequest.ies, List.map_append, List.map_append, map_id_unlessEmpty]
  cases m.nasPdu <;> rfl

theorem nodup_initialContextSetupRequest (m : InitialContextSetupRequest) :
    (m.ies.map fun ie => ie.id).Nodup := by
  rw [map_id_initialContextSetupRequest]
  cases m.eRabs.isEmpty <;> cases m.nasPdu.isSome <;> decide

theorem decode_encodeInitialContextSetupRequest {m : InitialContextSetupRequest}
    (hput : encodeInitialContextSetupRequest m = some bytes) :
    decodeS1apPdu bytes = .ok (.initialContextSetupRequest m) := by
  obtain ⟨value, entries, hwrapper, hcontainer, hencode⟩ := decode_encodePdu hput
  have hids := map_id_initialContextSetupRequest m
  have hnodup := nodup_initialContextSetupRequest m
  obtain ⟨hmme, henb⟩ := assigned_ueIds hencode hnodup rfl
  have hambr : assignedIfRead (readBitRates bitRateMax) none some entries
      idUeAggregateMaximumBitrate = some m.ueAmbr :=
    laws_ueAmbrIe.assignedIfRead_eq hencode hnodup (by simp [InitialContextSetupRequest.ies])
      none some
  have hkey : assigned (readArray 32) entries idSecurityKey = some m.securityKey :=
    laws_securityKeyIe.assigned_eq hencode hnodup (by simp [InitialContextSetupRequest.ies])
  have herabs : assignedIfRead readErabsToSetup [] id entries idERabToBeSetupListCtxtSuReq =
      m.eRabs := by
    refine laws_erabsToSetupIe.unlessEmpty_eq hencode hnodup (fun ie hmem => ?_) fun hempty => ?_
    · simp [InitialContextSetupRequest.ies, hmem]
    · rw [hids, hempty]
      cases m.nasPdu.isSome <;> decide
  have hnas : assigned readOctetString entries idNasPdu = m.nasPdu := by
    cases hsome : m.nasPdu with
    | none =>
        refine assigned_of_not_mem hencode ?_ _
        rw [hids, hsome]
        cases m.eRabs.isEmpty <;> decide
    | some nasPdu =>
        exact laws_nasPduIe.assigned_eq hencode hnodup
          (by simp [InitialContextSetupRequest.ies, hsome])
  rw [decodeS1apPdu_eq hwrapper hcontainer]
  change decodeInitialContextSetupRequest entries = _
  exact decodeInitialContextSetupRequest_eq_ok_iff.mpr
    ⟨m, ⟨hmme, henb, hambr, hkey, herabs, hnas⟩, rfl⟩

theorem map_id_initialContextSetupResponse (m : InitialContextSetupResponse) :
    (m.ies.map fun ie => ie.id) =
      [idMmeUeS1apId, idEnbUeS1apId] ++
        (if m.eRabsSetup.isEmpty then [] else [idERabSetupListCtxtSuRes]) ++
        (if m.eRabsFailed.isEmpty then [] else [idERabFailedToSetupListCtxtSuRes]) := by
  rw [InitialContextSetupResponse.ies, List.map_append, List.map_append, map_id_unlessEmpty,
    map_id_unlessEmpty]
  rfl

theorem nodup_initialContextSetupResponse (m : InitialContextSetupResponse) :
    (m.ies.map fun ie => ie.id).Nodup := by
  rw [map_id_initialContextSetupResponse]
  cases m.eRabsSetup.isEmpty <;> cases m.eRabsFailed.isEmpty <;> decide

theorem decode_encodeInitialContextSetupResponse {m : InitialContextSetupResponse}
    (hput : encodeInitialContextSetupResponse m = some bytes) :
    decodeS1apPdu bytes = .ok (.initialContextSetupResponse m) := by
  obtain ⟨value, entries, hwrapper, hcontainer, hencode⟩ := decode_encodePdu hput
  have hids := map_id_initialContextSetupResponse m
  have hnodup := nodup_initialContextSetupResponse m
  obtain ⟨hmme, henb⟩ := assigned_ueIds hencode hnodup rfl
  have hsetup : assignedIfRead readErabsSetup [] id entries idERabSetupListCtxtSuRes =
      m.eRabsSetup := by
    refine laws_erabsSetupIe.unlessEmpty_eq hencode hnodup (fun ie hmem => ?_) fun hempty => ?_
    · simp [InitialContextSetupResponse.ies, hmem]
    · rw [hids, hempty]
      cases m.eRabsFailed.isEmpty <;> decide
  have hfailed : assignedIfRead readErabIds [] id entries idERabFailedToSetupListCtxtSuRes =
      m.eRabsFailed := by
    refine laws_erabsFailedIe.unlessEmpty_eq hencode hnodup (fun ie hmem => ?_) fun hempty => ?_
    · simp [InitialContextSetupResponse.ies, hmem]
    · rw [hids, hempty]
      cases m.eRabsSetup.isEmpty <;> decide
  rw [decodeS1apPdu_eq hwrapper hcontainer]
  change decodeInitialContextSetupResponse entries = _
  exact decodeInitialContextSetupResponse_eq_ok_iff.mpr ⟨m, ⟨hmme, henb, hsetup, hfailed⟩, rfl⟩

theorem nodup_ueContextReleaseCommand (mmeUeS1apId enbUeS1apId : UInt32) (cause : S1apCause) :
    ((ueContextReleaseCommandIes mmeUeS1apId enbUeS1apId cause).map fun ie => ie.id).Nodup :=
  (by decide : [idMmeUeS1apId, idEnbUeS1apId, idCause].Nodup)

theorem decode_encodeUeContextReleaseCommand {mmeUeS1apId enbUeS1apId : UInt32} {cause : S1apCause}
    (hput : encodeUeContextReleaseCommand mmeUeS1apId enbUeS1apId cause = some bytes) :
    decodeS1apPdu bytes = .ok (.ueContextReleaseCommand mmeUeS1apId enbUeS1apId cause) := by
  obtain ⟨value, entries, hwrapper, hcontainer, hencode⟩ := decode_encodePdu hput
  have hnodup := nodup_ueContextReleaseCommand mmeUeS1apId enbUeS1apId cause
  obtain ⟨hmme, henb⟩ := assigned_ueIds hencode hnodup rfl
  have hcause : assigned readCause entries idCause = some cause :=
    laws_causeIe.assigned_eq hencode hnodup (by simp [ueContextReleaseCommandIes])
  rw [decodeS1apPdu_eq hwrapper hcontainer]
  change decodeUeContextReleaseCommand entries = _
  exact decodeUeContextReleaseCommand_eq_ok_iff.mpr
    ⟨mmeUeS1apId, enbUeS1apId, cause, ⟨hmme, henb, hcause⟩, rfl⟩

theorem nodup_ueContextReleaseComplete (m : UeContextReleaseComplete) :
    (m.ies.map fun ie => ie.id).Nodup :=
  (by decide : [idMmeUeS1apId, idEnbUeS1apId].Nodup)

theorem decode_encodeUeContextReleaseComplete {m : UeContextReleaseComplete}
    (hput : encodeUeContextReleaseComplete m = some bytes) :
    decodeS1apPdu bytes = .ok (.ueContextReleaseComplete m) := by
  obtain ⟨value, entries, hwrapper, hcontainer, hencode⟩ := decode_encodePdu hput
  have hnodup := nodup_ueContextReleaseComplete m
  obtain ⟨hmme, henb⟩ := assigned_ueIds hencode hnodup rfl
  rw [decodeS1apPdu_eq hwrapper hcontainer]
  change decodeUeContextReleaseComplete entries = _
  exact decodeUeContextReleaseComplete_eq_ok_iff.mpr ⟨m, ⟨hmme, henb⟩, rfl⟩

end Messages

/-- Whatever the encoder makes of a message is decoded to it. -/
theorem decode_encodeS1apPdu {msg : S1apMessage} {bytes : List UInt8}
    (hput : encodeS1apPdu msg = some (.ok bytes)) : decodeS1apPdu bytes = .ok msg := by
  cases msg with
  | initialUeMessage m => exact decode_encodeInitialUeMessage (map_ok_eq_some_iff.mp hput)
  | uplinkNasTransport m => exact decode_encodeUplinkNasTransport (map_ok_eq_some_iff.mp hput)
  | downlinkNasTransport m => exact decode_encodeDownlinkNasTransport (map_ok_eq_some_iff.mp hput)
  | initialContextSetupRequest m =>
      exact decode_encodeInitialContextSetupRequest (map_ok_eq_some_iff.mp hput)
  | initialContextSetupResponse m =>
      exact decode_encodeInitialContextSetupResponse (map_ok_eq_some_iff.mp hput)
  | ueContextReleaseCommand mmeUeS1apId enbUeS1apId cause =>
      exact decode_encodeUeContextReleaseCommand (map_ok_eq_some_iff.mp hput)
  | ueContextReleaseComplete m =>
      exact decode_encodeUeContextReleaseComplete (map_ok_eq_some_iff.mp hput)
  | s1SetupRequest | s1SetupResponse | s1SetupFailure | initialContextSetupFailure => cases hput

/-! ## Messages in their ranges are encoded -/

/-- The seven messages with an encoder. -/
def S1apMessage.Supported : S1apMessage → Prop
  | initialUeMessage _ | uplinkNasTransport _ | downlinkNasTransport _
  | initialContextSetupRequest _ | initialContextSetupResponse _ | ueContextReleaseCommand _ _ _
  | ueContextReleaseComplete _ => True
  | _ => False

/-- The fields that are wider than the ranges of their elements are in these ranges, and the list
of failed ids has a length that a length determinant can announce. -/
def S1apMessage.InRange : S1apMessage → Prop
  | initialUeMessage m =>
      m.enbUeS1apId.toNat ≤ enbUeS1apIdMax ∧ m.rrcCause.toNat ≤ rrcEstablishmentCauseMax
  | uplinkNasTransport m => m.enbUeS1apId.toNat ≤ enbUeS1apIdMax
  | downlinkNasTransport m => m.enbUeS1apId.toNat ≤ enbUeS1apIdMax
  | initialContextSetupRequest m =>
      m.enbUeS1apId.toNat ≤ enbUeS1apIdMax ∧ RatesInRange m.ueAmbr ∧
        ∀ e ∈ m.eRabs, e.erabId.toNat ≤ erabIdMax
  | initialContextSetupResponse m =>
      m.enbUeS1apId.toNat ≤ enbUeS1apIdMax ∧ (∀ it ∈ m.eRabsSetup, it.eRabId.toNat ≤ erabIdMax) ∧
        m.eRabsFailed.length < 16384 ∧ ∀ id ∈ m.eRabsFailed, id.toNat ≤ erabIdMax
  | ueContextReleaseCommand _ enbUeS1apId _ => enbUeS1apId.toNat ≤ enbUeS1apIdMax
  | ueContextReleaseComplete m => m.enbUeS1apId.toNat ≤ enbUeS1apIdMax
  | _ => True

/-- The octets that the values of the elements of a message take up. -/
def S1apMessage.ieLengths : S1apMessage → List Nat
  | initialUeMessage m => [3, octetStringLength m.nasPdu.length, 5, 7, 1]
  | uplinkNasTransport m => [4, 3, octetStringLength m.nasPdu.length, 5, 7]
  | downlinkNasTransport m => [4, 3, octetStringLength m.nasPdu.length]
  | initialContextSetupRequest m =>
      [4, 3, 10, 32] ++
        (if m.eRabs.isEmpty then []
          else [lengthDeterminantLength m.eRabs.length + 10 * m.eRabs.length]) ++
        (m.nasPdu.map fun nasPdu => octetStringLength nasPdu.length).toList
  | initialContextSetupResponse m =>
      [4, 3] ++
        (if m.eRabsSetup.isEmpty then []
          else [lengthDeterminantLength m.eRabsSetup.length + 9 * m.eRabsSetup.length]) ++
        (if m.eRabsFailed.isEmpty then []
          else [lengthDeterminantLength m.eRabsFailed.length + (m.eRabsFailed.length + 1) / 2])
  | ueContextReleaseCommand _ _ _ => [4, 3, 1]
  | ueContextReleaseComplete _ => [4, 3]
  | _ => []

section Fits

theorem fits_ueIds (mmeUeS1apId : UInt32) {enbUeS1apId : UInt32} {criticality : UInt8}
    (hcriticality : criticality.toNat ≤ 2) (henb : enbUeS1apId.toNat ≤ enbUeS1apIdMax)
    {ies : List Ie} {lengths : List Nat} (hrest : List.Forall₂ Ie.Fits ies lengths) :
    List.Forall₂ Ie.Fits (mmeUeS1apIdIe criticality mmeUeS1apId ::
      enbUeS1apIdIe criticality enbUeS1apId :: ies) (4 :: 3 :: lengths) :=
  .cons ((laws_mmeUeS1apIdIe criticality).fits mmeUeS1apId hcriticality)
    (.cons ((laws_enbUeS1apIdIe criticality).fits enbUeS1apId ⟨hcriticality, henb⟩) hrest)

theorem exists_encodeInitialUeMessage {m : InitialUeMessage}
    (hrange : (S1apMessage.initialUeMessage m).InRange)
    (hsmall : containerLength (S1apMessage.initialUeMessage m).ieLengths < 16384) :
    ∃ bytes, encodeInitialUeMessage m = some bytes := by
  obtain ⟨henb, hcause⟩ := hrange
  have hlen : m.nasPdu.length < 16384 :=
    lt_of_octetString_mem (by simp [S1apMessage.ieLengths]) hsmall
  have hreject : criticalityReject.toNat ≤ 2 := by decide
  exact exists_encodePdu (by decide) (by decide) (by decide)
    (.cons ((laws_enbUeS1apIdIe criticalityReject).fits m.enbUeS1apId ⟨hreject, henb⟩)
      (.cons (laws_nasPduIe.fits m.nasPdu hlen)
        (.cons (laws_taiIe.fits m.tai trivial)
          (.cons (laws_eutranCgiIe.fits m.eutranCgi trivial)
            (.cons (laws_rrcEstablishmentCauseIe.fits m.rrcCause hcause) .nil))))) hsmall

theorem exists_encodeUplinkNasTransport {m : UplinkNasTransport}
    (henb : (S1apMessage.uplinkNasTransport m).InRange)
    (hsmall : containerLength (S1apMessage.uplinkNasTransport m).ieLengths < 16384) :
    ∃ bytes, encodeUplinkNasTransport m = some bytes := by
  have hlen : m.nasPdu.length < 16384 :=
    lt_of_octetString_mem (by simp [S1apMessage.ieLengths]) hsmall
  exact exists_encodePdu (by decide) (by decide) (by decide)
    (fits_ueIds m.mmeUeS1apId (by decide) henb
      (.cons (laws_nasPduIe.fits m.nasPdu hlen)
        (.cons (laws_taiIe.fits m.tai trivial)
          (.cons (laws_eutranCgiIe.fits m.eutranCgi trivial) .nil)))) hsmall

theorem exists_encodeDownlinkNasTransport {m : DownlinkNasTransport}
    (henb : (S1apMessage.downlinkNasTransport m).InRange)
    (hsmall : containerLength (S1apMessage.downlinkNasTransport m).ieLengths < 16384) :
    ∃ bytes, encodeDownlinkNasTransport m = some bytes := by
  have hlen : m.nasPdu.length < 16384 :=
    lt_of_octetString_mem (by simp [S1apMessage.ieLengths]) hsmall
  exact exists_encodePdu (by decide) (by decide) (by decide)
    (fits_ueIds m.mmeUeS1apId (by decide) henb
      (.cons (laws_nasPduIe.fits m.nasPdu hlen) .nil)) hsmall

theorem exists_encodeInitialContextSetupRequest {m : InitialContextSetupRequest}
    (hrange : (S1apMessage.initialContextSetupRequest m).InRange)
    (hsmall : containerLength (S1apMessage.initialContextSetupRequest m).ieLengths < 16384) :
    ∃ bytes, encodeInitialContextSetupRequest m = some bytes := by
  obtain ⟨henb, hrates, hids⟩ := hrange
  have herabs := fits_unlessEmpty fun hsome : m.eRabs ≠ [] => by
    refine laws_erabsToSetupIe.fits m.eRabs ⟨?_, hids⟩
    have hmem : lengthDeterminantLength m.eRabs.length + 10 * m.eRabs.length ∈
        (S1apMessage.initialContextSetupRequest m).ieLengths := by
      simp [S1apMessage.ieLengths, hsome]
    exact length_lt_of_mem hmem (by omega) hsmall
  have hnas : List.Forall₂ Ie.Fits (m.nasPdu.map nasPduIe).toList
      (m.nasPdu.map fun nasPdu => octetStringLength nasPdu.length).toList := by
    cases hnas : m.nasPdu with
    | none => exact .nil
    | some nasPdu =>
        refine .cons (laws_nasPduIe.fits nasPdu ?_) .nil
        exact lt_of_octetString_mem (by simp [S1apMessage.ieLengths, hnas]) hsmall
  have hreject : criticalityReject.toNat ≤ 2 := by decide
  have hfixed := fits_ueIds m.mmeUeS1apId hreject henb
    (.cons (laws_ueAmbrIe.fits m.ueAmbr hrates)
      (.cons (laws_securityKeyIe.fits m.securityKey trivial) .nil))
  exact exists_encodePdu (by decide) (by decide) (by decide)
    (fits_append (fits_append hfixed herabs) hnas) hsmall

theorem exists_encodeInitialContextSetupResponse {m : InitialContextSetupResponse}
    (hrange : (S1apMessage.initialContextSetupResponse m).InRange)
    (hsmall : containerLength (S1apMessage.initialContextSetupResponse m).ieLengths < 16384) :
    ∃ bytes, encodeInitialContextSetupResponse m = some bytes := by
  obtain ⟨henb, hids, hfailed⟩ := hrange
  have hsetup := fits_unlessEmpty fun hsome : m.eRabsSetup ≠ [] => by
    refine laws_erabsSetupIe.fits m.eRabsSetup ⟨?_, hids⟩
    have hmem : lengthDeterminantLength m.eRabsSetup.length + 9 * m.eRabsSetup.length ∈
        (S1apMessage.initialContextSetupResponse m).ieLengths := by
      simp [S1apMessage.ieLengths, hsome]
    exact length_lt_of_mem hmem (by omega) hsmall
  have hfailed := fits_unlessEmpty fun _ : m.eRabsFailed ≠ [] =>
    laws_erabsFailedIe.fits m.eRabsFailed hfailed
  exact exists_encodePdu (by decide) (by decide) (by decide)
    (fits_append (fits_append (fits_ueIds m.mmeUeS1apId (by decide) henb .nil) hsetup) hfailed)
    hsmall

theorem exists_encodeUeContextReleaseCommand (mmeUeS1apId : UInt32) {enbUeS1apId : UInt32}
    (henb : enbUeS1apId.toNat ≤ enbUeS1apIdMax) (cause : S1apCause) :
    ∃ bytes, encodeUeContextReleaseCommand mmeUeS1apId enbUeS1apId cause = some bytes :=
  exists_encodePdu (by decide) (by decide) (by decide)
    (fits_ueIds mmeUeS1apId (by decide) henb (.cons (laws_causeIe.fits cause trivial) .nil))
    (by decide)

theorem exists_encodeUeContextReleaseComplete {m : UeContextReleaseComplete}
    (henb : m.enbUeS1apId.toNat ≤ enbUeS1apIdMax) :
    ∃ bytes, encodeUeContextReleaseComplete m = some bytes :=
  exists_encodePdu (by decide) (by decide) (by decide)
    (fits_ueIds m.mmeUeS1apId (by decide) henb .nil) (by decide)

end Fits

/-- A message in its ranges whose container is short enough is encoded. -/
theorem exists_encodeS1apPdu {msg : S1apMessage} (hsupported : msg.Supported)
    (hrange : msg.InRange) (hsmall : containerLength msg.ieLengths < 16384) :
    ∃ bytes, encodeS1apPdu msg = some (.ok bytes) := by
  cases msg with
  | initialUeMessage m => exact exists_map_ok (exists_encodeInitialUeMessage hrange hsmall)
  | uplinkNasTransport m => exact exists_map_ok (exists_encodeUplinkNasTransport hrange hsmall)
  | downlinkNasTransport m => exact exists_map_ok (exists_encodeDownlinkNasTransport hrange hsmall)
  | initialContextSetupRequest m =>
      exact exists_map_ok (exists_encodeInitialContextSetupRequest hrange hsmall)
  | initialContextSetupResponse m =>
      exact exists_map_ok (exists_encodeInitialContextSetupResponse hrange hsmall)
  | ueContextReleaseCommand mmeUeS1apId enbUeS1apId cause =>
      exact exists_map_ok (exists_encodeUeContextReleaseCommand mmeUeS1apId hrange cause)
  | ueContextReleaseComplete m => exact exists_map_ok (exists_encodeUeContextReleaseComplete hrange)
  | s1SetupRequest | s1SetupResponse | s1SetupFailure | initialContextSetupFailure =>
      cases hsupported

/-- The message is encoded, and the octets are decoded to it. -/
def S1apMessage.RoundTrips (msg : S1apMessage) : Prop :=
  ∃ bytes, encodeS1apPdu msg = some (.ok bytes) ∧ decodeS1apPdu bytes = .ok msg

theorem S1apMessage.roundTrips_of_encode {msg : S1apMessage}
    (hencode : ∃ bytes, encodeS1apPdu msg = some (.ok bytes)) : msg.RoundTrips := by
  obtain ⟨bytes, hput⟩ := hencode
  exact ⟨bytes, hput, decode_encodeS1apPdu hput⟩

/-- A short NAS PDU is carried to any UE that an eNodeB has an id for. -/
theorem roundTrips_downlinkNasTransport (mmeUeS1apId : UInt32) {enbUeS1apId : UInt32}
    (henb : enbUeS1apId.toNat ≤ enbUeS1apIdMax) {nasPdu : List UInt8}
    (hshort : nasPdu.length < 128) :
    (S1apMessage.downlinkNasTransport ⟨mmeUeS1apId, enbUeS1apId, nasPdu⟩).RoundTrips := by
  refine S1apMessage.roundTrips_of_encode
    (exists_map_ok (exists_encodeDownlinkNasTransport henb ?_))
  have hoctets : octetStringLength nasPdu.length ≤ octetStringLength 128 :=
    octetStringLength_mono hshort.le
  have hlonger : List.Forall₂ (· ≤ ·) [4, 3, octetStringLength nasPdu.length]
      [4, 3, octetStringLength 128] :=
    .cons (le_refl _) (.cons (le_refl _) (.cons hoctets .nil))
  exact lt_of_le_of_lt (containerLength_mono hlonger) (by decide)

/-- A setup request for one bearer with a short NAS PDU. -/
theorem roundTrips_initialContextSetupRequest (mmeUeS1apId : UInt32) {enbUeS1apId : UInt32}
    (henb : enbUeS1apId.toNat ≤ enbUeS1apIdMax) {erab : ErabToSetup}
    (herab : erab.erabId.toNat ≤ erabIdMax) {nasPdu : List UInt8} (hshort : nasPdu.length < 128)
    {ueAmbr : UInt64 × UInt64} (hrates : RatesInRange ueAmbr) (securityKey : Octets 32) :
    (S1apMessage.initialContextSetupRequest
      ⟨mmeUeS1apId, enbUeS1apId, [erab], some nasPdu, ueAmbr, securityKey⟩).RoundTrips := by
  refine S1apMessage.roundTrips_of_encode (exists_map_ok
    (exists_encodeInitialContextSetupRequest
      ⟨henb, hrates, List.forall_mem_singleton.mpr herab⟩ ?_))
  have hoctets : octetStringLength nasPdu.length ≤ octetStringLength 128 :=
    octetStringLength_mono hshort.le
  have hlonger : List.Forall₂ (· ≤ ·) [4, 3, 10, 32, 11, octetStringLength nasPdu.length]
      [4, 3, 10, 32, 11, octetStringLength 128] :=
    .cons (le_refl _) (.cons (le_refl _) (.cons (le_refl _) (.cons (le_refl _)
      (.cons (le_refl _) (.cons hoctets .nil)))))
  exact lt_of_le_of_lt (containerLength_mono hlonger) (by decide)

theorem roundTrips_ueContextReleaseCommand (mmeUeS1apId : UInt32) {enbUeS1apId : UInt32}
    (henb : enbUeS1apId.toNat ≤ enbUeS1apIdMax) (cause : S1apCause) :
    (S1apMessage.ueContextReleaseCommand mmeUeS1apId enbUeS1apId cause).RoundTrips :=
  S1apMessage.roundTrips_of_encode
    (exists_map_ok (exists_encodeUeContextReleaseCommand mmeUeS1apId henb cause))

/-- Every supported message in its ranges whose container stays below 16384 octets is encoded, and
decoded to itself. -/
theorem s1apPdu_round_trip {msg : S1apMessage} (hsupported : msg.Supported) (hrange : msg.InRange)
    (hsmall : containerLength msg.ieLengths < 16384) :
    ∃ bytes, encodeS1apPdu msg = some (.ok bytes) ∧ decodeS1apPdu bytes = .ok msg := by
  obtain ⟨bytes, hput⟩ := exists_encodeS1apPdu hsupported hrange hsmall
  exact ⟨bytes, hput, decode_encodeS1apPdu hput⟩

/-- A setup response with one bearer that was set up and three that failed. -/
theorem s1apPdu_round_trip_response :
    ∃ bytes,
      encodeS1apPdu (.initialContextSetupResponse
        ⟨7, 16777215, [⟨5, Octets.zeros 4, Octets.zeros 4⟩], [6, 7, 15]⟩) = some (.ok bytes) ∧
        decodeS1apPdu bytes = .ok (.initialContextSetupResponse
          ⟨7, 16777215, [⟨5, Octets.zeros 4, Octets.zeros 4⟩], [6, 7, 15]⟩) :=
  s1apPdu_round_trip trivial ⟨by decide, by decide, by decide, by simp [erabIdMax]⟩ (by decide)

end Midn.S1ap
