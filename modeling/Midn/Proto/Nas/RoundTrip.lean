import Midn.Proto.Nas.Codec

/-!
# Plain NAS-EPS messages on the wire

What the decoder makes of the output of each encoder: the fields that were encoded, for every IMSI
of 15 digits, up to 50 tracking areas and any access point name of 255 octets.
-/

namespace Midn.Nas

/-- A call of one of the plain encoders. -/
inductive PlainMessage where
  | attachRequest (imsi : UInt64) (epsAttachType nasKsi : UInt8)
  | authRequest (nasKsi : UInt8) (rand autn : Octets 16)
  | authResponse (res : Octets 8)
  | secModeCmd (eea : NasEeaAlgorithm) (eia : NasEiaAlgorithm) (nasKsi : UInt8)
      (ueCap : List UInt8)
  | secModeComplete
  | attachAccept (attachResult t3412Value : UInt8) (taiList : List (Octets 5))
      (ipAddress : Option (Octets 4)) (apn : Option String)
  | attachComplete
  | detachRequest (detachType : UInt8) (switchOff : Bool) (nasKsi : UInt8) (guti : Octets 10)
  | detachAccept

namespace PlainMessage

def encode : PlainMessage → List UInt8
  | attachRequest imsi epsAttachType nasKsi => encodeAttachRequest imsi epsAttachType nasKsi
  | authRequest nasKsi rand autn => encodeAuthRequest nasKsi rand autn
  | authResponse res => encodeAuthResponse res
  | secModeCmd eea eia nasKsi ueCap => encodeSecModeCmd eea eia nasKsi ueCap
  | secModeComplete => encodeSecModeComplete
  | attachAccept attachResult t3412Value taiList ipAddress apn =>
      encodeAttachAccept attachResult t3412Value taiList ipAddress apn
  | attachComplete => encodeAttachComplete
  | detachRequest detachType switchOff nasKsi guti =>
      encodeDetachRequest detachType switchOff nasKsi guti
  | detachAccept => encodeDetachAccept

/-- The variant and the fields that were encoded; the decoder does not report the TAI list, the
replayed capabilities and the GUTI of a detach request, and every attach request has the same
network capability. -/
def pdu : PlainMessage → NasPdu
  | attachRequest imsi epsAttachType nasKsi =>
      .attachRequest ⟨epsAttachType, nasKsi, some imsi, [0x20, 0x40]⟩
  | authRequest nasKsi rand autn => .authenticationRequest ⟨nasKsi, rand, autn⟩
  | authResponse res => .authenticationResponse ⟨res⟩
  | secModeCmd eea eia nasKsi _ => .securityModeCommand ⟨eea, eia, nasKsi⟩
  | secModeComplete => .securityModeComplete
  | attachAccept attachResult t3412Value _ ipAddress apn =>
      .attachAccept ⟨attachResult, t3412Value, none, ipAddress, apn⟩
  | attachComplete => .attachComplete
  | detachRequest detachType switchOff nasKsi _ => .detachRequest ⟨detachType, switchOff, nasKsi⟩
  | detachAccept => .detachAccept

/-- The IMSI has 15 digits, fields of three bits are within their width, there are at most 50
tracking areas, and the access point name has at most 255 octets. -/
def InRange : PlainMessage → Prop
  | attachRequest imsi epsAttachType nasKsi =>
      imsi.toNat < 10 ^ 15 ∧ epsAttachType < 8 ∧ nasKsi < 8
  | authRequest nasKsi _ _ => nasKsi < 8
  | secModeCmd _ _ nasKsi _ => nasKsi < 8
  | attachAccept attachResult _ taiList _ apn =>
      attachResult < 8 ∧ taiList.length ≤ 50 ∧ ∀ name ∈ apn, name.toUTF8.size ≤ 255
  | detachRequest detachType _ nasKsi _ => detachType < 8 ∧ nasKsi < 8
  | _ => True

end PlainMessage

/-! ## Bit fields -/

theorem detachOctet_split : ∀ (ksi type : Fin 8) (switchOff : Bool),
    let octet := ((UInt8.ofNat ksi &&& 0x07) <<< 4) ||| ((switchOff.toUInt8 &&& 0x01) <<< 3) |||
      (UInt8.ofNat type &&& 0x07)
    octet &&& 0x07 = UInt8.ofNat type ∧ decide ((octet >>> 3) &&& 0x01 ≠ 0) = switchOff ∧
      (octet >>> 4) &&& 0x07 = UInt8.ofNat ksi := by
  decide

/-! ## Message by message -/

theorem decode_attachRequest {imsi : UInt64} {epsAttachType nasKsi : UInt8}
    (himsi : imsi.toNat < 10 ^ 15) (htype : epsAttachType < 8) (hksi : nasKsi < 8) :
    decodeNas (encodeAttachRequest imsi epsAttachType nasKsi) =
      .ok (.attachRequest ⟨epsAttachType, nasKsi, some imsi, [0x20, 0x40]⟩) := by
  obtain ⟨t, rfl⟩ := exists_fin_of_lt_eight htype
  obtain ⟨k, rfl⟩ := exists_fin_of_lt_eight hksi
  obtain ⟨hhigh, hlow⟩ := packedFields_split k t
  have hidentity := readLv_writeLv (encodeImsi imsi) (writeLv [0x20, 0x40])
    (by rw [encodeImsi_length]; decide)
  have hcap : readLv (writeLv [0x20, 0x40]) = some ([0x20, 0x40], []) := by decide
  simp only [encodeAttachRequest, List.cons_append, List.nil_append, decodeNas_plainHeader,
    decodeMessage, if_true, decodeAttachRequest, hidentity, hcap, decodeImsi_encodeImsi himsi,
    hlow, hhigh]

theorem decode_authRequest {nasKsi : UInt8} (hksi : nasKsi < 8) (rand autn : Octets 16) :
    decodeNas (encodeAuthRequest nasKsi rand autn) =
      .ok (.authenticationRequest ⟨nasKsi, rand, autn⟩) := by
  obtain ⟨k, rfl⟩ := exists_fin_of_lt_eight hksi
  rw [decodeNas_encodeAuthRequest, highField_split]

theorem decode_secModeCmd (eea : NasEeaAlgorithm) (eia : NasEiaAlgorithm) {nasKsi : UInt8}
    (hksi : nasKsi < 8) (ueCap : List UInt8) :
    decodeNas (encodeSecModeCmd eea eia nasKsi ueCap) =
      .ok (.securityModeCommand ⟨eea, eia, nasKsi⟩) := by
  obtain ⟨k, rfl⟩ := exists_fin_of_lt_eight hksi
  rw [decodeNas_encodeSecModeCmd, highField_split]

theorem decode_detachRequest {detachType nasKsi : UInt8} (htype : detachType < 8)
    (hksi : nasKsi < 8) (switchOff : Bool) (guti : Octets 10) :
    decodeNas (encodeDetachRequest detachType switchOff nasKsi guti) =
      .ok (.detachRequest ⟨detachType, switchOff, nasKsi⟩) := by
  obtain ⟨t, rfl⟩ := exists_fin_of_lt_eight htype
  obtain ⟨k, rfl⟩ := exists_fin_of_lt_eight hksi
  obtain ⟨hlow, hbit, hhigh⟩ := detachOctet_split k t switchOff
  have hdispatch : ∀ body, decodeMessage mtDetachRequest body = decodeDetachRequest body :=
    fun _ => rfl
  simp only [encodeDetachRequest, List.cons_append, List.nil_append, decodeNas_plainHeader,
    hdispatch, decodeDetachRequest, hlow, hbit, hhigh]

/-! ## The optional elements of an Attach Accept -/

/-- What one optional element contributes. -/
def acceptIe (iei : UInt8) (value : List UInt8) (accept : DecodedAttachAccept) :
    DecodedAttachAccept :=
  if iei = ieiGuti then
    match Octets.ofSlice? 10 value with
    | some guti => { accept with guti := some guti }
    | none => accept
  else if iei = ieiPdnAddr then
    match value with
    | kind :: a :: b :: c :: d :: _ =>
        if kind = 0x01 then
          { accept with ipAddress := some ⟨[a, b, c, d], Octets.length_four a b c d⟩ }
        else accept
    | _ => accept
  else if iei = ieiApn then { accept with apn := String.fromUTF8? ⟨value.toArray⟩ }
  else accept

/-- An element whose value fits its length octet is read as a whole, whatever is in the value. -/
theorem attachAcceptIes_writeTlv (iei : UInt8) {value : List UInt8} (hvalue : value.length < 256)
    (rest : List UInt8) (accept : DecodedAttachAccept) :
    attachAcceptIes (writeTlv iei value ++ rest) accept =
      attachAcceptIes rest (acceptIe iei value accept) := by
  have hlen : (UInt8.ofNat value.length).toNat = value.length := by
    rw [UInt8.toNat_ofNat', Nat.mod_eq_of_lt hvalue]
  have hroom : ¬ (value ++ rest).length < value.length := by
    rw [List.length_append]
    omega
  rw [writeTlv, writeLv, List.cons_append, List.cons_append, attachAcceptIes, hlen, if_neg hroom,
    List.take_left, List.drop_left]
  rfl

theorem attachAcceptIes_nil (accept : DecodedAttachAccept) :
    attachAcceptIes [] accept = accept := by
  rw [attachAcceptIes]
  intro iei len buf hcons
  cases hcons

theorem acceptIe_pdnAddr (ip : Octets 4) (accept : DecodedAttachAccept) :
    acceptIe ieiPdnAddr (0x01 :: ip.toList) accept = { accept with ipAddress := some ip } := by
  obtain ⟨octets, hlength⟩ := ip
  obtain ⟨a, b, c, d, rfl⟩ := List.length_eq_four.mp hlength
  rfl

theorem toList_loop (bytes : ByteArray) (i : Nat) (read : List UInt8) :
    ByteArray.toList.loop bytes i read = read.reverse ++ bytes.data.toList.drop i := by
  induction i, read using ByteArray.toList.loop.induct bytes with
  | case1 i read hlt ih =>
      have hbound : i < bytes.data.toList.length := by simpa using hlt
      have hget : bytes.get! i = bytes.data.toList[i] := by
        simp [ByteArray.get!, hlt]
      rw [ByteArray.toList.loop, if_pos hlt, ih, hget, List.reverse_cons, List.append_assoc,
        List.singleton_append, List.getElem_cons_drop]
  | case2 i read hge =>
      have hbound : bytes.data.toList.length ≤ i := by simpa using hge
      rw [ByteArray.toList.loop, if_neg hge, List.drop_eq_nil_of_le hbound, List.append_nil]

theorem toList_eq_data (bytes : ByteArray) : bytes.toList = bytes.data.toList := by
  rw [ByteArray.toList, toList_loop, List.drop_zero, List.reverse_nil, List.nil_append]

/-- A string is read back from its UTF-8 octets. -/
theorem fromUTF8?_toUTF8 (name : String) :
    String.fromUTF8? ⟨name.toUTF8.toList.toArray⟩ = some name := by
  rw [toList_eq_data, Array.toArray_toList]
  exact dif_pos name.isValidUTF8

theorem acceptIe_apn (name : String) (accept : DecodedAttachAccept) :
    acceptIe ieiApn name.toUTF8.toList accept = { accept with apn := some name } := by
  have hguti : ¬ ieiApn = ieiGuti := by decide
  have haddr : ¬ ieiApn = ieiPdnAddr := by decide
  unfold acceptIe
  rw [if_neg hguti, if_neg haddr, if_pos rfl, fromUTF8?_toUTF8]

/-- The optional elements that were encoded. -/
def pdnAddrIe : Option (Octets 4) → List UInt8
  | some ip => writeTlv ieiPdnAddr (0x01 :: ip.toList)
  | none => []

def apnIe : Option String → List UInt8
  | some name => writeTlv ieiApn name.toUTF8.toList
  | none => []

theorem attachAcceptIes_apnIe {apn : Option String} (hapn : ∀ name ∈ apn, name.toUTF8.size ≤ 255)
    (attachResult t3412Value : UInt8) (ipAddress : Option (Octets 4)) :
    attachAcceptIes (apnIe apn) ⟨attachResult, t3412Value, none, ipAddress, none⟩ =
      ⟨attachResult, t3412Value, none, ipAddress, apn⟩ := by
  cases apn with
  | none => exact attachAcceptIes_nil _
  | some name =>
      have hsize := hapn name rfl
      have hlength : name.toUTF8.toList.length < 256 := by
        rw [toList_eq_data, Array.length_toList]
        exact Nat.lt_succ_of_le hsize
      have hread := attachAcceptIes_writeTlv ieiApn hlength []
        ⟨attachResult, t3412Value, none, ipAddress, none⟩
      rw [List.append_nil, attachAcceptIes_nil, acceptIe_apn] at hread
      exact hread

/-- The address and the name come back, each only if it was there. -/
theorem attachAcceptIes_encoded {apn : Option String} (hapn : ∀ name ∈ apn, name.toUTF8.size ≤ 255)
    (attachResult t3412Value : UInt8) (ipAddress : Option (Octets 4)) :
    attachAcceptIes (pdnAddrIe ipAddress ++ apnIe apn)
        ⟨attachResult, t3412Value, none, none, none⟩ =
      ⟨attachResult, t3412Value, none, ipAddress, apn⟩ := by
  cases ipAddress with
  | none => exact attachAcceptIes_apnIe hapn attachResult t3412Value none
  | some ip =>
      have hlength : ((0x01 : UInt8) :: ip.toList).length < 256 := by
        rw [List.length_cons, Octets.length_toList]
        decide
      rw [pdnAddrIe, attachAcceptIes_writeTlv ieiPdnAddr hlength, acceptIe_pdnAddr]
      exact attachAcceptIes_apnIe hapn attachResult t3412Value (some ip)

/-- The octets of a TAI list: none, or its type and count and five octets for each entry. -/
def taiListOctets (taiList : List (Octets 5)) : List UInt8 :=
  if taiList = [] then []
  else ((UInt8.ofNat taiList.length - 1) ||| 0x18) :: taiList.flatMap List.Vector.toList

theorem length_taiListOctets_le (taiList : List (Octets 5)) :
    (taiListOctets taiList).length ≤ 1 + 5 * taiList.length := by
  have hentries : ∀ taiList : List (Octets 5),
      (taiList.flatMap List.Vector.toList).length = 5 * taiList.length := by
    intro taiList
    induction taiList with
    | nil => rfl
    | cons tai taiList ih =>
        rw [List.flatMap_cons, List.length_append, ih, Octets.length_toList, List.length_cons]
        omega
  rw [taiListOctets]
  split
  next => exact Nat.zero_le _
  next => rw [List.length_cons, hentries, Nat.add_comm]

theorem decode_attachAccept {attachResult : UInt8} (hresult : attachResult < 8)
    (t3412Value : UInt8) {taiList : List (Octets 5)} (htai : taiList.length ≤ 50)
    (ipAddress : Option (Octets 4)) {apn : Option String}
    (hapn : ∀ name ∈ apn, name.toUTF8.size ≤ 255) :
    decodeNas (encodeAttachAccept attachResult t3412Value taiList ipAddress apn) =
      .ok (.attachAccept ⟨attachResult, t3412Value, none, ipAddress, apn⟩) := by
  obtain ⟨k, rfl⟩ := exists_fin_of_lt_eight hresult
  have hencode : encodeAttachAccept (UInt8.ofNat k) t3412Value taiList ipAddress apn =
      [nasPlainHeader, mtAttachAccept, UInt8.ofNat k &&& 0x07, t3412Value] ++
        (writeLv (taiListOctets taiList) ++ (pdnAddrIe ipAddress ++ apnIe apn)) := by
    unfold encodeAttachAccept taiListOctets
    rw [apply_ite writeLv]
    cases ipAddress <;> cases apn <;> simp only [List.append_assoc, pdnAddrIe, apnIe]
  have hlength := length_taiListOctets_le taiList
  have hskip := readLv_writeLv (taiListOctets taiList) (pdnAddrIe ipAddress ++ apnIe apn)
    (by omega)
  have hdispatch : ∀ body, decodeMessage mtAttachAccept body = decodeAttachAccept body :=
    fun _ => rfl
  simp only [hencode, List.cons_append, List.nil_append, decodeNas_plainHeader, hdispatch,
    decodeAttachAccept, hskip, lowField_split]
  rw [attachAcceptIes_encoded hapn]

/-! ## All messages -/

/-- Every plain message in range is decoded to what was encoded. -/
theorem PlainMessage.decodeNas_encode {m : PlainMessage} (hrange : m.InRange) :
    decodeNas m.encode = .ok m.pdu := by
  cases m with
  | attachRequest imsi epsAttachType nasKsi =>
      exact decode_attachRequest hrange.1 hrange.2.1 hrange.2.2
  | authRequest nasKsi rand autn => exact decode_authRequest hrange rand autn
  | authResponse res => exact decodeNas_encodeAuthResponse res
  | secModeCmd eea eia nasKsi ueCap => exact decode_secModeCmd eea eia hrange ueCap
  | secModeComplete => exact decodeNas_encodeSecModeComplete
  | attachAccept attachResult t3412Value taiList ipAddress apn =>
      exact decode_attachAccept hrange.1 t3412Value hrange.2.1 ipAddress hrange.2.2
  | attachComplete => rfl
  | detachRequest detachType switchOff nasKsi guti =>
      exact decode_detachRequest hrange.1 hrange.2 switchOff guti
  | detachAccept => exact decodeNas_encodeDetachAccept

/-- An accept with 50 tracking areas, an address and a name. -/
theorem PlainMessage.decodeNas_encode_accept :
    decodeNas (attachAccept 1 0x21 (List.replicate 50 (Octets.zeros 5))
        (some ⟨[10, 45, 0, 1], rfl⟩) (some "internet")).encode =
      .ok (.attachAccept ⟨1, 0x21, none, some ⟨[10, 45, 0, 1], rfl⟩, some "internet"⟩) :=
  decodeNas_encode (m := attachAccept 1 0x21 (List.replicate 50 (Octets.zeros 5))
      (some ⟨[10, 45, 0, 1], rfl⟩) (some "internet"))
    ⟨by decide, by decide, fun name hname => by cases hname; decide⟩

end Midn.Nas
