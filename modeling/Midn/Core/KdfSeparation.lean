import Midn.Core.Kdf
import Midn.Lib.Tails

/-!
# Separation of the derivations

The string under the HMAC has the length of each parameter after it, so it is read from its end: the
last two octets tell where the last parameter begins. In the five derivations only the first
parameter has no fixed length. A key and a string thus belong to one derivation with one list of
arguments.
-/

namespace Midn

/-! ## The string of the generic function -/

/-- The two octets after a parameter. -/
def lengthOctets (len : Nat) : List UInt8 := (UInt16.ofNat len).toBeBytes.toList

/-- What `kdfGeneric` feeds to the HMAC. -/
def kdfInput (fc : UInt8) (params : List (List UInt8)) : List UInt8 :=
  fc :: Tails.withLengths lengthOctets params

theorem kdfGeneric_eq (P : Primitives) (key : List UInt8) (fc : UInt8)
    (params : List (List UInt8)) :
    kdfGeneric P key fc params = P.hmacSha256 key (kdfInput fc params) := rfl

theorem length_lengthOctets (len : Nat) : (lengthOctets len).length = 2 :=
  Octets.length_toList _

theorem suffixFree_lengthOctets : Tails.SuffixFree {len : Nat | len < 65536} lengthOctets := by
  refine Tails.suffixFree_of_length length_lengthOctets fun m hm n hn hsame => ?_
  have hm : m < 65536 := hm
  have hn : n < 65536 := hn
  have hvalue := congrArg Octets.beValue hsame
  rw [lengthOctets, lengthOctets, UInt16.beValue_toBeBytes, UInt16.beValue_toBeBytes,
    UInt16.toNat_ofNat_of_lt' hm, UInt16.toNat_ofNat_of_lt' hn] at hvalue
  exact hvalue

/-- The string determines FC and, below 65536 octets each, all the parameters. -/
theorem kdfInput_inj {fc fc' : UInt8} {params params' : List (List UInt8)}
    (hsame : kdfInput fc params = kdfInput fc' params') :
    fc = fc' ∧ ((∀ p ∈ params, p.length < 65536) → (∀ p ∈ params', p.length < 65536) →
      params = params') := by
  obtain ⟨hfc, hparams⟩ := List.cons.inj hsame
  refine ⟨hfc, fun hshort hshort' => ?_⟩
  have hcode : ∀ len, lengthOctets len ≠ [] := by
    intro len hnil
    exact absurd (length_lengthOctets len) (by rw [hnil]; decide)
  exact Tails.withLengths_inj suffixFree_lengthOctets hcode hshort hshort' hparams

/-! ## The five derivations -/

/-- A derivation with its arguments. -/
inductive Derivation
  | kasme (ck ik : Octets 16) (snId : Octets 3) (sqnXorAk : Octets 6)
  | kausf (ck ik : Octets 16) (snn : List UInt8) (sqnXorAk : Octets 6)
  | resStar (ck ik : Octets 16) (snn : List UInt8) (rand : Octets 16) (res : Octets 8)
  | kseaf (kausf : Octets 32) (snn : List UInt8)
  | kamf (kseaf : Octets 32) (supi : List UInt8) (abba : Octets 2)

namespace Derivation

def key : Derivation → List UInt8
  | kasme ck ik _ _ | kausf ck ik _ _ | resStar ck ik _ _ _ => ck.toList ++ ik.toList
  | kseaf k _ => k.toList
  | kamf k _ _ => k.toList

/-- The function that a derivation is a call of. -/
inductive Kind
  | kasme | kausf | resStar | kseaf | kamf
  deriving DecidableEq

def kind : Derivation → Kind
  | kasme .. => .kasme
  | kausf .. => .kausf
  | resStar .. => .resStar
  | kseaf .. => .kseaf
  | kamf .. => .kamf

def Kind.fc : Kind → UInt8
  | kasme => fcKasmeDerivation
  | kausf => fcKausfDerivation
  | resStar => fcResStarDerivation
  | kseaf => fcKseafDerivation
  | kamf => fcKamfDerivation

/-- How long the parameters after the first one are. -/
def Kind.laterLengths : Kind → List Nat
  | kasme | kausf => [6]
  | resStar => [16, 8]
  | kseaf => []
  | kamf => [2]

/-- The parameter that may have any length. -/
def firstParam : Derivation → List UInt8
  | kasme _ _ snId _ => snId.toList
  | kausf _ _ snn _ | resStar _ _ snn _ _ | kseaf _ snn => snn
  | kamf _ supi _ => supi

/-- The parameters after it, which are arrays. -/
def laterParams : Derivation → List (List UInt8)
  | kasme _ _ _ sqnXorAk | kausf _ _ _ sqnXorAk => [sqnXorAk.toList]
  | resStar _ _ _ rand res => [rand.toList, res.toList]
  | kseaf .. => []
  | kamf _ _ abba => [abba.toList]

/-- The string under the HMAC. -/
def input (d : Derivation) : List UInt8 := kdfInput d.kind.fc (d.firstParam :: d.laterParams)

/-- What the function of a derivation returns. -/
def derive (P : Primitives) : Derivation → List UInt8
  | kasme ck ik snId sqnXorAk => (deriveKasme P ck ik snId sqnXorAk).toList
  | kausf ck ik snn sqnXorAk => (deriveKausf P ck ik snn sqnXorAk).toList
  | resStar ck ik snn rand res => (deriveResStar P ck ik snn rand res).toList
  | kseaf k snn => (deriveKseaf P k snn).toList
  | kamf k supi abba => (deriveKamf P k supi abba).toList

/-- What is kept of the digest. -/
def keep (digest : Octets 32) : Derivation → List UInt8
  | resStar .. => (digest.slice 16 16 Primitives.low_in_digest).toList
  | _ => digest.toList

/-- Every derivation is the HMAC of its string under its key. -/
theorem derive_eq (P : Primitives) (d : Derivation) :
    d.derive P = d.keep (P.hmacSha256 d.key d.input) := by
  cases d <;> rfl

/-- CK and IK are the two halves of a key. -/
theorem halves_inj {ck ik ck' ik' : Octets 16}
    (hkey : ck.toList ++ ik.toList = ck'.toList ++ ik'.toList) : ck = ck' ∧ ik = ik' := by
  have hlength : ck.toList.length = ck'.toList.length := by
    rw [Octets.length_toList, Octets.length_toList]
  obtain ⟨hck, hik⟩ := List.append_inj hkey hlength
  exact ⟨List.Vector.toList_injective hck, List.Vector.toList_injective hik⟩

/-- No two functions have one FC. -/
theorem Kind.fc_injective : Function.Injective Kind.fc := by
  intro kind kind' hfc
  cases kind <;> cases kind' <;> first | rfl | exact absurd hfc (by decide)

theorem lengths_laterParams (d : Derivation) :
    d.laterParams.map List.length = d.kind.laterLengths := by
  cases d <;>
    simp only [laterParams, kind, Kind.laterLengths, List.map_cons, List.map_nil,
      Octets.length_toList]

/-- The parts of a derivation determine it. -/
theorem eq_of_parts {d d' : Derivation} (hkind : d.kind = d'.kind) (hkey : d.key = d'.key)
    (hfirst : d.firstParam = d'.firstParam) (hlater : d.laterParams = d'.laterParams) :
    d = d' := by
  cases d <;> cases d' <;> cases hkind
  case kasme.kasme ck ik snId sqnXorAk ck' ik' snId' sqnXorAk' =>
    obtain ⟨hck, hik⟩ := halves_inj hkey
    have hsnId : snId = snId' := List.Vector.toList_injective hfirst
    have hsqn : sqnXorAk = sqnXorAk' := List.Vector.toList_injective (List.cons.inj hlater).1
    rw [hck, hik, hsnId, hsqn]
  case kausf.kausf ck ik snn sqnXorAk ck' ik' snn' sqnXorAk' =>
    obtain ⟨hck, hik⟩ := halves_inj hkey
    have hsnn : snn = snn' := hfirst
    have hsqn : sqnXorAk = sqnXorAk' := List.Vector.toList_injective (List.cons.inj hlater).1
    rw [hck, hik, hsnn, hsqn]
  case resStar.resStar ck ik snn rand res ck' ik' snn' rand' res' =>
    obtain ⟨hck, hik⟩ := halves_inj hkey
    obtain ⟨hrandList, hresList⟩ := List.cons.inj hlater
    have hsnn : snn = snn' := hfirst
    have hrand : rand = rand' := List.Vector.toList_injective hrandList
    have hres : res = res' := List.Vector.toList_injective (List.cons.inj hresList).1
    rw [hck, hik, hsnn, hrand, hres]
  case kseaf.kseaf kausf snn kausf' snn' =>
    have hkausf : kausf = kausf' := List.Vector.toList_injective hkey
    have hsnn : snn = snn' := hfirst
    rw [hkausf, hsnn]
  case kamf.kamf kseaf supi abba kseaf' supi' abba' =>
    have hkseaf : kseaf = kseaf' := List.Vector.toList_injective hkey
    have hsupi : supi = supi' := hfirst
    have habba : abba = abba' := List.Vector.toList_injective (List.cons.inj hlater).1
    rw [hkseaf, hsupi, habba]

/-- A key and a string belong to one derivation. -/
theorem input_inj {d d' : Derivation} (hkey : d.key = d'.key) (hinput : d.input = d'.input) :
    d = d' := by
  obtain ⟨hfc, hparams⟩ := List.cons.inj hinput
  have hkind : d.kind = d'.kind := Kind.fc_injective hfc
  have hlengths : d.laterParams.map List.length = d'.laterParams.map List.length := by
    rw [lengths_laterParams, lengths_laterParams, hkind]
  obtain ⟨hfirst, hlater⟩ := Tails.withLengths_cons_inj length_lengthOctets hlengths hparams
  exact eq_of_parts hkind hkey hfirst hlater

end Derivation

/-- A serving network name belongs to one PLMN. -/
theorem servingNetworkName_injective : Function.Injective servingNetworkName := by
  intro plmn plmn' hsame
  rw [servingNetworkName, servingNetworkName, List.append_assoc, List.append_assoc] at hsame
  have hrest := List.append_cancel_left hsame
  exact List.Vector.toList_injective (List.append_cancel_right hrest)

/-- Domain separation. The string that goes under the HMAC determines FC and, below 65536 octets
each, the list of the parameters; and each of the five derivations is the HMAC of such a string, so
that a key and a string determine which of them it is, with all its arguments and the PLMN of the
serving network name. -/
theorem kdf_domain_separation (P : Primitives) :
    (∀ key fc params, kdfGeneric P key fc params = P.hmacSha256 key (kdfInput fc params)) ∧
    (∀ fc fc' params params', kdfInput fc params = kdfInput fc' params' →
      fc = fc' ∧ ((∀ p ∈ params, p.length < 65536) → (∀ p ∈ params', p.length < 65536) →
        params = params')) ∧
    (∀ d : Derivation, d.derive P = d.keep (P.hmacSha256 d.key d.input)) ∧
    (∀ d d' : Derivation, d.key = d'.key → d.input = d'.input → d = d') ∧
    Function.Injective servingNetworkName := by
  refine ⟨kdfGeneric_eq P, ?_, Derivation.derive_eq P, ?_, servingNetworkName_injective⟩
  · exact fun fc fc' params params' => kdfInput_inj
  · exact fun d d' => Derivation.input_inj

end Midn
