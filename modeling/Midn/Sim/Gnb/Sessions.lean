import Midn.Core.Amf.Addresses
import Midn.Core.Amf.Tunnels
import Midn.Sim.Gnb.Refinement
import Midn.Userplane.RouteIndex

/-!
# The user plane of the simulator

The sessions and routes of the UPF are those of the UEs that are admitted and not yet released, each
under a TEID and an address of its own. The TEIDs that the core has lent are theirs and no others.
-/

namespace Midn.Sim.Gnb

open Midn.Core Midn.Core.Amf Ecs Nas5gs Ngap Userplane

/-! ## Tunnels -/

/-- Both ends of the tunnel of a UE. -/
structure Tunnel where
  admission : Admission
  dlTeid : UInt32
  gnbAddr : Octets 4

namespace Tunnel

variable (t : Tunnel)

def ueIp : Octets 4 := sessionUeIp t.admission.entity

def route : RouteEntry := .new t.ueIp t.dlTeid t.gnbAddr defaultQfi

def session (imsi : UInt64) : UserPlaneSession where
  entityId := t.admission.entity
  imsi := imsi
  ulTeid := t.admission.ulTeid
  dlTeid := t.dlTeid
  ueIp := t.ueIp
  enbAddr := t.gnbAddr
  active := true
  bytesUl := 0
  bytesDl := 0

end Tunnel

section Views

variable (setup : Setup) (i : Fin setup.nUes)

/-- The tunnel of a UE; its downlink end is not known until the session is confirmed. -/
def Stage.tunnel? : Stage → Option Tunnel
  | accepted a => some ⟨a, 0, Octets.zeros 4⟩
  | attached a .nothing _ => some ⟨a, 0, Octets.zeros 4⟩
  | attached a _ _ => some ⟨a, setup.dlTeid i, setup.myIp⟩
  | dismissed a => some ⟨a, setup.dlTeid i, setup.myIp⟩
  | ordered a => some ⟨a, setup.dlTeid i, setup.myIp⟩
  | releasing a => some ⟨a, setup.dlTeid i, setup.myIp⟩
  | _ => none

/-- What the user plane keeps for a UE, with the key it is kept under. -/
def Stage.sessionEntry (st : Stage) : Option (UInt32 × UserPlaneSession) :=
  (st.tunnel? setup i).map fun t => (t.admission.ulTeid, t.session (setup.imsi i))

def Stage.uplinkEntry (st : Stage) : Option (UInt32 × RouteEntry) :=
  (st.tunnel? setup i).map fun t => (t.admission.ulTeid, t.route)

def Stage.downlinkEntry (st : Stage) : Option (Octets 4 × RouteEntry) :=
  (st.tunnel? setup i).map fun t => (t.ueIp, t.route)

/-- What a step of the core means for the user plane. -/
inductive Turn : Stage → Stage → Prop
  | opened (a : Admission) : Turn (.completing a.entity a.rand) (.accepted a)
  | updated (a : Admission) (activity : Activity) :
      Turn (.attached a .nothing activity) (.attached a .session activity)
  | closed (a : Admission) : Turn (.releasing a) (.gone a)
  | other {st st' : Stage} (htunnel : st'.tunnel? setup i = st.tunnel? setup i)
      (hevents : st'.events setup i = []) (hadmitted : st'.admitted = st.admitted) : Turn st st'

variable {setup i} {P : Primitives} {rand : Octets 16} {msg : NgapMessage} {amf amf' : Amf}
  {output : Output} {st st' : Stage}

/-- The core takes a message at each of its steps, so no step of a task is one of them. -/
theorem CoreReaction.turn (hreaction : CoreReaction P setup i rand msg amf amf' output st st') :
    Turn setup i st st' := by
  have hlength := congrArg List.length hreaction.up
  rw [List.length_cons] at hlength
  cases hreaction.next with
  | accept a => exact .opened a
  | confirm a activity hnext =>
      cases hnext with
      | session => exact .updated a activity
      | registration => exact .other rfl rfl rfl
  | go a => exact .closed a
  | ask e => exact .other rfl rfl rfl
  | challenge e rand => exact .other rfl rfl rfl
  | command e rand => exact .other rfl rfl rfl
  | dismiss a => exact .other rfl rfl rfl
  | act a confirmed hnext =>
      -- only a UE that is leaving has sent more than before, not less
      cases hnext <;> simp only [Stage.up, List.length_append] at hlength <;> omega
  | _ => exact absurd hlength (by simp [Stage.up])

/-- The steps of a task leave the tunnel of its UE as it is. -/
theorem Reaction.keeps {received : List NgapMessage} {u u' : UeTask}
    (hreaction : Reaction P setup i received st st' u u') :
    st'.tunnel? setup i = st.tunnel? setup i ∧ st'.admitted = st.admitted := by
  obtain ⟨_, msgs, -, -, hup, -⟩ := hreaction.up
  have hlength := congrArg List.length hup
  rw [List.length_append] at hlength
  cases hreaction.next with
  | request => exact ⟨rfl, rfl⟩
  | identify e => exact ⟨rfl, rfl⟩
  | answer e rand => exact ⟨rfl, rfl⟩
  | complete e rand => exact ⟨rfl, rfl⟩
  | attach a => exact ⟨rfl, rfl⟩
  | act a confirmed hnext => exact ⟨by cases confirmed <;> rfl, rfl⟩
  | order a => exact ⟨rfl, rfl⟩
  | release a => exact ⟨rfl, rfl⟩
  | confirm a activity hnext =>
      cases hnext <;> cases activity <;>
        exact absurd hlength (by simp only [Stage.up, Stage.confirmations, List.length_append,
          List.length_cons, List.length_nil]; omega)
  | _ =>
      exact absurd hlength (by simp only [Stage.up, Stage.confirmations, List.length_append,
        List.length_cons, List.length_nil]; omega)

end Views

/-! ## TEIDs -/

/-- The base of the TEIDs of the core. -/
def teidBase : UInt32 := 0x00020000

/-- The allocator of the core, at the stages of the UEs. -/
structure Leases {ι : Type} [Fintype ι] (amf : Amf) (f : ι → Stage) : Prop where
  owned : (pool amf).Owned teidBase
  conserved : (pool amf).Conserved teidBase
  counter : amf.teidAllocator.next.toNat ≤ teidBase.toNat + Family.left Stage.admitted f

section Leases

variable {τ υ : Type} {P : Primitives} {setup : Setup} {s : System setup.nUes τ υ}
  {f : Fin setup.nUes → Stage} {i : Fin setup.nUes} {rand : Octets 16} {msg : NgapMessage}
  {st st' : Stage} {amf amf' : Amf} {output : Output} {t : Tunnel}

theorem admitted_le (st : Stage) : st.admitted ≤ 1 := by
  cases st with
  | accepted a => exact le_refl 1
  | attached a confirmed activity => exact le_refl 1
  | dismissed a => exact le_refl 1
  | ordered a => exact le_refl 1
  | releasing a => exact le_refl 1
  | gone a => exact le_refl 1
  | _ => exact Nat.zero_le 1

/-- A tunnel is opened exactly when a UE is admitted. -/
theorem Turn.opened_add (hturn : Turn setup i st st') :
    ((st'.events setup i).map N3Event.use).countP (fun use => use.2 = .opened) + st.admitted =
      st'.admitted := by
  cases hturn with
  | opened a => rfl
  | updated a activity => rfl
  | closed a => rfl
  | other htunnel hevents hadmitted =>
      rw [hevents, hadmitted]
      exact Nat.zero_add _

/-- The counter has room for a UE that is admitted. -/
theorem Leases.toNat_bump {f : Fin setup.nUes → Stage} (hleases : Leases amf f)
    (hadmitted : 1 + (f i).admitted = st'.admitted) :
    (TeidAllocator.bump (pool amf).next).toNat = (pool amf).next.toNat + 1 := by
  have hsum := Family.left_update_add Stage.admitted f i st'
  have hfew := Family.left_le (f := Function.update f i st') fun j => admitted_le _
  rw [Fintype.card_fin, Nat.mul_one] at hfew
  have hcounter : (pool amf).next.toNat ≤ teidBase.toNat + Family.left Stage.admitted f :=
    hleases.counter
  have hroom := setup.room
  have hmock : mockDlTeidBase.toNat = 0xAABBCCDD := rfl
  have hteid : teidBase.toNat = 0x00020000 := rfl
  have hone : UInt32.toNat 1 = 1 := rfl
  rw [TeidAllocator.bump, UInt32.toNat_add]
  omega

/-- The TEID that the UE gets is not lent to another one. -/
theorem Leases.allocSpec {f : Fin setup.nUes → Stage} (hleases : Leases amf f)
    (hadmitted : 1 + (f i).admitted = st'.admitted) :
    (pool amf).AllocSpec TeidAllocator.bump teidBase := by
  refine hleases.owned.allocSpec TeidAllocator.successor_bump ?_
  cases hfree : (pool amf).free with
  | nil =>
      simp only [Pool.State.alloc, hfree, UInt32.le_iff_toNat_le,
        hleases.toNat_bump hadmitted]
      exact Nat.le_succ _
  | cons teid free =>
      simp only [Pool.State.alloc, hfree]
      exact le_refl _

/-- A step of the core does with its TEIDs what the stage of the UE says. -/
theorem Leases.step (hleases : Leases amf f) (hphase : amf.phaseBUpf = some setup.upfIp)
    (hreaction : CoreReaction P setup i rand msg amf (Amf.step P amf (.ngap rand msg)).1
      (Amf.step P amf (.ngap rand msg)).2 (f i) st') :
    Leases (Amf.step P amf (.ngap rand msg)).1 (Function.update f i st') := by
  have hpool := pool_step P amf (.ngap rand msg)
  have hsum := Family.left_update_add Stage.admitted f i st'
  have hadmitted := hreaction.turn.opened_add
  rw [← hreaction.events] at hadmitted
  have hcounter := hleases.counter
  have hcases := TeidAllocator.next_step (pool amf) (poolAction P amf (.ngap rand msg))
  -- the counter moves only if the UE has not been counted so far
  have hmove : (pool amf).next ≤
        (Pool.step TeidAllocator.bump (pool amf) (poolAction P amf (.ngap rand msg))).1.next ∧
      (pool (Amf.step P amf (.ngap rand msg)).1).next.toNat ≤
        teidBase.toNat + Family.left Stage.admitted (Function.update f i st') := by
    have hbefore : (pool amf).next = amf.teidAllocator.next := rfl
    rw [hpool] at hcases ⊢
    rcases hcases with hsame | ⟨hbump, hopened⟩
    · rw [hsame, hbefore]
      refine ⟨le_refl _, ?_⟩
      omega
    · rw [hopened] at hadmitted
      rw [hbump, UInt32.le_iff_toNat_le, hleases.toNat_bump hadmitted, hbefore]
      omega
  constructor
  · rw [show pool (Amf.step P amf (.ngap rand msg)).1 = _ from (congrArg Prod.fst hpool).symm]
    exact hleases.owned.step TeidAllocator.successor_bump hmove.1
  · rw [show pool (Amf.step P amf (.ngap rand msg)).1 = _ from (congrArg Prod.fst hpool).symm]
    rw [hleases.owned.conserved_step_iff TeidAllocator.successor_bump hleases.conserved hmove.1]
    let t : Transition := Mealy.transition (Amf.step P) amf (.ngap rand msg)
    exact (sparing_iff (t := t) P hphase).mpr hreaction.request.untunnelled
  · exact hmove.2

theorem Leases.kept {f : Fin setup.nUes → Stage} (hleases : Leases amf f)
    (hadmitted : st'.admitted = (f i).admitted) : Leases amf (Function.update f i st') := by
  refine ⟨hleases.owned, hleases.conserved, ?_⟩
  rw [Family.left_update_of_eq hadmitted]
  exact hleases.counter

/-- The tunnel of a UE is the one that the core has for its entity. -/
theorem CoreAt.tunnel? (hcore : CoreAt P setup i st amf) (htunnel : st.tunnel? setup i = some t) :
    amf.world.tunnel? t.admission.entity = some ⟨t.admission.ulTeid, t.dlTeid, t.gnbAddr⟩ ∧
      st.entity? = some t.admission.entity := by
  have hown : st.entity? = some t.admission.entity ∧
      ∃ n, st.components P setup i = some n ∧
        n.tunnel = some ⟨t.admission.ulTeid, t.dlTeid, t.gnbAddr⟩ := by
    cases st with
    | attached a confirmed activity =>
        cases confirmed <;> cases htunnel <;> exact ⟨rfl, _, rfl, rfl⟩
    | accepted a => cases htunnel; exact ⟨rfl, _, rfl, rfl⟩
    | dismissed a => cases htunnel; exact ⟨rfl, _, rfl, rfl⟩
    | ordered a => cases htunnel; exact ⟨rfl, _, rfl, rfl⟩
    | releasing a => cases htunnel; exact ⟨rfl, _, rfl, rfl⟩
    | _ => cases htunnel
  obtain ⟨hentity, n, hn, htunnel⟩ := hown
  refine ⟨?_, hentity⟩
  rw [World.tunnel?, hcore.entity _ hentity, hn, Option.bind_some, htunnel]

end Leases

/-! ## Sessions and routes -/

/-- The UPF serves exactly the UEs with a tunnel. An address has room for the low half of an entity
id only, so downlink routes are kept apart as long as the halves are. -/
structure Serves {τ υ : Type} (setup : Setup) (upf : SessionManager τ υ)
    (f : Fin setup.nUes → Stage) : Prop where
  sessions : Family.Tabulates (fun j => (f j).sessionEntry setup j) upf.sessions
  uplink : Family.Tabulates (fun j => (f j).uplinkEntry setup j) upf.routing.ulMap
  downlink : setup.nUes ≤ 2 ^ 16 →
    Family.Tabulates (fun j => (f j).downlinkEntry setup j) upf.routing.dlMap

section Serves

variable {τ υ : Type} {K : RouteMaps τ υ} {P : Primitives} {setup : Setup}
  {s : System setup.nUes τ υ} {f : Fin setup.nUes → Stage} {i j : Fin setup.nUes}
  {rand : Octets 16} {msg : NgapMessage} {st' : Stage} {upf upf' : SessionManager τ υ}
  {e : EntityId} {a : Admission} {t : Tunnel}

/-- Entities are made in order, one for each UE. -/
theorem Follows.entity_lt (hfollows : Follows P setup s f) (hentity : (f i).entity? = some e) :
    e.toNat < setup.nUes := by
  obtain ⟨n, hn, -⟩ := exists_components P i hentity
  have hsome := (hfollows.core i).entity e hentity
  rw [hn] at hsome
  exact (World.toNat_lt_slots hsome).trans_le hfollows.slots_le

/-- The tunnels of two UEs have nothing in common. -/
theorem Follows.apart (hfollows : Follows P setup s f) (hentity : (f i).entity? = some a.entity)
    (hholder : ∀ e, (pool s.node.1).held e = some a.ulTeid → e = a.entity) (hne : j ≠ i)
    (htunnel : (f j).tunnel? setup j = some t) :
    t.admission.ulTeid ≠ a.ulTeid ∧
      (setup.nUes ≤ 2 ^ 16 → t.ueIp ≠ sessionUeIp a.entity) := by
  obtain ⟨hheld, hother⟩ := (hfollows.core j).tunnel? htunnel
  have hentities : t.admission.entity ≠ a.entity := by
    intro hsame
    exact hne (hfollows.entity_unique (hother.trans (congrArg some hsame)) hentity)
  constructor
  · intro hteid
    refine hentities (hholder _ ?_)
    rw [← hteid]
    exact congrArg (Option.map TunnelComponent.ulTeid) hheld
  · intro hsmall hip
    have hhalves := (sessionUeIp_eq_iff _ _).mp hip
    have hlt := hfollows.entity_lt hother
    have hlt' := hfollows.entity_lt hentity
    have hnat := congrArg UInt16.toNat hhalves
    rw [UInt32.toNat_toUInt16, UInt32.toNat_toUInt16, Nat.mod_eq_of_lt (hlt.trans_le hsmall),
      Nat.mod_eq_of_lt (hlt'.trans_le hsmall)] at hnat
    exact hentities (UInt32.toNat_inj.mp hnat)

/-- Nothing changes for the user plane as long as the tunnel of the UE stays. -/
theorem Serves.kept (hserves : Serves setup upf f)
    (htunnel : st'.tunnel? setup i = (f i).tunnel? setup i) :
    Serves setup upf (Function.update f i st') := by
  have hsame : ∀ j, (Function.update f i st' j).tunnel? setup j = (f j).tunnel? setup j := by
    intro j
    rcases eq_or_ne j i with rfl | hne
    · rw [Function.update_self, htunnel]
    · rw [Function.update_of_ne hne]
  constructor
  · simpa only [Stage.sessionEntry, hsame] using hserves.sessions
  · simpa only [Stage.uplinkEntry, hsame] using hserves.uplink
  · simpa only [Stage.downlinkEntry, hsame] using hserves.downlink

/-- One of the tables of the user plane when the tunnel of a UE is replaced under its key. -/
theorem tabulates_replaced {κ ρ : Type} [DecidableEq κ] (key : Tunnel → κ)
    (value : Fin setup.nUes → Tunnel → ρ) {table : κ → Option ρ}
    (htable : Family.Tabulates
      (fun j => ((f j).tunnel? setup j).map fun t => (key t, value j t)) table) {k : κ}
    (hmine : ∀ t, (f i).tunnel? setup i = some t → key t = k)
    (hothers : ∀ j, j ≠ i → ∀ t, (f j).tunnel? setup j = some t → key t ≠ k)
    (hnew : ∀ t, st'.tunnel? setup i = some t → key t = k) :
    Family.Tabulates
      (fun j => ((Function.update f i st' j).tunnel? setup j).map fun t => (key t, value j t))
      (Function.update table k ((st'.tunnel? setup i).map (value i))) := by
  have hentry : ∀ {j t r k'}, (((f j).tunnel? setup j).map fun t => (key t, value j t)) =
      some (k', r) → (f j).tunnel? setup j = some t → key t = k' := by
    intro j t r k' hsome htunnel
    rw [htunnel, Option.map_some, Option.some.injEq, Prod.mk.injEq] at hsome
    exact hsome.1
  have hreplace := htable.replace (i := i) (k := k) ?_ ?_ ((st'.tunnel? setup i).map (value i))
  · have hmap : ((st'.tunnel? setup i).map (value i)).map (Prod.mk k) =
        (st'.tunnel? setup i).map fun t => (key t, value i t) := by
      rw [Option.map_map]
      refine Option.map_congr fun t ht => ?_
      rw [Function.comp_apply, hnew t ht]
    rw [hmap] at hreplace
    convert hreplace using 1
    funext j
    exact Function.apply_update
      (fun j st => (Stage.tunnel? setup j st).map fun t => (key t, value j t)) f i st' j
  · intro k' r' hsome
    obtain ⟨t, ht, -⟩ := Option.map_eq_some_iff.mp hsome
    rw [← hmine t ht]
    exact (hentry hsome ht).symm
  · intro j hne r' hsome
    obtain ⟨t, ht, -⟩ := Option.map_eq_some_iff.mp hsome
    exact hothers j hne t ht (hentry hsome ht)

/-- The user plane replaces the tunnel of one UE. -/
theorem Serves.replaced (hserves : Serves setup upf f)
    (hmine : ∀ t, (f i).tunnel? setup i = some t → t.admission = a)
    (hothers : ∀ j, j ≠ i → ∀ t, (f j).tunnel? setup j = some t →
      t.admission.ulTeid ≠ a.ulTeid ∧ (setup.nUes ≤ 2 ^ 16 → t.ueIp ≠ sessionUeIp a.entity))
    (hnew : ∀ t, st'.tunnel? setup i = some t → t.admission = a)
    (hsessions : upf'.sessions = Function.update upf.sessions a.ulTeid
      ((st'.tunnel? setup i).map fun t => t.session (setup.imsi i)))
    (huplink : upf'.routing.ulMap = Function.update upf.routing.ulMap a.ulTeid
      ((st'.tunnel? setup i).map Tunnel.route))
    (hdownlink : upf'.routing.dlMap = Function.update upf.routing.dlMap (sessionUeIp a.entity)
      ((st'.tunnel? setup i).map Tunnel.route)) :
    Serves setup upf' (Function.update f i st') := by
  have hteid : ∀ t : Tunnel, t.admission = a → t.admission.ulTeid = a.ulTeid :=
    fun t ht => congrArg Admission.ulTeid ht
  have hip : ∀ t : Tunnel, t.admission = a → t.ueIp = sessionUeIp a.entity := by
    intro t ht
    rw [Tunnel.ueIp, ht]
  constructor
  · rw [hsessions]
    exact tabulates_replaced (fun t => t.admission.ulTeid) (fun j t => t.session (setup.imsi j))
      hserves.sessions (fun t ht => hteid t (hmine t ht))
      (fun j hne t ht => (hothers j hne t ht).1) fun t ht => hteid t (hnew t ht)
  · rw [huplink]
    exact tabulates_replaced (fun t => t.admission.ulTeid) (fun _ => Tunnel.route) hserves.uplink
      (fun t ht => hteid t (hmine t ht)) (fun j hne t ht => (hothers j hne t ht).1)
      fun t ht => hteid t (hnew t ht)
  · intro hsmall
    rw [hdownlink]
    exact tabulates_replaced Tunnel.ueIp (fun _ => Tunnel.route) (hserves.downlink hsmall)
      (fun t ht => hip t (hmine t ht)) (fun j hne t ht => (hothers j hne t ht).2 hsmall)
      fun t ht => hip t (hnew t ht)

/-- What the core tells it about a UE the user plane does. -/
theorem Serves.step (hserves : Serves setup s.node.2 f) (hfollows : Follows P setup s f)
    (hleases : Leases s.node.1 f)
    (hreaction : CoreReaction P setup i rand msg s.node.1
      (Amf.step P s.node.1 (.ngap rand msg)).1 (Amf.step P s.node.1 (.ngap rand msg)).2
      (f i) st') :
    Serves setup (N3.step K P s.node (.ngap rand msg)).1.2 (Function.update f i st') := by
  have hupf : (N3.step K P s.node (.ngap rand msg)).1.2 =
      (st'.events setup i).foldl (N3.applyN3Event K) s.node.2 := by
    rw [← hreaction.events]
    rfl
  rw [hupf]
  have hturn := hreaction.turn
  have hteid := hreaction.teid
  have hcore := hfollows.core i
  have hfound : ∀ t, (f i).tunnel? setup i = some t →
      s.node.2.routing.ulMap t.admission.ulTeid = some t.route := by
    intro t ht
    exact hserves.uplink.found (i := i) (by rw [Stage.uplinkEntry, ht]; rfl)
  have hholder : ∀ t, (f i).tunnel? setup i = some t →
      ∀ e, (pool s.node.1).held e = some t.admission.ulTeid → e = t.admission.entity := by
    intro t ht e he
    exact hleases.owned.held_inj he
      (congrArg (Option.map TunnelComponent.ulTeid) (hcore.tunnel? ht).1)
  have hothers := fun a hentity hholder j hne t htunnel =>
    hfollows.apart (i := i) (j := j) (a := a) (t := t) hentity hholder hne htunnel
  generalize hst : f i = st at hturn hcore hfound hholder hothers
  cases hturn with
  | opened a =>
      refine hserves.replaced (a := a) ?_ (hothers a rfl ?_) ?_ rfl rfl rfl
      · rw [hst]
        rintro _ ⟨⟩
      · intro e he
        have hspec := hleases.allocSpec
          (show 1 + (f i).admitted = (Stage.accepted a).admitted by rw [hst]; rfl)
        rw [hteid a rfl] at he
        refine absurd (hleases.owned.lent he) ?_
        have hfirst := congrArg Prod.fst
          (TeidAllocator.alloc_pool s.node.1.teidAllocator s.node.1.world.tunnel?)
        exact hfirst ▸ hspec.not_lent
      · intro t ht
        cases ht
        rfl
  | updated a activity =>
      have hbefore := hfound _ rfl
      refine hserves.replaced (a := a) ?_ (hothers a rfl (hholder _ rfl)) ?_ ?_ ?_ ?_
      · rw [hst]
        intro t ht
        cases ht
        rfl
      · intro t ht
        cases ht
        rfl
      · show (s.node.2.updateBearerInfo K a.ulTeid (setup.dlTeid i) setup.myIp).2.sessions = _
        have hsession := hserves.sessions.found (i := i) (k := a.ulTeid)
          (r := Tunnel.session ⟨a, 0, Octets.zeros 4⟩ (setup.imsi i)) (by rw [hst]; rfl)
        rw [SessionManager.updateBearerInfo_of_some hbefore, hsession]
        rfl
      · show (s.node.2.updateBearerInfo K a.ulTeid (setup.dlTeid i) setup.myIp).2.routing.ulMap = _
        rw [SessionManager.updateBearerInfo_of_some hbefore]
        rfl
      · show (s.node.2.updateBearerInfo K a.ulTeid (setup.dlTeid i) setup.myIp).2.routing.dlMap = _
        rw [SessionManager.updateBearerInfo_of_some hbefore]
        rfl
  | closed a =>
      have hbefore := hfound _ rfl
      refine hserves.replaced (a := a) ?_ (hothers a rfl (hholder _ rfl)) ?_ rfl ?_ ?_
      · rw [hst]
        intro t ht
        cases ht
        rfl
      · rintro _ ⟨⟩
      · exact RoutingTable.ulMap_remove ..
      · show (s.node.2.routing.remove a.ulTeid).2.dlMap = _
        rw [RoutingTable.remove_of_some hbefore]
        rfl
  | other htunnel hevents hadmitted =>
      rw [hevents, List.foldl_nil]
      exact hserves.kept (by rw [hst]; exact htunnel)

end Serves

end Midn.Sim.Gnb
