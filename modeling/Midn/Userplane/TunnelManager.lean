import Mathlib.Data.Set.Card
import Mathlib.Order.Interval.Finset.Nat
import Midn.Core.Teid
import Midn.Lib.Pool
import Midn.Userplane.Routing

/-!
# GTP-U tunnel manager

Tunnels take their uplink TEIDs from a free list and a counter. The counter skips the low words when
it wraps, but as long as some word above them is without a tunnel it never does.
-/

namespace Midn.Userplane

/-- The counter, the TEIDs given back, the last of them first, and the routes. -/
structure TunnelManager where
  nextUlTeid : UInt32
  freeUlTeids : List UInt32
  routing : RoutingTable

namespace TunnelManager

/-- The first TEID of the counter, which stays away from low values. -/
def baseUlTeid : UInt32 := 0x00010000

def new : TunnelManager := ⟨baseUlTeid, [], RoutingTable.new⟩

/-- The counter after it has handed out a TEID. -/
def bump (ulTeid : UInt32) : UInt32 := if ulTeid + 1 = 0 then baseUlTeid else ulTeid + 1

/-- Reuse a freed TEID if there is one, else advance the counter. -/
def allocUlTeid (manager : TunnelManager) : UInt32 × TunnelManager :=
  match manager.freeUlTeids with
  | id :: free => (id, { manager with freeUlTeids := free })
  | [] => (manager.nextUlTeid, { manager with nextUlTeid := bump manager.nextUlTeid })

/-- Allocate an uplink TEID and install the routes of a session under it. -/
def createTunnel (manager : TunnelManager) (ueIp : Octets 4) (dlTeid : UInt32)
    (enbAddr : Octets 4) (qci : UInt8) : UInt32 × TunnelManager :=
  let (ulTeid, manager) := manager.allocUlTeid
  let entry := RouteEntry.new ueIp dlTeid enbAddr qci
  (ulTeid, { manager with routing := manager.routing.install ulTeid entry })

/-- Remove the routes of a tunnel; if there were any, the TEID is free again. -/
def destroyTunnel (manager : TunnelManager) (ulTeid : UInt32) : TunnelManager :=
  match manager.routing.remove ulTeid with
  | (some _, routing) =>
      { manager with routing := routing, freeUlTeids := ulTeid :: manager.freeUlTeids }
  | (none, routing) => { manager with routing := routing }

/-- The TEIDs that have a tunnel. -/
def active (manager : TunnelManager) : Set UInt32 :=
  {ulTeid | (manager.routing.ulMap ulTeid).isSome}

/-! ## Calls -/

inductive Call where
  | createTunnel (ueIp : Octets 4) (dlTeid : UInt32) (enbAddr : Octets 4) (qci : UInt8)
  | destroyTunnel (ulTeid : UInt32)

/-- Make a call; the creation of a tunnel returns its TEID. -/
def call (manager : TunnelManager) : Call → TunnelManager × Option UInt32
  | .createTunnel ueIp dlTeid enbAddr qci =>
      let created := manager.createTunnel ueIp dlTeid enbAddr qci
      (created.2, some created.1)
  | .destroyTunnel ulTeid => (manager.destroyTunnel ulTeid, none)

abbrev Transition := Mealy.Transition TunnelManager Call (Option UInt32)

/-- The TEIDs handed out in a history. -/
def handedOut (past : List Transition) : Set UInt32 := {ulTeid | ∃ t ∈ past, t.output = some ulTeid}

/-- What has been handed out has a tunnel or is in the free list once, a new TEID has no tunnel yet,
and nothing is done about a tunnel that is not there. -/
structure Partitioned (past : List Transition) (t : Transition) : Prop where
  partition : handedOut (past ++ [t]) = t.post.active ∪ {ulTeid | ulTeid ∈ t.post.freeUlTeids}
  disjoint : ∀ ulTeid ∈ t.post.active, ulTeid ∉ t.post.freeUlTeids
  nodup : t.post.freeUlTeids.Nodup
  fresh : ∀ ulTeid, t.output = some ulTeid → ulTeid ∉ t.pre.active
  inert : ∀ ulTeid, t.input = .destroyTunnel ulTeid → ulTeid ∉ t.pre.active → t.post = t.pre

/-! ## The tunnels as a pool -/

/-- Every TEID is the owner of itself. -/
def pool (manager : TunnelManager) : Pool.State UInt32 UInt32 :=
  ⟨manager.nextUlTeid, manager.freeUlTeids,
    fun ulTeid => (manager.routing.ulMap ulTeid).map fun _ => ulTeid⟩

/-- What a call does with the pool. -/
def action (manager : TunnelManager) : Call → Pool.Action UInt32
  | .createTunnel .. => .take manager.allocUlTeid.1
  | .destroyTunnel ulTeid => .give ulTeid

variable {manager : TunnelManager}

theorem held_pool_iff {owner ulTeid : UInt32} :
    manager.pool.held owner = some ulTeid ↔ owner = ulTeid ∧ ulTeid ∈ manager.active := by
  rw [pool, active, Set.mem_ofPred_eq]
  cases hroute : manager.routing.ulMap owner with
  | none =>
      simp only [hroute, Option.map_none, reduceCtorEq, false_iff]
      rintro ⟨rfl, hactive⟩
      rw [hroute] at hactive
      cases hactive
  | some entry =>
      simp only [hroute, Option.map_some, Option.some.injEq]
      constructor
      · rintro rfl
        exact ⟨rfl, by rw [hroute, Option.isSome_some]⟩
      · exact And.left

theorem alloc_pool :
    manager.pool.alloc bump =
      (manager.allocUlTeid.1, manager.allocUlTeid.2.nextUlTeid,
        manager.allocUlTeid.2.freeUlTeids) := by
  cases hfree : manager.freeUlTeids <;> simp only [Pool.State.alloc, pool, allocUlTeid, hfree]

theorem routing_allocUlTeid : manager.allocUlTeid.2.routing = manager.routing := by
  cases hfree : manager.freeUlTeids <;> simp only [allocUlTeid, hfree]

/-- Rewriting a route rewrites what its TEID holds. -/
theorem held_update (ulMap : UInt32 → Option RouteEntry) (ulTeid : UInt32)
    (entry : Option RouteEntry) :
    (fun owner => (Function.update ulMap ulTeid entry owner).map fun _ => owner) =
      Function.update (fun owner => (ulMap owner).map fun _ => owner) ulTeid
        (entry.map fun _ => ulTeid) := by
  funext owner
  by_cases hsame : owner = ulTeid
  · subst hsame
    rw [Function.update_self, Function.update_self]
  · rw [Function.update_of_ne hsame, Function.update_of_ne hsame]

/-- Every call is a step of the pool. -/
theorem step_pool (c : Call) :
    (Pool.step bump manager.pool (manager.action c)).1 = (manager.call c).1.pool := by
  cases c with
  | createTunnel ueIp dlTeid enbAddr qci =>
      have hheld := held_update manager.routing.ulMap manager.allocUlTeid.1
        (some (RouteEntry.new ueIp dlTeid enbAddr qci))
      simp only [action, Pool.step, alloc_pool]
      simp only [call, createTunnel, pool, RoutingTable.install, routing_allocUlTeid, hheld,
        Option.map_some]
  | destroyTunnel ulTeid =>
      cases hroute : manager.routing.ulMap ulTeid with
      | none =>
          simp only [action, Pool.step, pool, hroute, Option.map_none, call, destroyTunnel,
            RoutingTable.remove]
      | some entry =>
          have hheld := held_update manager.routing.ulMap ulTeid none
          simp only [action, Pool.step, pool, hroute, Option.map_some, call, destroyTunnel,
            RoutingTable.remove, hheld, Option.map_none]

/-! ## Room -/

theorem toNat_bump {x : UInt32} (hwrap : x + 1 ≠ 0) : (bump x).toNat = x.toNat + 1 := by
  have hlt := x.toNat_lt
  rw [bump, if_neg hwrap, UInt32.toNat_add, UInt32.toNat_one]
  apply Nat.mod_eq_of_lt
  by_contra hover
  apply hwrap
  apply UInt32.toNat_inj.mp
  rw [UInt32.toNat_add, UInt32.toNat_one, UInt32.toNat_zero]
  omega

/-- The word before zero is the last one. -/
theorem toNat_of_add_one_eq_zero {x : UInt32} (hwrap : x + 1 = 0) : x.toNat = 2 ^ 32 - 1 := by
  have hzero := congrArg UInt32.toNat hwrap
  rw [UInt32.toNat_add, UInt32.toNat_one, UInt32.toNat_zero] at hzero
  have hlt := x.toNat_lt
  omega

theorem successor_bump : Pool.Successor bump := by
  intro x hroom y
  have hwrap : x + 1 ≠ 0 := by
    intro hwrap
    -- the last word is not below the base
    rw [bump, if_pos hwrap, UInt32.le_iff_toNat_le, toNat_of_add_one_eq_zero hwrap] at hroom
    exact absurd hroom (by decide)
  rw [UInt32.lt_iff_toNat_lt, toNat_bump hwrap, UInt32.le_iff_toNat_le, Nat.lt_succ_iff]

/-- The number of words from the base on. -/
def capacity : Nat := 2 ^ 32 - 2 ^ 16

theorem ncard_Ici_base : (Set.Ici baseUlTeid).ncard = capacity := by
  have himage : Set.Ici baseUlTeid = UInt32.ofNat '' (Finset.Ico (2 ^ 16) (2 ^ 32) : Set Nat) := by
    ext x
    rw [Set.mem_Ici, UInt32.le_iff_toNat_le, Set.mem_image]
    constructor
    · intro hle
      refine ⟨x.toNat, ?_, UInt32.ofNat_toNat⟩
      rw [Finset.mem_coe, Finset.mem_Ico]
      exact ⟨hle, x.toNat_lt⟩
    · rintro ⟨n, hn, rfl⟩
      rw [Finset.mem_coe, Finset.mem_Ico] at hn
      rw [UInt32.toNat_ofNat_of_lt' hn.2]
      exact hn.1
  have hinj : Set.InjOn UInt32.ofNat (Finset.Ico (2 ^ 16) (2 ^ 32) : Set Nat) := by
    intro m hm n hn hsame
    rw [Finset.mem_coe, Finset.mem_Ico] at hm hn
    have hnat := congrArg UInt32.toNat hsame
    rwa [UInt32.toNat_ofNat_of_lt' hm.2, UInt32.toNat_ofNat_of_lt' hn.2] at hnat
  rw [himage, hinj.ncard_image, Set.ncard_coe_finset, Nat.card_Ico, capacity]

/-- A full table has all words from the base on. -/
theorem capacity_le_of_full (hfull : Set.Ici baseUlTeid ⊆ manager.active) :
    capacity ≤ manager.active.ncard := by
  have : Finite UInt32 := Finite.of_injective UInt32.toFin fun _ _ => UInt32.toFin_inj.mp
  rw [← ncard_Ici_base]
  exact Set.ncard_le_ncard hfull (Set.toFinite _)

/-! ## The invariant -/

/-- Every TEID handed out is in one place, and those are the TEIDs below the counter. -/
structure Balanced (past : List Transition) (manager : TunnelManager) : Prop where
  owned : manager.pool.Owned baseUlTeid
  conserved : manager.pool.Conserved baseUlTeid
  minted : ∀ ulTeid, ulTeid ∈ handedOut past ↔ manager.pool.Minted baseUlTeid ulTeid

theorem pool_new : new.pool = Pool.new baseUlTeid := rfl

theorem balanced_new : Balanced [] new where
  owned := by
    rw [pool_new]
    exact Pool.owned_new
  conserved := by
    rw [pool_new]
    exact Pool.conserved_new
  minted := by
    intro ulTeid
    constructor
    · rintro ⟨t, hmem, -⟩
      cases hmem
    · intro hminted
      exact absurd (lt_of_le_of_lt hminted.1 hminted.2) (lt_irrefl _)

variable {past : List Transition}

/-- What has been handed out and is not free has a tunnel. -/
theorem Balanced.minted_iff (hbalanced : Balanced past manager) (ulTeid : UInt32) :
    manager.pool.Minted baseUlTeid ulTeid ↔
      ulTeid ∈ manager.active ∨ ulTeid ∈ manager.freeUlTeids := by
  constructor
  · intro hminted
    by_cases hfree : ulTeid ∈ manager.freeUlTeids
    · exact Or.inr hfree
    · obtain ⟨owner, hheld⟩ :=
        hbalanced.owned.conserved_iff.mp hbalanced.conserved ulTeid ⟨hminted, hfree⟩
      exact Or.inl (held_pool_iff.mp hheld).2
  · rintro (hactive | hfree)
    · exact hbalanced.owned.held_minted (held_pool_iff.mpr ⟨rfl, hactive⟩)
    · exact hbalanced.owned.free_minted hfree

/-- No tunnel has a free TEID. -/
theorem Balanced.not_free (hbalanced : Balanced past manager) {ulTeid : UInt32}
    (hactive : ulTeid ∈ manager.active) : ulTeid ∉ manager.freeUlTeids :=
  hbalanced.owned.held_not_free (held_pool_iff.mpr ⟨rfl, hactive⟩)

theorem active_createTunnel (ueIp : Octets 4) (dlTeid : UInt32) (enbAddr : Octets 4)
    (qci : UInt8) :
    (manager.createTunnel ueIp dlTeid enbAddr qci).2.active =
      insert manager.allocUlTeid.1 manager.active := by
  ext ulTeid
  simp only [active, createTunnel, RoutingTable.install, routing_allocUlTeid, Set.mem_ofPred_eq,
    Set.mem_insert_iff]
  by_cases hsame : ulTeid = manager.allocUlTeid.1
  · rw [hsame, Function.update_self, Option.isSome_some]
    simp only [true_or]
  · rw [Function.update_of_ne hsame]
    simp only [hsame, false_or]

/-- The counter wraps only when the last word without a tunnel is taken. -/
theorem Balanced.roomy (hbalanced : Balanced past manager) (c : Call)
    (hroom : (manager.call c).1.active.ncard < capacity) :
    manager.pool.next ≤ (manager.call c).1.pool.next := by
  cases c with
  | destroyTunnel ulTeid =>
      cases hroute : manager.routing.ulMap ulTeid <;>
        simp only [call, destroyTunnel, RoutingTable.remove, hroute, pool, le_refl]
  | createTunnel ueIp dlTeid enbAddr qci =>
      cases hfree : manager.freeUlTeids with
      | cons id free => simp only [call, createTunnel, allocUlTeid, hfree, pool, le_refl]
      | nil =>
          have halloc : manager.allocUlTeid.1 = manager.nextUlTeid := by
            simp only [allocUlTeid, hfree]
          have hnext : (manager.call (.createTunnel ueIp dlTeid enbAddr qci)).1.pool.next =
              bump manager.nextUlTeid := by
            simp only [call, createTunnel, allocUlTeid, hfree, pool]
          by_cases hwrap : manager.nextUlTeid + 1 = 0
          · -- every word from the base on has a tunnel then
            exfalso
            apply absurd hroom
            rw [not_lt]
            apply capacity_le_of_full
            intro ulTeid hbase
            rw [call, active_createTunnel, halloc, Set.mem_insert_iff]
            by_cases hlast : ulTeid = manager.nextUlTeid
            · exact Or.inl hlast
            · have hlt : ulTeid < manager.nextUlTeid := by
                apply lt_of_le_of_ne _ hlast
                have hword := ulTeid.toNat_lt
                rw [UInt32.le_iff_toNat_le, toNat_of_add_one_eq_zero hwrap]
                omega
              rcases (hbalanced.minted_iff ulTeid).mp ⟨hbase, hlt⟩ with hactive | hmem
              · exact Or.inr hactive
              · rw [hfree] at hmem
                cases hmem
          · rw [hnext, UInt32.le_iff_toNat_le, toNat_bump hwrap]
            exact Nat.le_succ _

theorem active_destroyTunnel (ulTeid : UInt32) :
    (manager.destroyTunnel ulTeid).active = manager.active \ {ulTeid} := by
  have hrouting : (manager.destroyTunnel ulTeid).routing = (manager.routing.remove ulTeid).2 := by
    cases hroute : manager.routing.ulMap ulTeid <;>
      simp only [destroyTunnel, RoutingTable.remove, hroute]
  ext other
  simp only [active, hrouting, RoutingTable.ulMap_remove, Set.mem_ofPred_eq, Set.mem_sdiff,
    Set.mem_singleton_iff]
  by_cases hsame : other = ulTeid
  · rw [hsame, Function.update_self]
    simp
  · rw [Function.update_of_ne hsame]
    simp only [hsame, not_false_eq_true, and_true]

theorem mem_handedOut_append {t : Transition} {ulTeid : UInt32} :
    ulTeid ∈ handedOut (past ++ [t]) ↔ ulTeid ∈ handedOut past ∨ t.output = some ulTeid := by
  simp only [handedOut, Set.mem_ofPred_eq, List.mem_append, List.mem_singleton, or_and_right,
    exists_or, exists_eq_left]

/-- A TEID that is handed out has no tunnel. -/
theorem Balanced.alloc_not_active (hbalanced : Balanced past manager)
    (hspec : manager.pool.AllocSpec bump baseUlTeid) :
    manager.allocUlTeid.1 ∉ manager.active := by
  intro hactive
  have hlent := hbalanced.owned.lent (held_pool_iff.mpr ⟨rfl, hactive⟩)
  have hnot := hspec.not_lent
  rw [alloc_pool] at hnot
  exact hnot hlent

/-- A call that leaves room keeps the balance. -/
theorem Balanced.step (hbalanced : Balanced past manager) (c : Call)
    (hroom : (manager.call c).1.active.ncard < capacity) :
    Balanced (past ++ [Mealy.transition call manager c]) (manager.call c).1 := by
  have hroomy := hbalanced.roomy c hroom
  rw [← step_pool] at hroomy
  constructor
  · rw [← step_pool]
    exact hbalanced.owned.step successor_bump hroomy
  · rw [← step_pool, hbalanced.owned.conserved_step_iff successor_bump hbalanced.conserved hroomy]
    intro owner htake
    cases c with
    | destroyTunnel ulTeid => cases htake
    | createTunnel ueIp dlTeid enbAddr qci =>
        have hspec := hbalanced.owned.allocSpec successor_bump hroomy
        cases htake
        rw [Option.eq_none_iff_forall_ne_some]
        intro ulTeid hheld
        obtain ⟨hsame, hactive⟩ := held_pool_iff.mp hheld
        exact hbalanced.alloc_not_active hspec (hsame ▸ hactive)
  · intro ulTeid
    rw [mem_handedOut_append, hbalanced.minted]
    cases c with
    | destroyTunnel id =>
        have hnext : (manager.call (.destroyTunnel id)).1.pool.next = manager.pool.next := by
          cases hroute : manager.routing.ulMap id <;>
            simp only [call, destroyTunnel, RoutingTable.remove, hroute, pool]
        rw [Pool.State.Minted, Pool.State.Minted, hnext]
        apply or_iff_left
        intro houtput
        cases houtput
    | createTunnel ueIp dlTeid enbAddr qci =>
        have hspec := hbalanced.owned.allocSpec successor_bump hroomy
        have hminted := hspec.minted_iff ulTeid
        rw [alloc_pool] at hminted
        have houtput : (Mealy.transition call manager
            (.createTunnel ueIp dlTeid enbAddr qci)).output = some ulTeid ↔
              ulTeid = manager.allocUlTeid.1 := by
          rw [eq_comm]
          exact Option.some_inj
        rw [houtput]
        exact hminted.symm

/-- Destroying a tunnel that is not there changes nothing. -/
theorem destroyTunnel_of_not_active {ulTeid : UInt32} (hinactive : ulTeid ∉ manager.active) :
    manager.destroyTunnel ulTeid = manager := by
  rw [active, Set.mem_ofPred_eq, Option.not_isSome_iff_eq_none] at hinactive
  simp only [destroyTunnel, RoutingTable.remove, hinactive]

theorem Balanced.partitioned (hbalanced : Balanced past manager) (c : Call)
    (hroom : (manager.call c).1.active.ncard < capacity) :
    Partitioned past (Mealy.transition call manager c) := by
  have hpost := hbalanced.step c hroom
  have hroomy := hbalanced.roomy c hroom
  rw [← step_pool] at hroomy
  constructor
  · ext ulTeid
    rw [hpost.minted, hpost.minted_iff]
    rfl
  · exact fun ulTeid hactive => hpost.not_free hactive
  · exact hpost.owned.free_nodup
  · intro ulTeid houtput
    cases c with
    | destroyTunnel id => cases houtput
    | createTunnel ueIp dlTeid enbAddr qci =>
        have hspec := hbalanced.owned.allocSpec successor_bump hroomy
        cases houtput
        exact hbalanced.alloc_not_active hspec
  · intro ulTeid hinput hinactive
    have hinput : c = .destroyTunnel ulTeid := hinput
    subst hinput
    exact destroyTunnel_of_not_active hinactive

/-! ## Runs -/

/-- As long as fewer tunnels are active than there are words from the base on, the TEIDs handed out
are those with a tunnel and those in the free list, each in one place and at most once. -/
theorem always_partitioned (calls : List Call)
    (hroom : ∀ manager ∈ Mealy.states call new calls, manager.active.ncard < 2 ^ 32 - 2 ^ 16) :
    Mealy.Always call new calls Partitioned := by
  have hcondition : Mealy.Always call new calls fun _ t => t.post.active.ncard < capacity :=
    (Mealy.forall_mem_states.mp hroom).2
  exact Mealy.always_of_invariant Balanced balanced_new
    (fun _ _ c hbalanced hroom => hbalanced.step c hroom)
    (fun _ _ c hbalanced hroom => hbalanced.partitioned c hroom) hcondition

/-- A call makes at most one more tunnel active. -/
theorem ncard_active_call_le (manager : TunnelManager) (c : Call) :
    (manager.call c).1.active.ncard ≤ manager.active.ncard + 1 := by
  cases c with
  | createTunnel ueIp dlTeid enbAddr qci =>
      rw [call, active_createTunnel]
      exact Set.ncard_insert_le ..
  | destroyTunnel ulTeid =>
      rw [call, active_destroyTunnel]
      exact le_trans (Set.ncard_sdiff_singleton_le ..) (Nat.le_succ _)

/-- So a run has at most as many tunnels as it makes calls. -/
theorem ncard_active_le_length (calls : List Call) :
    ∀ m ∈ Mealy.states call manager calls,
      m.active.ncard ≤ manager.active.ncard + calls.length := by
  induction calls generalizing manager with
  | nil =>
      intro m hmem
      rw [List.mem_singleton.mp hmem]
      exact Nat.le_add_right _ _
  | cons c calls ih =>
      intro m hmem
      have hstep := ncard_active_call_le manager c
      rcases List.mem_cons.mp hmem with rfl | hmem
      · exact Nat.le_add_right _ _
      · have hrest : m.active.ncard ≤ (manager.call c).1.active.ncard + calls.length := ih m hmem
        rw [List.length_cons]
        omega

theorem active_new : new.active = ∅ := by
  ext ulTeid
  exact iff_of_false (fun hactive => nomatch hactive) (Set.notMem_empty ulTeid)

/-- A tunnel is destroyed twice, and its TEID is in use again. -/
theorem recycled_partitioned :
    Mealy.Always call new
      [.createTunnel (Octets.zeros 4) 1 (Octets.zeros 4) 9, .destroyTunnel 0x00010000,
        .destroyTunnel 0x00010000, .createTunnel (Octets.zeros 4) 2 (Octets.zeros 4) 9]
      Partitioned := by
  apply always_partitioned
  intro m hmem
  have hlength := ncard_active_le_length _ m hmem
  rw [active_new, Set.ncard_empty] at hlength
  exact lt_of_le_of_lt hlength (by decide)

end TunnelManager

end Midn.Userplane
