import Mathlib.Data.Set.Card
import Midn.Ecs.World
import Midn.Lib.Mealy

/-!
# Storage of the world

The world as the bare vectors it is made of, with its operations cell by cell and no proof that
the vectors agree. Every storage that operations lead to is the storage of a world that carries
its invariant, so the vectors do agree, and a spawned slot is always an empty one.
-/

namespace Midn.Ecs

open Nas Nas5gs

structure Storage where
  nextId : UInt32
  /-- The stack of retired ids, its top first. -/
  freeIds : List EntityId
  liveCount : Nat
  live : List Bool
  identity : List IdentityComponent
  auth : List AuthState
  security : List SecurityContext
  nasSecurity : List (Option NasSecurityContext)
  tunnel : List (Option TunnelComponent)
  security5g : List Nas5gsAkaContext
  nasSecurity5g : List (Option Nas5gsSecurityContext)

namespace Storage

def new : Storage := ⟨0, [], 0, [], [], [], [], [], [], [], []⟩

def isLive (s : Storage) (id : EntityId) : Bool := s.live[id.toNat]?.getD false

/-- Pop a retired id, or append one cell to every vector. -/
def spawn (s : Storage) : EntityId × Storage :=
  match s.freeIds with
  | id :: free =>
      (id,
        { s with
          freeIds := free
          live := s.live.set id.toNat true
          liveCount := s.liveCount + 1 })
  | [] =>
      (s.nextId,
        { s with
          nextId := s.nextId + 1
          live := s.live ++ [true]
          identity := s.identity ++ [.empty]
          auth := s.auth ++ [.unauthenticated]
          security := s.security ++ [.newEmpty]
          nasSecurity := s.nasSecurity ++ [none]
          tunnel := s.tunnel ++ [none]
          security5g := s.security5g ++ [.newEmpty]
          nasSecurity5g := s.nasSecurity5g ++ [none]
          liveCount := s.liveCount + 1 })

/-- Clear every cell of a live slot and push its id. -/
def despawn (s : Storage) (id : EntityId) : Storage :=
  if s.isLive id then
    { s with
      live := s.live.set id.toNat false
      identity := s.identity.set id.toNat .empty
      auth := s.auth.set id.toNat .unauthenticated
      security := s.security.set id.toNat .newEmpty
      nasSecurity := s.nasSecurity.set id.toNat none
      tunnel := s.tunnel.set id.toNat none
      security5g := s.security5g.set id.toNat .newEmpty
      nasSecurity5g := s.nasSecurity5g.set id.toNat none
      freeIds := id :: s.freeIds
      liveCount := s.liveCount - 1 }
  else s

/-! ## Readers -/

def identity? (s : Storage) (id : EntityId) : Option IdentityComponent :=
  if s.isLive id then s.identity[id.toNat]? else none

def authState (s : Storage) (id : EntityId) : Option AuthState :=
  if s.isLive id then s.auth[id.toNat]? else none

def security? (s : Storage) (id : EntityId) : Option SecurityContext :=
  if s.isLive id then s.security[id.toNat]? else none

def nasSecurity? (s : Storage) (id : EntityId) : Option NasSecurityContext :=
  if s.isLive id then s.nasSecurity[id.toNat]?.join else none

def security5g? (s : Storage) (id : EntityId) : Option Nas5gsAkaContext :=
  if s.isLive id then s.security5g[id.toNat]? else none

def nasSecurity5g? (s : Storage) (id : EntityId) : Option Nas5gsSecurityContext :=
  if s.isLive id then s.nasSecurity5g[id.toNat]?.join else none

def tunnel? (s : Storage) (id : EntityId) : Option TunnelComponent :=
  if s.isLive id then s.tunnel[id.toNat]?.join else none

/-! ## Writers -/

def insertIdentity (s : Storage) (id : EntityId) (identity : IdentityComponent) : Storage :=
  if s.isLive id then { s with identity := s.identity.set id.toNat identity } else s

def setAuthState (s : Storage) (id : EntityId) (state : AuthState) : Storage :=
  if s.isLive id then { s with auth := s.auth.set id.toNat state } else s

def insertSecurity (s : Storage) (id : EntityId) (security : SecurityContext) : Storage :=
  if s.isLive id then { s with security := s.security.set id.toNat security } else s

/-- Any mutation through `security_mut`. -/
def securityMut (s : Storage) (id : EntityId) (f : SecurityContext → SecurityContext) : Storage :=
  if s.isLive id then { s with security := s.security.modify id.toNat f } else s

def setNasSecurity (s : Storage) (id : EntityId) (ctx : NasSecurityContext) : Storage :=
  if s.isLive id then { s with nasSecurity := s.nasSecurity.set id.toNat (some ctx) } else s

/-- Any mutation through `nas_security_mut`. -/
def nasSecurityMut (s : Storage) (id : EntityId) (f : NasSecurityContext → NasSecurityContext) :
    Storage :=
  if s.isLive id then { s with nasSecurity := s.nasSecurity.modify id.toNat (Option.map f) } else s

def insertSecurity5g (s : Storage) (id : EntityId) (security : Nas5gsAkaContext) : Storage :=
  if s.isLive id then { s with security5g := s.security5g.set id.toNat security } else s

/-- Any mutation through `security5g_mut`. -/
def security5gMut (s : Storage) (id : EntityId) (f : Nas5gsAkaContext → Nas5gsAkaContext) :
    Storage :=
  if s.isLive id then { s with security5g := s.security5g.modify id.toNat f } else s

def setNasSecurity5g (s : Storage) (id : EntityId) (ctx : Nas5gsSecurityContext) : Storage :=
  if s.isLive id then { s with nasSecurity5g := s.nasSecurity5g.set id.toNat (some ctx) } else s

/-- Any mutation through `nas_security5g_mut`. -/
def nasSecurity5gMut (s : Storage) (id : EntityId)
    (f : Nas5gsSecurityContext → Nas5gsSecurityContext) : Storage :=
  if s.isLive id then
    { s with nasSecurity5g := s.nasSecurity5g.modify id.toNat (Option.map f) }
  else s

def setTunnel (s : Storage) (id : EntityId) (tunnel : TunnelComponent) : Storage :=
  if s.isLive id then { s with tunnel := s.tunnel.set id.toNat (some tunnel) } else s

/-- Any mutation through `tunnel_mut`. -/
def tunnelMut (s : Storage) (id : EntityId) (f : TunnelComponent → TunnelComponent) : Storage :=
  if s.isLive id then { s with tunnel := s.tunnel.modify id.toNat (Option.map f) } else s

/-- The operations that can change the storage; the readers take it as it is. -/
inductive Operation where
  | spawn
  | despawn (id : EntityId)
  | insertIdentity (id : EntityId) (identity : IdentityComponent)
  | setAuthState (id : EntityId) (state : AuthState)
  | insertSecurity (id : EntityId) (security : SecurityContext)
  | securityMut (id : EntityId) (f : SecurityContext → SecurityContext)
  | setNasSecurity (id : EntityId) (ctx : NasSecurityContext)
  | nasSecurityMut (id : EntityId) (f : NasSecurityContext → NasSecurityContext)
  | insertSecurity5g (id : EntityId) (security : Nas5gsAkaContext)
  | security5gMut (id : EntityId) (f : Nas5gsAkaContext → Nas5gsAkaContext)
  | setNasSecurity5g (id : EntityId) (ctx : Nas5gsSecurityContext)
  | nasSecurity5gMut (id : EntityId) (f : Nas5gsSecurityContext → Nas5gsSecurityContext)
  | setTunnel (id : EntityId) (tunnel : TunnelComponent)
  | tunnelMut (id : EntityId) (f : TunnelComponent → TunnelComponent)

/-- Apply an operation; a spawn returns its id. -/
def step (s : Storage) : Operation → Storage × Option EntityId
  | .spawn => (s.spawn.2, some s.spawn.1)
  | .despawn id => (s.despawn id, none)
  | .insertIdentity id identity => (s.insertIdentity id identity, none)
  | .setAuthState id state => (s.setAuthState id state, none)
  | .insertSecurity id security => (s.insertSecurity id security, none)
  | .securityMut id f => (s.securityMut id f, none)
  | .setNasSecurity id ctx => (s.setNasSecurity id ctx, none)
  | .nasSecurityMut id f => (s.nasSecurityMut id f, none)
  | .insertSecurity5g id security => (s.insertSecurity5g id security, none)
  | .security5gMut id f => (s.security5gMut id f, none)
  | .setNasSecurity5g id ctx => (s.setNasSecurity5g id ctx, none)
  | .nasSecurity5gMut id f => (s.nasSecurity5gMut id f, none)
  | .setTunnel id tunnel => (s.setTunnel id tunnel, none)
  | .tunnelMut id f => (s.tunnelMut id f, none)

abbrev Transition := Mealy.Transition Storage Operation (Option EntityId)

/-- The number of ids the counter gives out in a step. -/
def allocations (t : Transition) : Nat :=
  match t.input, t.pre.freeIds with
  | .spawn, [] => 1
  | _, _ => 0

/-! ## Laws -/

/-- The cells of a slot are those of an entity. -/
structure Holds (s : Storage) (i : Nat) (n : Entity) : Prop where
  identity : s.identity[i]? = some n.identity
  auth : s.auth[i]? = some n.auth
  security : s.security[i]? = some n.security
  nasSecurity : s.nasSecurity[i]? = some n.nasSecurity
  tunnel : s.tunnel[i]? = some n.tunnel
  security5g : s.security5g[i]? = some n.security5g
  nasSecurity5g : s.nasSecurity5g[i]? = some n.nasSecurity5g

/-- The vectors, the counter and the free list agree. -/
structure WellFormed (s : Storage) : Prop where
  length_live : s.live.length = s.nextId.toNat
  length_identity : s.identity.length = s.nextId.toNat
  length_auth : s.auth.length = s.nextId.toNat
  length_security : s.security.length = s.nextId.toNat
  length_nasSecurity : s.nasSecurity.length = s.nextId.toNat
  length_tunnel : s.tunnel.length = s.nextId.toNat
  length_security5g : s.security5g.length = s.nextId.toNat
  length_nasSecurity5g : s.nasSecurity5g.length = s.nextId.toNat
  freeIds_nodup : s.freeIds.Nodup
  mem_freeIds : ∀ id, id ∈ s.freeIds ↔ id.toNat < s.nextId.toNat ∧ s.isLive id = false
  liveCount_eq : s.liveCount = Set.ncard {id | s.isLive id = true}
  dead_empty : ∀ id, id.toNat < s.nextId.toNat → s.isLive id = false → s.Holds id.toNat .empty

/-- A spawn returns an id that was not live, and nothing of an earlier subscriber is left on it. -/
structure SpawnsEmpty (pre : Storage) (id : EntityId) (post : Storage) : Prop where
  dead : pre.isLive id = false
  identity : post.identity? id = some .empty
  auth : post.authState id = some .unauthenticated
  security : post.security? id = some .newEmpty
  nasSecurity : post.nasSecurity? id = none
  tunnel : post.tunnel? id = none
  security5g : post.security5g? id = some .newEmpty
  nasSecurity5g : post.nasSecurity5g? id = none

theorem Holds.spawnsEmpty {pre post : Storage} {id : EntityId} (hdead : pre.isLive id = false)
    (hlive : post.isLive id = true) (hholds : post.Holds id.toNat .empty) :
    SpawnsEmpty pre id post where
  dead := hdead
  identity := (if_pos hlive).trans hholds.identity
  auth := (if_pos hlive).trans hholds.auth
  security := (if_pos hlive).trans hholds.security
  nasSecurity := (if_pos hlive).trans (congrArg Option.join hholds.nasSecurity)
  tunnel := (if_pos hlive).trans (congrArg Option.join hholds.tunnel)
  security5g := (if_pos hlive).trans hholds.security5g
  nasSecurity5g := (if_pos hlive).trans (congrArg Option.join hholds.nasSecurity5g)

end Storage

/-! ## The storage of a world -/

namespace World

/-- The vectors of a world, without the proofs. -/
def storage (w : World) : Storage where
  nextId := w.nextId
  freeIds := w.freeIds
  liveCount := w.liveCount
  live := w.live
  identity := w.identity.cells
  auth := w.auth.cells
  security := w.security.cells
  nasSecurity := w.nasSecurity.cells
  tunnel := w.tunnel.cells
  security5g := w.security5g.cells
  nasSecurity5g := w.nasSecurity5g.cells

theorem storage_spawn (w : World) : w.storage.spawn = (w.spawn.1, w.spawn.2.storage) := by
  unfold spawn
  split
  next id rest hfree =>
    simp only [Storage.spawn, storage, hfree, reviveSlot, Column.revive]
  next hfree =>
    simp only [Storage.spawn, storage, hfree, appendSlot, Column.push]

theorem storage_despawn (w : World) (id : EntityId) :
    w.storage.despawn id = (w.despawn id).storage := by
  unfold Storage.despawn World.despawn
  by_cases hlive : w.isLive id = true
  · have hstored : w.storage.isLive id = true := hlive
    rw [if_pos hstored, dif_pos hlive]
    rfl
  · have hstored : ¬ w.storage.isLive id = true := hlive
    rw [if_neg hstored, dif_neg hlive]

/-- The operations of the storage on a world. -/
def step (w : World) : Storage.Operation → World × Option EntityId
  | .spawn => (w.spawn.2, some w.spawn.1)
  | .despawn id => (w.despawn id, none)
  | .insertIdentity id identity => (w.insertIdentity id identity, none)
  | .setAuthState id state => (w.setAuthState id state, none)
  | .insertSecurity id security => (w.insertSecurity id security, none)
  | .securityMut id f => (w.modifySecurity id f, none)
  | .setNasSecurity id ctx => (w.setNasSecurity id ctx, none)
  | .nasSecurityMut id f =>
      (w.modify id fun n => { n with nasSecurity := n.nasSecurity.map f }, none)
  | .insertSecurity5g id security => (w.insertSecurity5g id security, none)
  | .security5gMut id f => (w.modifySecurity5g id f, none)
  | .setNasSecurity5g id ctx => (w.setNasSecurity5g id ctx, none)
  | .nasSecurity5gMut id f =>
      (w.modify id fun n => { n with nasSecurity5g := n.nasSecurity5g.map f }, none)
  | .setTunnel id tunnel => (w.setTunnel id tunnel, none)
  | .tunnelMut id f => (w.modify id fun n => { n with tunnel := n.tunnel.map f }, none)

/-- A guarded write to the vectors that agrees with rewriting a live entity is the rewriting. -/
theorem guarded_storage_eq_modify {w : World} {id : EntityId} {f : Entity → Entity} {s : Storage}
    (hlive : ∀ hlive : w.isLive id = true,
      s = (w.writeEntity id hlive (f (w.entity id hlive))).storage) :
    (if w.storage.isLive id then s else w.storage) = (w.modify id f).storage := by
  have hsame : w.storage.isLive id = w.isLive id := rfl
  by_cases h : w.isLive id = true
  · rw [if_pos (hsame.trans h), modify, dif_pos h, hlive h]
  · rw [if_neg (by rwa [hsame]), modify, dif_neg h]

/-- The vectors of a world are operated on as the world is. -/
theorem storage_step (w : World) (op : Storage.Operation) :
    w.storage.step op = ((w.step op).1.storage, (w.step op).2) := by
  cases op with
  | spawn => simp only [Storage.step, step, storage_spawn]
  | despawn id => simp only [Storage.step, step, storage_despawn]
  | insertIdentity id identity
  | setAuthState id state
  | insertSecurity id security
  | setNasSecurity id ctx
  | insertSecurity5g id security
  | setNasSecurity5g id ctx
  | setTunnel id tunnel =>
      refine congrArg (·, none) (guarded_storage_eq_modify ?_)
      intro hlive
      simp only [storage, writeEntity, entity, Column.write, Column.set_get_self]
  | securityMut id f
  | nasSecurityMut id f
  | security5gMut id f
  | nasSecurity5gMut id f
  | tunnelMut id f =>
      refine congrArg (·, none) (guarded_storage_eq_modify ?_)
      intro hlive
      simp only [storage, writeEntity, entity, Column.write, Column.set_get_self,
        Column.modify_eq_set_get _ _ (isLive_lt hlive)]

/-! ## Agreement of the vectors -/

theorem storage_holds {w : World} {id : EntityId} {n : Entity} (hn : w.get? id = some n) :
    w.storage.Holds id.toNat n := by
  unfold get? at hn
  split at hn
  next hlive =>
    cases hn
    have hlt := isLive_lt hlive
    exact ⟨w.identity.getElem?_cells hlt, w.auth.getElem?_cells hlt, w.security.getElem?_cells hlt,
      w.nasSecurity.getElem?_cells hlt, w.tunnel.getElem?_cells hlt,
      w.security5g.getElem?_cells hlt, w.nasSecurity5g.getElem?_cells hlt⟩
  next => cases hn

theorem storage_holds_empty {w : World} {id : EntityId} (hdead : w.live[id.toNat]? = some false) :
    w.storage.Holds id.toNat .empty :=
  ⟨w.identity.dead_cell _ hdead, w.auth.dead_cell _ hdead, w.security.dead_cell _ hdead,
    w.nasSecurity.dead_cell _ hdead, w.tunnel.dead_cell _ hdead, w.security5g.dead_cell _ hdead,
    w.nasSecurity5g.dead_cell _ hdead⟩

/-- The live ids are the live slots, as long as every slot has an id. -/
theorem image_isLive (w : World) (hroom : w.live.length < 2 ^ 32) :
    UInt32.toNat '' {id | w.isLive id = true} = {i | w.live[i]? = some true} := by
  ext i
  constructor
  · rintro ⟨id, hlive, rfl⟩
    exact (w.isLive_iff id).mp hlive
  · intro hcell
    obtain ⟨hlt, _⟩ := List.getElem?_eq_some_iff.mp hcell
    have hi : (UInt32.ofNat i).toNat = i := UInt32.toNat_ofNat_of_lt' (lt_trans hlt hroom)
    refine ⟨UInt32.ofNat i, ?_, hi⟩
    exact (w.isLive_iff _).mpr (hi.symm ▸ hcell)

theorem liveCount_eq_ncard (w : World) (hroom : w.live.length < 2 ^ 32) :
    w.liveCount = Set.ncard {id | w.isLive id = true} := by
  have hinj : Set.InjOn UInt32.toNat {id | w.isLive id = true} :=
    fun _ _ _ _ => UInt32.toNat_inj.mp
  rw [w.liveCount_eq, Column.count_true_eq_ncard, ← w.image_isLive hroom,
    hinj.ncard_image]

/-- The vectors of a world agree while every slot has an id. -/
theorem storage_wellFormed (w : World) (hroom : w.live.length < 2 ^ 32) :
    w.storage.WellFormed := by
  have hnext : w.live.length = w.nextId.toNat := by rw [w.nextId_eq, Nat.mod_eq_of_lt hroom]
  have hdead : ∀ id : EntityId, id.toNat < w.nextId.toNat ∧ w.storage.isLive id = false ↔
      w.live[id.toNat]? = some false := by
    intro id
    have hstored : w.storage.isLive id = w.live[id.toNat]?.getD false := rfl
    rw [hstored, ← hnext]
    cases hcell : w.live[id.toNat]? with
    | none => simp [List.getElem?_eq_none_iff.mp hcell]
    | some b => simp [(List.getElem?_eq_some_iff.mp hcell).1]
  exact
    { length_live := hnext
      length_identity := w.identity.length_cells.trans hnext
      length_auth := w.auth.length_cells.trans hnext
      length_security := w.security.length_cells.trans hnext
      length_nasSecurity := w.nasSecurity.length_cells.trans hnext
      length_tunnel := w.tunnel.length_cells.trans hnext
      length_security5g := w.security5g.length_cells.trans hnext
      length_nasSecurity5g := w.nasSecurity5g.length_cells.trans hnext
      freeIds_nodup := w.freeIds_nodup
      mem_freeIds := fun id => (w.mem_freeIds id).trans (hdead id).symm
      liveCount_eq := w.liveCount_eq_ncard hroom
      dead_empty := fun id hlt hlive => storage_holds_empty ((hdead id).mp ⟨hlt, hlive⟩) }

theorem live_modify (w : World) (id : EntityId) (f : Entity → Entity) :
    (w.modify id f).live = w.live := by
  unfold modify
  split <;> rfl

/-- Only a spawn that finds no retired id makes a slot. -/
theorem length_live_spawn (w : World) :
    w.spawn.2.live.length =
      w.live.length + Storage.allocations (Mealy.transition Storage.step w.storage .spawn) := by
  unfold spawn
  split
  next id rest hfree =>
    have hstored : w.storage.freeIds = id :: rest := hfree
    simp only [Storage.allocations, Mealy.transition, hstored, reviveSlot, List.length_set,
      Nat.add_zero]
  next hfree =>
    have hstored : w.storage.freeIds = [] := hfree
    simp only [Storage.allocations, Mealy.transition, hstored, appendSlot, List.length_append,
      List.length_singleton]

theorem length_live_despawn (w : World) (id : EntityId) :
    (w.despawn id).live.length = w.live.length := by
  unfold despawn
  split
  next hlive => exact List.length_set
  next hlive => rfl

theorem length_live_step (w : World) (op : Storage.Operation) :
    (w.step op).1.live.length =
      w.live.length + Storage.allocations (Mealy.transition Storage.step w.storage op) := by
  cases op with
  | spawn => exact w.length_live_spawn
  | despawn id => exact w.length_live_despawn id
  | _ => exact congrArg List.length (w.live_modify _ _)

/-- A spawn while ids are left hands out a dead id and an empty slot. -/
theorem storage_spawnsEmpty (w : World) (hroom : ¬ w.Exhausted) :
    Storage.SpawnsEmpty w.storage w.spawn.1 w.spawn.2.storage := by
  have hdead : w.isLive w.spawn.1 = false :=
    Bool.eq_false_iff.mpr (mt w.isLive_spawn_iff.mp hroom)
  have hspawned : w.spawn.2.get? w.spawn.1 = some .empty := by
    rw [get?_spawn, Function.update_self, get?_eq_none.mpr hdead, Option.getD_none]
  have hlive := World.isLive_of_some hspawned
  exact (storage_holds hspawned).spawnsEmpty hdead hlive

end World

namespace Storage

/-- While fewer than 2^32 ids have been allocated, the vectors agree in every state, and every
spawn hands out a dead id with an empty slot. -/
theorem wellFormed_and_spawnsEmpty (ops : List Operation)
    (hids : ((Mealy.run step new ops).map allocations).sum < 2 ^ 32) :
    (∀ s ∈ Mealy.states step new ops, s.WellFormed) ∧
      Mealy.Always step new ops fun _ t =>
        ∀ id, t.output = some id → SpawnsEmpty t.pre id t.post := by
  let invariant (past : List Transition) (s : Storage) : Prop :=
    ∃ w : World, w.storage = s ∧ w.live.length = (past.map allocations).sum
  have hinit : invariant [] new := ⟨World.new, rfl, rfl⟩
  have hstep : ∀ past s op, invariant past s →
      invariant (past ++ [Mealy.transition step s op]) (step s op).1 := by
    rintro past _ op ⟨w, rfl, hlength⟩
    refine ⟨(w.step op).1, by rw [w.storage_step], ?_⟩
    rw [w.length_live_step, hlength, List.map_append, List.sum_append, List.map_singleton,
      List.sum_singleton]
  have hroom : Mealy.Always step new ops fun past t =>
      ((past ++ [t]).map allocations).sum < 2 ^ 32 :=
    (Mealy.always_cost_le allocations).mono fun _ _ hcost => lt_of_le_of_lt hcost hids
  rw [Mealy.forall_mem_states]
  refine ⟨⟨World.new.storage_wellFormed (by decide), ?_⟩, ?_⟩
  · refine Mealy.always_of_invariant invariant hinit (fun past s op h _ => hstep past s op h) ?_
      hroom
    intro past s op hpre hleft
    obtain ⟨w, hpost, hlength⟩ := hstep past s op hpre
    rw [Mealy.transition, ← hpost]
    exact w.storage_wellFormed (hlength ▸ hleft)
  · refine Mealy.always_of_invariant invariant hinit (fun past s op h _ => hstep past s op h) ?_
      hroom
    rintro past _ op ⟨w, rfl, hlength⟩ hleft id hid
    have hlt : w.live.length < 2 ^ 32 := by
      rw [List.map_append, List.sum_append, ← hlength] at hleft
      exact lt_of_le_of_lt (Nat.le_add_right _ _) hleft
    cases op with
    | spawn =>
        cases hid
        rw [Mealy.transition, step, World.storage_spawn]
        exact w.storage_spawnsEmpty fun hfull => absurd hfull.2 (not_le_of_gt hlt)
    | _ => cases hid

/-- A subscriber is spawned, given a tunnel and retired twice, and its id is spawned again. -/
def respawn : List Operation :=
  [.spawn, .setTunnel 0 ⟨1, 2, Octets.zeros 4⟩, .despawn 0, .despawn 0, .spawn]

theorem respawn_wellFormed_and_spawnsEmpty :
    (∀ s ∈ Mealy.states step new respawn, s.WellFormed) ∧
      Mealy.Always step new respawn fun _ t =>
        ∀ id, t.output = some id → SpawnsEmpty t.pre id t.post :=
  wellFormed_and_spawnsEmpty respawn (by decide)

end Storage

end Midn.Ecs
