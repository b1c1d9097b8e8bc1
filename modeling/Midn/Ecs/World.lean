import Mathlib.Logic.Function.Basic
import Midn.Ecs.Components
import Midn.Lib.Column
import Midn.Proto.Nas.Security
import Midn.Proto.Nas5gs.Security

/-!
# World

Dense storage of subscriber state. Every component is one column over the liveness vector,
indexed by entity id; retired slots are reused through a free list, and fresh ids come from a
32-bit counter that wraps. The type carries the representation invariant, and each operation is
specified by its effect on the map from entity ids to the components of live entities.
-/

namespace Midn.Ecs

open Nas Nas5gs

abbrev EntityId := UInt32

structure World where
  nextId : UInt32
  /-- Ids to hand out again, the most recently retired first. -/
  freeIds : List EntityId
  liveCount : Nat
  live : List Bool
  identity : Column live IdentityComponent.empty
  auth : Column live AuthState.unauthenticated
  security : Column live SecurityContext.newEmpty
  nasSecurity : Column live (none : Option NasSecurityContext)
  tunnel : Column live (none : Option TunnelComponent)
  security5g : Column live Nas5gsAkaContext.newEmpty
  nasSecurity5g : Column live (none : Option Nas5gsSecurityContext)
  nextId_eq : nextId.toNat = live.length % 2 ^ 32
  freeIds_nodup : freeIds.Nodup
  mem_freeIds : ∀ id : EntityId, id ∈ freeIds ↔ live[id.toNat]? = some false
  liveCount_eq : liveCount = live.count true

/-- The components of one live entity. -/
@[ext] structure Entity where
  identity : IdentityComponent
  auth : AuthState
  security : SecurityContext
  nasSecurity : Option NasSecurityContext
  tunnel : Option TunnelComponent
  security5g : Nas5gsAkaContext
  nasSecurity5g : Option Nas5gsSecurityContext

/-- A freshly spawned entity. -/
def Entity.empty : Entity where
  identity := .empty
  auth := .unauthenticated
  security := .newEmpty
  nasSecurity := none
  tunnel := none
  security5g := .newEmpty
  nasSecurity5g := none

namespace World

/-- No slots. -/
def new : World where
  nextId := 0
  freeIds := []
  liveCount := 0
  live := []
  identity := .nil _
  auth := .nil _
  security := .nil _
  nasSecurity := .nil _
  tunnel := .nil _
  security5g := .nil _
  nasSecurity5g := .nil _
  nextId_eq := rfl
  freeIds_nodup := List.nodup_nil
  mem_freeIds := by simp
  liveCount_eq := rfl

def isLive (w : World) (id : EntityId) : Bool := w.live[id.toNat]?.getD false

theorem isLive_iff (w : World) (id : EntityId) :
    w.isLive id = true ↔ w.live[id.toNat]? = some true := by
  unfold isLive
  cases w.live[id.toNat]? with
  | none => simp
  | some b => simp

theorem isLive_lt {w : World} {id : EntityId} (hlive : w.isLive id = true) :
    id.toNat < w.live.length := by
  obtain ⟨hlt, _⟩ := List.getElem?_eq_some_iff.mp ((w.isLive_iff id).mp hlive)
  exact hlt

/-- The cells of a live slot. -/
def entity (w : World) (id : EntityId) (hlive : w.isLive id = true) : Entity where
  identity := w.identity.get id.toNat (isLive_lt hlive)
  auth := w.auth.get id.toNat (isLive_lt hlive)
  security := w.security.get id.toNat (isLive_lt hlive)
  nasSecurity := w.nasSecurity.get id.toNat (isLive_lt hlive)
  tunnel := w.tunnel.get id.toNat (isLive_lt hlive)
  security5g := w.security5g.get id.toNat (isLive_lt hlive)
  nasSecurity5g := w.nasSecurity5g.get id.toNat (isLive_lt hlive)

/-- The components of a live entity. -/
def get? (w : World) (id : EntityId) : Option Entity :=
  if hlive : w.isLive id = true then some (w.entity id hlive) else none

theorem isLive_eq_isSome (w : World) (id : EntityId) : w.isLive id = (w.get? id).isSome := by
  unfold get?
  split
  next hlive => rw [hlive, Option.isSome_some]
  next hlive => rw [Bool.eq_false_iff.mpr hlive, Option.isSome_none]

theorem get?_eq_none {w : World} {id : EntityId} : w.get? id = none ↔ w.isLive id = false := by
  rw [isLive_eq_isSome, Option.isSome_eq_false_iff, Option.isNone_iff_eq_none]

/-! ## Reading components of live entities -/

def identity? (w : World) (id : EntityId) : Option IdentityComponent :=
  (w.get? id).map Entity.identity

def authState (w : World) (id : EntityId) : Option AuthState := (w.get? id).map Entity.auth

def isAuthenticated (w : World) (id : EntityId) : Bool := w.authState id = some .authenticated

def security? (w : World) (id : EntityId) : Option SecurityContext :=
  (w.get? id).map Entity.security

def nasSecurity? (w : World) (id : EntityId) : Option NasSecurityContext :=
  (w.get? id).bind Entity.nasSecurity

def security5g? (w : World) (id : EntityId) : Option Nas5gsAkaContext :=
  (w.get? id).map Entity.security5g

def nasSecurity5g? (w : World) (id : EntityId) : Option Nas5gsSecurityContext :=
  (w.get? id).bind Entity.nasSecurity5g

def tunnel? (w : World) (id : EntityId) : Option TunnelComponent :=
  (w.get? id).bind Entity.tunnel

section Reading

variable {w : World} {id : EntityId} {n : Entity}

theorem isLive_of_some (hn : w.get? id = some n) : w.isLive id = true := by
  rw [isLive_eq_isSome, hn, Option.isSome_some]

theorem identity?_of_some (hn : w.get? id = some n) : w.identity? id = some n.identity := by
  rw [identity?, hn, Option.map_some]

theorem identity?_of_none (hdead : w.get? id = none) : w.identity? id = none := by
  rw [identity?, hdead, Option.map_none]

theorem security?_of_some (hn : w.get? id = some n) : w.security? id = some n.security := by
  rw [security?, hn, Option.map_some]

theorem security?_of_none (hdead : w.get? id = none) : w.security? id = none := by
  rw [security?, hdead, Option.map_none]

theorem security5g?_of_some (hn : w.get? id = some n) :
    w.security5g? id = some n.security5g := by
  rw [security5g?, hn, Option.map_some]

theorem security5g?_of_none (hdead : w.get? id = none) : w.security5g? id = none := by
  rw [security5g?, hdead, Option.map_none]

theorem tunnel?_of_none (hdead : w.get? id = none) : w.tunnel? id = none := by
  rw [tunnel?, hdead, Option.bind_none]

end Reading

/-! ## Writing components of live entities -/

/-- Overwrite the cells of a live slot. -/
def writeEntity (w : World) (id : EntityId) (hlive : w.isLive id = true) (n : Entity) : World :=
  { w with
    identity := w.identity.write id.toNat ((w.isLive_iff id).mp hlive) n.identity
    auth := w.auth.write id.toNat ((w.isLive_iff id).mp hlive) n.auth
    security := w.security.write id.toNat ((w.isLive_iff id).mp hlive) n.security
    nasSecurity :=
      w.nasSecurity.write id.toNat ((w.isLive_iff id).mp hlive) n.nasSecurity
    tunnel := w.tunnel.write id.toNat ((w.isLive_iff id).mp hlive) n.tunnel
    security5g := w.security5g.write id.toNat ((w.isLive_iff id).mp hlive) n.security5g
    nasSecurity5g :=
      w.nasSecurity5g.write id.toNat ((w.isLive_iff id).mp hlive) n.nasSecurity5g }

theorem entity_writeEntity_self (w : World) (id : EntityId) (hlive : w.isLive id = true)
    (n : Entity) : (w.writeEntity id hlive n).entity id hlive = n := by
  have hcell := (w.isLive_iff id).mp hlive
  have hlt := isLive_lt hlive
  exact Entity.ext (w.identity.get_write_self hcell _ hlt) (w.auth.get_write_self hcell _ hlt)
    (w.security.get_write_self hcell _ hlt) (w.nasSecurity.get_write_self hcell _ hlt)
    (w.tunnel.get_write_self hcell _ hlt) (w.security5g.get_write_self hcell _ hlt)
    (w.nasSecurity5g.get_write_self hcell _ hlt)

theorem entity_writeEntity_of_ne (w : World) {id e : EntityId} (hlive : w.isLive id = true)
    (n : Entity) (hne : e ≠ id) (halive : w.isLive e = true) :
    (w.writeEntity id hlive n).entity e halive = w.entity e halive := by
  have hcell := (w.isLive_iff id).mp hlive
  have hlt := isLive_lt halive
  have hslot : id.toNat ≠ e.toNat := fun h => hne (UInt32.toNat_inj.mp h).symm
  exact Entity.ext (w.identity.get_write_of_ne hcell _ hslot hlt)
    (w.auth.get_write_of_ne hcell _ hslot hlt) (w.security.get_write_of_ne hcell _ hslot hlt)
    (w.nasSecurity.get_write_of_ne hcell _ hslot hlt) (w.tunnel.get_write_of_ne hcell _ hslot hlt)
    (w.security5g.get_write_of_ne hcell _ hslot hlt)
    (w.nasSecurity5g.get_write_of_ne hcell _ hslot hlt)

theorem get?_writeEntity (w : World) (id : EntityId) (hlive : w.isLive id = true) (n : Entity) :
    (w.writeEntity id hlive n).get? = Function.update w.get? id (some n) := by
  funext e
  have hsame : (w.writeEntity id hlive n).isLive e = w.isLive e := rfl
  rcases eq_or_ne e id with rfl | hne
  · rw [Function.update_self, get?, dif_pos (hsame.trans hlive), entity_writeEntity_self]
  · rw [Function.update_of_ne hne, get?, get?]
    by_cases halive : w.isLive e = true
    · rw [dif_pos (hsame.trans halive), dif_pos halive]
      exact congrArg some (entity_writeEntity_of_ne w hlive n hne halive)
    · rw [dif_neg (by rwa [hsame]), dif_neg halive]

/-- Rewrite the components of a live entity; a dead id is ignored. -/
def modify (w : World) (id : EntityId) (f : Entity → Entity) : World :=
  if hlive : w.isLive id = true then w.writeEntity id hlive (f (w.entity id hlive)) else w

/-- A write changes one entity, and only if it is live. -/
theorem get?_modify (w : World) (id : EntityId) (f : Entity → Entity) :
    (w.modify id f).get? = Function.update w.get? id ((w.get? id).map f) := by
  by_cases hlive : w.isLive id = true
  · rw [modify, dif_pos hlive, get?_writeEntity, get?, dif_pos hlive, Option.map_some]
  · have hdead : w.get? id = none := by rw [get?, dif_neg hlive]
    rw [modify, dif_neg hlive, hdead, Option.map_none, ← hdead, Function.update_eq_self]

theorem writeEntity_entity (w : World) (id : EntityId) (hlive : w.isLive id = true) :
    w.writeEntity id hlive (w.entity id hlive) = w := by
  simp only [writeEntity, entity, Column.write_get_self]

/-- Rewriting an entity to what it is changes nothing. -/
theorem modify_of_fixed {w : World} {id : EntityId} {n : Entity} {f : Entity → Entity}
    (hn : w.get? id = some n) (hfixed : f n = n) : w.modify id f = w := by
  unfold get? at hn
  split at hn
  next hlive =>
    cases hn
    rw [modify, dif_pos hlive, hfixed, writeEntity_entity]
  next => cases hn

def insertIdentity (w : World) (id : EntityId) (identity : IdentityComponent) : World :=
  w.modify id fun n => { n with identity := identity }

def setAuthState (w : World) (id : EntityId) (state : AuthState) : World :=
  w.modify id fun n => { n with auth := state }

def insertSecurity (w : World) (id : EntityId) (security : SecurityContext) : World :=
  w.modify id fun n => { n with security := security }

/-- Mutation through `security_mut`. -/
def modifySecurity (w : World) (id : EntityId) (f : SecurityContext → SecurityContext) : World :=
  w.modify id fun n => { n with security := f n.security }

def setNasSecurity (w : World) (id : EntityId) (ctx : NasSecurityContext) : World :=
  w.modify id fun n => { n with nasSecurity := some ctx }

def insertSecurity5g (w : World) (id : EntityId) (security : Nas5gsAkaContext) : World :=
  w.modify id fun n => { n with security5g := security }

/-- Mutation through `security5g_mut`. -/
def modifySecurity5g (w : World) (id : EntityId) (f : Nas5gsAkaContext → Nas5gsAkaContext) :
    World :=
  w.modify id fun n => { n with security5g := f n.security5g }

def setNasSecurity5g (w : World) (id : EntityId) (ctx : Nas5gsSecurityContext) : World :=
  w.modify id fun n => { n with nasSecurity5g := some ctx }

def setTunnel (w : World) (id : EntityId) (tunnel : TunnelComponent) : World :=
  w.modify id fun n => { n with tunnel := some tunnel }

/-- Storing the NAS security an entity has changes nothing. -/
theorem setNasSecurity_self {w : World} {id : EntityId} {ctx : NasSecurityContext}
    (hctx : w.nasSecurity? id = some ctx) : w.setNasSecurity id ctx = w := by
  obtain ⟨n, hn, hheld⟩ := Option.bind_eq_some_iff.mp hctx
  exact modify_of_fixed hn (by rw [← hheld])

theorem setNasSecurity5g_self {w : World} {id : EntityId} {ctx : Nas5gsSecurityContext}
    (hctx : w.nasSecurity5g? id = some ctx) : w.setNasSecurity5g id ctx = w := by
  obtain ⟨n, hn, hheld⟩ := Option.bind_eq_some_iff.mp hctx
  exact modify_of_fixed hn (by rw [← hheld])

theorem nasSecurity5g?_setNasSecurity5g {w : World} {id : EntityId} {old : Nas5gsSecurityContext}
    (hold : w.nasSecurity5g? id = some old) (ctx : Nas5gsSecurityContext) :
    (w.setNasSecurity5g id ctx).nasSecurity5g? id = some ctx := by
  obtain ⟨n, hn, -⟩ := Option.bind_eq_some_iff.mp hold
  rw [nasSecurity5g?, setNasSecurity5g, get?_modify, Function.update_self, hn]
  rfl

/-- The identities after one entity has been rewritten. -/
theorem identity?_of_update {w w' : World} {id : EntityId} {n : Option Entity}
    (hget : w'.get? = Function.update w.get? id n) :
    w'.identity? = Function.update w.identity? id (n.map Entity.identity) := by
  have hcomp := Function.comp_update (Option.map Entity.identity) w.get? id n
  rw [← hget] at hcomp
  exact hcomp

/-- The tunnels after one entity has been rewritten. -/
theorem tunnel?_of_update {w w' : World} {id : EntityId} {n : Option Entity}
    (hget : w'.get? = Function.update w.get? id n) :
    w'.tunnel? = Function.update w.tunnel? id (n.bind Entity.tunnel) := by
  have hcomp := Function.comp_update (Option.bind · Entity.tunnel) w.get? id n
  rw [← hget] at hcomp
  exact hcomp

/-- Rewriting an entity without its identity keeps the identities. -/
theorem identity?_of_kept {w w' : World} {id : EntityId} {f : Entity → Entity}
    (hget : w'.get? = Function.update w.get? id ((w.get? id).map f))
    (hkept : ∀ n, (f n).identity = n.identity) : w'.identity? = w.identity? := by
  have hcell : ((w.get? id).map f).map Entity.identity = w.identity? id := by
    rw [Option.map_map, identity?]
    exact Option.map_congr fun n _ => hkept n
  rw [identity?_of_update hget, hcell, Function.update_eq_self]

/-- Rewriting an entity without its tunnel keeps the tunnels. -/
theorem tunnel?_of_kept {w w' : World} {id : EntityId} {f : Entity → Entity}
    (hget : w'.get? = Function.update w.get? id ((w.get? id).map f))
    (hkept : ∀ n, (f n).tunnel = n.tunnel) : w'.tunnel? = w.tunnel? := by
  have hcell : ((w.get? id).map f).bind Entity.tunnel = w.tunnel? id := by
    rw [Option.bind_map, tunnel?]
    exact Option.bind_congr fun n _ => hkept n
  rw [tunnel?_of_update hget, hcell, Function.update_eq_self]

/-- One entity of a world after another may have been rewritten. -/
theorem update_get?_apply (w : World) (id e : EntityId) (f : Option Entity → Option Entity) :
    Function.update w.get? id (f (w.get? id)) e =
      if some id = some e then f (w.get? e) else w.get? e := by
  by_cases hsame : id = e
  · rw [hsame, Function.update_self, if_pos rfl]
  · rw [Function.update_of_ne (Ne.symm hsame), if_neg fun h => hsame (Option.some.inj h)]

/-! ## Spawning and retiring -/

/-- Reuse the most recently retired slot; its cells are empty already. -/
def reviveSlot (w : World) (id : EntityId) (rest : List EntityId)
    (hfree : w.freeIds = id :: rest) : World where
  nextId := w.nextId
  freeIds := rest
  liveCount := w.liveCount + 1
  live := w.live.set id.toNat true
  identity := w.identity.revive id.toNat
  auth := w.auth.revive id.toNat
  security := w.security.revive id.toNat
  nasSecurity := w.nasSecurity.revive id.toNat
  tunnel := w.tunnel.revive id.toNat
  security5g := w.security5g.revive id.toNat
  nasSecurity5g := w.nasSecurity5g.revive id.toNat
  nextId_eq := by rw [List.length_set, w.nextId_eq]
  freeIds_nodup := (List.nodup_cons.mp (hfree ▸ w.freeIds_nodup)).2
  mem_freeIds := by
    intro id'
    have hnodup := (List.nodup_cons.mp (hfree ▸ w.freeIds_nodup)).1
    have hmem := w.mem_freeIds id'
    rw [hfree, List.mem_cons] at hmem
    rw [List.getElem?_set]
    split
    next hid =>
      have hid := UInt32.toNat_inj.mp hid
      subst hid
      constructor
      · exact fun h => absurd h hnodup
      · intro h
        split at h <;> cases h
    next hid =>
      rw [← hmem]
      constructor
      · exact Or.inr
      · rintro (rfl | h)
        · exact absurd rfl hid
        · exact h
  liveCount_eq := by
    have hdead := (w.mem_freeIds id).mp (by rw [hfree]; exact List.mem_cons_self)
    obtain ⟨hlt, hcell⟩ := List.getElem?_eq_some_iff.mp hdead
    rw [List.count_set hlt, hcell, w.liveCount_eq]
    simp

/-- Append a slot; the counter that names it wraps. -/
def appendSlot (w : World) (hfree : w.freeIds = []) : World where
  nextId := w.nextId + 1
  freeIds := []
  liveCount := w.liveCount + 1
  live := w.live ++ [true]
  identity := w.identity.push
  auth := w.auth.push
  security := w.security.push
  nasSecurity := w.nasSecurity.push
  tunnel := w.tunnel.push
  security5g := w.security5g.push
  nasSecurity5g := w.nasSecurity5g.push
  nextId_eq := by
    rw [UInt32.toNat_add, w.nextId_eq, List.length_append, List.length_singleton]
    simp
  freeIds_nodup := List.nodup_nil
  mem_freeIds := by
    intro id'
    have hmem := w.mem_freeIds id'
    rw [hfree] at hmem
    constructor
    · intro h
      cases h
    · intro h
      rcases Nat.lt_or_ge id'.toNat w.live.length with hlt | hge
      · rw [List.getElem?_append_left hlt] at h
        exact hmem.mpr h
      · rw [List.getElem?_append_right hge] at h
        simp [List.getElem?_singleton] at h
  liveCount_eq := by simp [w.liveCount_eq]

/-- Hand out a retired id if there is one, else the next id of the counter. -/
def spawn (w : World) : EntityId × World :=
  match hfree : w.freeIds with
  | id :: rest => (id, w.reviveSlot id rest hfree)
  | [] => (w.nextId, w.appendSlot hfree)

/-- Retire a live entity: empty its cells and put its id on the free list. -/
def retireSlot (w : World) (id : EntityId) (hlive : w.isLive id = true) : World where
  nextId := w.nextId
  freeIds := id :: w.freeIds
  liveCount := w.liveCount - 1
  live := w.live.set id.toNat false
  identity := w.identity.retire id.toNat
  auth := w.auth.retire id.toNat
  security := w.security.retire id.toNat
  nasSecurity := w.nasSecurity.retire id.toNat
  tunnel := w.tunnel.retire id.toNat
  security5g := w.security5g.retire id.toNat
  nasSecurity5g := w.nasSecurity5g.retire id.toNat
  nextId_eq := by rw [List.length_set, w.nextId_eq]
  freeIds_nodup := by
    refine List.nodup_cons.mpr ⟨?_, w.freeIds_nodup⟩
    rw [w.mem_freeIds, (w.isLive_iff id).mp hlive]
    simp
  mem_freeIds := by
    intro id'
    rw [List.mem_cons, w.mem_freeIds, List.getElem?_set]
    split
    next hid =>
      have hid := UInt32.toNat_inj.mp hid
      subst hid
      simp [isLive_lt hlive]
    next hid =>
      have hne : id' ≠ id := by
        rintro rfl
        exact hid rfl
      simp [hne]
  liveCount_eq := by
    obtain ⟨hlt, hcell⟩ := List.getElem?_eq_some_iff.mp ((w.isLive_iff id).mp hlive)
    rw [List.count_set hlt, hcell, w.liveCount_eq]
    simp

/-- A dead id is ignored. -/
def despawn (w : World) (id : EntityId) : World :=
  if hlive : w.isLive id = true then w.retireSlot id hlive else w

theorem despawn_of_dead {w : World} {id : EntityId} (hdead : w.get? id = none) :
    w.despawn id = w := by
  rw [despawn, dif_neg]
  rw [get?_eq_none.mp hdead]
  exact Bool.false_ne_true

/-- The id of an entity that has been retired is the next to be handed out. -/
theorem spawn_despawn {w : World} {id : EntityId} (hlive : w.isLive id = true) :
    (w.despawn id).spawn.1 = id := by
  have hfreed : (w.despawn id).freeIds = id :: w.freeIds := by
    rw [despawn, dif_pos hlive, retireSlot]
  unfold spawn
  split
  next next rest hfree => exact (List.cons.inj (hfree.symm.trans hfreed)).1
  next hfree => cases hfree.symm.trans hfreed

theorem modify_of_dead {w : World} {id : EntityId} (hdead : w.get? id = none)
    (f : Entity → Entity) : w.modify id f = w := by
  rw [modify, dif_neg]
  rw [get?_eq_none.mp hdead]
  exact Bool.false_ne_true

/-- Rewriting an entity twice is rewriting it once. -/
theorem modify_modify (w : World) (id : EntityId) (f g : Entity → Entity) :
    (w.modify id f).modify id g = w.modify id fun n => g (f n) := by
  by_cases hlive : w.isLive id = true
  · have hlive' : (w.writeEntity id hlive (f (w.entity id hlive))).isLive id = true := hlive
    have hfirst : w.modify id f = w.writeEntity id hlive (f (w.entity id hlive)) := dif_pos hlive
    rw [hfirst, modify, dif_pos hlive', entity_writeEntity_self, modify, dif_pos hlive]
    simp only [writeEntity, Column.write, List.set_set]
  · have hsame : ∀ f, w.modify id f = w := fun f => dif_neg hlive
    rw [hsame, hsame, hsame]

/-- The counter has wrapped and no retired id is left: the next spawn hands out a live id. -/
def Exhausted (w : World) : Prop := w.freeIds = [] ∧ 2 ^ 32 ≤ w.live.length

theorem get?_reviveSlot (w : World) (id : EntityId) (rest : List EntityId)
    (hfree : w.freeIds = id :: rest) :
    (w.reviveSlot id rest hfree).get? = Function.update w.get? id (some .empty) := by
  have hdead := (w.mem_freeIds id).mp (by rw [hfree]; exact List.mem_cons_self)
  obtain ⟨hlt, _⟩ := List.getElem?_eq_some_iff.mp hdead
  funext e
  rcases eq_or_ne e id with rfl | hne
  · have hlive : (w.reviveSlot e rest hfree).isLive e = true := by
      simp [isLive, reviveSlot, List.getElem?_set_self hlt]
    rw [Function.update_self, get?, dif_pos hlive]
    exact congrArg some (Entity.ext (w.identity.get_of_dead hdead hlt)
      (w.auth.get_of_dead hdead hlt) (w.security.get_of_dead hdead hlt)
      (w.nasSecurity.get_of_dead hdead hlt) (w.tunnel.get_of_dead hdead hlt)
      (w.security5g.get_of_dead hdead hlt) (w.nasSecurity5g.get_of_dead hdead hlt))
  · have hslot : id.toNat ≠ e.toNat := fun h => hne (UInt32.toNat_inj.mp h).symm
    have hsame : (w.reviveSlot id rest hfree).isLive e = w.isLive e := by
      simp only [isLive, reviveSlot, List.getElem?_set_ne hslot]
    rw [Function.update_of_ne hne, get?, get?]
    by_cases halive : w.isLive e = true
    · rw [dif_pos (hsame.trans halive), dif_pos halive]
      rfl
    · rw [dif_neg (by rwa [hsame]), dif_neg halive]

/-- Appending a slot leaves every id below the old end as it was. -/
theorem get?_appendSlot_of_ne (w : World) (hfree : w.freeIds = []) {e : EntityId}
    (hslot : e.toNat ≠ w.live.length) : (w.appendSlot hfree).get? e = w.get? e := by
  rcases Nat.lt_or_gt_of_ne hslot with hlt | hgt
  · have hsame : (w.appendSlot hfree).isLive e = w.isLive e := by
      simp only [isLive, appendSlot, List.getElem?_append_left hlt]
    rw [get?, get?]
    by_cases halive : w.isLive e = true
    · rw [dif_pos (hsame.trans halive), dif_pos halive]
      have hlt' := isLive_lt (hsame.trans halive)
      exact congrArg some (Entity.ext (w.identity.get_push_of_lt _ hlt hlt')
        (w.auth.get_push_of_lt _ hlt hlt') (w.security.get_push_of_lt _ hlt hlt')
        (w.nasSecurity.get_push_of_lt _ hlt hlt') (w.tunnel.get_push_of_lt _ hlt hlt')
        (w.security5g.get_push_of_lt _ hlt hlt') (w.nasSecurity5g.get_push_of_lt _ hlt hlt'))
    · rw [dif_neg (by rwa [hsame]), dif_neg halive]
  · have hdead : w.isLive e = false := by
      simp [isLive, List.getElem?_eq_none (Nat.le_of_lt hgt)]
    have hdead' : (w.appendSlot hfree).isLive e = false := by
      simp only [isLive, appendSlot]
      rw [List.getElem?_eq_none (by rw [List.length_append]; exact hgt), Option.getD_none]
    rw [get?_eq_none.mpr hdead, get?_eq_none.mpr hdead']

theorem get?_appendSlot_of_lt (w : World) (hfree : w.freeIds = [])
    (hroom : w.live.length < 2 ^ 32) :
    (w.appendSlot hfree).get? = Function.update w.get? w.nextId (some .empty) := by
  have hnext : w.nextId.toNat = w.live.length := by rw [w.nextId_eq, Nat.mod_eq_of_lt hroom]
  funext e
  rcases eq_or_ne e w.nextId with rfl | hne
  · have hlive : (w.appendSlot hfree).isLive w.nextId = true := by
      simp [isLive, appendSlot, hnext]
    rw [Function.update_self, get?, dif_pos hlive]
    refine congrArg some (Entity.ext ?_ ?_ ?_ ?_ ?_ ?_ ?_) <;>
      simp only [entity, appendSlot, hnext, Column.get_push_last, Entity.empty]
  · have hslot : e.toNat ≠ w.live.length := by
      rw [← hnext]
      exact fun h => hne (UInt32.toNat_inj.mp h)
    rw [Function.update_of_ne hne]
    exact get?_appendSlot_of_ne w hfree hslot

/-- A retired id is dead. -/
theorem get?_of_mem_freeIds {w : World} {id : EntityId} (hmem : id ∈ w.freeIds) :
    w.get? id = none := by
  rw [get?_eq_none, isLive, (w.mem_freeIds id).mp hmem, Option.getD_some]

/-- The counter names a live slot once it has wrapped. -/
theorem isLive_nextId_of_exhausted {w : World} (hex : w.Exhausted) :
    w.isLive w.nextId = true := by
  have hlt : w.nextId.toNat < w.live.length := lt_of_lt_of_le w.nextId.toNat_lt hex.2
  rw [isLive_iff, List.getElem?_eq_getElem hlt]
  cases hcell : w.live[w.nextId.toNat] with
  | true => rfl
  | false =>
      have hmem := (w.mem_freeIds w.nextId).mpr (by rw [List.getElem?_eq_getElem hlt, hcell])
      rw [hex.1] at hmem
      cases hmem

/-- The id a spawn hands out is still live exactly when the world is exhausted. -/
theorem isLive_spawn_iff (w : World) : w.isLive w.spawn.1 = true ↔ w.Exhausted := by
  unfold spawn
  split
  next id rest hfree =>
    have hdead := get?_of_mem_freeIds (w := w) (by rw [hfree]; exact List.mem_cons_self)
    rw [get?_eq_none.mp hdead, Exhausted, hfree]
    simp
  next hfree =>
    constructor
    · intro hlive
      refine ⟨hfree, ?_⟩
      have hlt := isLive_lt hlive
      rw [w.nextId_eq] at hlt
      by_contra hroom
      rw [Nat.mod_eq_of_lt (Nat.lt_of_not_le hroom)] at hlt
      exact absurd hlt (lt_irrefl _)
    · exact isLive_nextId_of_exhausted

/-- Spawning writes an empty entity at the id it returns, unless that id is still live; in that
case the map of live entities does not change. -/
theorem get?_spawn (w : World) :
    w.spawn.2.get? =
      Function.update w.get? w.spawn.1 (some ((w.get? w.spawn.1).getD .empty)) := by
  unfold spawn
  split
  next id rest hfree =>
    have hdead := get?_of_mem_freeIds (w := w) (by rw [hfree]; exact List.mem_cons_self)
    rw [hdead, Option.getD_none, get?_reviveSlot]
  next hfree =>
    rcases Nat.lt_or_ge w.live.length (2 ^ 32) with hroom | hfull
    · have hdead : w.get? w.nextId = none := by
        rw [get?_eq_none, isLive, w.nextId_eq, Nat.mod_eq_of_lt hroom,
          List.getElem?_eq_none (le_refl _), Option.getD_none]
      rw [hdead, Option.getD_none, get?_appendSlot_of_lt w hfree hroom]
    · have hlive := isLive_nextId_of_exhausted ⟨hfree, hfull⟩
      have hself : some ((w.get? w.nextId).getD .empty) = w.get? w.nextId := by
        rw [get?, dif_pos hlive, Option.getD_some]
      rw [hself, Function.update_eq_self]
      funext e
      exact get?_appendSlot_of_ne w hfree (Nat.ne_of_lt (lt_of_lt_of_le e.toNat_lt hfull))

theorem get?_retireSlot (w : World) (id : EntityId) (hlive : w.isLive id = true) :
    (w.retireSlot id hlive).get? = Function.update w.get? id none := by
  funext e
  rcases eq_or_ne e id with rfl | hne
  · rw [Function.update_self, get?_eq_none]
    simp [isLive, retireSlot, List.getElem?_set_self (isLive_lt hlive)]
  · have hslot : id.toNat ≠ e.toNat := fun h => hne (UInt32.toNat_inj.mp h).symm
    have hsame : (w.retireSlot id hlive).isLive e = w.isLive e := by
      simp only [isLive, retireSlot, List.getElem?_set_ne hslot]
    rw [Function.update_of_ne hne, get?, get?]
    by_cases halive : w.isLive e = true
    · rw [dif_pos (hsame.trans halive), dif_pos halive]
      have hlt := isLive_lt (hsame.trans halive)
      exact congrArg some (Entity.ext (w.identity.get_retire_of_ne hslot hlt)
        (w.auth.get_retire_of_ne hslot hlt) (w.security.get_retire_of_ne hslot hlt)
        (w.nasSecurity.get_retire_of_ne hslot hlt) (w.tunnel.get_retire_of_ne hslot hlt)
        (w.security5g.get_retire_of_ne hslot hlt) (w.nasSecurity5g.get_retire_of_ne hslot hlt))
    · rw [dif_neg (by rwa [hsame]), dif_neg halive]

/-- Retiring removes exactly one entity. -/
theorem get?_despawn (w : World) (id : EntityId) :
    (w.despawn id).get? = Function.update w.get? id none := by
  by_cases hlive : w.isLive id = true
  · rw [despawn, dif_pos hlive, get?_retireSlot]
  · have hdead : w.get? id = none := by rw [get?, dif_neg hlive]
    rw [despawn, dif_neg hlive, ← hdead, Function.update_eq_self]

@[simp] theorem get?_new (id : EntityId) : new.get? id = none :=
  get?_eq_none.mpr (by simp [isLive, new])

/-! ## Slots -/

/-- The slots made so far, live or retired. -/
def slots (w : World) : Nat := w.live.length

@[simp] theorem slots_modify (w : World) (id : EntityId) (f : Entity → Entity) :
    (w.modify id f).slots = w.slots := by
  unfold modify
  split <;> rfl

theorem slots_spawn_le (w : World) : w.spawn.2.slots ≤ w.slots + 1 := by
  unfold spawn slots
  split
  · rw [reviveSlot, List.length_set]
    exact Nat.le_succ _
  · rw [appendSlot, List.length_append, List.length_singleton]

@[simp] theorem slots_despawn (w : World) (id : EntityId) : (w.despawn id).slots = w.slots := by
  unfold despawn
  split
  · rw [slots, retireSlot, List.length_set, slots]
  · rfl

theorem toNat_lt_slots {w : World} {e : EntityId} {n : Entity} (hn : w.get? e = some n) :
    e.toNat < w.slots := isLive_lt (isLive_of_some hn)

/-- As long as the counter does not wrap, a spawn hands out an id that is not live. -/
theorem get?_spawn_of_slots_lt {w : World} (hroom : w.slots < 2 ^ 32) :
    w.get? w.spawn.1 = none := by
  rw [get?_eq_none, Bool.eq_false_iff, ne_eq, isLive_spawn_iff]
  exact fun hex => absurd hex.2 (Nat.not_le.mpr hroom)

/-! ## Worlds that have only grown -/

/-- So many slots have been made and none has been retired. -/
structure Unretired (w : World) (slots : Nat) : Prop where
  freeIds_eq : w.freeIds = []
  length_eq : w.live.length = slots

namespace Unretired

theorem new : Unretired World.new 0 := ⟨rfl, rfl⟩

variable {w : World} {slots : Nat}

theorem modify (hw : Unretired w slots) (id : EntityId) (f : Entity → Entity) :
    Unretired (w.modify id f) slots := by
  unfold World.modify
  split
  · exact ⟨hw.freeIds_eq, hw.length_eq⟩
  · exact hw

theorem spawn (hw : Unretired w slots) : Unretired w.spawn.2 (slots + 1) := by
  unfold World.spawn
  split
  next id rest hfree => cases hw.freeIds_eq.symm.trans hfree
  next hfree => exact ⟨rfl, by rw [appendSlot, List.length_append, hw.length_eq]; rfl⟩

/-- The next id is the number of slots so far, until the counter wraps. -/
theorem toNat_spawn (hw : Unretired w slots) : w.spawn.1.toNat = slots % 2 ^ 32 := by
  unfold World.spawn
  split
  next id rest hfree => cases hw.freeIds_eq.symm.trans hfree
  next hfree => rw [w.nextId_eq, hw.length_eq]

/-- What holds of the entities so far and of the one spawned next holds of all of them then. -/
theorem forall_lt_succ (hw : Unretired w slots) {property : EntityId → Prop}
    (hnew : property w.spawn.1) (hold : ∀ e, e ≠ w.spawn.1 → e.toNat < slots → property e) :
    ∀ e : EntityId, e.toNat < slots + 1 → property e := by
  intro e hlt
  rcases eq_or_ne e w.spawn.1 with rfl | hne
  · exact hnew
  · apply hold e hne
    have hspawn := hw.toNat_spawn
    have hslot : e.toNat ≠ w.spawn.1.toNat := fun h => hne (UInt32.toNat_inj.mp h)
    have hbound := e.toNat_lt
    omega

end Unretired

end World

end Midn.Ecs
