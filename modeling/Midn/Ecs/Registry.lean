import Midn.Ecs.World
import Midn.Lib.Index

/-!
# IMSI registry

The reverse index from subscriber identity to entity id, which the world does not keep.
-/

namespace Midn.Ecs

structure ImsiRegistry where
  map : UInt64 → Option EntityId

/-- The IMSI of a live entity. -/
def World.imsi? (w : World) (id : EntityId) : Option UInt64 :=
  (w.identity? id).map IdentityComponent.imsi

/-- The IMSIs after one identity has been rewritten. -/
theorem World.imsi?_of_update {w w' : World} {id : EntityId} {identity : Option IdentityComponent}
    (hidentity : w'.identity? = Function.update w.identity? id identity) :
    w'.imsi? = Function.update w.imsi? id (identity.map IdentityComponent.imsi) := by
  funext e
  rw [imsi?, hidentity]
  rcases eq_or_ne e id with rfl | hne
  · rw [Function.update_self, Function.update_self]
  · rw [Function.update_of_ne hne, Function.update_of_ne hne, imsi?]

theorem World.imsi?_of_identity? {w w' : World} (hidentity : w'.identity? = w.identity?) :
    w'.imsi? = w.imsi? := by
  funext e
  rw [imsi?, hidentity, imsi?]

namespace ImsiRegistry

def new : ImsiRegistry := ⟨fun _ => none⟩

def register (r : ImsiRegistry) (imsi : UInt64) (entity : EntityId) : ImsiRegistry :=
  ⟨Function.update r.map imsi (some entity)⟩

def deregister (r : ImsiRegistry) (imsi : UInt64) : ImsiRegistry :=
  ⟨Function.update r.map imsi none⟩

def lookup (r : ImsiRegistry) (imsi : UInt64) : Option EntityId := r.map imsi

@[simp] theorem lookup_register (r : ImsiRegistry) (imsi : UInt64) (entity : EntityId) :
    (r.register imsi entity).lookup imsi = some entity :=
  Function.update_self ..

theorem lookup_register_of_ne (r : ImsiRegistry) {imsi other : UInt64} (hne : other ≠ imsi)
    (entity : EntityId) : (r.register imsi entity).lookup other = r.lookup other :=
  Function.update_of_ne hne ..

@[simp] theorem lookup_deregister (r : ImsiRegistry) (imsi : UInt64) :
    (r.deregister imsi).lookup imsi = none :=
  Function.update_self ..

theorem lookup_deregister_of_ne (r : ImsiRegistry) {imsi other : UInt64} (hne : other ≠ imsi) :
    (r.deregister imsi).lookup other = r.lookup other :=
  Function.update_of_ne hne ..

/-- Every entry leads to a live entity with that IMSI. -/
def Sound (r : ImsiRegistry) (w : World) : Prop := Index.Sound r.lookup w.imsi?

/-- Every IMSI of a live entity has an entry. -/
def Complete (r : ImsiRegistry) (w : World) : Prop := Index.Complete r.lookup w.imsi?

theorem sound_new : new.Sound .new := by
  intro imsi entity hlookup
  cases hlookup

theorem complete_new : new.Complete .new := by
  intro entity imsi himsi
  rw [World.imsi?, World.identity?, World.get?_new] at himsi
  cases himsi

end ImsiRegistry

end Midn.Ecs
