/-
Module: ReplicaBridge.EntityMap
Purpose: Finite maps from entities.  A map is known by its look-ups: two maps that answer
  alike are equal.
Main exports: EntityMap, EntityMap.get?, EntityMap.insert, EntityMap.erase,
  EntityMap.filter, EntityMap.ext
-/
import ReplicaBridge.Avatar
import Std.Data.ExtTreeMap

namespace ReplicaBridge

/-- A finite map from entities. -/
structure EntityMap (α : Type) where
  tree : Std.ExtTreeMap EntityId α compare

namespace EntityMap

variable {α : Type}

/-- The map without entries. -/
def empty : EntityMap α := { tree := ∅ }

instance : Inhabited (EntityMap α) := ⟨empty⟩

/-- The value of an entity. -/
def get? (map : EntityMap α) (id : EntityId) : Option α :=
  map.tree[id]?

/-- The entity has a value. -/
def contains (map : EntityMap α) (id : EntityId) : Bool :=
  (map.get? id).isSome

/-- Give an entity a value, in place of any it had. -/
def insert (map : EntityMap α) (id : EntityId) (value : α) : EntityMap α :=
  { tree := map.tree.insert id value }

/-- Take the value of an entity away. -/
def erase (map : EntityMap α) (id : EntityId) : EntityMap α :=
  { tree := map.tree.erase id }

/-- The number of entities with a value. -/
def size (map : EntityMap α) : Nat :=
  map.tree.size

/-- Keep the values that pass a test. -/
def filter (map : EntityMap α) (keep : α → Bool) : EntityMap α :=
  { tree := map.tree.filter fun _ value => keep value }

@[simp] theorem get?_empty (id : EntityId) : (empty : EntityMap α).get? id = none := by
  simp [get?, empty]

@[grind =] theorem get?_insert (map : EntityMap α) (id other : EntityId) (value : α) :
    (map.insert id value).get? other = if id = other then some value else map.get? other := by
  simp [get?, insert, Std.ExtTreeMap.getElem?_insert]

@[grind =] theorem get?_erase (map : EntityMap α) (id other : EntityId) :
    (map.erase id).get? other = if id = other then none else map.get? other := by
  simp [get?, erase, Std.ExtTreeMap.getElem?_erase]

@[grind =] theorem get?_filter (map : EntityMap α) (keep : α → Bool) (id : EntityId) :
    (map.filter keep).get? id = (map.get? id).filter keep := by
  simp [get?, filter, Std.ExtTreeMap.getElem?_filter]

/-- Two maps that answer every look-up alike are equal. -/
theorem ext {left right : EntityMap α} (h : ∀ id, left.get? id = right.get? id) :
    left = right := by
  cases left
  cases right
  congr
  exact Std.ExtTreeMap.ext_getElem? fun {id} => h id

end EntityMap

end ReplicaBridge
