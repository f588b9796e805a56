/-
# The registry of ids

Ids are handed out in ascending order, one for each recorded type, and none twice: forgetting an
unloaded type leaves the counter where it is.

Main statements:
- `idOf_assign_self`, `idOf_assign_of_ne`, `idOf_forget`: what each operation does to the ids;
- `assign_of_idOf`: a type that holds an id keeps it, and the registry does not change;
- `assignAll_of_forall_hasId`: the same for several types at once.
-/
import LoadOrder.Entry
import LoadOrder.LoadedType

namespace LoadOrder

/-- The ids of the recorded types that are still loaded. -/
structure Registry where
  ids : Std.ExtTreeMap TypeIdentity RecordId := ∅
  /-- The id that the next new type gets. -/
  nextId : RecordId := 0

instance : Inhabited Registry := ⟨{}⟩

namespace Registry

/-- The id that a type holds. -/
def idOf (registry : Registry) (identity : TypeIdentity) : Option RecordId :=
  registry.ids[identity]?

/-- Whether a type holds an id. -/
def hasId (registry : Registry) (identity : TypeIdentity) : Bool :=
  (registry.idOf identity).isSome

/-- How many types hold an id. -/
def size (registry : Registry) : Nat :=
  registry.ids.size

/-- The id of a type, the next one if it holds none. -/
def assign (registry : Registry) (identity : TypeIdentity) : RecordId × Registry :=
  match registry.idOf identity with
  | some id => (id, registry)
  | none =>
    (registry.nextId,
      { ids := registry.ids.insert identity registry.nextId, nextId := registry.nextId + 1 })

/-- The ids of several types, in order. Each type that holds none gets the next one. -/
def assignAll (registry : Registry) : List TypeIdentity → List RecordId × Registry
  | [] => ([], registry)
  | identity :: rest =>
    let (id, registry) := registry.assign identity
    let (ids, registry) := registry.assignAll rest
    (id :: ids, registry)

/-- The registry without a type. -/
def forget (registry : Registry) (identity : TypeIdentity) : Registry :=
  { registry with ids := registry.ids.erase identity }

/-! ## What the operations do to the ids -/

/-- A type that holds an id keeps it, and nothing changes. -/
theorem assign_of_idOf {registry : Registry} {identity : TypeIdentity} {id : RecordId}
    (h : registry.idOf identity = some id) : registry.assign identity = (id, registry) := by
  simp [assign, h]

/-- A type holds the id that it was given. -/
@[simp] theorem idOf_assign_self (registry : Registry) (identity : TypeIdentity) :
    (registry.assign identity).2.idOf identity = some (registry.assign identity).1 := by
  unfold assign
  split
  · next h => exact h
  · simp [idOf]

/-- Giving an id to one type leaves the others alone. -/
@[simp] theorem idOf_assign_of_ne (registry : Registry) {identity other : TypeIdentity}
    (h : other ≠ identity) :
    (registry.assign identity).2.idOf other = registry.idOf other := by
  unfold assign
  split
  · rfl
  · simp [idOf, Std.ExtTreeMap.getElem?_insert, Ne.symm h]

/-- Types that hold ids keep them, and nothing changes. -/
theorem assignAll_of_forall_hasId {registry : Registry} {identities : List TypeIdentity}
    (h : ∀ identity ∈ identities, registry.hasId identity = true) :
    registry.assignAll identities = (identities.filterMap registry.idOf, registry) := by
  induction identities with
  | nil => rfl
  | cons identity rest ih =>
    obtain ⟨id, hid⟩ := Option.isSome_iff_exists.1 (h identity List.mem_cons_self)
    have ih := ih fun other ho => h other (List.mem_cons_of_mem identity ho)
    rw [assignAll, assign_of_idOf hid]
    simp [ih, hid]

/-- Forgetting a type leaves the counter where it is. -/
@[simp] theorem nextId_forget (registry : Registry) (identity : TypeIdentity) :
    (registry.forget identity).nextId = registry.nextId := by
  simp [forget]

/-- A forgotten type holds no id, and the others keep theirs. -/
@[simp] theorem idOf_forget (registry : Registry) (identity other : TypeIdentity) :
    (registry.forget identity).idOf other =
      if other = identity then none else registry.idOf other := by
  simp [forget, idOf, Std.ExtTreeMap.getElem?_erase, eq_comm (a := other)]

end Registry

end LoadOrder
