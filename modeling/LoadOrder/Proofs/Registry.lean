/-
# Ids that are held already

A type that holds an id keeps it whatever ids are given to others, and asking for its id again gives
none away.

Main statements:
- `idOf_assign_of_hasId`: ids that are held are kept;
- `assignAll_assign`: types that hold ids are given none, also right after another type got its own;
- `size_assign_of_idOf_none`, `size_forget_of_idOf`: how many types hold ids;
- `map_toNat_ids`: ids that were given from zero on are as many different numbers.
-/
import LoadOrder.Registry
import Mathlib.Data.List.Basic

namespace LoadOrder.Registry

/-- A type that holds an id keeps it when a type is given one. -/
theorem idOf_assign_of_hasId {registry : Registry} {other : TypeIdentity}
    (h : registry.hasId other = true) (identity : TypeIdentity) :
    (registry.assign identity).2.idOf other = registry.idOf other := by
  by_cases heq : other = identity
  · obtain ⟨id, hid⟩ := Option.isSome_iff_exists.1 h
    rw [← heq, assign_of_idOf hid]
  · exact idOf_assign_of_ne registry heq

/-- A type that holds no id gets the next one. -/
theorem assign_of_idOf_none {registry : Registry} {identity : TypeIdentity}
    (h : registry.idOf identity = none) :
    (registry.assign identity).1 = registry.nextId ∧
      (registry.assign identity).2.nextId = registry.nextId + 1 := by
  simp [assign, h]

/-- The ids of types that hold ids, after another type was given its own. -/
theorem assignAll_assign {registry : Registry} {identities : List TypeIdentity}
    (h : ∀ other ∈ identities, registry.hasId other = true) (identity : TypeIdentity) :
    (registry.assign identity).2.assignAll identities =
      (identities.filterMap registry.idOf, (registry.assign identity).2) := by
  have hkept : ∀ other ∈ identities,
      (registry.assign identity).2.idOf other = registry.idOf other :=
    fun other hother => idOf_assign_of_hasId (h other hother) identity
  have hheld : ∀ other ∈ identities, (registry.assign identity).2.hasId other = true := by
    intro other hother
    rw [hasId, hkept other hother]
    exact h other hother
  rw [assignAll_of_forall_hasId hheld, List.filterMap_congr hkept]

/-- Types that all hold ids have as many ids as there are types. -/
theorem map_some_filterMap_idOf {registry : Registry} {identities : List TypeIdentity}
    (h : ∀ identity ∈ identities, registry.hasId identity = true) :
    (identities.filterMap registry.idOf).map some = identities.map registry.idOf := by
  induction identities with
  | nil => rfl
  | cons identity rest ih =>
    obtain ⟨id, hid⟩ := Option.isSome_iff_exists.1 (h identity List.mem_cons_self)
    rw [List.filterMap_cons_some hid, List.map_cons, List.map_cons, hid,
      ih fun other hother => h other (List.mem_cons_of_mem identity hother)]

/-- A type that is given an id is one more that holds one. -/
theorem size_assign_of_idOf_none {registry : Registry} {identity : TypeIdentity}
    (h : registry.idOf identity = none) :
    (registry.assign identity).2.size = registry.size + 1 := by
  have hmem : identity ∉ registry.ids := by
    simpa [idOf] using h
  simp [assign, h, size, Std.ExtTreeMap.size_insert, hmem]

/-- A type that holds an id and is forgotten is one less. -/
theorem size_forget_of_idOf {registry : Registry} {identity : TypeIdentity} {id : RecordId}
    (h : registry.idOf identity = some id) :
    (registry.forget identity).size = registry.size - 1 := by
  have hmem : identity ∈ registry.ids := Std.ExtTreeMap.mem_iff_isSome_getElem?.2 (by simp_all [idOf])
  simp [forget, size, Std.ExtTreeMap.size_erase, hmem]

/-- Forgetting a type adds none. -/
theorem size_forget_le (registry : Registry) (identity : TypeIdentity) :
    (registry.forget identity).size ≤ registry.size :=
  Std.ExtTreeMap.size_erase_le

/-- Ids that were given from zero on are the numbers from zero on, as long as there are ids left. -/
theorem map_toNat_ids {ids : List RecordId} {count : Nat}
    (h : ids = (List.range count).map UInt32.ofNat) (hfew : count < UInt32.size) :
    ids.map UInt32.toNat = List.range count := by
  calc ids.map UInt32.toNat
      = (List.range count).map fun n => (UInt32.ofNat n).toNat := by
        rw [h, List.map_map]
        rfl
    _ = (List.range count).map fun n => n :=
        List.map_congr_left fun n hn =>
          UInt32.toNat_ofNat_of_lt' (Nat.lt_trans (List.mem_range.1 hn) hfew)
    _ = List.range count := List.map_id' _

end LoadOrder.Registry
