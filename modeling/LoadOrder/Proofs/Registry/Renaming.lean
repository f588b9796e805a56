/-
# Registries with other ids

Which id a type holds depends on how many types came before it. Registries that differ in nothing else
do the same from then on, up to the renaming of the ids that they hold, as long as the next id keeps
its name.

Main statements:
- `idOf_rename`, `assign_rename`, `forget_rename`: renaming goes through every operation;
- `Given.assign`, `Given.forget`: the ids that are held were given before the next one;
- `assign_assign_comm`: two new types in the other order have their ids exchanged.
-/
import LoadOrder.Proofs.Registry
import Mathlib.Logic.Equiv.Basic

namespace LoadOrder.Registry

/-- Two registries in which each type holds the same id, and that give the same id next, are the same.
-/
theorem ext_idOf {registry other : Registry}
    (hids : ∀ identity, registry.idOf identity = other.idOf identity)
    (hnext : registry.nextId = other.nextId) : registry = other := by
  cases registry
  cases other
  obtain rfl := Std.ExtTreeMap.ext_getElem? hids
  obtain rfl := hnext
  rfl

/-! ## Renaming -/

/-- The registry with its ids renamed. The id that is given next stays as it is. -/
def rename (f : RecordId → RecordId) (registry : Registry) : Registry :=
  { registry with ids := registry.ids.map fun _ id => f id }

/-- Renaming keeps the next id. -/
@[simp] theorem nextId_rename (f : RecordId → RecordId) (registry : Registry) :
    (registry.rename f).nextId = registry.nextId := rfl

/-- A type holds its id under the new name. -/
@[simp]
theorem idOf_rename (f : RecordId → RecordId) (registry : Registry) (identity : TypeIdentity) :
    (registry.rename f).idOf identity = (registry.idOf identity).map f :=
  Std.ExtTreeMap.getElem?_map

/-- The same types hold ids. -/
@[simp] theorem hasId_rename (f : RecordId → RecordId) (registry : Registry) :
    (registry.rename f).hasId = registry.hasId := by
  funext identity
  simp [hasId]

/-- As many types hold ids. -/
@[simp] theorem size_rename (f : RecordId → RecordId) (registry : Registry) :
    (registry.rename f).size = registry.size :=
  Std.ExtTreeMap.size_map

/-- With the names that it has, a registry is the same. -/
@[simp] theorem rename_id (registry : Registry) : registry.rename id = registry := by
  apply ext_idOf
  · intro identity
    simp
  · rfl

/-- A type gets the same id under its new name, if the id that is given next keeps its own. -/
theorem assign_rename {f : RecordId → RecordId} {registry : Registry}
    (hnext : f registry.nextId = registry.nextId) (identity : TypeIdentity) :
    (registry.rename f).assign identity =
      (f (registry.assign identity).1, (registry.assign identity).2.rename f) := by
  cases hid : registry.idOf identity with
  | some id =>
    have hrenamed : (registry.rename f).idOf identity = some (f id) := by simp [hid]
    rw [assign_of_idOf hid, assign_of_idOf hrenamed]
  | none =>
    have hrenamed : (registry.rename f).idOf identity = none := by simp [hid]
    obtain ⟨hfirst, hsecond⟩ := assign_of_idOf_none hid
    obtain ⟨hfirst', hsecond'⟩ := assign_of_idOf_none hrenamed
    refine Prod.ext ?_ (ext_idOf ?_ ?_)
    · simp [hfirst', hfirst, hnext]
    · intro other
      by_cases heq : other = identity
      · simp [heq, hfirst', hfirst, hnext]
      · simp [heq]
    · simp [hsecond', hsecond]

/-- A type is forgotten under any name. -/
theorem forget_rename (f : RecordId → RecordId) (registry : Registry) (identity : TypeIdentity) :
    (registry.rename f).forget identity = (registry.forget identity).rename f := by
  apply ext_idOf
  · intro other
    by_cases heq : other = identity <;> simp [heq]
  · rfl

/-! ## Two types in either order -/

/-- It makes no difference to a type whether another one is forgotten before or after it gets its id.
-/
theorem assign_forget_of_ne {registry : Registry} {identity other : TypeIdentity}
    (h : identity ≠ other) :
    (registry.forget other).assign identity =
      ((registry.assign identity).1, (registry.assign identity).2.forget other) := by
  have hkept : (registry.forget other).idOf identity = registry.idOf identity := by simp [h]
  cases hid : registry.idOf identity with
  | some id => rw [assign_of_idOf hid, assign_of_idOf (hkept.trans hid)]
  | none =>
    obtain ⟨hfirst, hsecond⟩ := assign_of_idOf_none hid
    obtain ⟨hfirst', hsecond'⟩ := assign_of_idOf_none (hkept.trans hid)
    refine Prod.ext (hfirst'.trans hfirst.symm) (ext_idOf ?_ (hsecond'.trans hsecond.symm))
    intro key
    by_cases heq : key = identity
    · simp [heq, h, hfirst', hfirst]
    · simp [heq]

/-- It makes no difference to types when another one is forgotten. -/
theorem assignAll_forget_of_not_mem {registry : Registry} {identities : List TypeIdentity}
    {other : TypeIdentity} (h : other ∉ identities) :
    (registry.forget other).assignAll identities =
      ((registry.assignAll identities).1, (registry.assignAll identities).2.forget other) := by
  induction identities generalizing registry with
  | nil => rfl
  | cons identity rest ih =>
    obtain ⟨hne, hrest⟩ := not_or.1 (List.mem_cons.not.1 h)
    rw [assignAll, assignAll, assign_forget_of_ne (Ne.symm hne)]
    dsimp only
    rw [ih hrest]

/-- A registry that has given a number of ids, from zero on: the next one has that number, and those
that are held have smaller ones. -/
structure Given (count : Nat) (registry : Registry) : Prop where
  nextId : registry.nextId = UInt32.ofNat count
  held : ∀ identity id, registry.idOf identity = some id → id.toNat < count

/-- A new registry has given no id. -/
theorem given_new : Given 0 {} := by
  refine ⟨rfl, ?_⟩
  intro identity id hid
  have hnone : (({} : Registry)).idOf identity = none := Std.ExtTreeMap.getElem?_empty
  rw [hnone] at hid
  simp at hid

/-- A new type gets one id more. -/
theorem Given.assign {count : Nat} {registry : Registry} (h : registry.Given count)
    {identity : TypeIdentity} (hnew : registry.idOf identity = none) :
    (registry.assign identity).2.Given (count + 1) := by
  obtain ⟨hfirst, hsecond⟩ := assign_of_idOf_none hnew
  constructor
  case nextId =>
    rw [hsecond, h.nextId, UInt32.ofNat_add]
    rfl
  case held =>
    intro other id hid
    by_cases heq : other = identity
    · obtain rfl : UInt32.ofNat count = id := by simpa [heq, hfirst, h.nextId] using hid
      rw [UInt32.toNat_ofNat']
      exact Nat.lt_succ_of_le (Nat.mod_le _ _)
    · exact Nat.lt_succ_of_lt (h.held other id (by simpa [heq] using hid))

/-- Forgetting a type gives no id. -/
theorem Given.forget {count : Nat} {registry : Registry} (h : registry.Given count)
    (identity : TypeIdentity) : (registry.forget identity).Given count := by
  refine ⟨h.nextId, ?_⟩
  intro other id hid
  obtain ⟨-, hid⟩ : other ≠ identity ∧ registry.idOf other = some id := by simpa using hid
  exact h.held other id hid

/-- The exchange of two ids that are given later leaves a number that is smaller, or larger, as it is.
-/
theorem swap_ofNat {count other : Nat} (hfew : count + 1 < UInt32.size) (hother : other < UInt32.size)
    (h : other < count ∨ count + 1 < other) :
    Equiv.swap (UInt32.ofNat count) (UInt32.ofNat count + 1) (UInt32.ofNat other) =
      UInt32.ofNat other := by
  have hsucc : UInt32.ofNat count + 1 = UInt32.ofNat (count + 1) := by
    rw [UInt32.ofNat_add]
    rfl
  have hne : ∀ m, m < UInt32.size → other ≠ m → UInt32.ofNat other ≠ UInt32.ofNat m := by
    intro m hm hdiffers heq
    have hnat := congrArg UInt32.toNat heq
    rw [UInt32.toNat_ofNat_of_lt' hother, UInt32.toNat_ofNat_of_lt' hm] at hnat
    exact hdiffers hnat
  rw [hsucc]
  exact Equiv.swap_apply_of_ne_of_ne (hne _ (by omega) (by omega)) (hne _ hfew (by omega))

/-- The exchange of the next two ids leaves those that are held as they are. -/
theorem Given.swap_idOf {count : Nat} {registry : Registry} (h : registry.Given count)
    (hfew : count + 1 < UInt32.size) (identity : TypeIdentity) :
    (registry.idOf identity).map (Equiv.swap registry.nextId (registry.nextId + 1)) =
      registry.idOf identity := by
  cases hid : registry.idOf identity with
  | none => rfl
  | some id =>
    have hlt := h.held identity id hid
    have hswap := swap_ofNat hfew (by omega) (.inl hlt)
    rw [UInt32.ofNat_toNat] at hswap
    rw [Option.map_some, h.nextId, hswap]

/-- **Two new types get the next two ids.** In the other order they get them exchanged. -/
theorem assign_assign_comm {count : Nat} {registry : Registry} (h : registry.Given count)
    (hfew : count + 1 < UInt32.size) {identity other : TypeIdentity} (hne : identity ≠ other)
    (hnew : registry.idOf identity = none) (hnewOther : registry.idOf other = none) :
    ((registry.assign other).2.assign identity).2 =
      ((registry.assign identity).2.assign other).2.rename
        (Equiv.swap registry.nextId (registry.nextId + 1)) := by
  obtain ⟨hid, hnext⟩ := assign_of_idOf_none hnew
  obtain ⟨hidOther, hnextOther⟩ := assign_of_idOf_none hnewOther
  -- each type is as new after the other one as before
  have hafter : (registry.assign other).2.idOf identity = none := by simp [hne, hnew]
  have hafterOther : (registry.assign identity).2.idOf other = none := by
    simp [hne.symm, hnewOther]
  obtain ⟨hid', hnext'⟩ := assign_of_idOf_none hafter
  obtain ⟨hidOther', hnextOther'⟩ := assign_of_idOf_none hafterOther
  apply ext_idOf
  · intro key
    by_cases hkey : key = identity
    · simp [hkey, hne, hid', hnextOther, hid]
    · by_cases hkeyOther : key = other
      · simp [hkeyOther, hne.symm, hidOther, hidOther', hnext]
      · simp [hkey, hkeyOther, h.swap_idOf hfew]
  · simp [hnext', hnextOther, hnextOther', hnext]

end LoadOrder.Registry
