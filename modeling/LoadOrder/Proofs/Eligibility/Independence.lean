/-
# What a decision depends on

The decision on a type depends on which of its dependencies hold ids and, if a loader of the user
defined it, on the owner of its name. Two types that have none of that in common are independent.

Main statements:
- `check_congr`, `fst_check_congr`: what the decision on a type depends on;
- `ownerOf_catalogAfter`: what becomes of the catalog of names;
- `catalogAfter_comm`: independent types leave the same catalog in either order.
-/
import LoadOrder.Proofs.Catalog
import LoadOrder.Proofs.Eligibility

namespace LoadOrder

/-- Two types that have nothing to do with each other: neither depends on the other, and they do not
compete for a name. -/
structure Independent (first second : LoadedType) : Prop where
  ne : first.identity ≠ second.identity
  not_needed : second.identity ∉ first.dependencies
  not_needed' : first.identity ∉ second.dependencies
  name_ne : first.isBuiltin = false → second.isBuiltin = false → first.name ≠ second.name

/-- Independence is mutual. -/
theorem Independent.symm {first second : LoadedType} (h : Independent first second) :
    Independent second first :=
  ⟨h.ne.symm, h.not_needed', h.not_needed, fun hsecond hfirst => (h.name_ne hfirst hsecond).symm⟩

namespace Eligibility

/-- The rules after the catalog depend on which dependencies hold ids. -/
theorem faultAfterCatalog_congr {hasId other : TypeIdentity → Bool} {type : LoadedType}
    (h : ∀ identity ∈ type.dependencies, other identity = hasId identity)
    (origin : Option Origin) :
    faultAfterCatalog other type origin = faultAfterCatalog hasId type origin := by
  have hsuper : (type.superType.filter fun identity => ! other identity) =
      type.superType.filter fun identity => ! hasId identity := by
    cases hsome : type.superType with
    | none => rfl
    | some identity =>
      have hmem : identity ∈ type.dependencies :=
        List.mem_append_left _ (Option.mem_toList.2 hsome)
      rw [Option.filter_some, Option.filter_some, h identity hmem]
  have hinterfaces : (type.interfaces.find? fun identity => ! other identity) =
      type.interfaces.find? fun identity => ! hasId identity := by
    rw [← List.head?_filter, ← List.head?_filter]
    refine congrArg List.head? (List.filter_congr ?_)
    intro identity hmem
    rw [h identity (List.mem_append_right _ hmem)]
  unfold faultAfterCatalog
  rw [hsuper, hinterfaces]

/-- With the same catalog, everything goes by which dependencies hold ids. -/
theorem check_congr {σ : Type} [Catalog σ] {hasId other : TypeIdentity → Bool} {type : LoadedType}
    (h : ∀ identity ∈ type.dependencies, other identity = hasId identity) (style : PathStyle)
    (origin : Option Origin) (catalog : σ) :
    check style other type origin catalog = check style hasId type origin catalog := by
  have hfault := faultAfterCatalog_congr h origin
  cases hasks : asksCatalog style type origin with
  | false => rw [check_of_not_asks hasks, check_of_not_asks hasks, hfault]
  | true => rw [check_of_asks hasks, check_of_asks hasks, hfault]

/-- The decision on a type depends on which of its dependencies hold ids, and on the owner of its name
unless a builtin loader defined it. -/
theorem fst_check_congr {hasId other : TypeIdentity → Bool} {type : LoadedType}
    {catalog otherCatalog : NameCatalog}
    (hdependencies : ∀ identity ∈ type.dependencies, other identity = hasId identity)
    (howner : type.isBuiltin = false →
      otherCatalog.ownerOf type.name = catalog.ownerOf type.name)
    (style : PathStyle) (origin : Option Origin) :
    (check style other type origin otherCatalog).1 = (check style hasId type origin catalog).1 := by
  rw [check_congr hdependencies]
  cases hasks : asksCatalog style type origin with
  | false => rw [check_of_not_asks hasks, check_of_not_asks hasks]
  | true =>
    have huser : type.isBuiltin = false := by
      simp only [asksCatalog, Bool.and_eq_true, Bool.not_eq_true'] at hasks
      exact hasks.2
    have hanswer : (Catalog.register type otherCatalog).1 = (Catalog.register type catalog).1 :=
      NameCatalog.fst_register_congr (howner huser)
    rw [check_of_asks hasks, check_of_asks hasks, hanswer]

/-- The catalog after the rules have looked at a type. -/
def catalogAfter {σ : Type} [Catalog σ] (style : PathStyle) (type : LoadedType)
    (origin : Option Origin) (catalog : σ) : σ :=
  if asksCatalog style type origin then (Catalog.register type catalog).2 else catalog

/-- What becomes of the catalog does not depend on who holds an id. -/
theorem snd_check {σ : Type} [Catalog σ] (style : PathStyle) (hasId : TypeIdentity → Bool)
    (type : LoadedType) (origin : Option Origin) (catalog : σ) :
    (check style hasId type origin catalog).2 = catalogAfter style type origin catalog := by
  cases hasks : asksCatalog style type origin with
  | false => simp [check_of_not_asks hasks, catalogAfter, hasks]
  | true => simp [check_of_asks hasks, catalogAfter, hasks]

/-- The catalog of names gives a type about which it is asked its name if the name is free, and moves
no other name. -/
theorem ownerOf_catalogAfter (style : PathStyle) (type : LoadedType) (origin : Option Origin)
    (catalog : NameCatalog) (name : String) :
    (catalogAfter style type origin catalog).ownerOf name =
      if asksCatalog style type origin = true ∧ name = type.name ∧ catalog.ownerOf name = none then
        some type.identity
      else catalog.ownerOf name := by
  unfold catalogAfter
  cases hasks : asksCatalog style type origin with
  | false => simp
  | true =>
    rw [if_pos rfl]
    show (catalog.register type).2.ownerOf name = _
    simp

/-- Only a name that the type has gets another owner. -/
theorem ownerOf_catalogAfter_of_ne {type : LoadedType} {name : String}
    (h : type.isBuiltin = false → type.name ≠ name) (style : PathStyle) (origin : Option Origin)
    (catalog : NameCatalog) :
    (catalogAfter style type origin catalog).ownerOf name = catalog.ownerOf name := by
  rw [ownerOf_catalogAfter, if_neg]
  rintro ⟨hasks, hname, -⟩
  simp only [asksCatalog, Bool.and_eq_true, Bool.not_eq_true'] at hasks
  exact h hasks.2 hname.symm

/-- Independent types leave the same catalog in either order. -/
theorem catalogAfter_comm {first second : LoadedType} (h : Independent first second)
    (style : PathStyle) (origin origin' : Option Origin) (catalog : NameCatalog) :
    catalogAfter style second origin' (catalogAfter style first origin catalog) =
      catalogAfter style first origin (catalogAfter style second origin' catalog) := by
  unfold catalogAfter
  cases hfirst : asksCatalog style first origin with
  | false => rfl
  | true =>
  cases hsecond : asksCatalog style second origin' with
  | false => rfl
  | true =>
    simp only [asksCatalog, Bool.and_eq_true, Bool.not_eq_true'] at hfirst hsecond
    exact NameCatalog.register_register_comm (h.name_ne hfirst.2 hsecond.2) catalog

end Eligibility

end LoadOrder
