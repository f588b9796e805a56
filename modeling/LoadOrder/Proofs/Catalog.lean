/-
# Names that are given away

A catalog of names gives a name to the first type that asks for it, and for good. To types of other
names it makes no difference.

Main statements:
- `register_of_free`, `register_of_owner`, `register_of_other`: the three ways in which a
  registration can go;
- `ownerOf_register_of_some`: a name that was given away stays with its type;
- `register_give_of_ne`, `register_register_comm`: names do not get into each other's way.
-/
import LoadOrder.Catalog

namespace LoadOrder

/-- A catalog that never breaks off. -/
def Catalog.Answers (σ : Type) [Catalog σ] : Prop :=
  ∀ (type : LoadedType) (catalog : σ), (Catalog.register type catalog).1 ≠ .interrupted

namespace NameCatalog

/-- A catalog of names never breaks off. -/
theorem answers : Catalog.Answers NameCatalog := by
  intro type catalog
  show (catalog.register type).1 ≠ .interrupted
  unfold register
  split
  · split <;> simp
  · simp

/-- The catalog with a name given to a type. -/
def give (name : String) (identity : TypeIdentity) (catalog : NameCatalog) : NameCatalog :=
  ⟨catalog.owners.insert name identity⟩

/-- Giving a name away settles its owner and no other. -/
@[simp] theorem ownerOf_give (name : String) (identity : TypeIdentity) (catalog : NameCatalog)
    (other : String) :
    (catalog.give name identity).ownerOf other =
      if other = name then some identity else catalog.ownerOf other := by
  by_cases h : other = name
  · simp [give, ownerOf, h]
  · simp [give, ownerOf, Std.ExtTreeMap.getElem?_insert, h, Ne.symm h]

/-- Two catalogs in which each name has the same owner are the same. -/
theorem ext_ownerOf {catalog other : NameCatalog}
    (h : ∀ name, catalog.ownerOf name = other.ownerOf name) : catalog = other := by
  cases catalog
  cases other
  exact congrArg NameCatalog.mk (Std.ExtTreeMap.ext_getElem? h)

/-- Two different names can be given away in either order. -/
theorem give_give_comm {name other : String} (h : name ≠ other) (identity owner : TypeIdentity)
    (catalog : NameCatalog) :
    (catalog.give name identity).give other owner =
      (catalog.give other owner).give name identity := by
  apply ext_ownerOf
  intro key
  by_cases hkey : key = name
  · simp [hkey, h]
  · simp [hkey]

/-- A free name is given to the type. -/
theorem register_of_free {type : LoadedType} {catalog : NameCatalog}
    (h : catalog.ownerOf type.name = none) :
    catalog.register type = (.accepted, catalog.give type.name type.identity) := by
  simp [register, h, give]

/-- A type that holds its name is accepted again. -/
theorem register_of_owner {type : LoadedType} {catalog : NameCatalog}
    (h : catalog.ownerOf type.name = some type.identity) :
    catalog.register type = (.accepted, catalog) := by
  simp [register, h]

/-- A type whose name is held by another type is refused. -/
theorem register_of_other {type : LoadedType} {catalog : NameCatalog} {owner : TypeIdentity}
    (h : catalog.ownerOf type.name = some owner) (hne : owner ≠ type.identity) :
    catalog.register type = (.refused ⟨type.name, owner⟩, catalog) := by
  simp [register, h, hne]

/-- A name that was given away stays with its type. -/
theorem ownerOf_register_of_some {catalog : NameCatalog} {name : String} {owner : TypeIdentity}
    (h : catalog.ownerOf name = some owner) (type : LoadedType) :
    (catalog.register type).2.ownerOf name = some owner := by
  simp [h]

/-- A type that is accepted holds its name. -/
theorem ownerOf_of_accepted {type : LoadedType} {catalog after : NameCatalog}
    (h : catalog.register type = (.accepted, after)) :
    after.ownerOf type.name = some type.identity := by
  have hafter : after = (catalog.register type).2 := by rw [h]
  cases howner : catalog.ownerOf type.name with
  | none => simp [hafter, howner]
  | some owner =>
    by_cases heq : owner = type.identity
    · rw [hafter, ownerOf_register_of_some howner, heq]
    · rw [register_of_other howner heq] at h
      simp at h

/-- A name that was given away makes no difference to a type of another name. -/
theorem register_give_of_ne {type : LoadedType} {name : String} (h : type.name ≠ name)
    (identity : TypeIdentity) (catalog : NameCatalog) :
    (catalog.give name identity).register type =
      ((catalog.register type).1, (catalog.register type).2.give name identity) := by
  have hgive : (catalog.give name identity).ownerOf type.name = catalog.ownerOf type.name := by
    simp [h]
  cases howner : catalog.ownerOf type.name with
  | none =>
    rw [register_of_free howner, register_of_free (hgive.trans howner), give_give_comm h.symm]
  | some owner =>
    by_cases heq : owner = type.identity
    · subst heq
      rw [register_of_owner howner, register_of_owner (hgive.trans howner)]
    · rw [register_of_other howner heq, register_of_other (hgive.trans howner) heq]

/-- The answer to a registration depends on the owner of the name. -/
theorem fst_register_congr {type : LoadedType} {catalog other : NameCatalog}
    (h : other.ownerOf type.name = catalog.ownerOf type.name) :
    (other.register type).1 = (catalog.register type).1 := by
  unfold register
  rw [h]
  split
  · split <;> rfl
  · rfl

/-- Types of different names can be registered in either order. -/
theorem register_register_comm {first second : LoadedType} (h : first.name ≠ second.name)
    (catalog : NameCatalog) :
    ((catalog.register first).2.register second).2 =
      ((catalog.register second).2.register first).2 := by
  apply ext_ownerOf
  intro name
  by_cases hname : name = first.name
  · simp [hname, h]
  · simp [hname]

end NameCatalog

end LoadOrder
