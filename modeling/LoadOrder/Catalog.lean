/-
# The side catalog

A user-defined type is written to the manifest only if a side catalog accepts it. The program that
replays the manifest finds such types by name, so two of them must not share one.

Main statement:
- `ownerOf_register`: registering a type gives it the name exactly if the name was free.
-/
import LoadOrder.LoadedType

namespace LoadOrder

/-- A name that another type holds. -/
structure Conflict where
  name : String
  existing : TypeIdentity
  deriving DecidableEq, Repr, Inhabited

/-- The wording of a conflict. -/
def Conflict.text (conflict : Conflict) : String :=
  s!"{conflict.name} already registered by {conflict.existing.text}"

/-- The answer of a catalog. -/
inductive Registration where
  /-- The type is in the catalog now, or was before. -/
  | accepted
  | refused (conflict : Conflict)
  /-- The catalog broke off without an answer. -/
  | interrupted
  deriving DecidableEq, Repr, Inhabited

/-- A catalog with states of type `σ`. -/
class Catalog (σ : Type) where
  register : LoadedType → σ → Registration × σ

/-! ## The catalog of names -/

/-- A catalog that gives each name to the first type that registers it, for good. -/
structure NameCatalog where
  owners : Std.ExtTreeMap String TypeIdentity := ∅

instance : Inhabited NameCatalog := ⟨{}⟩

namespace NameCatalog

/-- The type that holds a name. -/
def ownerOf (catalog : NameCatalog) (name : String) : Option TypeIdentity :=
  catalog.owners[name]?

/-- Whether any type holds a name. -/
def contains (catalog : NameCatalog) (name : String) : Bool :=
  (catalog.ownerOf name).isSome

/-- How many names are held. -/
def size (catalog : NameCatalog) : Nat :=
  catalog.owners.size

/-- Gives a type its name if the name is free. A type that holds its name already is accepted again.
-/
def register (type : LoadedType) (catalog : NameCatalog) : Registration × NameCatalog :=
  match catalog.ownerOf type.name with
  | some owner =>
    if owner = type.identity then (.accepted, catalog)
    else (.refused ⟨type.name, owner⟩, catalog)
  | none => (.accepted, ⟨catalog.owners.insert type.name type.identity⟩)

/-- A registration fills a free name and moves no other. -/
@[simp] theorem ownerOf_register (type : LoadedType) (catalog : NameCatalog) (name : String) :
    (catalog.register type).2.ownerOf name =
      if name = type.name ∧ catalog.ownerOf name = none then some type.identity
      else catalog.ownerOf name := by
  unfold register
  split
  · next h =>
    split <;>
    · rw [if_neg]
      rintro ⟨rfl, hn⟩
      simp [hn] at h
  · next h =>
    by_cases hn : name = type.name
    · rw [if_pos ⟨hn, hn ▸ h⟩]
      simp [hn, ownerOf]
    · simp [hn, ownerOf, Std.ExtTreeMap.getElem?_insert, Ne.symm hn]

instance : Catalog NameCatalog := ⟨register⟩

end NameCatalog

end LoadOrder
