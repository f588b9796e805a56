/-
# Catalogs with a policy

A catalog of names behind a policy: it may refuse every type, or break off at certain names.
-/
import LoadOrder.Catalog

namespace LoadOrder

/-- What a catalog does before it looks at the names. -/
inductive CatalogPolicy where
  /-- Nothing: the names decide. -/
  | byName
  /-- Refuses every type in the name of type zero. -/
  | refuseAll
  /-- Breaks off at a type with one of these names. -/
  | breakAt (names : List String)
  deriving DecidableEq, Repr, Inhabited

/-- A catalog of names behind a policy. -/
structure PolicyCatalog where
  policy : CatalogPolicy := .byName
  names : NameCatalog := {}

instance : Inhabited PolicyCatalog := ⟨{}⟩

namespace PolicyCatalog

/-- Lets the policy decide first, and then the names. -/
def register (type : LoadedType) (catalog : PolicyCatalog) : Registration × PolicyCatalog :=
  let byName :=
    let (answer, names) := catalog.names.register type
    (answer, { catalog with names })
  match catalog.policy with
  | .byName => byName
  | .refuseAll => (.refused ⟨type.name, ⟨0⟩⟩, catalog)
  | .breakAt names => if type.name ∈ names then (.interrupted, catalog) else byName

instance : Catalog PolicyCatalog := ⟨register⟩

end PolicyCatalog

end LoadOrder
