/-
# Eligibility

Whether a type that has just been loaded goes into the manifest. The rules are tried in a fixed
order and the first that fails gives the reason. Nothing remembers a rejected type, so whatever
extends it is rejected too.
-/
import LoadOrder.Catalog
import LoadOrder.Source

namespace LoadOrder

/-- Why a type is left out of the manifest. -/
inductive Rejection where
  | hidden
  | patchedModule
  /-- It came from an earlier archive, which did not keep its source. -/
  | fromPriorArchive
  | missingSource
  | unsupportedScheme
  /-- The cut of the scheme would not leave a text. -/
  | unstrippableSource
  | catalogConflict (conflict : Conflict)
  | generatedSpecies
  | unrecordedSuper (identity : TypeIdentity)
  | unrecordedInterface (identity : TypeIdentity)
  deriving DecidableEq, Repr, Inhabited

/-- The wording of a reason. -/
def Rejection.text : Rejection → String
  | hidden => "hidden type"
  | patchedModule => "type in a patched module"
  | fromPriorArchive => "loaded from a prior archive"
  | missingSource => "no byte origin"
  | unsupportedScheme => "origin is not a file URI"
  | unstrippableSource => "origin too short to strip"
  | catalogConflict conflict => s!"catalog conflict: {conflict.text}"
  | generatedSpecies => "generated species type"
  | unrecordedSuper identity => s!"super type {identity.text} not recorded"
  | unrecordedInterface identity => s!"interface {identity.text} not recorded"

/-- What becomes of a type. -/
inductive Decision where
  | eligible
  | rejected (reason : Rejection)
  /-- The catalog broke off. -/
  | interrupted
  deriving DecidableEq, Repr, Inhabited

/-- A type without fault is eligible. -/
def Decision.ofFault : Option Rejection → Decision
  | none => .eligible
  | some reason => .rejected reason

namespace Eligibility

/-- The address in an origin. -/
def address (origin : Option Origin) : Option String :=
  origin.bind Origin.source

/-- The rules on the address of a user-defined type. -/
def addressFault (style : PathStyle) : Option String → Option Rejection
  | none => some .missingSource
  | some address =>
    if ! Source.hasFileScheme address then some .unsupportedScheme
    else if Source.strip style address = none then some .unstrippableSource
    else none

/-- The rules before the catalog. -/
def faultBeforeCatalog (style : PathStyle) (type : LoadedType) (origin : Option Origin) :
    Option Rejection :=
  if type.flags.hidden then some .hidden
  else if type.flags.inPatchedModule then some .patchedModule
  else if type.isBuiltin then none
  else if type.flags.fromPriorArchive then some .fromPriorArchive
  else addressFault style (address origin)

/-- The rules after the catalog. -/
def faultAfterCatalog (hasId : TypeIdentity → Bool) (type : LoadedType)
    (origin : Option Origin) : Option Rejection :=
  if address origin = some Source.speciesMarker then some .generatedSpecies
  else
    match type.superType.filter fun identity => ! hasId identity with
    | some identity => some (.unrecordedSuper identity)
    | none => (type.interfaces.find? fun identity => ! hasId identity).map .unrecordedInterface

/-- The decision on a type, and the catalog after it. The catalog is asked only about a
user-defined type that every rule before it lets through. -/
def check {σ : Type} [Catalog σ] (style : PathStyle) (hasId : TypeIdentity → Bool)
    (type : LoadedType) (origin : Option Origin) (catalog : σ) : Decision × σ :=
  match faultBeforeCatalog style type origin with
  | some reason => (.rejected reason, catalog)
  | none =>
    if type.isBuiltin then (.ofFault (faultAfterCatalog hasId type origin), catalog)
    else
      match Catalog.register type catalog with
      | (.accepted, catalog) => (.ofFault (faultAfterCatalog hasId type origin), catalog)
      | (.refused conflict, catalog) => (.rejected (.catalogConflict conflict), catalog)
      | (.interrupted, catalog) => (.interrupted, catalog)

end Eligibility

end LoadOrder
