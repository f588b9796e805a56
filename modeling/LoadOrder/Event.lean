/-
# Events

What a recorded stream reports: that a type was loaded, or unloaded.
-/
import LoadOrder.LoadedType

namespace LoadOrder

/-- One event of a recorded stream. -/
inductive Event where
  | load (type : LoadedType) (origin : Option Origin)
  | unload (identity : TypeIdentity)
  deriving DecidableEq, Repr, Inhabited

end LoadOrder
