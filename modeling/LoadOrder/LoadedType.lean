/-
# Loaded types

What the host runtime reports about a type that has finished loading, and about the place its bytes
came from.
-/
import Std.Data.ExtTreeMap

namespace LoadOrder

/-! ## Identities -/

/-- The identity of a loaded type, stable for as long as the type is loaded. -/
structure TypeIdentity where
  value : UInt64
  deriving DecidableEq, Repr, Inhabited

instance : Ord TypeIdentity := ⟨compareOn TypeIdentity.value⟩

instance : Std.TransOrd TypeIdentity :=
  inferInstanceAs (Std.TransCmp (compareOn TypeIdentity.value))

instance : Std.LawfulEqOrd TypeIdentity where
  eq_of_compare {a b} h := by
    have hv : a.value = b.value := Std.LawfulEqOrd.eq_of_compare (α := UInt64) h
    cases a
    cases b
    exact congrArg TypeIdentity.mk hv

/-- Identities are shown with a number sign. -/
def TypeIdentity.text (identity : TypeIdentity) : String :=
  s!"#{identity.value.toNat}"

/-! ## Types -/

/-- The kind of loader that defined a type. -/
inductive Loader where
  | builtin
  | userDefined
  deriving DecidableEq, Repr, Inhabited

/-- Circumstances that can keep a type out of the manifest. -/
structure TypeFlags where
  hidden : Bool := false
  /-- The type came from an archive that an earlier run produced. -/
  fromPriorArchive : Bool := false
  inPatchedModule : Bool := false
  deriving DecidableEq, Repr, Inhabited

/-- A loaded type and its structural context. -/
structure LoadedType where
  identity : TypeIdentity
  /-- The fully qualified name. -/
  name : String
  loader : Loader
  /-- Absent only for the root of the hierarchy. -/
  superType : Option TypeIdentity := none
  /-- The direct interfaces in declaration order. -/
  interfaces : List TypeIdentity := []
  flags : TypeFlags := {}
  deriving DecidableEq, Repr, Inhabited

namespace LoadedType

/-- A type without super type, interfaces or flags. -/
def plain (identity : TypeIdentity) (name : String) (loader : Loader) : LoadedType :=
  { identity, name, loader }

/-- The type with a super type. -/
def withSuper (type : LoadedType) (superType : TypeIdentity) : LoadedType :=
  { type with superType := some superType }

/-- The type with these interfaces and no others. -/
def withInterfaces (type : LoadedType) (interfaces : List TypeIdentity) : LoadedType :=
  { type with interfaces }

/-- The type marked as hidden. -/
def asHidden (type : LoadedType) : LoadedType :=
  { type with flags.hidden := true }

/-- The type marked as coming from an earlier archive. -/
def asFromPriorArchive (type : LoadedType) : LoadedType :=
  { type with flags.fromPriorArchive := true }

/-- The type marked as belonging to a patched module. -/
def asInPatchedModule (type : LoadedType) : LoadedType :=
  { type with flags.inPatchedModule := true }

/-- Whether a builtin loader defined the type. -/
def isBuiltin (type : LoadedType) : Bool :=
  type.loader = .builtin

end LoadedType

/-! ## Origins -/

/-- Where the bytes of a type came from, as its loader reports it. -/
structure Origin where
  /-- An address such as `file:/dir/app.jar`. -/
  source : Option String := none
  deriving DecidableEq, Repr, Inhabited

end LoadOrder
