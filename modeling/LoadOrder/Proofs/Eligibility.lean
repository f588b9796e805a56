/-
# What the rules of eligibility let through

Main statements:
- `hasId_of_eligible`: the super type and the interfaces of an eligible type hold ids;
- `check_of_asks`, `check_of_not_asks`: the decision on a type, by whether the catalog is asked;
- `asksCatalog_iff`: about which types the catalog is asked;
- `refused_of_conflict`: a type is left out for a conflict only by the catalog;
- `isUnrecorded_of_asks`: a type that the catalog accepts is left out only for a dependency.
-/
import LoadOrder.Eligibility
import LoadOrder.Proofs.Catalog

namespace LoadOrder

/-- The types that a type extends or implements, the super type first. -/
def LoadedType.dependencies (type : LoadedType) : List TypeIdentity :=
  type.superType.toList ++ type.interfaces

/-- Only a type without fault is eligible. -/
theorem Decision.eq_none_of_ofFault {fault : Option Rejection} (h : ofFault fault = .eligible) :
    fault = none := by
  cases fault with
  | none => rfl
  | some reason => simp [ofFault] at h

/-- What becomes of a type by the answer of the catalog and the rules after it. -/
def Registration.decision (fault : Option Rejection) : Registration → Decision
  | accepted => .ofFault fault
  | refused conflict => .rejected (.catalogConflict conflict)
  | interrupted => .interrupted

/-- The reasons that name a dependency without an id. -/
def Rejection.isUnrecorded : Rejection → Bool
  | unrecordedSuper _ | unrecordedInterface _ => true
  | _ => false

namespace Eligibility

/-- If no rule after the catalog fails, all dependencies hold ids. -/
theorem hasId_of_faultAfterCatalog {hasId : TypeIdentity → Bool} {type : LoadedType}
    {origin : Option Origin} (h : faultAfterCatalog hasId type origin = none) :
    ∀ identity ∈ type.dependencies, hasId identity = true := by
  unfold faultAfterCatalog at h
  split at h
  · simp at h
  split at h
  · simp at h
  next hsuper =>
  rw [Option.filter_eq_none_iff] at hsuper
  rw [Option.map_eq_none_iff, List.find?_eq_none] at h
  intro identity hmem
  rcases List.mem_append.1 hmem with hmem | hmem
  · simpa using hsuper identity (Option.mem_toList.1 hmem)
  · simpa using h identity hmem

/-- All dependencies of an eligible type hold ids. -/
theorem hasId_of_eligible {σ : Type} [Catalog σ] {style : PathStyle}
    {hasId : TypeIdentity → Bool} {type : LoadedType} {origin : Option Origin} {catalog after : σ}
    (h : check style hasId type origin catalog = (.eligible, after)) :
    ∀ identity ∈ type.dependencies, hasId identity = true := by
  unfold check at h
  split at h
  · simp at h
  · split at h
    · exact hasId_of_faultAfterCatalog (Decision.eq_none_of_ofFault (congrArg Prod.fst h))
    · split at h
      · exact hasId_of_faultAfterCatalog (Decision.eq_none_of_ofFault (congrArg Prod.fst h))
      · simp at h
      · simp at h

/-! ## Asking the catalog -/

/-- A type about which the catalog is asked: a user-defined one that every rule before lets through.
-/
def asksCatalog (style : PathStyle) (type : LoadedType) (origin : Option Origin) : Bool :=
  (faultBeforeCatalog style type origin).isNone && ! type.isBuiltin

variable {σ : Type} [Catalog σ] {style : PathStyle} {type : LoadedType} {origin : Option Origin}

/-- If the catalog is asked, its answer comes before the rules after it. -/
theorem check_of_asks (h : asksCatalog style type origin = true) (hasId : TypeIdentity → Bool)
    (catalog : σ) :
    check style hasId type origin catalog =
      ((Catalog.register type catalog).1.decision (faultAfterCatalog hasId type origin),
        (Catalog.register type catalog).2) := by
  simp only [asksCatalog, Bool.and_eq_true, Option.isNone_iff_eq_none, Bool.not_eq_true'] at h
  obtain ⟨hbefore, huser⟩ := h
  rcases hanswer : Catalog.register type catalog with ⟨_ | conflict | _, after⟩ <;>
    simp [check, hbefore, huser, hanswer, Registration.decision]

/-- If the catalog is not asked, it stays as it is and has no part in the decision. -/
theorem check_of_not_asks (h : asksCatalog style type origin = false) (hasId : TypeIdentity → Bool)
    (catalog : σ) :
    check style hasId type origin catalog =
      (.ofFault ((faultBeforeCatalog style type origin).or (faultAfterCatalog hasId type origin)),
        catalog) := by
  cases hbefore : faultBeforeCatalog style type origin with
  | some reason => simp [check, hbefore, Decision.ofFault]
  | none =>
    have hbuiltin : type.isBuiltin = true := by simpa [asksCatalog, hbefore] using h
    simp [check, hbefore, hbuiltin]

/-- The catalog is asked about every eligible user-defined type. -/
theorem asks_of_eligible {hasId : TypeIdentity → Bool} {catalog after : σ}
    (h : check style hasId type origin catalog = (.eligible, after))
    (huser : type.isBuiltin = false) : asksCatalog style type origin = true := by
  cases hasks : asksCatalog style type origin with
  | true => rfl
  | false =>
    rw [check_of_not_asks hasks] at h
    have hbefore := Decision.eq_none_of_ofFault (Prod.mk.inj h).1
    simp [asksCatalog, huser, Option.or_eq_none_iff.1 hbefore] at hasks

/-- The catalog has accepted every eligible user-defined type. -/
theorem register_of_eligible {hasId : TypeIdentity → Bool} {catalog after : σ}
    (h : check style hasId type origin catalog = (.eligible, after))
    (huser : type.isBuiltin = false) : Catalog.register type catalog = (.accepted, after) := by
  rw [check_of_asks (asks_of_eligible h huser)] at h
  rcases hanswer : Catalog.register type catalog with ⟨_ | conflict | _, catalog'⟩ <;>
    rw [hanswer] at h
  · exact congrArg (Prod.mk Registration.accepted) (Prod.mk.inj h).2
  · simp [Registration.decision] at h
  · simp [Registration.decision] at h

/-- If the catalog answers, there is a decision. -/
theorem check_ne_interrupted (hanswers : Catalog.Answers σ) (style : PathStyle)
    (hasId : TypeIdentity → Bool) (type : LoadedType) (origin : Option Origin) (catalog : σ) :
    (check style hasId type origin catalog).1 ≠ .interrupted := by
  have hofFault : ∀ fault, Decision.ofFault fault ≠ .interrupted := by
    intro fault
    cases fault <;> simp [Decision.ofFault]
  cases hasks : asksCatalog style type origin with
  | false =>
    rw [check_of_not_asks hasks]
    exact hofFault _
  | true =>
    rw [check_of_asks hasks]
    have hanswer := hanswers type catalog
    cases hregister : (Catalog.register type catalog).1 with
    | accepted => exact hofFault _
    | refused conflict => simp [Registration.decision]
    | interrupted => exact absurd hregister hanswer

/-! ## Types about which the catalog is asked -/

/-- The rules on the address let through the addresses of files that can be cut. -/
theorem addressFault_eq_none_iff {address : Option String} :
    addressFault style address = none ↔
      ∃ text source, address = some text ∧ Source.hasFileScheme text = true ∧
        Source.strip style text = some source := by
  cases address with
  | none => simp [addressFault]
  | some text =>
    cases hscheme : Source.hasFileScheme text with
    | false => simp [addressFault, hscheme]
    | true =>
      cases hstrip : Source.strip style text with
      | none => simp [addressFault, hscheme, hstrip]
      | some source => simp [addressFault, hscheme, hstrip]

/-- A type that may claim its name: a user-defined one that is neither hidden nor patched nor from an
earlier archive, and comes with the address of a file that can be cut. -/
structure Registrable (style : PathStyle) (type : LoadedType) (origin : Option Origin) : Prop where
  userDefined : type.isBuiltin = false
  notHidden : type.flags.hidden = false
  notPatched : type.flags.inPatchedModule = false
  notArchived : type.flags.fromPriorArchive = false
  address : ∃ text source, address origin = some text ∧ Source.hasFileScheme text = true ∧
    Source.strip style text = some source

/-- The catalog is asked about the types that may claim their names. -/
theorem asksCatalog_iff : asksCatalog style type origin = true ↔ Registrable style type origin := by
  have hasks : asksCatalog style type origin = true ↔
      type.isBuiltin = false ∧ type.flags.hidden = false ∧ type.flags.inPatchedModule = false ∧
        type.flags.fromPriorArchive = false ∧ addressFault style (address origin) = none := by
    unfold asksCatalog faultBeforeCatalog
    cases type.isBuiltin <;> cases type.flags.hidden <;> cases type.flags.inPatchedModule <;>
      cases type.flags.fromPriorArchive <;> simp
  rw [hasks, addressFault_eq_none_iff]
  constructor
  · rintro ⟨huser, hhidden, hpatched, harchived, haddress⟩
    exact ⟨huser, hhidden, hpatched, harchived, haddress⟩
  · rintro ⟨huser, hhidden, hpatched, harchived, haddress⟩
    exact ⟨huser, hhidden, hpatched, harchived, haddress⟩

/-! ## Conflicts -/

/-- The rules on the address know of no conflict. -/
theorem addressFault_ne_conflict (address : Option String) (conflict : Conflict) :
    addressFault style address ≠ some (.catalogConflict conflict) := by
  unfold addressFault
  split
  · simp
  · split
    · simp
    · split <;> simp

/-- The rules before the catalog know of no conflict. -/
theorem faultBeforeCatalog_ne_conflict (conflict : Conflict) :
    faultBeforeCatalog style type origin ≠ some (.catalogConflict conflict) := by
  unfold faultBeforeCatalog
  split
  · simp
  split
  · simp
  split
  · simp
  split
  · simp
  · exact addressFault_ne_conflict _ conflict

/-- The rules after the catalog know of no conflict. -/
theorem faultAfterCatalog_ne_conflict (hasId : TypeIdentity → Bool) (conflict : Conflict) :
    faultAfterCatalog hasId type origin ≠ some (.catalogConflict conflict) := by
  unfold faultAfterCatalog
  split
  · simp
  · split <;> simp

/-- A type is left out for a conflict only if the catalog was asked and told so. -/
theorem refused_of_conflict {hasId : TypeIdentity → Bool} {catalog after : σ} {conflict : Conflict}
    (h : check style hasId type origin catalog = (.rejected (.catalogConflict conflict), after)) :
    asksCatalog style type origin = true ∧
      Catalog.register type catalog = (.refused conflict, after) := by
  have hofFault : ∀ fault : Option Rejection, fault ≠ some (.catalogConflict conflict) →
      Decision.ofFault fault ≠ .rejected (.catalogConflict conflict) := by
    intro fault hne
    cases fault with
    | none => simp [Decision.ofFault]
    | some reason => simpa [Decision.ofFault] using hne
  cases hasks : asksCatalog style type origin with
  | false =>
    rw [check_of_not_asks hasks] at h
    refine absurd (Prod.mk.inj h).1 (hofFault _ ?_)
    cases hbefore : faultBeforeCatalog style type origin with
    | none => exact faultAfterCatalog_ne_conflict hasId conflict
    | some reason =>
      rw [Option.some_or, ← hbefore]
      exact faultBeforeCatalog_ne_conflict conflict
  | true =>
    rw [check_of_asks hasks] at h
    obtain ⟨hdecision, rfl⟩ := Prod.mk.inj h
    refine ⟨rfl, ?_⟩
    rcases hanswer : Catalog.register type catalog with ⟨_ | other | _, after⟩ <;>
      rw [hanswer] at hdecision
    · exact absurd hdecision (hofFault _ (faultAfterCatalog_ne_conflict hasId conflict))
    · obtain rfl := Rejection.catalogConflict.inj (Decision.rejected.inj hdecision)
      rfl
    · simp [Registration.decision] at hdecision

/-! ## Reasons that name a dependency -/

/-- The rules on the address look at no dependency. -/
theorem isUnrecorded_of_addressFault {address : Option String} {reason : Rejection}
    (h : addressFault style address = some reason) : reason.isUnrecorded = false := by
  unfold addressFault at h
  split at h
  · obtain rfl := Option.some.inj h
    rfl
  · split at h
    · obtain rfl := Option.some.inj h
      rfl
    · split at h
      · obtain rfl := Option.some.inj h
        rfl
      · simp at h

/-- The rules before the catalog look at no dependency. -/
theorem isUnrecorded_of_faultBeforeCatalog {reason : Rejection}
    (h : faultBeforeCatalog style type origin = some reason) : reason.isUnrecorded = false := by
  unfold faultBeforeCatalog at h
  split at h
  · obtain rfl := Option.some.inj h
    rfl
  split at h
  · obtain rfl := Option.some.inj h
    rfl
  split at h
  · simp at h
  split at h
  · obtain rfl := Option.some.inj h
    rfl
  · exact isUnrecorded_of_addressFault h

/-- The marker of generated species is no address of a file. -/
theorem addressFault_speciesMarker (style : PathStyle) :
    addressFault style (some Source.speciesMarker) = some .unsupportedScheme := by
  have hscheme : Source.hasFileScheme Source.speciesMarker = false := by decide
  simp [addressFault, hscheme]

/-- A user-defined type that the rules before the catalog let through has the address of a file. -/
theorem addressFault_eq_none (h : faultBeforeCatalog style type origin = none)
    (huser : type.isBuiltin = false) : addressFault style (address origin) = none := by
  unfold faultBeforeCatalog at h
  split at h
  · simp at h
  split at h
  · simp at h
  split at h
  · next hbuiltin =>
    rw [huser] at hbuiltin
    simp at hbuiltin
  split at h
  · simp at h
  · exact h

/-- After the catalog was asked, a type can fail only for a dependency: it comes from a file, so it
is no generated species. -/
theorem isUnrecorded_of_asks {hasId : TypeIdentity → Bool} {reason : Rejection}
    (hasks : asksCatalog style type origin = true)
    (h : faultAfterCatalog hasId type origin = some reason) : reason.isUnrecorded = true := by
  simp only [asksCatalog, Bool.and_eq_true, Option.isNone_iff_eq_none, Bool.not_eq_true'] at hasks
  obtain ⟨hbefore, huser⟩ := hasks
  have haddress : address origin ≠ some Source.speciesMarker := by
    intro hmarker
    have haddress := addressFault_eq_none hbefore huser
    rw [hmarker, addressFault_speciesMarker] at haddress
    simp at haddress
  unfold faultAfterCatalog at h
  rw [if_neg haddress] at h
  split at h
  · obtain rfl := Option.some.inj h
    rfl
  · obtain ⟨identity, -, rfl⟩ := Option.map_eq_some_iff.1 h
    rfl

/-- A user-defined type about which the catalog is not asked is left out for no dependency. -/
theorem isUnrecorded_of_not_asks (huser : type.isBuiltin = false)
    (hasks : asksCatalog style type origin = false) {after : Option Rejection}
    {reason : Rejection}
    (h : Decision.ofFault ((faultBeforeCatalog style type origin).or after) = .rejected reason) :
    reason.isUnrecorded = false := by
  cases hbefore : faultBeforeCatalog style type origin with
  | none => simp [asksCatalog, hbefore, huser] at hasks
  | some fault =>
    rw [hbefore, Option.some_or] at h
    obtain rfl := Decision.rejected.inj h
    exact isUnrecorded_of_faultBeforeCatalog hbefore

end Eligibility

end LoadOrder
