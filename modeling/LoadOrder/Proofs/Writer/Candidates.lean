/-
# The first candidate for a name

A catalog of names gives a name to the first type that asks for it. A writer asks for a type only while
it can record, and only if the type holds no id and no rule before the catalog keeps it out: such a
load is a candidate for the name. What becomes of a candidate afterwards, and what is unloaded, makes
no difference to the catalog. So a load is rejected for a conflict exactly if it is a candidate and
the first candidate for its name in the whole run was of another type.

Main statements:
- `asked_load_iff`, `ownerOf_perform`: what a candidate makes of the catalog;
- `ownerOf_performAll`: who holds a name after a run;
- `conflict_iff_first_candidate`: which loads are rejected for a conflict.
-/
import LoadOrder.Proofs.Writer.Operations
import LoadOrder.Proofs.Writer.Rejections

namespace LoadOrder

namespace Writer

/-! ## Candidates -/

section

variable {σ : Type}

/-- A load that makes the type a candidate for its name: the writer is enabled and has a runtime image,
the type holds no id, and it may claim its name. -/
structure Candidate (writer : Writer σ) (type : LoadedType) (origin : Option Origin) : Prop where
  enabled : writer.enabled = true
  hasRuntimeImage : writer.config.hasRuntimeImage = true
  new : writer.registry.idOf type.identity = none
  registrable : Eligibility.Registrable writer.config.pathStyle type origin

instance (writer : Writer σ) (type : LoadedType) (origin : Option Origin) :
    Decidable (writer.Candidate type origin) :=
  decidable_of_iff
    (writer.enabled = true ∧ writer.config.hasRuntimeImage = true ∧
      writer.registry.idOf type.identity = none ∧
      Eligibility.asksCatalog writer.config.pathStyle type origin = true)
    ⟨fun ⟨henabled, himage, hnew, hasks⟩ =>
        ⟨henabled, himage, hnew, Eligibility.asksCatalog_iff.1 hasks⟩,
      fun ⟨henabled, himage, hnew, hregistrable⟩ =>
        ⟨henabled, himage, hnew, Eligibility.asksCatalog_iff.2 hregistrable⟩⟩

/-- The candidate of an operation, if it is a load that makes its type one. -/
def candidateIn (writer : Writer σ) : Operation → Option LoadedType
  | .call (.load type origin) => if writer.Candidate type origin then some type else none
  | _ => none

/-- The candidates of a run, the first one first. -/
def candidates [Catalog σ] (writer : Writer σ) (operations : List Operation) : List LoadedType :=
  writer.collect candidateIn operations

/-- As long as flag and sink agree and the lock is sound, the candidates are the types about which the
catalog is asked. -/
theorem asked_load_iff {writer : Writer σ} (hcoherent : writer.Coherent)
    (hsound : writer.poisoned = false) {type : LoadedType} {origin : Option Origin} :
    writer.asked (.load type origin) = some type ↔ writer.Candidate type origin := by
  rw [asked, Option.ite_none_right_eq_some]
  simp only [and_true, Bool.and_eq_true, Bool.not_eq_true', Registry.hasId,
    Option.isSome_eq_false_iff, Option.isNone_iff_eq_none, Eligibility.asksCatalog_iff]
  constructor
  · rintro ⟨⟨⟨⟨⟨henabled, -⟩, -⟩, himage⟩, hnew⟩, hregistrable⟩
    exact ⟨henabled, himage, hnew, hregistrable⟩
  · rintro ⟨henabled, himage, hnew, hregistrable⟩
    exact ⟨⟨⟨⟨⟨henabled, hsound⟩, hcoherent.sink henabled⟩, himage⟩, hnew⟩, hregistrable⟩

end

/-! ## Who holds a name -/

/-- The identity of the first of some types that has a name. -/
def firstNamed (name : String) (types : List LoadedType) : Option TypeIdentity :=
  (types.find? fun type => type.name = name).map LoadedType.identity

/-- An operation gives a free name to its candidate, if there is one of the name, and leaves all other
names as they are. -/
theorem ownerOf_perform {writer : Writer NameCatalog} (hcoherent : writer.Coherent)
    (hsound : writer.poisoned = false) (operation : Operation) (name : String) :
    (writer.perform operation).catalog.ownerOf name =
      (writer.catalog.ownerOf name).or
        (firstNamed name (writer.candidateIn operation).toList) := by
  have hnone : ∀ owner : Option TypeIdentity, owner.or (firstNamed name []) = owner := by
    intro owner
    cases owner <;> rfl
  cases operation with
  | init launch directory =>
    show _ = (writer.catalog.ownerOf name).or (firstNamed name [])
    rw [perform, hnone]
    rcases init_cases launch directory writer with hsame | ⟨sink, path, place, -, -, -, hstate⟩
    · rw [hsame]
    · rw [hstate]
  | attach sink hopen =>
    show _ = (writer.catalog.ownerOf name).or (firstNamed name [])
    rw [perform, hnone]
    rcases attach_cases sink writer with hsame | ⟨-, hstate⟩
    · rw [hsame]
    · rw [hstate]
  | call call =>
    rw [perform, catalog_call]
    cases call with
    | unload | close | idOf | live | outputPath | isEnabled =>
      exact (hnone _).symm
    | load type origin =>
      rw [candidateIn]
      by_cases hcandidate : writer.Candidate type origin
      · rw [(asked_load_iff hcoherent hsound).2 hcandidate, if_pos hcandidate, Option.toList_some]
        show (writer.catalog.register type).2.ownerOf name = _
        rw [NameCatalog.ownerOf_register]
        cases howner : writer.catalog.ownerOf name with
        | some owner => simp
        | none =>
          by_cases hname : name = type.name
          · simp [firstNamed, hname]
          · simp [firstNamed, hname, Ne.symm hname]
      · have hasked : writer.asked (.load type origin) = none := by
          cases hasked : writer.asked (.load type origin) with
          | none => rfl
          | some other =>
            obtain rfl : type = other := by
              simp only [asked, Option.ite_none_right_eq_some, Option.some.injEq] at hasked
              exact hasked.2
            exact absurd ((asked_load_iff hcoherent hsound).1 hasked) hcandidate
        rw [hasked, if_neg hcandidate]
        exact (hnone _).symm

/-- After a run a name belongs to whom it belonged before, or else to the first candidate for it. -/
theorem ownerOf_performAll {writer : Writer NameCatalog} (hcoherent : writer.Coherent)
    (hsound : writer.poisoned = false) (operations : List Operation) (name : String) :
    (writer.performAll operations).catalog.ownerOf name =
      (writer.catalog.ownerOf name).or (firstNamed name (writer.candidates operations)) := by
  induction operations generalizing writer with
  | nil =>
    show writer.catalog.ownerOf name = _
    cases writer.catalog.ownerOf name <;> rfl
  | cons operation rest ih =>
    have hsound' : (writer.perform operation).poisoned = false :=
      (poisoned_perform NameCatalog.answers operation writer).trans hsound
    have hrest := ih (hcoherent.perform operation) hsound'
    have hfirst : ∀ front back : List LoadedType,
        firstNamed name (front ++ back) = (firstNamed name front).or (firstNamed name back) := by
      intro front back
      rw [firstNamed, List.find?_append, Option.map_or, firstNamed, firstNamed]
    rw [candidates, collect, hfirst, ← Option.or_assoc, ← ownerOf_perform hcoherent hsound]
    exact hrest

/-! ## Conflicts -/

/-- A load is rejected for a conflict exactly if it is a candidate and another type holds its name. -/
theorem conflict_iff_owner {writer : Writer NameCatalog} (hcoherent : writer.Coherent)
    (hsound : writer.poisoned = false) (type : LoadedType) (origin : Option Origin)
    (conflict : Conflict) :
    (writer.load type origin).result = .rejected (.catalogConflict conflict) ↔
      writer.Candidate type origin ∧ ∃ owner, writer.catalog.ownerOf type.name = some owner ∧
        owner ≠ type.identity ∧ conflict = ⟨type.name, owner⟩ := by
  constructor
  · intro hresult
    have hloads := loads_load type origin writer
    rw [hresult] at hloads
    generalize (writer.load type origin).state = after at hloads
    cases hloads with
    | rejected sink hready reason catalog hjudged =>
    obtain ⟨hnew, hcheck⟩ := hjudged
    obtain ⟨hasks, hrefused⟩ := Eligibility.refused_of_conflict hcheck
    refine ⟨⟨hready.enabled, hready.hasRuntimeImage, hnew, Eligibility.asksCatalog_iff.1 hasks⟩, ?_⟩
    have hrefused : writer.catalog.register type = (.refused conflict, catalog) := hrefused
    cases howner : writer.catalog.ownerOf type.name with
    | none =>
      rw [NameCatalog.register_of_free howner] at hrefused
      simp at hrefused
    | some owner =>
      by_cases heq : owner = type.identity
      · rw [NameCatalog.register_of_owner (heq ▸ howner)] at hrefused
        simp at hrefused
      · rw [NameCatalog.register_of_other howner heq] at hrefused
        exact ⟨owner, rfl, heq, (Registration.refused.inj (Prod.mk.inj hrefused).1).symm⟩
  · rintro ⟨hcandidate, owner, howner, hne, rfl⟩
    obtain ⟨sink, hsink⟩ := Option.isSome_iff_exists.1 (hcoherent.sink hcandidate.enabled)
    have hready : writer.Ready sink :=
      ⟨hcandidate.enabled, hsound, hsink, hcandidate.hasRuntimeImage⟩
    have hasks := Eligibility.asksCatalog_iff.2 hcandidate.registrable
    have hrefused : Catalog.register type writer.catalog =
        (.refused ⟨type.name, owner⟩, writer.catalog) :=
      NameCatalog.register_of_other howner hne
    have hcheck := Eligibility.check_of_asks hasks writer.registry.hasId writer.catalog
    rw [load_of_ready hready hcandidate.new origin hcheck, hrefused]
    rfl

/-- **Conflicts are decided by the first candidate.** After any operations on a new writer with a new
catalog of names, a load is rejected for a conflict exactly if it is a candidate and the first
candidate for its name in the run was of another type, and that is the type that the conflict names.
Whether the first candidate got a line, and what was unloaded since, does not count. -/
theorem conflict_iff_first_candidate (config : Config) (operations : List Operation)
    (type : LoadedType) (origin : Option Origin) (conflict : Conflict) :
    let new : Writer NameCatalog := { config, catalog := {} }
    let writer := new.performAll operations
    (writer.load type origin).result = .rejected (.catalogConflict conflict) ↔
      writer.Candidate type origin ∧
        ∃ first, ((new.candidates operations).find? fun other => other.name = type.name) =
            some first ∧
          first.identity ≠ type.identity ∧ conflict = ⟨type.name, first.identity⟩ := by
  intro new writer
  have hcoherent : writer.Coherent := coherent_performAll config ({} : NameCatalog) operations
  have hsound : writer.poisoned = false :=
    poisoned_performAll NameCatalog.answers config ({} : NameCatalog) operations
  have howner : writer.catalog.ownerOf type.name =
      firstNamed type.name (new.candidates operations) := by
    have hempty : new.catalog.ownerOf type.name = none := by simp [new, NameCatalog.ownerOf]
    have hrun := ownerOf_performAll (coherent_new config ({} : NameCatalog)) rfl operations type.name
    rwa [hempty, Option.none_or] at hrun
  rw [conflict_iff_owner hcoherent hsound, howner, firstNamed]
  simp only [Option.map_eq_some_iff]
  constructor
  · rintro ⟨hcandidate, owner, ⟨first, hfirst, rfl⟩, hne, hconflict⟩
    exact ⟨hcandidate, first, hfirst, hne, hconflict⟩
  · rintro ⟨hcandidate, first, hfirst, hne, hconflict⟩
    exact ⟨hcandidate, first.identity, ⟨first, hfirst, rfl⟩, hne, hconflict⟩

end Writer

end LoadOrder
