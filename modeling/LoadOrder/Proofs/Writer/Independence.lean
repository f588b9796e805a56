/-
# What does not concern a load

A load goes by the id of its type, the ids of those it depends on and, for a type that a loader of the
user defined, the owner of its name. So it goes as it would go before an unload of another type that
it does not depend on, and the decision on its type is the same after a load of an independent one.

Main statements:
- `unload_and_load_commute`: an unload and a load in either order;
- `catalog_load`, `idOf_load_of_ne`: what a load changes;
- `Judged.load`: the decision on a type after a load of an independent one.
-/
import LoadOrder.Proofs.Eligibility.Independence
import LoadOrder.Proofs.Writer.Ids
import LoadOrder.Proofs.Writer.Rejections

namespace LoadOrder.Writer

variable {σ : Type}

/-- Two calls that can be exchanged as they are: their answers are exchanged, the same is recorded,
and the writer after both is the same. -/
structure Exchangeable [Catalog σ] (first second : Call) (writer : Writer σ) : Prop where
  replies : writer.replies [second, first] = (writer.replies [first, second]).reverse
  ledger : writer.ledger [second, first] = writer.ledger [first, second]
  after : writer.after [second, first] = writer.after [first, second]

/-- Calls can be exchanged in both directions. -/
theorem Exchangeable.symm [Catalog σ] {first second : Call} {writer : Writer σ}
    (h : writer.Exchangeable first second) : writer.Exchangeable second first := by
  refine ⟨?_, h.ledger.symm, h.after.symm⟩
  rw [h.replies, List.reverse_reverse]

/-! ## An unload and a load -/

/-- The entry of a type does not depend on when another type is forgotten. -/
theorem entryFor_forget (style : PathStyle) (registry : Registry) {type : LoadedType}
    {other : TypeIdentity} (hne : type.identity ≠ other) (hneeded : other ∉ type.dependencies)
    (origin : Option Origin) :
    entryFor style (registry.forget other) type origin =
      ((entryFor style registry type origin).1,
        (entryFor style registry type origin).2.forget other) := by
  have hsuper : other ∉ type.superType.toList := fun hmem =>
    hneeded (List.mem_append_left _ hmem)
  have hinterfaces : other ∉ type.interfaces := fun hmem =>
    hneeded (List.mem_append_right _ hmem)
  cases hbuiltin : type.isBuiltin with
  | true => simp [entryFor, hbuiltin, Registry.assign_forget_of_ne hne]
  | false =>
    simp [entryFor, hbuiltin, Registry.assign_forget_of_ne hne,
      Registry.assignAll_forget_of_not_mem hsuper, Registry.assignAll_forget_of_not_mem hinterfaces]

/-- The line of a type does not depend on when another type is forgotten. -/
theorem written_unload {type : LoadedType} {other : TypeIdentity} (hne : type.identity ≠ other)
    (hneeded : other ∉ type.dependencies) (origin : Option Origin) (sink : Sink) (catalog : σ)
    (writer : Writer σ) :
    (writer.unload other).state.entryOf type origin = writer.entryOf type origin ∧
      (writer.unload other).state.written type origin sink catalog =
        ((writer.written type origin sink catalog).unload other).state := by
  have hentry := entryFor_forget writer.config.pathStyle writer.registry hne hneeded origin
  have hsame : (writer.unload other).state.entryOf type origin = writer.entryOf type origin := by
    show (entryFor writer.config.pathStyle (writer.registry.forget other) type origin).1 = _
    rw [hentry]
    rfl
  refine ⟨hsame, ?_⟩
  rw [written, hsame]
  simp only [written, unload, hentry]

/-- The decision on a type does not depend on when another type is forgotten. -/
theorem Judged.unload [Catalog σ] {writer : Writer σ} {type : LoadedType} {origin : Option Origin}
    {decision : Decision} {catalog : σ} (h : writer.Judged type origin decision catalog)
    {other : TypeIdentity} (hne : type.identity ≠ other) (hneeded : other ∉ type.dependencies) :
    (writer.unload other).state.Judged type origin decision catalog := by
  have hkept : ∀ identity, identity ≠ other →
      (writer.registry.forget other).idOf identity = writer.registry.idOf identity := by
    intro identity hidentity
    simp [hidentity]
  constructor
  · exact (hkept _ hne).trans h.1
  · refine (Eligibility.check_congr ?_ _ _ _).trans h.2
    intro identity hmem
    have hidentity : identity ≠ other := fun heq => hneeded (heq ▸ hmem)
    exact congrArg Option.isSome (hkept identity hidentity)

/-- A writer forgets a type before or after it is closed. -/
theorem close_unload (other : TypeIdentity) (writer : Writer σ) :
    (writer.unload other).state.close.state = (writer.close.state.unload other).state := by
  rw [state_close, state_close]
  rfl

/-- A load goes as it would go before another type is unloaded, and leaves the writer as if the type
were unloaded after it. -/
theorem load_unload_comm [Catalog σ] {type : LoadedType} {other : TypeIdentity}
    (hne : type.identity ≠ other) (hneeded : other ∉ type.dependencies) (origin : Option Origin)
    (writer : Writer σ) :
    ((writer.unload other).state.load type origin).result = (writer.load type origin).result ∧
      ((writer.unload other).state.load type origin).state =
        ((writer.load type origin).state.unload other).state := by
  have henabled : (writer.unload other).state.enabled = writer.enabled := rfl
  have hpoisoned : (writer.unload other).state.poisoned = writer.poisoned := rfl
  have hsink : (writer.unload other).state.sink = writer.sink := rfl
  have hconfig : (writer.unload other).state.config = writer.config := rfl
  have hready : ∀ sink, writer.Ready sink → (writer.unload other).state.Ready sink :=
    fun sink h => ⟨h.enabled, h.poisoned, h.sink_eq, h.hasRuntimeImage⟩
  refine load_cases type origin writer
    (motive := fun e => ((writer.unload other).state.load type origin).result = e.result ∧
      ((writer.unload other).state.load type origin).state = (e.state.unload other).state)
    ?off ?refused ?sinkless ?imageless ?known ?rejected ?interrupted ?recorded ?failed
  case off =>
    intro hoff
    rw [load_of_off (henabled.trans hoff)]
    exact ⟨rfl, rfl⟩
  case refused =>
    intro hon hlocked
    rw [load_of_poisoned (henabled.trans hon) (hpoisoned.trans hlocked)]
    exact ⟨rfl, rfl⟩
  case sinkless =>
    intro hsound hnone
    rw [load_of_sinkless (hpoisoned.trans hsound) (hsink.trans hnone)]
    exact ⟨rfl, rfl⟩
  case imageless =>
    intro sink hon hsound hsome himage
    have himage' : (writer.unload other).state.config.hasRuntimeImage = false := himage
    rw [load_of_imageless (henabled.trans hon) (hpoisoned.trans hsound) (hsink.trans hsome) himage']
    exact ⟨rfl, close_unload other writer⟩
  case known =>
    intro sink id h hid
    have hid' : (writer.unload other).state.registry.idOf type.identity = some id := by
      show (writer.registry.forget other).idOf type.identity = some id
      simp [hne, hid]
    rw [load_of_known (hready sink h) hid']
    exact ⟨rfl, rfl⟩
  case rejected =>
    intro sink reason catalog h hjudged
    have hjudged' := hjudged.unload hne hneeded
    rw [load_of_ready (hready sink h) hjudged'.1 origin hjudged'.2]
    exact ⟨rfl, rfl⟩
  case interrupted =>
    intro sink catalog h hjudged
    have hjudged' := hjudged.unload hne hneeded
    rw [load_of_ready (hready sink h) hjudged'.1 origin hjudged'.2]
    exact ⟨rfl, rfl⟩
  case recorded =>
    intro sink catalog h hjudged written hwritten
    have hjudged' := hjudged.unload hne hneeded
    obtain ⟨hentry, hstate⟩ := written_unload hne hneeded origin sink catalog writer
    have hwritten' : (sink.writeLine
        ((writer.unload other).state.entryOf type origin).line).result = .ok () := by
      rw [hentry]
      exact hwritten
    rw [load_of_ready (hready sink h) hjudged'.1 origin hjudged'.2, settle, record_of_ok hwritten']
    exact ⟨congrArg (fun entry => Outcome.recorded entry.id) hentry, hstate⟩
  case failed =>
    intro sink catalog error h hjudged written closed hwritten
    have hjudged' := hjudged.unload hne hneeded
    obtain ⟨hentry, hstate⟩ := written_unload hne hneeded origin sink catalog writer
    have hwritten' : (sink.writeLine
        ((writer.unload other).state.entryOf type origin).line).result = .error error := by
      rw [hentry]
      exact hwritten
    rw [load_of_ready (hready sink h) hjudged'.1 origin hjudged'.2, settle,
      record_of_error hwritten', hstate]
    exact ⟨rfl, close_unload other (writer.written type origin sink catalog)⟩

/-- A load tells of the same entry whether another type is unloaded before or after it. -/
theorem told_unload {type : LoadedType} {other : TypeIdentity} (hne : type.identity ≠ other)
    (hneeded : other ∉ type.dependencies) (origin : Option Origin) (outcome : Outcome)
    (writer : Writer σ) :
    (writer.unload other).state.told type origin outcome = writer.told type origin outcome := by
  have hentry := congrArg Prod.fst
    (entryFor_forget writer.config.pathStyle writer.registry hne hneeded origin)
  have hid : (writer.unload other).state.idOf type.identity = writer.idOf type.identity := by
    simp [idOf, unload, hne]
  cases outcome with
  | recorded id =>
    rw [told, told, hid]
    split
    · exact congrArg (fun entry => some (Happening.recorded type entry)) hentry
    · rfl
  | rejected | disabled | interrupted => rfl

/-- An unload and a load that do not concern each other can be exchanged. -/
theorem unload_and_load_commute [Catalog σ] {type : LoadedType} {other : TypeIdentity}
    (hne : type.identity ≠ other) (hneeded : other ∉ type.dependencies) (origin : Option Origin)
    (writer : Writer σ) : writer.Exchangeable (.load type origin) (.unload other) := by
  obtain ⟨hresult, hstate⟩ := load_unload_comm hne hneeded origin writer
  constructor
  case replies =>
    show [.done, Reply.outcome ((writer.unload other).state.load type origin).result] =
      [.done, .outcome (writer.load type origin).result]
    rw [hresult]
  case ledger =>
    have htold := told_unload hne hneeded origin (writer.load type origin).result writer
    have hnone : entriesIn [.unloaded other] = [] := rfl
    simp only [ledger, chronicle, happening, Writer.call, hresult, htold, Option.toList_some,
      entriesIn_append, hnone, List.append_nil, List.nil_append]
  case after => exact hstate

/-! ## What a load changes -/

/-- The catalog after a decision is the one that the rules leave. -/
theorem Judged.catalog_eq [Catalog σ] {writer : Writer σ} {type : LoadedType}
    {origin : Option Origin} {decision : Decision} {catalog : σ}
    (h : writer.Judged type origin decision catalog) :
    catalog = Eligibility.catalogAfter writer.config.pathStyle type origin writer.catalog := by
  have hsnd := congrArg Prod.snd h.2
  rw [Eligibility.snd_check] at hsnd
  exact hsnd.symm

/-- A load leaves the catalog as it is, or as the rules leave it. -/
theorem catalog_load [Catalog σ] (type : LoadedType) (origin : Option Origin) (writer : Writer σ) :
    (writer.load type origin).state.catalog = writer.catalog ∨
      (writer.load type origin).state.catalog =
        Eligibility.catalogAfter writer.config.pathStyle type origin writer.catalog := by
  have hloads := loads_load type origin writer
  generalize (writer.load type origin).result = outcome at hloads
  generalize (writer.load type origin).state = after at hloads ⊢
  cases hloads with
  | off | refused | sinkless | known => exact .inl rfl
  | imageless =>
    left
    simp
  | rejected sink hready reason catalog h => exact .inr h.catalog_eq
  | interrupted sink hready catalog h => exact .inr h.catalog_eq
  | recorded sink hready catalog h => exact .inr h.catalog_eq
  | failed sink hready catalog h =>
    right
    simpa using h.catalog_eq

/-- A load leaves other types the ids that they hold. -/
theorem idOf_load_of_ne [Catalog σ] {type : LoadedType} {other : TypeIdentity}
    (h : other ≠ type.identity) (origin : Option Origin) (writer : Writer σ) :
    (writer.load type origin).state.registry.idOf other = writer.registry.idOf other := by
  rcases registry_load type origin writer with hsame | ⟨-, hassigned⟩
  · rw [hsame]
  · simp [hassigned, h]

/-- A writer comes to the same decision on a type when nothing has changed that concerns the type. -/
theorem Judged.congr {writer other : Writer NameCatalog} {type : LoadedType}
    {origin : Option Origin} {decision : Decision} {catalog : NameCatalog}
    (h : writer.Judged type origin decision catalog) (hconfig : other.config = writer.config)
    (hid : other.registry.idOf type.identity = writer.registry.idOf type.identity)
    (hneeded : ∀ identity ∈ type.dependencies,
      other.registry.idOf identity = writer.registry.idOf identity)
    (howner : type.isBuiltin = false →
      other.catalog.ownerOf type.name = writer.catalog.ownerOf type.name) :
    other.Judged type origin decision
      (Eligibility.catalogAfter writer.config.pathStyle type origin other.catalog) := by
  refine ⟨hid.trans h.1, Prod.ext ?_ ?_⟩
  · have hhasId : ∀ identity ∈ type.dependencies,
        other.registry.hasId identity = writer.registry.hasId identity :=
      fun identity hmem => congrArg Option.isSome (hneeded identity hmem)
    have hdecision := congrArg Prod.fst h.2
    rw [hconfig, Eligibility.fst_check_congr hhasId howner]
    exact hdecision
  · rw [Eligibility.snd_check, hconfig]

variable {first second : LoadedType}

/-- The decision on a type is the same after a load of an independent one. -/
theorem Judged.load {writer : Writer NameCatalog} {origin : Option Origin} {decision : Decision}
    {catalog : NameCatalog} (h : writer.Judged first origin decision catalog)
    (hindependent : Independent first second) (origin' : Option Origin) :
    let after := (writer.load second origin').state
    after.Judged first origin decision
      (Eligibility.catalogAfter writer.config.pathStyle first origin after.catalog) := by
  refine h.congr (config_load second origin' writer) ?_ ?_ ?_
  · exact idOf_load_of_ne hindependent.ne origin' writer
  · intro identity hmem
    have hne : identity ≠ second.identity := fun heq => hindependent.not_needed (heq ▸ hmem)
    exact idOf_load_of_ne hne origin' writer
  · intro huser
    rcases catalog_load second origin' writer with hsame | hafter
    · rw [hsame]
    · rw [hafter]
      exact Eligibility.ownerOf_catalogAfter_of_ne
        (fun hother => (hindependent.name_ne huser hother).symm) _ _ _

end LoadOrder.Writer
