/-
# Writers with other ids

Two writers that differ in the ids of their types, and in what their outputs hold, answer in the same
way and record the same, up to the ids. That takes outputs without limits, since ids of different
length take different room, and a next id that is the same for both.

Main statements:
- `entryFor_rename`: the entry of a type under other ids;
- `Alike.load`, `Alike.call`: a call keeps two writers alike;
- `Alike.run`: what two such writers answer and record.
-/
import LoadOrder.Proofs.Registry.Renaming
import LoadOrder.Proofs.Writer.References
import LoadOrder.Proofs.Writer.Rejections
import LoadOrder.Proofs.Writer.Unlimited

namespace LoadOrder

/-! ## Other ids -/

/-- An entry with its ids renamed. -/
def Entry.rename (f : RecordId → RecordId) (entry : Entry) : Entry :=
  { entry with
    id := f entry.id
    superId := entry.superId.map f
    interfaces := entry.interfaces.map f }

/-- An outcome with its id renamed. -/
def Outcome.rename (f : RecordId → RecordId) : Outcome → Outcome
  | recorded id => .recorded (f id)
  | rejected reason => .rejected reason
  | disabled => .disabled
  | interrupted => .interrupted

namespace Writer

/-- An answer with its id renamed. -/
def Reply.rename (f : RecordId → RecordId) : Reply → Reply
  | outcome answer => .outcome (answer.rename f)
  | id answer => .id (answer.map f)
  | done => .done
  | count n => .count n
  | path answer => .path answer
  | flag answer => .flag answer

/-- A happening with the ids of its entry renamed. -/
def Happening.rename (f : RecordId → RecordId) : Happening → Happening
  | recorded type entry => .recorded type (entry.rename f)
  | unloaded identity => .unloaded identity

/-- Entries with the ids that they have. -/
@[simp] theorem entry_rename_id : Entry.rename id = id := by
  funext entry
  simp [Entry.rename]

/-- Answers with the ids that they have. -/
@[simp] theorem reply_rename_id : Reply.rename id = id := by
  funext reply
  cases reply with
  | outcome answer => cases answer <;> rfl
  | id answer => simp [Reply.rename]
  | done | count | path | flag => rfl

/-- Exchanging two ids twice changes nothing. -/
theorem rename_rename_swap (entry : Entry) (i j : RecordId) :
    (entry.rename (Equiv.swap i j)).rename (Equiv.swap i j) = entry := by
  have htwice : (Equiv.swap i j : RecordId → RecordId) ∘ Equiv.swap i j = id := by
    funext other
    exact Equiv.swap_apply_self i j other
  simp [Entry.rename, htwice]

/-- The entries of a chronicle with its ids renamed. -/
theorem entriesIn_rename (f : RecordId → RecordId) (chronicle : List Happening) :
    entriesIn (chronicle.map (Happening.rename f)) = (entriesIn chronicle).map (Entry.rename f) := by
  rw [entriesIn, entriesIn, List.filterMap_map, List.map_filterMap]
  congr 1
  funext happening
  cases happening with
  | recorded type entry => rfl
  | unloaded identity => rfl

/-- A new type whose dependencies hold ids gets the same entry under other ids. -/
theorem entryFor_rename {f : RecordId → RecordId} (style : PathStyle) {registry : Registry}
    {type : LoadedType} (origin : Option Origin) (hnext : f registry.nextId = registry.nextId)
    (hnew : registry.idOf type.identity = none)
    (hdependencies : ∀ identity ∈ type.dependencies, registry.hasId identity = true) :
    entryFor style (registry.rename f) type origin =
      ((entryFor style registry type origin).1.rename f,
        (entryFor style registry type origin).2.rename f) := by
  have hnew' : (registry.rename f).idOf type.identity = none := by
    simp [hnew]
  have hdependencies' : ∀ identity ∈ type.dependencies,
      (registry.rename f).hasId identity = true := by
    simpa using hdependencies
  have hidOf : (registry.rename f).idOf = fun identity => (registry.idOf identity).map f := by
    funext identity
    simp
  have hsuper : (type.superType.bind fun identity => (registry.idOf identity).map f) =
      (type.superType.bind registry.idOf).map f := by
    cases type.superType <;> rfl
  have hinterfaces : (type.interfaces.filterMap fun identity => (registry.idOf identity).map f) =
      (type.interfaces.filterMap registry.idOf).map f :=
    List.map_filterMap.symm
  rw [entryFor_of_hasId style origin hnew hdependencies,
    entryFor_of_hasId style origin hnew' hdependencies', Registry.assign_rename hnext, hidOf, hsuper,
    hinterfaces]
  cases type.isBuiltin with
  | true => simp [Entry.rename, hnext]
  | false => simp [Entry.rename, hnext]

variable {σ : Type} {f : RecordId → RecordId} {left right : Writer σ}

/-! ## Alike writers -/

/-- Two writers that are the same up to the ids of their types and what their sinks have written, and
whose sinks have no limits. -/
structure Alike (f : RecordId → RecordId) (left right : Writer σ) : Prop where
  config : right.config = left.config
  catalog : right.catalog = left.catalog
  registry : right.registry = left.registry.rename f
  enabled : right.enabled = left.enabled
  poisoned : right.poisoned = left.poisoned
  path : right.sink.map Sink.path = left.sink.map Sink.path
  unlimitedLeft : left.Unlimited
  unlimitedRight : right.Unlimited

/-- A writer over outputs without limits is like itself. -/
theorem alike_refl {writer : Writer σ} (h : writer.Unlimited) : Alike id writer writer :=
  ⟨rfl, rfl, by simp, rfl, rfl, rfl, h, h⟩

/-- Of alike writers neither has a sink if the first has none. -/
theorem Alike.sink_eq_none (h : Alike f left right) (hsink : left.sink = none) :
    right.sink = none := by
  have hpath := h.path
  rw [hsink, Option.map_none, Option.map_eq_none_iff] at hpath
  exact hpath

/-- Of alike writers both have a sink if the first has one, and under the same path. -/
theorem Alike.sink_eq_some (h : Alike f left right) {sink : Sink} (hsink : left.sink = some sink) :
    ∃ other, right.sink = some other ∧ other.path = sink.path := by
  have hpath := h.path
  rw [hsink, Option.map_some, Option.map_eq_some_iff] at hpath
  exact hpath

/-- Alike writers are ready both or neither. -/
theorem Alike.ready (h : Alike f left right) {sink : Sink} (hready : left.Ready sink) :
    ∃ other, right.Ready other ∧ other.path = sink.path := by
  obtain ⟨other, hother, hpath⟩ := h.sink_eq_some hready.sink_eq
  refine ⟨other, ⟨?_, ?_, hother, ?_⟩, hpath⟩
  · rw [h.enabled, hready.enabled]
  · rw [h.poisoned, hready.poisoned]
  · rw [h.config, hready.hasRuntimeImage]

/-- In alike writers the same types hold ids, under their names there. -/
theorem Alike.idOf (h : Alike f left right) (identity : TypeIdentity) :
    right.registry.idOf identity = (left.registry.idOf identity).map f := by
  simp [h.registry]

/-- Alike writers come to the same decision on a type. -/
theorem Alike.judged [Catalog σ] (h : Alike f left right) {type : LoadedType}
    {origin : Option Origin} {decision : Decision} {catalog : σ}
    (hjudged : left.Judged type origin decision catalog) :
    right.Judged type origin decision catalog := by
  constructor
  · simp [h.idOf, hjudged.1]
  · simpa [h.config, h.catalog, h.registry] using hjudged.2

/-- Closing keeps two writers alike. -/
theorem Alike.close (h : Alike f left right) : Alike f left.close.state right.close.state := by
  rw [state_close, state_close]
  exact ⟨h.config, h.catalog, h.registry, rfl, h.poisoned, rfl, unlimited_of_sinkless rfl,
    unlimited_of_sinkless rfl⟩

/-- The line of a type keeps two writers alike. -/
theorem Alike.written [Catalog σ] (h : Alike f left right) {type : LoadedType}
    {origin : Option Origin} {sink other : Sink} {catalog : σ}
    (hnext : f left.registry.nextId = left.registry.nextId)
    (hjudged : left.Judged type origin .eligible catalog) (hready : left.Ready sink)
    (hother : right.Ready other) (hpath : other.path = sink.path) :
    right.entryOf type origin = (left.entryOf type origin).rename f ∧
      Alike f (left.written type origin sink catalog) (right.written type origin other catalog) := by
  have hentry := entryFor_rename left.config.pathStyle origin hnext hjudged.1
    (Eligibility.hasId_of_eligible hjudged.2)
  rw [← h.registry, ← h.config] at hentry
  have hleft := Sink.writeLine_of_unlimited (h.unlimitedLeft sink hready.sink_eq)
    (left.entryOf type origin).line
  have hright := Sink.writeLine_of_unlimited (h.unlimitedRight other hother.sink_eq)
    (right.entryOf type origin).line
  refine ⟨?_, ?_⟩
  · rw [entryOf, hentry, entryOf, h.config]
  · constructor
    case config => exact h.config
    case catalog => rfl
    case registry =>
      show (entryFor right.config.pathStyle right.registry type origin).2 = _
      rw [hentry, h.config]
      rfl
    case enabled => exact h.enabled
    case poisoned => exact h.poisoned
    case path =>
      show some _ = some _
      simp [hpath]
    case unlimitedLeft => exact unlimited_of_sink rfl hleft.2.1
    case unlimitedRight => exact unlimited_of_sink rfl hright.2.1

/-- Alike writers go through a load alike. They come to the same outcome, tell of the same entry and
remain alike. -/
theorem Alike.load [Catalog σ] (h : Alike f left right)
    (hnext : f left.registry.nextId = left.registry.nextId) (type : LoadedType)
    (origin : Option Origin) :
    (right.load type origin).result = (left.load type origin).result.rename f ∧
      right.told type origin (right.load type origin).result =
        (left.told type origin (left.load type origin).result).map (Happening.rename f) ∧
      Alike f (left.load type origin).state (right.load type origin).state := by
  refine load_cases type origin left
    (motive := fun e => (right.load type origin).result = e.result.rename f ∧
      right.told type origin (right.load type origin).result =
        (left.told type origin e.result).map (Happening.rename f) ∧
      Alike f e.state (right.load type origin).state)
    ?off ?refused ?sinkless ?imageless ?known ?rejected ?interrupted ?recorded ?failed
  case off =>
    intro hoff
    rw [load_of_off (h.enabled.trans hoff)]
    exact ⟨rfl, rfl, h⟩
  case refused =>
    intro henabled hpoisoned
    rw [load_of_poisoned (h.enabled.trans henabled) (h.poisoned.trans hpoisoned)]
    exact ⟨rfl, rfl, h.config, h.catalog, h.registry, rfl, h.poisoned, h.path, h.unlimitedLeft,
      h.unlimitedRight⟩
  case sinkless =>
    intro hpoisoned hsink
    rw [load_of_sinkless (h.poisoned.trans hpoisoned) (h.sink_eq_none hsink)]
    exact ⟨rfl, rfl, h⟩
  case imageless =>
    intro sink henabled hpoisoned hsink himage
    obtain ⟨other, hother, -⟩ := h.sink_eq_some hsink
    have himage' : right.config.hasRuntimeImage = false := by rw [h.config, himage]
    rw [load_of_imageless (h.enabled.trans henabled) (h.poisoned.trans hpoisoned) hother himage']
    exact ⟨rfl, rfl, h.close⟩
  case known =>
    intro sink id hready hid
    obtain ⟨other, hother, -⟩ := h.ready hready
    have hid' : right.registry.idOf type.identity = some (f id) := by
      rw [h.idOf, hid, Option.map_some]
    rw [load_of_known hother hid', told_of_known hother hid', told_of_known hready hid]
    exact ⟨rfl, rfl, h⟩
  case rejected =>
    intro sink reason catalog hready hjudged
    obtain ⟨other, hother, -⟩ := h.ready hready
    have hjudged' := h.judged hjudged
    rw [load_of_ready hother hjudged'.1 origin hjudged'.2]
    exact ⟨rfl, rfl, h.config, rfl, h.registry, h.enabled, h.poisoned, h.path, h.unlimitedLeft,
      h.unlimitedRight⟩
  case interrupted =>
    intro sink catalog hready hjudged
    obtain ⟨other, hother, -⟩ := h.ready hready
    have hjudged' := h.judged hjudged
    rw [load_of_ready hother hjudged'.1 origin hjudged'.2]
    exact ⟨rfl, rfl, h.config, rfl, h.registry, h.enabled, rfl, h.path, h.unlimitedLeft,
      h.unlimitedRight⟩
  case recorded =>
    intro sink catalog hready hjudged written hwritten
    obtain ⟨other, hother, hpath⟩ := h.ready hready
    have hjudged' := h.judged hjudged
    obtain ⟨hentry, halike⟩ := h.written hnext hjudged hready hother hpath
    rw [load_of_ready hother hjudged'.1 origin hjudged'.2, settle,
      record_of_ok (h.unlimitedRight.result_writeLine hother _), told_of_judged hother hjudged',
      told_of_judged hready hjudged, hentry]
    exact ⟨rfl, rfl, halike⟩
  case failed =>
    intro sink catalog error hready hjudged written closed hwritten
    have hok := h.unlimitedLeft.result_writeLine hready (left.entryOf type origin).line
    rw [hwritten] at hok
    simp at hok

/-- Alike writers answer a call alike and remain alike. -/
theorem Alike.call [Catalog σ] (h : Alike f left right)
    (hnext : f left.registry.nextId = left.registry.nextId) (call : Call) :
    (right.call call).result = (left.call call).result.rename f ∧
      right.happening call = (left.happening call).map (Happening.rename f) ∧
      Alike f (left.call call).state (right.call call).state := by
  cases call with
  | load type origin =>
    obtain ⟨hresult, htold, hstate⟩ := h.load hnext type origin
    exact ⟨congrArg Reply.outcome hresult, htold, hstate⟩
  | unload identity =>
    have hforget : right.registry.forget identity = (left.registry.forget identity).rename f := by
      rw [h.registry, Registry.forget_rename]
    exact ⟨rfl, rfl, h.config, h.catalog, hforget, h.enabled, h.poisoned, h.path, h.unlimitedLeft,
      h.unlimitedRight⟩
  | close => exact ⟨rfl, rfl, h.close⟩
  | idOf identity =>
    have hid : right.idOf identity = (left.idOf identity).map f := by
      rw [Writer.idOf, Writer.idOf, h.poisoned, h.idOf]
      split <;> rfl
    exact ⟨congrArg Reply.id hid, rfl, h⟩
  | live =>
    have hlive : right.live = left.live := by
      simp [Writer.live, h.poisoned, h.registry]
    exact ⟨congrArg Reply.count hlive, rfl, h⟩
  | outputPath =>
    have hpath : right.outputPath = left.outputPath := by
      rw [Writer.outputPath, Writer.outputPath, h.poisoned, h.path]
    exact ⟨congrArg Reply.path hpath, rfl, h⟩
  | isEnabled => exact ⟨congrArg Reply.flag h.enabled, rfl, h⟩

/-! ## Runs -/

/-- **Alike writers do alike.** As long as the next id keeps its name, alike writers give the same
answers to the same calls, and record the same, up to the ids. -/
theorem Alike.run [Catalog σ] (h : Alike f left right) (calls : List Call)
    (hnext : ∀ front, front <+: calls →
      f (left.after front).registry.nextId = (left.after front).registry.nextId) :
    right.replies calls = (left.replies calls).map (Reply.rename f) ∧
      right.ledger calls = (left.ledger calls).map (Entry.rename f) ∧
      Alike f (left.after calls) (right.after calls) := by
  have hrun : right.replies calls = (left.replies calls).map (Reply.rename f) ∧
      right.chronicle calls = (left.chronicle calls).map (Happening.rename f) ∧
      Alike f (left.after calls) (right.after calls) := by
    induction calls generalizing left right with
    | nil => exact ⟨rfl, rfl, h⟩
    | cons call rest ih =>
      obtain ⟨hresult, hhappening, hstate⟩ := h.call (hnext [] List.nil_prefix) call
      obtain ⟨hreplies, hchronicle, hafter⟩ := ih hstate fun front hpart =>
        hnext (call :: front) (List.cons_prefix_cons.2 ⟨rfl, hpart⟩)
      refine ⟨?_, ?_, hafter⟩
      · rw [replies, replies, hresult, hreplies, List.map_cons]
      · rw [chronicle, chronicle, hhappening, hchronicle, List.map_append, Option.toList_map]
  refine ⟨hrun.1, ?_, hrun.2.2⟩
  rw [ledger, ledger, hrun.2.1, entriesIn_rename]

end Writer

end LoadOrder
