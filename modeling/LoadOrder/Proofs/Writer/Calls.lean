/-
# Writers, call by call

A host that has given a writer its sink loads and unloads types, closes the writer and asks it
questions. The calls of a run are answered one after the other, and a chronicle is kept of the types
that got a line of their own and of those that were unloaded. The entries in it, in order, are the
ledger of the run.

Main statements:
- `after_append`, `chronicle_append`, `ledger_append`: a run goes on where its first part ended;
- `load_cases`, `loads_load`: the nine ways in which a load can go, each with what makes it go that
  way;
- `told_load_eq_some_iff`: a load tells of an entry with the id that the load is answered with;
- `run_induction`: what every load, unload and closing keeps holds throughout a run.
-/
import LoadOrder.Writer

namespace LoadOrder.Writer

variable {σ : Type}

/-! ## Calls -/

/-- What a host asks of a writer that has its sink. -/
inductive Call where
  | load (type : LoadedType) (origin : Option Origin)
  | unload (identity : TypeIdentity)
  | close
  | idOf (identity : TypeIdentity)
  | live
  | outputPath
  | isEnabled
  deriving DecidableEq, Repr

/-- What a writer answers. -/
inductive Reply where
  | outcome (outcome : Outcome)
  | done
  | id (id : Option RecordId)
  | count (count : Nat)
  | path (path : Option FilePath)
  | flag (flag : Bool)
  deriving DecidableEq, Repr

/-- The answer to a call, and the writer after it. Questions leave the writer as it is. -/
def call [Catalog σ] (writer : Writer σ) : Call → Effect (Writer σ) Reply
  | .load type origin =>
    let e := writer.load type origin
    { result := .outcome e.result, state := e.state, notices := e.notices }
  | .unload identity =>
    let e := writer.unload identity
    { result := .done, state := e.state, notices := e.notices }
  | .close =>
    let e := writer.close
    { result := .done, state := e.state, notices := e.notices }
  | .idOf identity => { result := .id (writer.idOf identity), state := writer }
  | .live => { result := .count writer.live, state := writer }
  | .outputPath => { result := .path writer.outputPath, state := writer }
  | .isEnabled => { result := .flag writer.enabled, state := writer }

/-- The writer after calls. -/
def after [Catalog σ] (writer : Writer σ) (calls : List Call) : Writer σ :=
  calls.foldl (fun writer call => (writer.call call).state) writer

/-- All sinks that a writer has had, the oldest first. -/
def sinks (writer : Writer σ) : List Sink :=
  writer.retired ++ writer.sink.toList

/-- A new writer that was given a new sink over an empty output. -/
def begun (config : Config) (catalog : σ) (path : FilePath) (medium : Medium)
    (place : Option Location) : Writer σ :=
  (attach (Sink.start path { medium } place).state { config, catalog }).state

/-- The writer takes the sink and is enabled. -/
theorem begun_eq (config : Config) (catalog : σ) (path : FilePath) (medium : Medium)
    (place : Option Location) :
    begun config catalog path medium place =
      { config, catalog, sink := some (Sink.start path { medium } place).state,
        enabled := true } := by
  simp [begun, attach]

/-! ## The chronicle of a run -/

/-- What a chronicle tells. -/
inductive Happening where
  /-- A type got a line of its own. -/
  | recorded (type : LoadedType) (entry : Entry)
  | unloaded (identity : TypeIdentity)
  deriving DecidableEq, Repr

/-- The type that something happened to. -/
def Happening.identity : Happening → TypeIdentity
  | recorded type _ => type.identity
  | unloaded identity => identity

/-- The entry that came of a happening. -/
def Happening.entry? : Happening → Option Entry
  | recorded _ entry => some entry
  | unloaded _ => none

/-- The entry of a type as the writer would write it now. -/
def entryOf (writer : Writer σ) (type : LoadedType) (origin : Option Origin) : Entry :=
  (entryFor writer.config.pathStyle writer.registry type origin).1

/-- What a load with a given outcome puts into the chronicle: the type gets a line of its own if it
is answered with an id while the writer knew of none before. That id is the one in the entry, as
`told_load_eq_some_iff` says. -/
def told (writer : Writer σ) (type : LoadedType) (origin : Option Origin) :
    Outcome → Option Happening
  | .recorded _ =>
    if writer.idOf type.identity = none then some (.recorded type (writer.entryOf type origin))
    else none
  | _ => none

section

variable (writer : Writer σ) (type : LoadedType) (origin : Option Origin)

/-- A type that is left out tells nothing. -/
@[simp] theorem told_rejected (reason : Rejection) :
    writer.told type origin (.rejected reason) = none := by
  simp [told]

/-- A load without a manifest tells nothing. -/
@[simp] theorem told_disabled : writer.told type origin .disabled = none := by
  simp [told]

/-- A load that breaks off tells nothing. -/
@[simp] theorem told_interrupted : writer.told type origin .interrupted = none := by
  simp [told]

end

/-- What happens in a call. -/
def happening [Catalog σ] (writer : Writer σ) : Call → Option Happening
  | .load type origin => writer.told type origin (writer.load type origin).result
  | .unload identity => some (.unloaded identity)
  | _ => none

/-- All that happens in a run, in order. -/
def chronicle [Catalog σ] (writer : Writer σ) : List Call → List Happening
  | [] => []
  | call :: rest => (writer.happening call).toList ++ (writer.call call).state.chronicle rest

/-- The entries that a chronicle tells of, in order. -/
def entriesIn (chronicle : List Happening) : List Entry :=
  chronicle.filterMap Happening.entry?

/-- The entries of the types that got lines of their own in a run, in order. -/
def ledger [Catalog σ] (writer : Writer σ) (calls : List Call) : List Entry :=
  entriesIn (writer.chronicle calls)

/-- A longer chronicle tells of the same entries and more. -/
theorem entriesIn_append (front back : List Happening) :
    entriesIn (front ++ back) = entriesIn front ++ entriesIn back :=
  List.filterMap_append

/-- An unloaded type adds no entry. -/
@[simp] theorem entriesIn_concat_unloaded (chronicle : List Happening) (identity : TypeIdentity) :
    entriesIn (chronicle ++ [.unloaded identity]) = entriesIn chronicle := by
  rw [entriesIn_append, entriesIn, entriesIn, List.filterMap_cons_none rfl, List.filterMap_nil,
    List.append_nil]

/-- A type that got its line adds its entry. -/
@[simp] theorem entriesIn_concat_recorded (chronicle : List Happening) (type : LoadedType)
    (entry : Entry) :
    entriesIn (chronicle ++ [.recorded type entry]) = entriesIn chronicle ++ [entry] :=
  entriesIn_append chronicle _

/-- A run goes on from where its first part ended. -/
@[simp] theorem after_append [Catalog σ] (writer : Writer σ) (front back : List Call) :
    writer.after (front ++ back) = (writer.after front).after back :=
  List.foldl_append

/-- The chronicle of a run goes on from where its first part ended. -/
@[simp] theorem chronicle_append [Catalog σ] (writer : Writer σ) (front back : List Call) :
    writer.chronicle (front ++ back) =
      writer.chronicle front ++ (writer.after front).chronicle back := by
  induction front generalizing writer with
  | nil => rfl
  | cons call rest ih =>
    rw [List.cons_append, chronicle, chronicle, ih, List.append_assoc, after, after,
      List.foldl_cons]

/-- The ledger of a run goes on from where its first part ended. -/
@[simp] theorem ledger_append [Catalog σ] (writer : Writer σ) (front back : List Call) :
    writer.ledger (front ++ back) = writer.ledger front ++ (writer.after front).ledger back := by
  rw [ledger, chronicle_append, entriesIn_append, ledger, ledger]

/-- The answers to calls, in order. -/
def replies [Catalog σ] (writer : Writer σ) : List Call → List Reply
  | [] => []
  | call :: rest => (writer.call call).result :: (writer.call call).state.replies rest

/-- Every call is answered. -/
@[simp] theorem length_replies [Catalog σ] (writer : Writer σ) (calls : List Call) :
    (writer.replies calls).length = calls.length := by
  induction calls generalizing writer with
  | nil => rfl
  | cons call rest ih => rw [replies, List.length_cons, ih, List.length_cons]

/-- The answers of a run go on from where its first part ended. -/
@[simp] theorem replies_append [Catalog σ] (writer : Writer σ) (front back : List Call) :
    writer.replies (front ++ back) = writer.replies front ++ (writer.after front).replies back := by
  induction front generalizing writer with
  | nil => rfl
  | cons call rest ih =>
    rw [List.cons_append, replies, replies, ih, List.cons_append, after, after, List.foldl_cons]

/-! ## How a load can go -/

/-- A writer that can record to a sink: it is enabled, its lock is sound, and the runtime has a
packaged image. -/
structure Ready (writer : Writer σ) (sink : Sink) : Prop where
  enabled : writer.enabled = true
  poisoned : writer.poisoned = false
  sink_eq : writer.sink = some sink
  hasRuntimeImage : writer.config.hasRuntimeImage = true

/-- A writer that is not enabled does nothing. -/
theorem load_of_off [Catalog σ] {writer : Writer σ} (h : writer.enabled = false)
    (type : LoadedType) (origin : Option Origin) :
    writer.load type origin = { result := .disabled, state := writer } := by
  simp [load, h]

/-- An enabled writer that finds its lock poisoned says so and disables itself. -/
theorem load_of_poisoned [Catalog σ] {writer : Writer σ} (henabled : writer.enabled = true)
    (h : writer.poisoned = true) (type : LoadedType) (origin : Option Origin) :
    writer.load type origin =
      { result := .disabled
        state := { writer with enabled := false }
        notices := [.lockRefused .lockPoisoned] } := by
  simp [load, henabled, h]

/-- A writer without a sink does nothing. -/
theorem load_of_sinkless [Catalog σ] {writer : Writer σ} (hpoisoned : writer.poisoned = false)
    (h : writer.sink = none) (type : LoadedType) (origin : Option Origin) :
    writer.load type origin = { result := .disabled, state := writer } := by
  simp [load, hpoisoned, h]

/-- Without a packaged image, a writer that could record says so and is closed. -/
theorem load_of_imageless [Catalog σ] {writer : Writer σ} {sink : Sink}
    (henabled : writer.enabled = true) (hpoisoned : writer.poisoned = false)
    (hsink : writer.sink = some sink) (h : writer.config.hasRuntimeImage = false)
    (type : LoadedType) (origin : Option Origin) :
    writer.load type origin =
      { result := .disabled
        state := writer.close.state
        notices := .noRuntimeImage :: writer.close.notices } := by
  simp [load, henabled, hpoisoned, hsink, h]

/-- A type that holds an id is answered with it. -/
theorem load_of_known [Catalog σ] {writer : Writer σ} {sink : Sink} (hready : writer.Ready sink)
    {type : LoadedType} {id : RecordId} (h : writer.registry.idOf type.identity = some id)
    (origin : Option Origin) :
    writer.load type origin = { result := .recorded id, state := writer } := by
  simp [load, hready.enabled, hready.poisoned, hready.sink_eq, hready.hasRuntimeImage, h]

/-- A type that holds no id comes before the rules of eligibility. -/
def Judged [Catalog σ] (writer : Writer σ) (type : LoadedType) (origin : Option Origin)
    (decision : Decision) (catalog : σ) : Prop :=
  writer.registry.idOf type.identity = none ∧
    Eligibility.check writer.config.pathStyle writer.registry.hasId type origin writer.catalog =
      (decision, catalog)

/-- The writer with another catalog. -/
def withCatalog (catalog : σ) (writer : Writer σ) : Writer σ :=
  { writer with catalog }

/-- What a load makes of the decision on its type. -/
def settle (type : LoadedType) (origin : Option Origin) (sink : Sink) (decision : Decision)
    (writer : Writer σ) : Effect (Writer σ) Outcome :=
  match decision with
  | .rejected reason =>
    { result := .rejected reason, state := writer, notices := decision.notices type }
  | .interrupted => { result := .interrupted, state := { writer with poisoned := true } }
  | .eligible => writer.record type origin sink

/-- A load of a type without an id to a writer that can record goes by the rules of eligibility. -/
theorem load_of_ready [Catalog σ] {writer : Writer σ} {sink : Sink} (hready : writer.Ready sink)
    {type : LoadedType} (hnew : writer.registry.idOf type.identity = none)
    (origin : Option Origin) {decision : Decision} {catalog : σ}
    (hcheck : Eligibility.check writer.config.pathStyle writer.registry.hasId type origin
      writer.catalog = (decision, catalog)) :
    writer.load type origin = (writer.withCatalog catalog).settle type origin sink decision := by
  cases decision <;>
    simp [load, hready.enabled, hready.poisoned, hready.sink_eq, hready.hasRuntimeImage, hnew,
      hcheck, withCatalog, settle]

/-- The writer after an eligible type was given its id and its line was handed to the sink. -/
def written (writer : Writer σ) (type : LoadedType) (origin : Option Origin) (sink : Sink)
    (catalog : σ) : Writer σ :=
  { writer with
    catalog
    registry := (entryFor writer.config.pathStyle writer.registry type origin).2
    sink := some (sink.writeLine (writer.entryOf type origin).line).state }

section

variable (writer : Writer σ) (type : LoadedType) (origin : Option Origin) (sink : Sink) (catalog : σ)

/-- Writing a line leaves the configuration as it is. -/
@[simp] theorem config_written :
    (writer.written type origin sink catalog).config = writer.config := by
  simp [written]

/-- The catalog is the one that the rules left. -/
@[simp] theorem catalog_written :
    (writer.written type origin sink catalog).catalog = catalog := by
  simp [written]

/-- Writing a line leaves the lock as it is. -/
@[simp] theorem poisoned_written :
    (writer.written type origin sink catalog).poisoned = writer.poisoned := by
  simp [written]

end

/-- The ways in which a load can go. -/
inductive Loads [Catalog σ] (type : LoadedType) (origin : Option Origin) (writer : Writer σ) :
    Outcome → Writer σ → Prop where
  | off (h : writer.enabled = false) : Loads type origin writer .disabled writer
  | refused (henabled : writer.enabled = true) (h : writer.poisoned = true) :
      Loads type origin writer .disabled { writer with enabled := false }
  | sinkless (h : writer.sink = none) : Loads type origin writer .disabled writer
  | imageless (henabled : writer.enabled = true) (hpoisoned : writer.poisoned = false)
      (h : writer.config.hasRuntimeImage = false) :
      Loads type origin writer .disabled writer.close.state
  | known (sink : Sink) (hready : writer.Ready sink) (id : RecordId)
      (h : writer.registry.idOf type.identity = some id) :
      Loads type origin writer (.recorded id) writer
  | rejected (sink : Sink) (hready : writer.Ready sink) (reason : Rejection) (catalog : σ)
      (h : writer.Judged type origin (.rejected reason) catalog) :
      Loads type origin writer (.rejected reason) { writer with catalog }
  | interrupted (sink : Sink) (hready : writer.Ready sink) (catalog : σ)
      (h : writer.Judged type origin .interrupted catalog) :
      Loads type origin writer .interrupted { writer with catalog, poisoned := true }
  | recorded (sink : Sink) (hready : writer.Ready sink) (catalog : σ)
      (h : writer.Judged type origin .eligible catalog)
      (hwritten : (sink.writeLine (writer.entryOf type origin).line).result = .ok ()) :
      Loads type origin writer (.recorded (writer.entryOf type origin).id)
        (writer.written type origin sink catalog)
  | failed (sink : Sink) (hready : writer.Ready sink) (catalog : σ)
      (h : writer.Judged type origin .eligible catalog) (error : Error)
      (hwritten : (sink.writeLine (writer.entryOf type origin).line).result = .error error) :
      Loads type origin writer .disabled (writer.written type origin sink catalog).close.state

/-- An eligible type whose line is written is recorded. -/
theorem record_of_ok {writer : Writer σ} {type : LoadedType} {origin : Option Origin} {sink : Sink}
    (h : (sink.writeLine (writer.entryOf type origin).line).result = .ok ()) (catalog : σ) :
    (writer.withCatalog catalog).record type origin sink =
      { result := .recorded (writer.entryOf type origin).id
        state := writer.written type origin sink catalog
        notices := (sink.writeLine (writer.entryOf type origin).line).notices } := by
  rw [entryOf] at h
  simp [record, h, written, entryOf, withCatalog]

/-- If the line of an eligible type cannot be written, the writer says so and is closed. -/
theorem record_of_error {writer : Writer σ} {type : LoadedType} {origin : Option Origin}
    {sink : Sink} {error : Error}
    (h : (sink.writeLine (writer.entryOf type origin).line).result = .error error) (catalog : σ) :
    (writer.withCatalog catalog).record type origin sink =
      { result := .disabled
        state := (writer.written type origin sink catalog).close.state
        notices := (sink.writeLine (writer.entryOf type origin).line).notices ++
          [.writeFailed error] ++ (writer.written type origin sink catalog).close.notices } := by
  rw [entryOf] at h
  simp [record, h, written, entryOf, withCatalog]

/-- What holds of the answer to a load, however the load goes, holds of the answer to every load. -/
theorem load_cases [Catalog σ] (type : LoadedType) (origin : Option Origin) (writer : Writer σ)
    {motive : Effect (Writer σ) Outcome → Prop}
    (off : writer.enabled = false → motive { result := .disabled, state := writer })
    (refused : writer.enabled = true → writer.poisoned = true →
      motive { result := .disabled, state := { writer with enabled := false },
               notices := [.lockRefused .lockPoisoned] })
    (sinkless : writer.poisoned = false → writer.sink = none →
      motive { result := .disabled, state := writer })
    (imageless : ∀ sink, writer.enabled = true → writer.poisoned = false →
      writer.sink = some sink → writer.config.hasRuntimeImage = false →
      motive { result := .disabled, state := writer.close.state,
               notices := .noRuntimeImage :: writer.close.notices })
    (known : ∀ sink id, writer.Ready sink → writer.registry.idOf type.identity = some id →
      motive { result := .recorded id, state := writer })
    (rejected : ∀ sink reason catalog, writer.Ready sink →
      writer.Judged type origin (.rejected reason) catalog →
      motive { result := .rejected reason, state := { writer with catalog },
               notices := [.skipped type.name type.identity reason] })
    (interrupted : ∀ sink catalog, writer.Ready sink →
      writer.Judged type origin .interrupted catalog →
      motive { result := .interrupted, state := { writer with catalog, poisoned := true } })
    (recorded : ∀ sink catalog, writer.Ready sink →
      writer.Judged type origin .eligible catalog →
      let written := sink.writeLine (writer.entryOf type origin).line
      written.result = .ok () →
      motive { result := .recorded (writer.entryOf type origin).id,
               state := writer.written type origin sink catalog, notices := written.notices })
    (failed : ∀ sink catalog error, writer.Ready sink →
      writer.Judged type origin .eligible catalog →
      let written := sink.writeLine (writer.entryOf type origin).line
      let closed := (writer.written type origin sink catalog).close
      written.result = .error error →
      motive { result := .disabled, state := closed.state,
               notices := written.notices ++ [.writeFailed error] ++ closed.notices }) :
    motive (writer.load type origin) := by
  -- the checks of a load, in their order
  cases henabled : writer.enabled with
  | false =>
    rw [load_of_off henabled]
    exact off henabled
  | true =>
  cases hpoisoned : writer.poisoned with
  | true =>
    rw [load_of_poisoned henabled hpoisoned]
    exact refused henabled hpoisoned
  | false =>
  cases hsink : writer.sink with
  | none =>
    rw [load_of_sinkless hpoisoned hsink]
    exact sinkless hpoisoned hsink
  | some sink =>
  cases himage : writer.config.hasRuntimeImage with
  | false =>
    rw [load_of_imageless henabled hpoisoned hsink himage]
    exact imageless sink henabled hpoisoned hsink himage
  | true =>
  have hready : writer.Ready sink := ⟨henabled, hpoisoned, hsink, himage⟩
  cases hid : writer.registry.idOf type.identity with
  | some id =>
    rw [load_of_known hready hid]
    exact known sink id hready hid
  | none =>
  rcases hcheck : Eligibility.check writer.config.pathStyle writer.registry.hasId type origin
    writer.catalog with ⟨decision, catalog⟩
  rw [load_of_ready hready hid origin hcheck]
  cases decision with
  | rejected reason => exact rejected sink reason catalog hready ⟨hid, hcheck⟩
  | interrupted => exact interrupted sink catalog hready ⟨hid, hcheck⟩
  | eligible =>
    rw [settle]
    cases hwritten : (sink.writeLine (writer.entryOf type origin).line).result with
    | ok _ =>
      rw [record_of_ok hwritten]
      exact recorded sink catalog hready ⟨hid, hcheck⟩ hwritten
    | error error =>
      rw [record_of_error hwritten]
      exact failed sink catalog error hready ⟨hid, hcheck⟩ hwritten

/-- Every load goes in one of these ways. -/
theorem loads_load [Catalog σ] (type : LoadedType) (origin : Option Origin) (writer : Writer σ) :
    Loads type origin writer (writer.load type origin).result (writer.load type origin).state := by
  refine load_cases type origin writer (motive := fun e => Loads type origin writer e.result e.state)
    .off .refused ?sinkless ?imageless ?known ?rejected ?interrupted ?recorded ?failed
  case sinkless => exact fun _ h => .sinkless h
  case imageless => exact fun _ henabled hpoisoned _ h => .imageless henabled hpoisoned h
  case known => exact fun sink id hready h => .known sink hready id h
  case rejected => exact fun sink reason catalog hready h => .rejected sink hready reason catalog h
  case interrupted => exact fun sink catalog hready h => .interrupted sink hready catalog h
  case recorded => exact fun sink catalog hready h => .recorded sink hready catalog h
  case failed => exact fun sink catalog error hready h => .failed sink hready catalog h error

/-- A load of a type that holds an id tells nothing new. -/
theorem told_of_known {writer : Writer σ} {type : LoadedType} {sink : Sink} {id : RecordId}
    (hready : writer.Ready sink) (h : writer.registry.idOf type.identity = some id)
    (origin : Option Origin) (outcome : Outcome) : writer.told type origin outcome = none := by
  cases outcome with
  | recorded id => simp [told, idOf, hready.poisoned, h]
  | rejected reason => rfl
  | disabled => rfl
  | interrupted => rfl

/-- A load that records a type that held no id tells of its entry. -/
theorem told_of_judged [Catalog σ] {writer : Writer σ} {type : LoadedType}
    {origin : Option Origin} {sink : Sink} {decision : Decision} {catalog : σ}
    (hready : writer.Ready sink) (h : writer.Judged type origin decision catalog) (id : RecordId) :
    writer.told type origin (.recorded id) =
      some (.recorded type (writer.entryOf type origin)) := by
  simp [told, idOf, hready.poisoned, h.1]

/-- A load that is answered with an id that the type did not hold before has written its line. -/
theorem recorded_of_new [Catalog σ] {writer : Writer σ} {type : LoadedType}
    {origin : Option Origin} {id : RecordId}
    (hresult : (writer.load type origin).result = .recorded id)
    (hnew : writer.idOf type.identity = none) :
    ∃ sink catalog, writer.Ready sink ∧ writer.Judged type origin .eligible catalog ∧
      (sink.writeLine (writer.entryOf type origin).line).result = .ok () ∧
      id = (writer.entryOf type origin).id ∧
      (writer.load type origin).state = writer.written type origin sink catalog := by
  have hloads := loads_load type origin writer
  rw [hresult] at hloads
  generalize (writer.load type origin).state = after at hloads
  cases hloads with
  | known sink hready id hid => simp [idOf, hready.poisoned, hid] at hnew
  | recorded sink hready catalog hjudged hwritten =>
    exact ⟨sink, catalog, hready, hjudged, hwritten, rfl, rfl⟩

/-- **What a load tells.** A load tells of an entry exactly if its type held no id and is answered with
the id in that entry, which is the one that the writer would write for the type. -/
theorem told_load_eq_some_iff [Catalog σ] {writer : Writer σ} {type : LoadedType}
    {origin : Option Origin} {happening : Happening} :
    writer.told type origin (writer.load type origin).result = some happening ↔
      happening = .recorded type (writer.entryOf type origin) ∧
        writer.idOf type.identity = none ∧
        (writer.load type origin).result = .recorded (writer.entryOf type origin).id := by
  constructor
  · intro h
    cases hresult : (writer.load type origin).result with
    | rejected | disabled | interrupted => simp [hresult] at h
    | recorded id =>
      rw [hresult, told, Option.ite_none_right_eq_some, Option.some.injEq] at h
      obtain ⟨hnew, rfl⟩ := h
      obtain ⟨-, -, -, -, -, rfl, -⟩ := recorded_of_new hresult hnew
      exact ⟨rfl, hnew, rfl⟩
  · rintro ⟨rfl, hnew, hresult⟩
    rw [hresult, told, if_pos hnew]

/-! ## Closing -/

/-- A closed writer is disabled, and its sink is closed and put away. -/
@[simp] theorem state_close (writer : Writer σ) :
    writer.close.state =
      { writer with
        sink := none
        enabled := false
        retired := writer.retired ++ (writer.sink.map fun sink => sink.close.state).toList } := by
  unfold close shutdown
  cases hsink : writer.sink with
  | none => simp
  | some sink => simp

/-! ## Runs -/

/-- What holds of an empty chronicle and a writer, and is kept by every load, unload and closing,
holds after any calls. -/
theorem run_induction [Catalog σ] (Inv : List Happening → Writer σ → Prop)
    (hload : ∀ chronicle writer type origin outcome after, Inv chronicle writer →
      Loads type origin writer outcome after →
        Inv (chronicle ++ (writer.told type origin outcome).toList) after)
    (hunload : ∀ chronicle writer identity, Inv chronicle writer →
      Inv (chronicle ++ [.unloaded identity]) (writer.unload identity).state)
    (hclose : ∀ chronicle writer, Inv chronicle writer → Inv chronicle writer.close.state)
    {writer : Writer σ} (hstart : Inv [] writer) (calls : List Call) :
    Inv (writer.chronicle calls) (writer.after calls) := by
  have hcall : ∀ chronicle writer call, Inv chronicle writer →
      Inv (chronicle ++ (writer.happening call).toList) (writer.call call).state := by
    intro chronicle writer call h
    cases call with
    | load type origin => exact hload _ _ _ _ _ _ h (loads_load type origin writer)
    | unload identity => exact hunload _ _ identity h
    | close => simpa [happening, call] using hclose _ _ h
    | idOf | live | outputPath | isEnabled => simpa [happening, call] using h
  -- the chronicle so far is kept apart from what the remaining calls add to it
  have hrun : ∀ calls chronicle writer, Inv chronicle writer →
      Inv (chronicle ++ writer.chronicle calls) (writer.after calls) := by
    intro calls
    induction calls with
    | nil =>
      intro chronicle writer h
      simpa [Writer.chronicle, after] using h
    | cons call rest ih =>
      intro chronicle writer h
      have hrest := ih _ _ (hcall chronicle writer call h)
      rwa [List.append_assoc] at hrest
  exact hrun calls [] writer hstart

end LoadOrder.Writer
