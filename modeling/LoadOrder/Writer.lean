/-
# The writer

The writer is told of every type that is loaded or unloaded. It records the eligible ones in the
manifest of its sink, and gives up when a write fails, when the runtime has no packaged image, or
when an earlier load broke off and left the lock poisoned.
-/
import LoadOrder.Config
import LoadOrder.Registry
import LoadOrder.Sink

namespace LoadOrder

/-- What became of a type that was loaded. -/
inductive Outcome where
  /-- The type has a line in the manifest, now or since an earlier load. -/
  | recorded (id : RecordId)
  /-- The type was left out for good. -/
  | rejected (reason : Rejection)
  /-- There is no manifest, or no longer one. -/
  | disabled
  /-- The catalog broke off, and the load with it. -/
  | interrupted
  deriving DecidableEq, Repr, Inhabited

/-- The state of a writer, its catalog's states being of type `σ`. -/
structure Writer (σ : Type) where
  config : Config
  catalog : σ
  registry : Registry := {}
  /-- The sink that takes the lines. -/
  sink : Option Sink := none
  enabled : Bool := false
  /-- Whether a load broke off while it held the lock. -/
  poisoned : Bool := false
  /-- The sinks that are no longer in use, the oldest first. -/
  retired : List Sink := []

namespace Writer

variable {σ : Type}

/-! ## Stopping -/

/-- Closes the sink and puts it away. -/
def shutdown (writer : Writer σ) : Effect (Writer σ) Unit :=
  match writer.sink with
  | none => { result := (), state := writer }
  | some sink =>
    let closed := sink.close
    { result := ()
      state := { writer with sink := none, retired := writer.retired ++ [closed.state] }
      notices := closed.notices ++
        match closed.result with
        | .ok () => []
        | .error error => [.closeFailed error] }

/-- Stops recording. -/
def close (writer : Writer σ) : Effect (Writer σ) Unit :=
  shutdown { writer with enabled := false }

/-! ## Starting -/

/-- The directory with what the writer's sinks have written. -/
def saveTo (writer : Writer σ) (directory : Directory) : Directory :=
  (writer.retired ++ writer.sink.toList).foldl (fun directory sink => sink.saveTo directory)
    directory

/-- Opens the manifest that the configuration names, if it names one and none is open. -/
def init (launch : Launch) (directory : Directory) (writer : Writer σ) :
    Effect (Writer σ × Directory) (Except Error Unit) :=
  match writer.config.resolvedOutput launch with
  | none => { result := .ok (), state := (writer, directory) }
  | some path =>
    if writer.poisoned then { result := .error .lockPoisoned, state := (writer, directory) }
    else if writer.sink.isSome then { result := .ok (), state := (writer, directory) }
    else
      let opened := Sink.openFile path (writer.saveTo directory)
      match opened.result with
      | .ok sink =>
        { result := .ok ()
          state := ({ writer with sink := some sink, enabled := true }, opened.state)
          notices := opened.notices }
      | .error error =>
        { result := .error error
          state := (writer, opened.state)
          notices := opened.notices ++ [.openFailed path error] }

/-- Records to a sink from now on, if there is none yet. The result names the sink again, closed, if
the writer has no use for it. -/
def attach (sink : Sink) (writer : Writer σ) :
    Effect (Writer σ) (Except Error Unit × Option Sink) :=
  if ! writer.poisoned && writer.sink.isNone then
    { result := (.ok (), none), state := { writer with sink := some sink, enabled := true } }
  else
    let closed := sink.close
    { result := (if writer.poisoned then .error .lockPoisoned else .ok (), some closed.state)
      state := writer
      notices := closed.notices }

/-! ## Loading and unloading -/

/-- The entry of a type, and the registry after it was made. A builtin type is written with its name
and its id alone. Any other type is written with the ids of its super type and its interfaces. -/
def entryFor (style : PathStyle) (registry : Registry) (type : LoadedType)
    (origin : Option Origin) : Entry × Registry :=
  let (id, registry) := registry.assign type.identity
  if type.isBuiltin then ({ name := type.name, id }, registry)
  else
    let (superIds, registry) := registry.assignAll type.superType.toList
    let (interfaces, registry) := registry.assignAll type.interfaces
    let source := ((Eligibility.address origin).filter Source.hasFileScheme).bind
      (Source.strip style)
    ({ name := type.name, id, superId := superIds.head?, interfaces, source }, registry)

/-- Gives an eligible type its id and writes its line. -/
def record (type : LoadedType) (origin : Option Origin) (sink : Sink) (writer : Writer σ) :
    Effect (Writer σ) Outcome :=
  let (entry, registry) := entryFor writer.config.pathStyle writer.registry type origin
  let written := sink.writeLine entry.line
  let writer := { writer with registry, sink := some written.state }
  match written.result with
  | .ok () => { result := .recorded entry.id, state := writer, notices := written.notices }
  | .error error =>
    let closed := writer.close
    { result := .disabled
      state := closed.state
      notices := written.notices ++ [.writeFailed error] ++ closed.notices }

/-- Records a type that has just been loaded, if it is eligible and not recorded yet. -/
def load [Catalog σ] (type : LoadedType) (origin : Option Origin) (writer : Writer σ) :
    Effect (Writer σ) Outcome :=
  if ! writer.enabled then { result := .disabled, state := writer }
  else if writer.poisoned then
    { result := .disabled
      state := { writer with enabled := false }
      notices := [.lockRefused .lockPoisoned] }
  else
    match writer.sink with
    | none => { result := .disabled, state := writer }
    | some sink =>
      if ! writer.config.hasRuntimeImage then
        let closed := writer.close
        { result := .disabled, state := closed.state, notices := .noRuntimeImage :: closed.notices }
      else
        match writer.registry.idOf type.identity with
        | some id => { result := .recorded id, state := writer }
        | none =>
          let (decision, catalog) := Eligibility.check writer.config.pathStyle
            writer.registry.hasId type origin writer.catalog
          let writer := { writer with catalog }
          match decision with
          | .rejected reason =>
            { result := .rejected reason, state := writer, notices := decision.notices type }
          | .interrupted => { result := .interrupted, state := { writer with poisoned := true } }
          | .eligible => writer.record type origin sink

/-- Forgets a type that has been unloaded. Its id is not given again. -/
def unload (identity : TypeIdentity) (writer : Writer σ) : Effect (Writer σ) Unit :=
  { result := ()
    state := { writer with registry := writer.registry.forget identity }
    notices :=
      match writer.registry.idOf identity with
      | some id => [.unloaded identity id]
      | none => [] }

/-! ## Questions

A poisoned writer does not say what its lock guards. -/

/-- The id of a type that is recorded and loaded. -/
def idOf (writer : Writer σ) (identity : TypeIdentity) : Option RecordId :=
  if writer.poisoned then none else writer.registry.idOf identity

/-- How many recorded types are loaded. -/
def live (writer : Writer σ) : Nat :=
  if writer.poisoned then 0 else writer.registry.size

/-- The path of the manifest that is open. -/
def outputPath (writer : Writer σ) : Option FilePath :=
  if writer.poisoned then none else writer.sink.map Sink.path

/-- A convention as a writer shows it. -/
def styleText : PathStyle → String
  | .posix => "Posix"
  | .driveLetter => "DriveLetter"

/-- A writer in short form. -/
def text (writer : Writer σ) : String :=
  let config := writer.config
  s!"ClassListWriter \x7b config: ClassListConfig \x7b output: {FilePath.quoted? config.output}, " ++
    s!"path_style: {styleText config.pathStyle}, " ++
    s!"has_runtime_image: {config.hasRuntimeImage} \x7d, enabled: {writer.enabled}, .. \x7d"

end Writer

end LoadOrder
