/-
# Writers over outputs without limits

An output without limits takes every line. A writer over such outputs loses no line and is never
disabled by a write: its loads go by its registry and its catalog alone, and the lines of its ledger
are all that is added to its outputs.

Main statements:
- `Sink.writeLine_of_unlimited`: a sink without limits takes every line;
- `Unlimited.call`, `unlimited_performAll`: outputs without limits remain the only ones;
- `flatten_contents_after`: what is added to the outputs during calls.
-/
import LoadOrder.Proofs.Replay
import LoadOrder.Proofs.Writer.Operations
import LoadOrder.Proofs.Writer.Rejections
import LoadOrder.Proofs.Writer.Stopping

namespace LoadOrder

/-! ## Sinks -/

/-- A medium without limits: everything fits, something is taken each time, and no flush fails. -/
structure Medium.Unlimited (medium : Medium) : Prop where
  capacity : medium.capacity = none
  chunk : medium.chunk ≠ some 0
  failingFlush : medium.failingFlush = 0

/-- Files have no limits. -/
theorem Medium.unlimited_file : Medium.file.Unlimited :=
  ⟨rfl, by decide, rfl⟩

/-- An open sink over an output without limits. -/
structure Sink.Unlimited (sink : Sink) : Prop where
  isOpen : sink.isOpen = true
  medium : sink.output.medium.Unlimited

/-- A sink without limits takes every line and remains one. -/
theorem Sink.writeLine_of_unlimited {sink : Sink} (h : sink.Unlimited) (line : String) :
    (sink.writeLine line).result = .ok () ∧ (sink.writeLine line).state.Unlimited ∧
      (sink.writeLine line).state.output.contents =
        sink.output.contents ++ Utf8.encode (line ++ "\n") := by
  have happend : (sink.append (line ++ "\n")).result = .ok () := by
    refine append_of_room h.isOpen ?_ h.medium.chunk ?_
    · rw [h.medium.capacity]
      simp
    · rw [h.medium.failingFlush]
      exact Nat.succ_ne_zero _
  obtain ⟨hresult, hstate⟩ := writeLine_of_append_ok happend
  refine ⟨hresult, ⟨isOpen_writeLine h.isOpen hresult, ?_⟩, ?_⟩
  · simpa using h.medium
  · rw [hstate, append_of_ok sink _ h.isOpen happend]

namespace Writer

variable {σ : Type}

/-! ## Writers -/

/-- A writer whose sink, if it has one, has no limits. -/
def Unlimited (writer : Writer σ) : Prop :=
  ∀ sink, writer.sink = some sink → sink.Unlimited

/-- A writer without a sink has none with limits. -/
theorem unlimited_of_sinkless {writer : Writer σ} (h : writer.sink = none) : writer.Unlimited := by
  intro sink hsink
  rw [h] at hsink
  simp at hsink

/-- A writer with a sink without limits has no other. -/
theorem unlimited_of_sink {writer : Writer σ} {sink : Sink} (hsink : writer.sink = some sink)
    (h : sink.Unlimited) : writer.Unlimited := by
  intro other hother
  rw [hsink] at hother
  rwa [← Option.some.inj hother]

/-- However a load goes, a sink without limits remains one. -/
theorem Unlimited.load [Catalog σ] {writer after : Writer σ} {type : LoadedType}
    {origin : Option Origin} {outcome : Outcome} (h : writer.Unlimited)
    (hloads : Loads type origin writer outcome after) : after.Unlimited := by
  cases hloads with
  | off | refused | sinkless | known | rejected | interrupted => exact h
  | imageless | failed => exact unlimited_of_sinkless (by simp)
  | recorded sink hready catalog hjudged hwritten =>
    have hsink := h sink hready.sink_eq
    exact unlimited_of_sink rfl (Sink.writeLine_of_unlimited hsink _).2.1

/-- A sink without limits takes the line of every type. -/
theorem Unlimited.result_writeLine {writer : Writer σ} (h : writer.Unlimited) {sink : Sink}
    (hready : writer.Ready sink) (line : String) : (sink.writeLine line).result = .ok () :=
  (Sink.writeLine_of_unlimited (h sink hready.sink_eq) line).1

/-- A call leaves a sink without limits, or none. -/
theorem Unlimited.call [Catalog σ] {writer : Writer σ} (h : writer.Unlimited) (call : Call) :
    (writer.call call).state.Unlimited := by
  cases call with
  | load type origin => exact h.load (loads_load type origin writer)
  | close => exact unlimited_of_sinkless (by simp [Writer.call])
  | unload | idOf | live | outputPath | isEnabled => exact h

/-- An operation that gives the writer no sink with limits. -/
def Operation.Unlimited : Operation → Prop
  | .attach sink _ => sink.output.medium.Unlimited
  | .init .. | .call _ => True

/-- An operation that gives the writer no sink with limits leaves it none. -/
theorem Unlimited.perform [Catalog σ] {writer : Writer σ} (h : writer.Unlimited)
    {operation : Operation} (hoperation : operation.Unlimited) :
    (writer.perform operation).Unlimited := by
  cases operation with
  | init launch directory =>
    rw [Writer.perform]
    rcases init_cases launch directory writer with
      hsame | ⟨sink, path, place, -, hstarted, hsink, hstate⟩
    · rwa [hsame]
    · rw [hstate]
      refine unlimited_of_sink rfl ⟨?_, ?_⟩
      · rw [← hsink]
        exact (Sink.isOpen_start path .file place).1 hstarted
      · simpa [← hsink] using Medium.unlimited_file
  | attach sink hopen =>
    rw [Writer.perform]
    rcases attach_cases sink writer with hsame | ⟨-, hstate⟩
    · rwa [hsame]
    · rw [hstate]
      exact unlimited_of_sink rfl ⟨hopen, hoperation⟩
  | call call => exact h.call call

/-- A new writer that is given no sink with limits never has one. -/
theorem unlimited_performAll [Catalog σ] (config : Config) (catalog : σ)
    (operations : List Operation) (h : ∀ operation ∈ operations, operation.Unlimited) :
    (({ config, catalog } : Writer σ).performAll operations).Unlimited := by
  induction operations using List.reverseRecOn with
  | nil => exact unlimited_of_sinkless rfl
  | append_singleton operations operation ih =>
    obtain ⟨hfront, hlast⟩ := List.forall_mem_append.1 h
    rw [performAll_concat]
    exact (ih hfront).perform (hlast operation (List.mem_singleton_self operation))

/-! ## Loads -/

/-- The ways in which a load of a ready writer can go where the catalog answers and the sink takes
every line. -/
inductive Settles [Catalog σ] (type : LoadedType) (origin : Option Origin) (writer : Writer σ)
    (sink : Sink) : Outcome → Writer σ → Prop where
  | known (id : RecordId) (h : writer.registry.idOf type.identity = some id) :
      Settles type origin writer sink (.recorded id) writer
  | rejected (reason : Rejection) (catalog : σ)
      (h : writer.Judged type origin (.rejected reason) catalog) :
      Settles type origin writer sink (.rejected reason) (writer.withCatalog catalog)
  | recorded (catalog : σ) (h : writer.Judged type origin .eligible catalog) :
      Settles type origin writer sink (.recorded (writer.entryOf type origin).id)
        (writer.written type origin sink catalog)

/-- A ready writer without limits goes through every load in one of these ways. -/
theorem settles_load [Catalog σ] (hanswers : Catalog.Answers σ) {writer : Writer σ} {sink : Sink}
    (hready : writer.Ready sink) (h : sink.Unlimited) (type : LoadedType)
    (origin : Option Origin) :
    Settles type origin writer sink (writer.load type origin).result
      (writer.load type origin).state := by
  cases hid : writer.registry.idOf type.identity with
  | some id =>
    rw [load_of_known hready hid]
    exact .known id hid
  | none =>
  rcases hcheck : Eligibility.check writer.config.pathStyle writer.registry.hasId type origin
    writer.catalog with ⟨decision, catalog⟩
  rw [load_of_ready hready hid origin hcheck]
  cases decision with
  | rejected reason => exact .rejected reason catalog ⟨hid, hcheck⟩
  | interrupted =>
    have hdecision := Eligibility.check_ne_interrupted hanswers writer.config.pathStyle
      writer.registry.hasId type origin writer.catalog
    rw [hcheck] at hdecision
    exact absurd rfl hdecision
  | eligible =>
    rw [settle, record_of_ok (Sink.writeLine_of_unlimited h _).1]
    exact .recorded catalog ⟨hid, hcheck⟩

/-- A ready writer without limits remains ready. -/
theorem Settles.ready [Catalog σ] {type : LoadedType} {origin : Option Origin}
    {writer after : Writer σ} {sink : Sink} {outcome : Outcome}
    (hsettles : Settles type origin writer sink outcome after) (hready : writer.Ready sink)
    (h : sink.Unlimited) :
    ∃ next, after.Ready next ∧ next.Unlimited ∧ next.path = sink.path := by
  cases hsettles with
  | known => exact ⟨sink, hready, h, rfl⟩
  | rejected reason catalog => exact ⟨sink, hready.withCatalog catalog, h, rfl⟩
  | recorded catalog hjudged =>
    refine ⟨(sink.writeLine (writer.entryOf type origin).line).state, ?_,
      (Sink.writeLine_of_unlimited h _).2.1, by simp⟩
    exact ⟨hready.enabled, hready.poisoned, rfl, hready.hasRuntimeImage⟩

/-! ## Outputs -/

/-- The bytes of the lines of entries. -/
def lineBytes (entries : List Entry) : List UInt8 :=
  Utf8.encodeChars (Manifest.linesChars (entries.map Entry.line))

/-- The bytes of one entry more. -/
theorem lineBytes_concat (entries : List Entry) (entry : Entry) :
    lineBytes (entries ++ [entry]) = lineBytes entries ++ Utf8.encode (entry.line ++ "\n") := by
  simp [lineBytes, Manifest.linesChars, Utf8.encode, Utf8.encodeChars]

/-- A line that is written is put at the end of the last output. -/
theorem flatten_contents_written {writer : Writer σ} {sink : Sink} (h : sink.Unlimited)
    (hsink : writer.sink = some sink) (type : LoadedType) (origin : Option Origin) (catalog : σ) :
    (writer.written type origin sink catalog).contents.flatten =
      writer.contents.flatten ++ Utf8.encode ((writer.entryOf type origin).line ++ "\n") := by
  obtain ⟨-, -, hcontents⟩ := Sink.writeLine_of_unlimited h (writer.entryOf type origin).line
  simp [contents, sinks, written, hsink, hcontents]

/-- **What is added to the outputs.** During calls, a writer over outputs without limits adds the lines
of its ledger to what its outputs hold, and nothing else. -/
theorem flatten_contents_after [Catalog σ] {writer : Writer σ} (h : writer.Unlimited)
    (calls : List Call) :
    (writer.after calls).contents.flatten =
      writer.contents.flatten ++ lineBytes (writer.ledger calls) := by
  have hstart : writer.Unlimited ∧
      writer.contents.flatten = writer.contents.flatten ++ lineBytes (entriesIn []) :=
    ⟨h, (List.append_nil _).symm⟩
  refine (run_induction (fun chronicle now => now.Unlimited ∧
    now.contents.flatten = writer.contents.flatten ++ lineBytes (entriesIn chronicle))
    ?load ?unload ?close hstart calls).2
  case load =>
    rintro chronicle now type origin outcome after ⟨hunlimited, hcontents⟩ hloads
    refine ⟨hunlimited.load hloads, ?_⟩
    cases hloads with
    | off | sinkless => simpa using hcontents
    | refused | rejected | interrupted =>
      simp only [told, Option.toList_none, List.append_nil]
      exact hcontents
    | imageless =>
      rw [contents_close]
      simpa using hcontents
    | known sink hready id hid => simpa [told_of_known hready hid] using hcontents
    | recorded sink hready catalog hjudged hwritten =>
      have hsink := hunlimited sink hready.sink_eq
      rw [told_of_judged hready hjudged, Option.toList_some, entriesIn_concat_recorded,
        lineBytes_concat, ← List.append_assoc, ← hcontents]
      exact flatten_contents_written hsink hready.sink_eq type origin catalog
    | failed sink hready catalog hjudged error hwritten =>
      rw [hunlimited.result_writeLine hready] at hwritten
      simp at hwritten
  case unload =>
    rintro chronicle now identity ⟨hunlimited, hcontents⟩
    rw [entriesIn_concat_unloaded]
    exact ⟨hunlimited, hcontents⟩
  case close =>
    rintro chronicle now ⟨hunlimited, hcontents⟩
    exact ⟨unlimited_of_sinkless (by simp), by rwa [contents_close]⟩

end Writer

end LoadOrder
