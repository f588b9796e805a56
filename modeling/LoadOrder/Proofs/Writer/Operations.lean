/-
# Writers and their sinks

A host may have a writer open a manifest, give it sinks and call it, in any order and as often as it
likes. The flag that says whether the writer is enabled is kept apart from its sink, and both are set
and cleared in many places. They agree all the same, until a load breaks off and poisons the lock.

Main statements:
- `mem_collect_iff`: what is told in a run, is told by one of its operations;
- `Coherent.load`, `Coherent.perform`: every operation leaves flag and sink in agreement;
- `enabled_iff_sink`: how they agree after any operations, and what a load can rely on.
-/
import LoadOrder.Proofs.Eligibility
import LoadOrder.Proofs.Sink
import LoadOrder.Proofs.Writer.Calls
import Mathlib.Data.List.Induction

namespace LoadOrder.Writer

variable {σ : Type}

/-! ## Operations -/

/-- What a host does with a writer: it has the writer open its manifest in a directory, gives it a
sink that is open, or calls it. -/
inductive Operation where
  | init (launch : Launch) (directory : Directory)
  | attach (sink : Sink) (isOpen : sink.isOpen = true)
  | call (call : Call)

/-- The writer after an operation. -/
def perform [Catalog σ] (writer : Writer σ) : Operation → Writer σ
  | .init launch directory => (writer.init launch directory).state.1
  | .attach sink _ => (writer.attach sink).state
  | .call call => (writer.call call).state

/-- The writer after operations. -/
def performAll [Catalog σ] (writer : Writer σ) (operations : List Operation) : Writer σ :=
  operations.foldl perform writer

/-- The writer after one operation more. -/
theorem performAll_concat [Catalog σ] (writer : Writer σ) (operations : List Operation)
    (operation : Operation) :
    writer.performAll (operations ++ [operation]) =
      (writer.performAll operations).perform operation := by
  rw [performAll, List.foldl_append]
  rfl

/-- What the operations of a run tell, in order, by what each tells of the writer that it meets. -/
def collect {α : Type} [Catalog σ] (tells : Writer σ → Operation → Option α) (writer : Writer σ) :
    List Operation → List α
  | [] => []
  | operation :: rest =>
    (tells writer operation).toList ++ (writer.perform operation).collect tells rest

/-- What is told in a run, is told by one of its operations. -/
theorem mem_collect_iff {α : Type} [Catalog σ] {tells : Writer σ → Operation → Option α}
    {writer : Writer σ} {operations : List Operation} {a : α} :
    a ∈ writer.collect tells operations ↔
      ∃ front operation back, operations = front ++ operation :: back ∧
        tells (writer.performAll front) operation = some a := by
  induction operations generalizing writer with
  | nil => simp [collect]
  | cons operation rest ih =>
    rw [collect, List.mem_append, Option.mem_toList, ih]
    constructor
    · rintro (hfirst | ⟨front, other, back, rfl, hlater⟩)
      · exact ⟨[], operation, rest, rfl, hfirst⟩
      · exact ⟨operation :: front, other, back, rfl, hlater⟩
    · rintro ⟨front, other, back, hsplit, hother⟩
      cases front with
      | nil =>
        obtain ⟨rfl, rfl⟩ := List.cons.inj hsplit
        exact .inl hother
      | cons first front =>
        obtain ⟨rfl, rfl⟩ := List.cons.inj hsplit
        exact .inr ⟨front, other, back, rfl, hother⟩

/-- Calls are operations. -/
theorem performAll_map_call [Catalog σ] (writer : Writer σ) (calls : List Call) :
    writer.performAll (calls.map .call) = writer.after calls := by
  rw [performAll, List.foldl_map]
  rfl

/-- Opening a manifest leaves a writer as it is, or gives it a sink that could be started over a
file. -/
theorem init_cases (launch : Launch) (directory : Directory) (writer : Writer σ) :
    (writer.init launch directory).state.1 = writer ∨
      ∃ sink path place, writer.poisoned = false ∧
        (Sink.start path { medium := .file } place).result = .ok () ∧
        (Sink.start path { medium := .file } place).state = sink ∧
        (writer.init launch directory).state.1 =
          { writer with sink := some sink, enabled := true } := by
  unfold init
  split
  · exact .inl rfl
  · next path hpath =>
    cases hpoisoned : writer.poisoned with
    | true => exact .inl (by simp)
    | false =>
    cases hsink : writer.sink with
    | some sink => exact .inl (by simp)
    | none =>
    cases hopened : (Sink.openFile path (writer.saveTo directory)).result with
    | error error => exact .inl (by simp [hopened])
    | ok sink =>
      obtain ⟨place, hstarted, hstate⟩ := Sink.exists_start_of_openFile hopened
      exact .inr ⟨sink, path, place, rfl, hstarted, hstate, by simp [hopened]⟩

/-- A sink is taken by a writer that has none, and whose lock is sound. -/
theorem attach_cases (sink : Sink) (writer : Writer σ) :
    (writer.attach sink).state = writer ∨ writer.poisoned = false ∧
      (writer.attach sink).state = { writer with sink := some sink, enabled := true } := by
  unfold attach
  split
  · next h =>
    rw [Bool.and_eq_true, Bool.not_eq_true'] at h
    exact .inr ⟨h.1, rfl⟩
  · exact .inl rfl

/-! ## Flag and sink -/

/-- A writer whose flag and sink agree: if it is enabled it has a sink, and the other way round as
long as its lock is sound; and a sink that it has is open. -/
structure Coherent (writer : Writer σ) : Prop where
  isOpen : ∀ sink, writer.sink = some sink → sink.isOpen = true
  sink : writer.enabled = true → writer.sink.isSome = true
  enabled : writer.poisoned = false → writer.sink.isSome = true → writer.enabled = true

/-- A new writer has no sink and is not enabled. -/
theorem coherent_new (config : Config) (catalog : σ) :
    Coherent ({ config, catalog } : Writer σ) := by
  constructor <;> simp

/-- A writer that was given an open sink is enabled. -/
theorem coherent_of_sink {writer : Writer σ} {sink : Sink} (henabled : writer.enabled = true)
    (hsink : writer.sink = some sink) (hopen : sink.isOpen = true) : writer.Coherent := by
  constructor
  case isOpen =>
    intro other hother
    rw [hsink] at hother
    rwa [← Option.some.inj hother]
  case sink => simp [hsink]
  case enabled => exact fun _ _ => henabled

/-- A closed writer has no sink and is not enabled. -/
theorem coherent_close (writer : Writer σ) : writer.close.state.Coherent := by
  constructor <;> simp

/-- However a load goes, flag and sink agree after it. -/
theorem Coherent.load [Catalog σ] {writer after : Writer σ} {type : LoadedType}
    {origin : Option Origin} {outcome : Outcome} (h : writer.Coherent)
    (hloads : Loads type origin writer outcome after) : after.Coherent := by
  cases hloads with
  | off | sinkless | known => exact h
  | refused henabled hpoisoned =>
    -- the sink stays with a writer that is disabled: this is where a poisoned lock shows
    exact ⟨h.isOpen, by simp, by simp [hpoisoned]⟩
  | imageless => exact coherent_close writer
  | rejected sink hready reason catalog => exact ⟨h.isOpen, h.sink, h.enabled⟩
  | interrupted sink hready catalog => exact ⟨h.isOpen, h.sink, by simp⟩
  | recorded sink hready catalog hjudged hwritten =>
    have hopen := Sink.isOpen_writeLine (h.isOpen sink hready.sink_eq) hwritten
    exact coherent_of_sink hready.enabled rfl hopen
  | failed sink hready catalog => exact coherent_close (writer.written type origin sink catalog)

/-- A call leaves flag and sink in agreement. -/
theorem Coherent.call [Catalog σ] {writer : Writer σ} (h : writer.Coherent) (call : Call) :
    (writer.call call).state.Coherent := by
  cases call with
  | load type origin => exact h.load (loads_load type origin writer)
  | unload identity => exact ⟨h.isOpen, h.sink, h.enabled⟩
  | close => exact coherent_close writer
  | idOf | live | outputPath | isEnabled => exact h

/-- Every operation leaves flag and sink in agreement. -/
theorem Coherent.perform [Catalog σ] {writer : Writer σ} (h : writer.Coherent)
    (operation : Operation) : (writer.perform operation).Coherent := by
  cases operation with
  | init launch directory =>
    rw [Writer.perform]
    rcases init_cases launch directory writer with hsame | ⟨sink, path, place, -, hstarted, hsink, hstate⟩
    · rwa [hsame]
    · rw [hstate]
      refine coherent_of_sink rfl rfl ?_
      rw [← hsink]
      exact (Sink.isOpen_start path .file place).1 hstarted
  | attach sink hopen =>
    rw [Writer.perform]
    rcases attach_cases sink writer with hsame | ⟨-, hstate⟩
    · rwa [hsame]
    · rw [hstate]
      exact coherent_of_sink rfl rfl hopen
  | call call => exact h.call call

/-- Flag and sink agree after any operations on a new writer. -/
theorem coherent_performAll [Catalog σ] (config : Config) (catalog : σ)
    (operations : List Operation) :
    (({ config, catalog } : Writer σ).performAll operations).Coherent := by
  induction operations using List.reverseRecOn with
  | nil => exact coherent_new config catalog
  | append_singleton operations operation ih =>
    rw [performAll_concat]
    exact ih.perform operation

/-! ## The configuration -/

/-- A load leaves the configuration as it is. -/
theorem config_load [Catalog σ] (type : LoadedType) (origin : Option Origin) (writer : Writer σ) :
    (writer.load type origin).state.config = writer.config := by
  have hloads := loads_load type origin writer
  generalize (writer.load type origin).result = outcome at hloads
  generalize (writer.load type origin).state = after at hloads ⊢
  cases hloads with
  | off | refused | sinkless | known | rejected | interrupted | recorded => rfl
  | imageless | failed => simp

/-- An operation leaves the configuration as it is. -/
theorem config_perform [Catalog σ] (operation : Operation) (writer : Writer σ) :
    (writer.perform operation).config = writer.config := by
  cases operation with
  | init launch directory =>
    rw [perform]
    rcases init_cases launch directory writer with hsame | ⟨sink, path, place, -, -, -, hstate⟩
    · rw [hsame]
    · rw [hstate]
  | attach sink hopen =>
    rw [perform]
    rcases attach_cases sink writer with hsame | ⟨-, hstate⟩
    · rw [hsame]
    · rw [hstate]
  | call call =>
    cases call with
    | load type origin => exact config_load type origin writer
    | close => simp [perform, Writer.call]
    | unload | idOf | live | outputPath | isEnabled => rfl

/-- Operations leave the configuration as it is. -/
theorem config_performAll [Catalog σ] (operations : List Operation) (writer : Writer σ) :
    (writer.performAll operations).config = writer.config := by
  induction operations using List.reverseRecOn with
  | nil => rfl
  | append_singleton operations operation ih =>
    rw [performAll_concat, config_perform]
    exact ih

/-! ## The lock -/

/-- If the catalog answers, no load is interrupted. -/
theorem load_ne_interrupted [Catalog σ] (hanswers : Catalog.Answers σ) (type : LoadedType)
    (origin : Option Origin) (writer : Writer σ) :
    (writer.load type origin).result ≠ .interrupted := by
  have hloads := loads_load type origin writer
  generalize (writer.load type origin).state = after at hloads
  intro hresult
  rw [hresult] at hloads
  cases hloads with
  | interrupted sink hready catalog hjudged =>
    have hdecision := Eligibility.check_ne_interrupted hanswers writer.config.pathStyle
      writer.registry.hasId type origin writer.catalog
    rw [hjudged.2] at hdecision
    exact hdecision rfl

/-- If the catalog answers, every operation leaves the lock as it is. -/
theorem poisoned_perform [Catalog σ] (hanswers : Catalog.Answers σ) (operation : Operation)
    (writer : Writer σ) : (writer.perform operation).poisoned = writer.poisoned := by
  cases operation with
  | init launch directory =>
    rw [perform]
    rcases init_cases launch directory writer with hsame | ⟨sink, path, place, -, -, -, hstate⟩
    · rw [hsame]
    · rw [hstate]
  | attach sink hopen =>
    rw [perform]
    rcases attach_cases sink writer with hsame | ⟨-, hstate⟩
    · rw [hsame]
    · rw [hstate]
  | call call =>
    cases call with
    | load type origin =>
      have hresult := load_ne_interrupted hanswers type origin writer
      have hloads := loads_load type origin writer
      show (writer.load type origin).state.poisoned = writer.poisoned
      generalize (writer.load type origin).result = outcome at hloads hresult
      generalize (writer.load type origin).state = after at hloads ⊢
      cases hloads with
      | off | refused | sinkless | known | rejected | recorded => rfl
      | imageless | failed => simp
      | interrupted => exact absurd rfl hresult
    | close => simp [perform, Writer.call]
    | unload | idOf | live | outputPath | isEnabled => rfl

/-- If the catalog answers, the lock of a new writer stays sound. -/
theorem poisoned_performAll [Catalog σ] (hanswers : Catalog.Answers σ) (config : Config)
    (catalog : σ) (operations : List Operation) :
    (({ config, catalog } : Writer σ).performAll operations).poisoned = false := by
  induction operations using List.reverseRecOn with
  | nil => rfl
  | append_singleton operations operation ih =>
    rw [performAll_concat, poisoned_perform hanswers]
    exact ih

/-! ## What a load can rely on -/

/-- Closing a writer tells of no failed write. -/
theorem writeFailed_not_mem_close (error : Error) (writer : Writer σ) :
    .writeFailed error ∉ writer.close.notices := by
  unfold close shutdown
  cases writer.sink with
  | none => simp
  | some sink =>
    dsimp only
    rcases Sink.notices_close sink with hnotices | hnotices <;>
      · rw [hnotices]
        split <;> simp

/-- A writer whose sink is not open any more is closed without a word. -/
theorem notices_close_of_not_open {writer : Writer σ} {sink : Sink} (hsink : writer.sink = some sink)
    (h : sink.isOpen = false) : writer.close.notices = [] := by
  simp [close, shutdown, hsink, h]

/-- A write that a load tells of has failed for a fault of the output. -/
theorem Coherent.io_of_writeFailed [Catalog σ] {writer : Writer σ} (h : writer.Coherent)
    {type : LoadedType} {origin : Option Origin} {error : Error}
    (hmem : .writeFailed error ∈ (writer.load type origin).notices) :
    ∃ message path, error = .io message path := by
  revert hmem
  refine load_cases type origin writer
    (motive := fun e => .writeFailed error ∈ e.notices → ∃ message path, error = .io message path)
    ?off ?refused ?sinkless ?imageless ?known ?rejected ?interrupted ?recorded ?failed
  case off | refused | sinkless | known | rejected | interrupted => simp
  case imageless =>
    intro sink henabled hpoisoned hsink himage hmem
    rcases List.mem_cons.1 hmem with hmem | hmem
    · simp at hmem
    · exact absurd hmem (writeFailed_not_mem_close error writer)
  case recorded =>
    intro sink catalog hready hjudged written hwritten hmem
    have hlevel := Sink.level_of_mem_notices_writeLine hmem
    simp [Notice.level] at hlevel
  case failed =>
    intro sink catalog fault hready hjudged written closed hwritten hmem
    obtain ⟨⟨message, hfault⟩, hreleased⟩ :=
      Sink.released_writeLine (h.isOpen sink hready.sink_eq) hwritten
    have hsilent : closed.notices = [] := notices_close_of_not_open rfl hreleased
    rw [hsilent, List.append_nil] at hmem
    rcases List.mem_append.1 hmem with hmem | hmem
    · have hlevel := Sink.level_of_mem_notices_writeLine hmem
      simp [Notice.level] at hlevel
    · rw [Notice.writeFailed.inj (List.mem_singleton.1 hmem)]
      exact ⟨message, _, hfault⟩

/-- **Flag and sink agree.** After any operations on a new writer, an enabled writer has a sink, and
as long as its lock is sound a writer with a sink is enabled. A sink that it has is open. So a load of
an enabled writer, whatever it makes of the type, has a sink at hand that refuses no line for being
closed; and no load ever reports such a refusal. -/
theorem enabled_iff_sink [Catalog σ] (config : Config) (catalog : σ)
    (operations : List Operation) :
    let writer := ({ config, catalog } : Writer σ).performAll operations
    (writer.enabled = true → writer.sink.isSome = true) ∧
    (∀ sink, writer.sink = some sink → sink.isOpen = true) ∧
    (writer.poisoned = false → (writer.enabled = true ↔ writer.sink.isSome = true)) ∧
    (writer.enabled = true → ∃ sink, writer.sink = some sink ∧
      ∀ line, (sink.writeLine line).result ≠ .error .sinkClosed) ∧
    ∀ type origin, .writeFailed .sinkClosed ∉ (writer.load type origin).notices := by
  intro writer
  have h : writer.Coherent := coherent_performAll config catalog operations
  refine ⟨h.sink, h.isOpen, fun hsound => ⟨h.sink, h.enabled hsound⟩, ?_, ?_⟩
  · intro henabled
    obtain ⟨sink, hsink⟩ := Option.isSome_iff_exists.1 (h.sink henabled)
    refine ⟨sink, hsink, ?_⟩
    intro line hrefused
    obtain ⟨⟨message, hmessage⟩, -⟩ := Sink.released_writeLine (h.isOpen sink hsink) hrefused
    simp at hmessage
  · intro type origin hmem
    obtain ⟨message, path, hmessage⟩ := h.io_of_writeFailed hmem
    simp at hmessage

end LoadOrder.Writer
