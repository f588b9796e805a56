/-
# Warnings

A writer warns in four places: when it finds its lock poisoned, when the runtime has no packaged
image, when a line cannot be written, and when a sink cannot be closed. A line that cannot be written
has the sink closed as well. Only the first warning of a writer is ever given, unless the flush of a
sink fails that is closed while it is still open.

Main statements:
- `Coherent.warnings_call`: a call warns once if it switches the writer off, and not otherwise;
- `switchedOff_or_not`: a run has been switched off once, with one warning, or not at all;
- `one_failure_one_warning`: the warnings of a writer from its sink to its end.
-/
import LoadOrder.Proofs.Writer.Operations

namespace LoadOrder.Writer

variable {σ : Type}

/-! ## The log of a run -/

/-- What the log is told during calls. -/
def log [Catalog σ] (writer : Writer σ) : List Call → List Notice
  | [] => []
  | call :: rest => (writer.call call).notices ++ (writer.call call).state.log rest

/-- The log of a run goes on from where its first part ended. -/
theorem log_append [Catalog σ] (writer : Writer σ) (front back : List Call) :
    writer.log (front ++ back) = writer.log front ++ (writer.after front).log back := by
  induction front generalizing writer with
  | nil => rfl
  | cons call rest ih =>
    rw [List.cons_append, log, log, ih, List.append_assoc, after, after, List.foldl_cons]

/-- The warnings among notices. -/
def warnings (notices : List Notice) : List Notice :=
  notices.filter fun notice => notice.level = .warn

/-- Notices that are all of another level hold no warning. -/
theorem warnings_eq_nil {notices : List Notice} (h : ∀ notice ∈ notices, notice.level ≠ .warn) :
    warnings notices = [] := by
  rw [warnings, List.filter_eq_nil_iff]
  intro notice hnotice
  rw [decide_eq_true_eq]
  exact h notice hnotice

/-- The warnings of two parts of a log. -/
@[simp] theorem warnings_append (front back : List Notice) :
    warnings (front ++ back) = warnings front ++ warnings back :=
  List.filter_append front back

/-- Writing a line gives no warning, whether it succeeds or fails. -/
@[simp] theorem warnings_writeLine (line : String) (sink : Sink) :
    warnings (sink.writeLine line).notices = [] := by
  apply warnings_eq_nil
  intro notice hnotice
  rw [Sink.level_of_mem_notices_writeLine hnotice]
  decide

/-! ## Switching off -/

/-- A load that is answered as disabled although the writer was enabled just before. -/
def SwitchesOff [Catalog σ] (writer : Writer σ) (call : Call) : Prop :=
  ∃ type origin, call = .load type origin ∧ writer.enabled = true ∧
    (writer.load type origin).result = .disabled

/-- The calls that close a sink while it is still open: a closing of the writer, and a load that
could be recorded but for the packaged image that is missing. -/
inductive ClosesOpen (writer : Writer σ) (sink : Sink) : Call → Prop where
  | close (hsink : writer.sink = some sink) (hopen : sink.isOpen = true) :
      ClosesOpen writer sink .close
  | imageless (type : LoadedType) (origin : Option Origin) (henabled : writer.enabled = true)
      (hpoisoned : writer.poisoned = false) (himage : writer.config.hasRuntimeImage = false)
      (hsink : writer.sink = some sink) (hopen : sink.isOpen = true) :
      ClosesOpen writer sink (.load type origin)

/-- A closing gives no warning if the flush of a sink that is still open succeeds. -/
theorem warnings_close {writer : Writer σ}
    (hflush : ∀ sink, writer.sink = some sink → sink.isOpen = true →
      sink.output.flush.1 = .ok ()) :
    warnings writer.close.notices = [] := by
  unfold close shutdown
  cases hsink : writer.sink with
  | none => rfl
  | some sink =>
    cases hopen : sink.isOpen with
    | false => simp [hopen, warnings]
    | true =>
      have hresult := hflush sink hsink hopen
      simp [Sink.close, hopen, hresult, warnings, Notice.level]

/-- A writer that is not enabled is not enabled by a call. -/
theorem enabled_call_of_off [Catalog σ] {writer : Writer σ} (h : writer.enabled = false)
    (call : Call) : (writer.call call).state.enabled = false := by
  cases call with
  | load type origin =>
    rw [Writer.call, load_of_off h]
    exact h
  | close => simp [Writer.call]
  | unload | idOf | live | outputPath | isEnabled => exact h

/-- A writer that is not enabled is not enabled by calls. -/
theorem enabled_after_of_off [Catalog σ] {writer : Writer σ} (h : writer.enabled = false)
    (calls : List Call) : (writer.after calls).enabled = false := by
  induction calls generalizing writer with
  | nil => exact h
  | cons call rest ih => exact ih (enabled_call_of_off h call)

/-- A load warns once if it switches the writer off, which is then no longer enabled. Any other load
gives no warning. -/
theorem Coherent.warnings_load [Catalog σ] {writer : Writer σ} (h : writer.Coherent)
    (type : LoadedType) (origin : Option Origin)
    (hflush : ∀ sink, writer.ClosesOpen sink (.load type origin) →
      sink.output.flush.1 = .ok ()) :
    let e := writer.load type origin
    (writer.enabled = true ∧ e.result = .disabled) ∧
        (warnings e.notices).length = 1 ∧ e.state.enabled = false ∨
      ¬ (writer.enabled = true ∧ e.result = .disabled) ∧ warnings e.notices = [] := by
  refine load_cases type origin writer
    (motive := fun e => (writer.enabled = true ∧ e.result = .disabled) ∧
        (warnings e.notices).length = 1 ∧ e.state.enabled = false ∨
      ¬ (writer.enabled = true ∧ e.result = .disabled) ∧ warnings e.notices = [])
    ?off ?refused ?sinkless ?imageless ?known ?rejected ?interrupted ?recorded ?failed
  case off =>
    intro hoff
    right
    simp [hoff, warnings]
  case refused =>
    intro henabled hpoisoned
    left
    exact ⟨⟨henabled, rfl⟩, rfl, rfl⟩
  case sinkless =>
    intro _ hsink
    right
    have hoff : writer.enabled ≠ true := fun henabled => by
      have hsome := h.sink henabled
      simp [hsink] at hsome
    exact ⟨fun hboth => hoff hboth.1, rfl⟩
  case imageless =>
    intro sink henabled hpoisoned hsink himage
    left
    have hclose : warnings writer.close.notices = [] := by
      apply warnings_close
      intro other hother hopen
      exact hflush other (.imageless type origin henabled hpoisoned himage hother hopen)
    have hwarnings : warnings (.noRuntimeImage :: writer.close.notices) = [.noRuntimeImage] := by
      rw [← List.singleton_append, warnings_append, hclose]
      rfl
    refine ⟨⟨henabled, rfl⟩, ?_, ?_⟩
    · show (warnings (.noRuntimeImage :: writer.close.notices)).length = 1
      rw [hwarnings, List.length_singleton]
    · simp
  case known | rejected | interrupted =>
    intros
    right
    simp [warnings, Notice.level]
  case recorded =>
    intro sink catalog hready hjudged written hwritten
    right
    exact ⟨by simp, warnings_writeLine _ sink⟩
  case failed =>
    intro sink catalog error hready hjudged written closed hwritten
    left
    obtain ⟨-, hreleased⟩ := Sink.released_writeLine (h.isOpen sink hready.sink_eq) hwritten
    -- the failed write has released the sink, so closing it is of no consequence
    have hclosed : closed.notices = [] := notices_close_of_not_open rfl hreleased
    have hwarnings : warnings (written.notices ++ [.writeFailed error] ++ closed.notices) =
        [.writeFailed error] := by
      rw [hclosed, List.append_nil, warnings_append, warnings_writeLine]
      rfl
    refine ⟨⟨hready.enabled, rfl⟩, ?_, ?_⟩
    · show (warnings (written.notices ++ [.writeFailed error] ++ closed.notices)).length = 1
      rw [hwarnings, List.length_singleton]
    · simp [closed]

/-- A call warns once if it switches the writer off, which is then no longer enabled. Any other call
gives no warning. -/
theorem Coherent.warnings_call [Catalog σ] {writer : Writer σ} (h : writer.Coherent) (call : Call)
    (hflush : ∀ sink, writer.ClosesOpen sink call → sink.output.flush.1 = .ok ()) :
    writer.SwitchesOff call ∧ (warnings (writer.call call).notices).length = 1 ∧
        (writer.call call).state.enabled = false ∨
      ¬ writer.SwitchesOff call ∧ warnings (writer.call call).notices = [] := by
  cases call with
  | load type origin =>
    rcases h.warnings_load type origin hflush with ⟨hoff, hone⟩ | ⟨hon, hnone⟩
    · exact .inl ⟨⟨type, origin, rfl, hoff⟩, hone⟩
    · right
      refine ⟨?_, hnone⟩
      rintro ⟨_, _, heq, hoff⟩
      cases heq
      exact hon hoff
  | close =>
    right
    refine ⟨by simp [SwitchesOff], warnings_close ?_⟩
    intro sink hsink hopen
    exact hflush sink (.close hsink hopen)
  | unload identity =>
    right
    refine ⟨by simp [SwitchesOff], warnings_eq_nil ?_⟩
    intro notice hnotice
    cases hid : writer.registry.idOf identity with
    | none => simp [Writer.call, unload, hid] at hnotice
    | some id =>
      have heq : notice = .unloaded identity id := by
        simpa [Writer.call, unload, hid] using hnotice
      simp [heq, Notice.level]
  | idOf | live | outputPath | isEnabled => exact .inr ⟨by simp [SwitchesOff], rfl⟩

/-! ## Runs -/

/-- The sinks that are closed during calls while they are still open can be flushed once more. -/
def ClosesCleanly [Catalog σ] (writer : Writer σ) (calls : List Call) : Prop :=
  ∀ front call, front ++ [call] <+: calls →
    ∀ sink, (writer.after front).ClosesOpen sink call → sink.output.flush.1 = .ok ()

/-- A call during a run that switches the writer off. -/
def SwitchedOff [Catalog σ] (writer : Writer σ) (calls : List Call) : Prop :=
  ∃ front call, front ++ [call] <+: calls ∧ (writer.after front).SwitchesOff call

/-- A load that is answered as disabled although the writer is enabled switches it off. -/
theorem switchedOff_of_load [Catalog σ] {writer : Writer σ} {front : List Call} {type : LoadedType}
    {origin : Option Origin} (henabled : (writer.after front).enabled = true)
    (hdisabled : ((writer.after front).load type origin).result = .disabled) (back : List Call) :
    writer.SwitchedOff (front ++ .load type origin :: back) :=
  ⟨front, .load type origin, ⟨back, by simp⟩, type, origin, rfl, henabled, hdisabled⟩

/-- Flag and sink agree throughout. -/
theorem Coherent.after [Catalog σ] {writer : Writer σ} (h : writer.Coherent) (calls : List Call) :
    (writer.after calls).Coherent := by
  induction calls generalizing writer with
  | nil => exact h
  | cons call rest ih => exact ih (h.call call)

/-- One call more switches the writer off, or it was switched off before. -/
theorem switchedOff_concat_iff [Catalog σ] (writer : Writer σ) (calls : List Call) (call : Call) :
    writer.SwitchedOff (calls ++ [call]) ↔
      writer.SwitchedOff calls ∨ (writer.after calls).SwitchesOff call := by
  constructor
  · rintro ⟨front, other, hpart, hoff⟩
    rcases List.prefix_concat_iff.1 hpart with heq | hpart
    · obtain ⟨rfl, hlast⟩ := List.append_inj' heq rfl
      cases hlast
      exact .inr hoff
    · exact .inl ⟨front, other, hpart, hoff⟩
  · rintro (⟨front, other, hpart, hoff⟩ | hoff)
    · exact ⟨front, other, hpart.trans (List.prefix_append calls [call]), hoff⟩
    · exact ⟨calls, call, List.prefix_refl _, hoff⟩

/-- A run in which the writer was switched off has one warning in its log and leaves the writer off.
Any other run has none. -/
theorem switchedOff_or_not [Catalog σ] {writer : Writer σ} (h : writer.Coherent)
    (calls : List Call) (hclean : writer.ClosesCleanly calls) :
    writer.SwitchedOff calls ∧ (warnings (writer.log calls)).length = 1 ∧
        (writer.after calls).enabled = false ∨
      ¬ writer.SwitchedOff calls ∧ warnings (writer.log calls) = [] := by
  induction calls using List.reverseRecOn with
  | nil =>
    right
    refine ⟨?_, rfl⟩
    rintro ⟨front, call, hpart, -⟩
    simp at hpart
  | append_singleton calls call ih =>
    have hlog : warnings (writer.log (calls ++ [call])) =
        warnings (writer.log calls) ++ warnings ((writer.after calls).call call).notices := by
      rw [log_append, warnings_append, log, log, List.append_nil]
    have hafter : writer.after (calls ++ [call]) = ((writer.after calls).call call).state :=
      after_append writer calls [call]
    rw [switchedOff_concat_iff, hlog, hafter]
    have hcall := (h.after calls).warnings_call call (hclean calls call (List.prefix_refl _))
    rcases ih fun front other hpart => hclean front other (hpart.trans (List.prefix_append _ _)) with
      ⟨hoff, hone, hdisabled⟩ | ⟨hon, hnone⟩
    · left
      rcases hcall with ⟨⟨type, origin, rfl, henabled, -⟩, -⟩ | ⟨-, hsilent⟩
      · simp [hdisabled] at henabled
      · rw [hsilent, List.append_nil]
        exact ⟨.inl hoff, hone, enabled_call_of_off hdisabled call⟩
    · rw [hnone, List.nil_append]
      rcases hcall with ⟨hswitches, hone, hdisabled⟩ | ⟨hkeeps, hsilent⟩
      · exact .inl ⟨.inr hswitches, hone, hdisabled⟩
      · exact .inr ⟨not_or.2 ⟨hon, hkeeps⟩, hsilent⟩

/-- Where no flush ever fails, every sink that is closed can be flushed. -/
theorem closesCleanly_of_medium [Catalog σ] {writer : Writer σ}
    (h : ∀ sink, writer.sink = some sink → sink.output.medium.failingFlush = 0)
    (calls : List Call) : writer.ClosesCleanly calls := by
  intro front call _ sink hcloses
  have hmedium : ∀ sink, (writer.after front).sink = some sink →
      sink.output.medium.failingFlush = 0 := by
    refine run_induction
      (fun _ writer => ∀ sink, writer.sink = some sink → sink.output.medium.failingFlush = 0)
      ?load ?unload ?close h front
    case load =>
      intro _ writer type origin outcome after hbefore hloads
      cases hloads with
      | off | refused | sinkless | known | rejected | interrupted => exact hbefore
      | imageless | failed => simp
      | recorded sink hready catalog hjudged hwritten =>
        intro other hother
        obtain rfl := Option.some.inj hother
        simpa using hbefore sink hready.sink_eq
    case unload => exact fun _ _ _ hbefore => hbefore
    case close =>
      intro _ writer _
      simp
  have hnone : sink.output.medium.failingFlush = 0 := by
    cases hcloses with
    | close hsink => exact hmedium sink hsink
    | imageless _ _ _ _ _ hsink => exact hmedium sink hsink
  simp [Output.flush, hnone]

/-- A new writer takes a sink without a word, and is enabled. -/
theorem attach_new (config : Config) (catalog : σ) (sink : Sink) :
    attach sink { config, catalog } =
      { result := (.ok (), none)
        state := { config, catalog, sink := some sink, enabled := true } } := rfl

/-- **One failure, one warning.** A new writer is given an open sink, called in any way and closed at
the end, and every sink that is closed while it is still open can be flushed. Then there is at most
one warning in the log. There is one exactly if some load was answered as disabled while the writer
was enabled, and it is given by that load. From then on all loads are answered as disabled, and the
log is told nothing of them. -/
theorem one_failure_one_warning [Catalog σ] (config : Config) (catalog : σ) (sink : Sink)
    (hopen : sink.isOpen = true) (calls : List Call)
    (hclean : (attach sink ({ config, catalog } : Writer σ)).state.ClosesCleanly
      (calls ++ [.close])) :
    let attached := attach sink ({ config, catalog } : Writer σ)
    let writer := attached.state
    let run := calls ++ [.close]
    let warned := warnings (attached.notices ++ writer.log run)
    warned.length ≤ 1 ∧ (warned.length = 1 ↔ writer.SwitchedOff run) ∧
    ∀ front call, front ++ [call] <+: run →
      let now := writer.after front
      (warnings (now.call call).notices ≠ [] ↔ now.SwitchesOff call) ∧
      (warnings (now.call call).notices ≠ [] → ∀ later type origin,
        let disabled := (now.call call).state.after later
        disabled.load type origin = { result := .disabled, state := disabled }) := by
  intro attached writer run warned
  have hattached : attached = _ := attach_new config catalog sink
  have hcoherent : writer.Coherent := by
    refine coherent_of_sink ?_ ?_ hopen
    · show attached.state.enabled = true
      rw [hattached]
    · show attached.state.sink = some sink
      rw [hattached]
  have hwarned : warned = warnings (writer.log run) := by
    show warnings (attached.notices ++ writer.log run) = _
    rw [hattached, List.nil_append]
  have hcall : ∀ front call, front ++ [call] <+: run → _ := fun front call hpart =>
    (hcoherent.after front).warnings_call call (hclean front call hpart)
  rw [hwarned]
  refine ⟨?_, ?_, ?_⟩
  · rcases switchedOff_or_not hcoherent run hclean with ⟨-, hone, -⟩ | ⟨-, hnone⟩
    · exact Nat.le_of_eq hone
    · simp [hnone]
  · rcases switchedOff_or_not hcoherent run hclean with ⟨hoff, hone, -⟩ | ⟨hon, hnone⟩
    · simp [hoff, hone]
    · simp [hon, hnone]
  · intro front call hpart now
    rcases hcall front call hpart with ⟨hoff, hone, hdisabled⟩ | ⟨hon, hnone⟩
    · have hsome : warnings (now.call call).notices ≠ [] := by
        intro hnil
        simp [now, hnil] at hone
      refine ⟨by simp [hsome, now, hoff], ?_⟩
      intro _ later type origin disabled
      exact load_of_off (enabled_after_of_off hdisabled later) type origin
    · have hnil : warnings (now.call call).notices = [] := hnone
      exact ⟨by simp [hnil, now, hon], fun hsome => absurd hnil hsome⟩

/-- A line does not fit into the output. That gives the one warning of the writer, though the writer
is called again and closed after it. -/
theorem one_warning_of_full_output :
    let room := (Utf8.encode Manifest.headerText).length + 12
    let sink := (Sink.start ⟨[]⟩ { medium := { capacity := some room } } none).state
    let attached := attach sink ({ config := {}, catalog := {} } : Writer NameCatalog)
    let writer := attached.state
    let front : List Call := [.load (.plain ⟨1⟩ "A" .builtin) none]
    let back : List Call := [.load (.plain ⟨3⟩ "B" .builtin) none, .unload ⟨1⟩]
    let calls := front ++ .load (.plain ⟨2⟩ "SomeLongerName" .builtin) none :: back
    sink.isOpen = true ∧ writer.ClosesCleanly (calls ++ [.close]) ∧
      (warnings (attached.notices ++ writer.log (calls ++ [.close]))).length = 1 := by
  intro room sink attached writer front back calls
  have hrun : sink.isOpen = true ∧ (writer.after front).enabled = true ∧
      ((writer.after front).load (.plain ⟨2⟩ "SomeLongerName" .builtin) none).result =
        .disabled := by
    decide +kernel
  obtain ⟨hopen, henabled, hdisabled⟩ := hrun
  have hclean : writer.ClosesCleanly (calls ++ [.close]) := by
    refine closesCleanly_of_medium ?_ _
    intro other hother
    obtain rfl : sink = other := Option.some.inj hother
    simp [sink]
  have hoff : writer.SwitchedOff (calls ++ [.close]) := by
    rw [List.append_assoc, List.cons_append]
    exact switchedOff_of_load henabled hdisabled _
  have hmain := one_failure_one_warning {} ({} : NameCatalog) sink hopen calls hclean
  exact ⟨hopen, hclean, hmain.2.1.2 hoff⟩

end LoadOrder.Writer
