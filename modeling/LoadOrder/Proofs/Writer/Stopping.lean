/-
# Giving up

A writer gives up when a line cannot be written, when the runtime has no packaged image, and when it
finds its lock poisoned. It records nothing more until it is given another sink, and then it starts
again. Only a poisoned lock keeps every sink away, and without a packaged image a new sink gets no
line.

Main statements:
- `GivesUp.load`: what is left of a writer that gives up;
- `stopped_answer`: a request that gives no sink leaves a stopped writer stopped;
- `Silent.answer`: requests that can record nothing add nothing but headers;
- `stays_off_iff`: how long a writer stays off.
-/
import LoadOrder.Proofs.Sink
import LoadOrder.Proofs.Writer.LostLines
import LoadOrder.Writer.Session

namespace LoadOrder

variable {σ : Type}

namespace Writer

/-! ## Writers that give up -/

/-- The loads that make a writer give up. -/
inductive GivesUp [Catalog σ] (type : LoadedType) (origin : Option Origin) (writer : Writer σ) :
    Prop where
  | poisoned (henabled : writer.enabled = true) (h : writer.poisoned = true) :
      GivesUp type origin writer
  | imageless (henabled : writer.enabled = true) (hpoisoned : writer.poisoned = false)
      (hsink : writer.sink.isSome = true) (h : writer.config.hasRuntimeImage = false) :
      GivesUp type origin writer
  | failed (h : writer.LosesLine type origin) : GivesUp type origin writer

/-- A writer that is off: it is disabled, and it has no sink or its lock is poisoned. -/
structure Stopped (writer : Writer σ) : Prop where
  enabled : writer.enabled = false
  sink : writer.sink = none ∨ writer.poisoned = true

/-- A closed writer is off. -/
theorem stopped_close (writer : Writer σ) : writer.close.state.Stopped :=
  ⟨by simp, .inl (by simp)⟩

/-- A load that makes the writer give up is answered as disabled and leaves the writer off, with its
lock as it was. -/
theorem GivesUp.load [Catalog σ] {type : LoadedType} {origin : Option Origin} {writer : Writer σ}
    (h : writer.GivesUp type origin) :
    (writer.load type origin).result = .disabled ∧ (writer.load type origin).state.Stopped ∧
      (writer.load type origin).state.poisoned = writer.poisoned := by
  cases h with
  | poisoned henabled h =>
    rw [load_of_poisoned henabled h]
    exact ⟨rfl, ⟨rfl, .inr h⟩, rfl⟩
  | imageless henabled hpoisoned hsink h =>
    obtain ⟨sink, hsink⟩ := Option.isSome_iff_exists.1 hsink
    rw [load_of_imageless henabled hpoisoned hsink h]
    exact ⟨rfl, stopped_close writer, by simp⟩
  | failed h =>
    have hlost := h.lost
    obtain ⟨sink, hready⟩ := hlost.wasReady
    refine ⟨hlost.result, ⟨hlost.enabled, .inl hlost.sink⟩, ?_⟩
    rw [hlost.poisoned, hready.poisoned]

/-! ## Writers that can record nothing -/

/-- What the outputs of all sinks hold, the oldest first. -/
def contents (writer : Writer σ) : List (List UInt8) :=
  writer.sinks.map fun sink => sink.output.contents

/-- A writer that can record nothing: it is disabled, or the runtime has no packaged image. -/
def Mute (writer : Writer σ) : Prop :=
  writer.enabled = false ∨ writer.config.hasRuntimeImage = false

/-- A writer that can record nothing is not ready. -/
theorem Mute.not_ready {writer : Writer σ} (h : writer.Mute) (sink : Sink) : ¬ writer.Ready sink := by
  intro hready
  rcases h with h | h
  · simp [hready.enabled] at h
  · simp [hready.hasRuntimeImage] at h

/-- Closing changes nothing in any output. -/
theorem contents_close (writer : Writer σ) : writer.close.state.contents = writer.contents := by
  cases hsink : writer.sink with
  | none => simp [contents, sinks, hsink]
  | some sink => simp [contents, sinks, hsink]

/-- A load of a writer that can record nothing is answered as disabled and writes nothing. It leaves
the configuration as it is. -/
theorem Mute.load [Catalog σ] {writer : Writer σ} (h : writer.Mute) (type : LoadedType)
    (origin : Option Origin) :
    (writer.load type origin).result = .disabled ∧
      (writer.load type origin).state.config = writer.config ∧
      (writer.load type origin).state.contents = writer.contents := by
  have hloads := loads_load type origin writer
  generalize (writer.load type origin).result = outcome at hloads ⊢
  generalize (writer.load type origin).state = after at hloads ⊢
  cases hloads with
  | off | sinkless | refused => exact ⟨rfl, rfl, rfl⟩
  | imageless => exact ⟨rfl, by simp, contents_close writer⟩
  | known sink hready | rejected sink hready | interrupted sink hready | recorded sink hready
  | failed sink hready => exact absurd hready (h.not_ready sink)

end Writer

namespace Session

/-! ## Sessions, request by request -/

/-- The session after requests. -/
def after [Catalog σ] (session : Session σ) (requests : List Request) : Session σ :=
  requests.foldl (fun session request => (session.answer request).state) session

/-- The session after one request more. -/
theorem after_concat [Catalog σ] (session : Session σ) (requests : List Request)
    (request : Request) :
    session.after (requests ++ [request]) = ((session.after requests).answer request).state := by
  rw [after, List.foldl_append]
  rfl

/-- A load is answered by the writer. -/
theorem result_answer_load [Catalog σ] (session : Session σ) (type : LoadedType)
    (origin : Option Origin) :
    (session.answer (.load type origin)).result =
      .outcome (session.writer.load type origin).result := rfl

/-- An offer goes to the writer. -/
theorem answer_attach [Catalog σ] (session : Session σ) (path : FilePath) (medium : Medium) :
    session.answer (.attach path medium) =
      { result := .finished (session.attach path medium).result
        state := (session.attach path medium).state
        notices := (session.attach path medium).notices } := rfl

/-- The session after an offer, told by the sink that comes of starting it. -/
theorem state_answer_attach [Catalog σ] {session : Session σ} {path : FilePath} {medium : Medium}
    {started : Effect Sink (Except Error Unit)}
    (h : Sink.start path { medium } none = started) :
    (session.answer (.attach path medium)).state = (session.offer started).state := by
  rw [answer_attach, attach, h]

/-- The requests that give the writer a sink: it has none, its lock is sound, and the file can be
opened or the sink that is offered has its header. -/
inductive Restarts (session : Session σ) : Request → Prop where
  | init (path : FilePath) (sink : Sink)
      (hpath : session.writer.config.resolvedOutput session.launch = some path)
      (hpoisoned : session.writer.poisoned = false) (hsink : session.writer.sink = none)
      (h : (Sink.openFile path (session.writer.saveTo session.directory)).result = .ok sink) :
      Restarts session .init
  | attach (path : FilePath) (medium : Medium) (hpoisoned : session.writer.poisoned = false)
      (hsink : session.writer.sink = none)
      (h : (Sink.start path { medium } none).result = .ok ()) :
      Restarts session (.attach path medium)

/-- A sink over a new file holds the header. -/
theorem contents_openFile {path : FilePath} {directory : Directory} {sink : Sink}
    (h : (Sink.openFile path directory).result = .ok sink) :
    sink.output.contents = Utf8.encode Manifest.headerText := by
  obtain ⟨place, hstarted, hstate⟩ := Sink.exists_start_of_openFile h
  rw [← hstate]
  exact Sink.contents_start hstarted

/-- A sink that could not be started is not offered. -/
theorem offer_of_error {session : Session σ} {started : Effect Sink (Except Error Unit)}
    {error : Error} (h : started.result = .error error) :
    (session.offer started).state =
      { session with offered := session.offered ++ [some started.state.output] } := by
  simp [offer, h]

/-- A writer that has no sink, and whose lock is sound, takes the sink that it is offered. -/
theorem offer_of_sinkless {session : Session σ} {started : Effect Sink (Except Error Unit)}
    (hpoisoned : session.writer.poisoned = false) (hsink : session.writer.sink = none)
    (h : started.result = .ok ()) :
    (session.offer started).state =
      { session with
        writer := { session.writer with sink := some started.state, enabled := true }
        offered := session.offered ++ [none] } := by
  simp [offer, Writer.attach, hpoisoned, hsink, h]

/-- Any other writer declines it, and it is closed. -/
theorem offer_of_declined {session : Session σ} {started : Effect Sink (Except Error Unit)}
    (hdeclined : (! session.writer.poisoned && session.writer.sink.isNone) = false)
    (h : started.result = .ok ()) :
    (session.offer started).state =
      { session with
        offered := session.offered ++ [some started.state.close.state.output] } := by
  simp only [offer, h, Writer.attach, hdeclined]
  rfl

/-- A request that gives the writer a sink enables it. The sink holds the header, and no output is
left with the session. -/
theorem Restarts.answer [Catalog σ] {session : Session σ} {request : Request}
    (h : session.Restarts request) :
    ∃ sink, session.writer.sink = none ∧
      sink.output.contents = Utf8.encode Manifest.headerText ∧
      (session.answer request).state.writer =
        { session.writer with sink := some sink, enabled := true } ∧
      ∀ output, some output ∈ (session.answer request).state.offered →
        some output ∈ session.offered := by
  cases h with
  | init path sink hpath hpoisoned hsink h =>
    refine ⟨sink, hsink, contents_openFile h, ?_, ?_⟩
    · simp [Session.answer, Writer.init, hpath, hpoisoned, hsink, h]
    · simp [Session.answer]
  | attach path medium hpoisoned hsink h =>
    refine ⟨(Sink.start path { medium } none).state, hsink, Sink.contents_start h, ?_⟩
    rw [state_answer_attach rfl, offer_of_sinkless hpoisoned hsink h]
    refine ⟨rfl, ?_⟩
    intro output hmem
    simpa using hmem

/-- If no manifest can be opened, the writer stays as it is. -/
theorem init_of_not_restarts [Catalog σ] {session : Session σ} (h : ¬ session.Restarts .init) :
    (session.answer .init).state.writer = session.writer := by
  cases hpath : session.writer.config.resolvedOutput session.launch with
  | none => simp [answer, Writer.init, hpath]
  | some path =>
  cases hpoisoned : session.writer.poisoned with
  | true => simp [answer, Writer.init, hpath, hpoisoned]
  | false =>
  cases hsink : session.writer.sink with
  | some sink => simp [answer, Writer.init, hpath, hpoisoned, hsink]
  | none =>
  cases hopened : (Sink.openFile path (session.writer.saveTo session.directory)).result with
  | error error => simp [answer, Writer.init, hpath, hpoisoned, hsink, hopened]
  | ok sink => exact absurd (.init path sink hpath hpoisoned hsink hopened) h

/-- Offering a sink that the writer does not take leaves the writer as it is, and no more than the
header in the output. -/
theorem attach_of_not_restarts [Catalog σ] {session : Session σ} {path : FilePath}
    {medium : Medium} (h : ¬ session.Restarts (.attach path medium)) :
    (session.answer (.attach path medium)).state.writer = session.writer ∧
      ∃ output, (session.answer (.attach path medium)).state.offered =
          session.offered ++ [some output] ∧
        output.contents <+: Utf8.encode Manifest.headerText := by
  rw [state_answer_attach rfl]
  cases hstart : (Sink.start path { medium } none).result with
  | error error =>
    have habandoned := (Sink.abandoned_start path medium none hstart).2
    rw [offer_of_error hstart]
    refine ⟨rfl, _, rfl, ?_⟩
    cases hcut : (Sink.start path { medium } none).state.output.medium.truncateFails with
    | false =>
      rw [habandoned.contents_of_cut hcut]
      exact List.nil_prefix
    | true =>
      obtain ⟨part, hpart, hcontents⟩ := habandoned.contents_of_not_cut hcut
      rwa [hcontents]
  | ok _ =>
    have hdeclined : (! session.writer.poisoned && session.writer.sink.isNone) = false := by
      cases hpoisoned : session.writer.poisoned with
      | true => rfl
      | false =>
      cases hsink : session.writer.sink with
      | some sink => rfl
      | none => exact absurd (.attach path medium hpoisoned hsink hstart) h
    rw [offer_of_declined hdeclined hstart]
    have hcontents := (Sink.contents_close (Sink.start path { medium } none).state).1
    exact ⟨rfl, _, rfl, (hcontents.trans (Sink.contents_start hstart)) ▸ List.prefix_refl _⟩

/-! ## Sessions that record nothing -/

/-- A session in which nothing is recorded since an earlier moment: loads are answered as disabled,
the sinks of that time hold what they held then and newer ones the header, and the outputs that were
offered since hold no more than the header. -/
structure Silent [Catalog σ] (earlier now : Session σ) : Prop where
  loads : ∀ type origin, (now.answer (.load type origin)).result = .outcome .disabled
  sinks : ∃ n, now.writer.contents =
    earlier.writer.contents ++ List.replicate n (Utf8.encode Manifest.headerText)
  offered : ∀ output, some output ∈ now.offered →
    some output ∈ earlier.offered ∨ output.contents <+: Utf8.encode Manifest.headerText

/-- A session that can record nothing has recorded nothing yet. -/
theorem silent_refl [Catalog σ] {session : Session σ} (h : session.writer.Mute) :
    Silent session session := by
  refine ⟨?_, ⟨0, by simp⟩, fun output hmem => .inl hmem⟩
  intro type origin
  exact congrArg Answer.outcome (h.load type origin).1

/-- A request to a writer that can record nothing and is given no sink writes nothing, and leaves no
more than the header in an output that it offers. -/
theorem answer_of_not_restarts [Catalog σ] {session : Session σ} {request : Request}
    (hmute : session.writer.Mute) (h : ¬ session.Restarts request) :
    (session.answer request).state.writer.config = session.writer.config ∧
      (session.answer request).state.writer.contents = session.writer.contents ∧
      ∀ output, some output ∈ (session.answer request).state.offered →
        some output ∈ session.offered ∨ output.contents <+: Utf8.encode Manifest.headerText := by
  cases request with
  | init =>
    rw [init_of_not_restarts h]
    exact ⟨rfl, rfl, fun output hmem => .inl hmem⟩
  | attach path medium =>
    obtain ⟨hwriter, output, hoffered, hheader⟩ := attach_of_not_restarts h
    rw [hwriter, hoffered]
    refine ⟨rfl, rfl, ?_⟩
    intro other hmem
    rcases List.mem_append.1 hmem with hmem | hmem
    · exact .inl hmem
    · rw [Option.some.inj (List.mem_singleton.1 hmem)]
      exact .inr hheader
  | load type origin =>
    obtain ⟨-, hconfig, hcontents⟩ := hmute.load type origin
    exact ⟨hconfig, hcontents, fun output hmem => .inl hmem⟩
  | close =>
    refine ⟨?_, Writer.contents_close session.writer, fun output hmem => .inl hmem⟩
    show session.writer.close.state.config = session.writer.config
    simp
  | unload | idOf | outputPath | files | describe =>
    exact ⟨rfl, rfl, fun output hmem => .inl hmem⟩

/-- A request to a writer that can record nothing leaves the configuration as it is. -/
theorem config_answer [Catalog σ] {session : Session σ} (hmute : session.writer.Mute)
    (request : Request) :
    (session.answer request).state.writer.config = session.writer.config := by
  by_cases hrestarts : session.Restarts request
  · obtain ⟨sink, -, -, hwriter, -⟩ := hrestarts.answer
    rw [hwriter]
  · exact (answer_of_not_restarts hmute hrestarts).1

/-- If nothing can be recorded before and after a request, nothing is recorded by it. -/
theorem Silent.answer [Catalog σ] {earlier now : Session σ} (h : Silent earlier now)
    (request : Request) (hbefore : now.writer.Mute)
    (hafter : (now.answer request).state.writer.Mute) :
    Silent earlier (now.answer request).state := by
  obtain ⟨n, hsinks⟩ := h.sinks
  have hloads : ∀ type origin, ((now.answer request).state.answer (.load type origin)).result =
      .outcome .disabled :=
    fun type origin => congrArg Answer.outcome (hafter.load type origin).1
  by_cases hrestarts : now.Restarts request
  · obtain ⟨sink, hsink, hheader, hwriter, hoffered⟩ := hrestarts.answer
    refine ⟨hloads, ⟨n + 1, ?_⟩, fun output hmem => h.offered output (hoffered output hmem)⟩
    have hcontents : (now.answer request).state.writer.contents =
        now.writer.contents ++ [Utf8.encode Manifest.headerText] := by
      simp [hwriter, Writer.contents, Writer.sinks, hsink, hheader]
    rw [hcontents, hsinks, List.append_assoc, ← List.replicate_succ']
  · obtain ⟨-, hcontents, hoffered⟩ := answer_of_not_restarts hbefore hrestarts
    refine ⟨hloads, ⟨n, hcontents.trans hsinks⟩, ?_⟩
    intro output hmem
    rcases hoffered output hmem with hmem | hheader
    · exact h.offered output hmem
    · exact .inr hheader

/-- A request that gives the writer no sink leaves a writer off that is off, with its lock as it was.
-/
theorem stopped_answer [Catalog σ] {session : Session σ} {request : Request}
    (hstopped : session.writer.Stopped) (h : ¬ session.Restarts request) :
    (session.answer request).state.writer.Stopped ∧
      (session.answer request).state.writer.poisoned = session.writer.poisoned := by
  cases request with
  | init =>
    rw [init_of_not_restarts h]
    exact ⟨hstopped, rfl⟩
  | attach path medium =>
    rw [(attach_of_not_restarts h).1]
    exact ⟨hstopped, rfl⟩
  | load type origin =>
    show (session.writer.load type origin).state.Stopped ∧
      (session.writer.load type origin).state.poisoned = session.writer.poisoned
    rw [Writer.load_of_off hstopped.enabled]
    exact ⟨hstopped, rfl⟩
  | close =>
    refine ⟨Writer.stopped_close session.writer, ?_⟩
    show session.writer.close.state.poisoned = session.writer.poisoned
    simp
  | unload identity => exact ⟨⟨hstopped.enabled, hstopped.sink⟩, rfl⟩
  | idOf | outputPath | files | describe => exact ⟨hstopped, rfl⟩

/-! ## Runs -/

/-- As long as no request gives a stopped writer a sink, it stays off and nothing is recorded. -/
theorem stopped_after [Catalog σ] {stopped : Session σ} (hstopped : stopped.writer.Stopped)
    (requests : List Request)
    (h : ∀ front request, front ++ [request] <+: requests →
      ¬ (stopped.after front).Restarts request) :
    (stopped.after requests).writer.Stopped ∧
      (stopped.after requests).writer.poisoned = stopped.writer.poisoned ∧
      Silent stopped (stopped.after requests) := by
  induction requests using List.reverseRecOn with
  | nil => exact ⟨hstopped, rfl, silent_refl (.inl hstopped.enabled)⟩
  | append_singleton requests request ih =>
    obtain ⟨hbefore, hpoisoned, hsilent⟩ := ih fun front other hpart =>
      h front other (hpart.trans (List.prefix_append _ _))
    obtain ⟨hafter, hsame⟩ := stopped_answer hbefore (h requests request (List.prefix_refl _))
    rw [after_concat]
    exact ⟨hafter, hsame.trans hpoisoned,
      hsilent.answer request (.inl hbefore.enabled) (.inl hafter.enabled)⟩

/-- A poisoned lock keeps every sink away. -/
theorem not_restarts_of_poisoned {session : Session σ} (h : session.writer.poisoned = true)
    (request : Request) : ¬ session.Restarts request := by
  rintro (⟨_, _, _, hpoisoned, _, _⟩ | ⟨_, _, hpoisoned, _, _⟩) <;> simp [h] at hpoisoned

/-- The lock of a stopped writer stays poisoned. -/
theorem poisoned_after [Catalog σ] {stopped : Session σ} (hstopped : stopped.writer.Stopped)
    (h : stopped.writer.poisoned = true) (requests : List Request) :
    (stopped.after requests).writer.Stopped ∧ (stopped.after requests).writer.poisoned = true := by
  induction requests using List.reverseRecOn with
  | nil => exact ⟨hstopped, h⟩
  | append_singleton requests request ih =>
    obtain ⟨hafter, hsame⟩ := stopped_answer ih.1 (not_restarts_of_poisoned ih.2 request)
    rw [after_concat]
    exact ⟨hafter, hsame.trans ih.2⟩

/-- Without a packaged image nothing is recorded, whatever is asked. -/
theorem silent_after_of_imageless [Catalog σ] {earlier : Session σ}
    (h : earlier.writer.config.hasRuntimeImage = false) (requests : List Request) :
    Silent earlier (earlier.after requests) ∧
      (earlier.after requests).writer.config = earlier.writer.config := by
  induction requests using List.reverseRecOn with
  | nil => exact ⟨silent_refl (.inr h), rfl⟩
  | append_singleton requests request ih =>
    obtain ⟨hsilent, hconfig⟩ := ih
    have hbefore : (earlier.after requests).writer.Mute := .inr (by rw [hconfig, h])
    have hsame := (config_answer hbefore request).trans hconfig
    rw [after_concat]
    exact ⟨hsilent.answer request hbefore (.inr (by rw [hsame, h])), hsame⟩

/-- **How long a writer stays off.** A load that makes the writer give up is answered as disabled.
After any requests from then on, the writer is off and nothing was recorded, for as long as no request
has given it another sink; and only so long. A poisoned lock keeps it off for good, and without a
packaged image nothing is recorded in any case. -/
theorem stays_off_iff [Catalog σ] (session : Session σ) (type : LoadedType)
    (origin : Option Origin) (h : session.writer.GivesUp type origin) (requests : List Request) :
    let e := session.answer (.load type origin)
    e.result = .outcome .disabled ∧
    ((∀ front, front <+: requests →
        (e.state.after front).writer.enabled = false ∧ Silent e.state (e.state.after front)) ↔
      ∀ front request, front ++ [request] <+: requests →
        ¬ (e.state.after front).Restarts request) ∧
    (session.writer.poisoned = true →
      (e.state.after requests).writer.enabled = false ∧
        Silent e.state (e.state.after requests)) ∧
    (session.writer.config.hasRuntimeImage = false →
      Silent e.state (e.state.after requests)) := by
  intro e
  obtain ⟨hresult, hstopped, hpoisoned⟩ : (session.writer.load type origin).result = .disabled ∧
      e.state.writer.Stopped ∧ e.state.writer.poisoned = session.writer.poisoned := h.load
  refine ⟨congrArg Answer.outcome hresult, ⟨?_, ?_⟩, ?_, ?_⟩
  · intro hoff front request hpart hrestarts
    obtain ⟨sink, -, -, hwriter, -⟩ := hrestarts.answer
    have henabled := (hoff _ hpart).1
    rw [after_concat, hwriter] at henabled
    simp at henabled
  · intro hnone front hfront
    obtain ⟨hoff, -, hsilent⟩ := stopped_after hstopped front fun front' request hpart =>
      hnone front' request (hpart.trans hfront)
    exact ⟨hoff.enabled, hsilent⟩
  · intro h
    have hlocked := fun front => (poisoned_after hstopped (hpoisoned.trans h) front).2
    obtain ⟨hoff, -, hsilent⟩ := stopped_after hstopped requests
      fun front request _ => not_restarts_of_poisoned (hlocked front) request
    exact ⟨hoff.enabled, hsilent⟩
  · intro himage
    have hconfig : e.state.writer.config = session.writer.config :=
      (Writer.Mute.load (.inr himage) type origin).2.1
    exact (silent_after_of_imageless (by rw [hconfig, himage]) requests).1

/-- A session whose writer has recorded one type, over an output with room for little more. -/
def nearlyFull : Session NameCatalog :=
  let room := (Utf8.encode Manifest.headerText).length + 12
  { writer := (Writer.begun {} ({} : NameCatalog) ⟨[]⟩ { capacity := some room } none).after
      [.load (.plain ⟨1⟩ "A" .builtin) none] }

/-- The next line does not fit, and closing the writer after that is of no consequence. -/
theorem stays_off_of_close :
    let type := LoadedType.plain ⟨2⟩ "SomeLongerName" .builtin
    let stopped := (nearlyFull.answer (.load type none)).state
    nearlyFull.writer.GivesUp type none ∧
    ∀ front, front <+: [Request.close] →
      (stopped.after front).writer.enabled = false ∧ Silent stopped (stopped.after front) := by
  intro type stopped
  have hrun : nearlyFull.writer.enabled = true ∧ nearlyFull.writer.poisoned = false ∧
      nearlyFull.writer.sink.isSome = true ∧ nearlyFull.writer.config.hasRuntimeImage = true ∧
      (nearlyFull.writer.load type none).result = .disabled := by
    decide +kernel
  obtain ⟨henabled, hpoisoned, hsink, himage, hresult⟩ := hrun
  obtain ⟨sink, hsink⟩ := Option.isSome_iff_exists.1 hsink
  have hgives : nearlyFull.writer.GivesUp type none :=
    .failed (Writer.losesLine_of_disabled ⟨henabled, hpoisoned, hsink, himage⟩ hresult)
  refine ⟨hgives, (stays_off_iff nearlyFull type none hgives [.close]).2.1.2 ?_⟩
  intro front request hpart hrestarts
  obtain rfl : request = .close := by
    have hmem := hpart.subset (List.mem_append_right front (List.mem_singleton_self request))
    exact List.mem_singleton.1 hmem
  cases hrestarts

/-- The next line does not fit, but after another sink was given the writer records again. -/
theorem restarts_of_attach :
    let type := LoadedType.plain ⟨2⟩ "SomeLongerName" .builtin
    let stopped := (nearlyFull.answer (.load type none)).state
    let restarted := (stopped.answer (.attach ⟨[]⟩ {})).state
    (nearlyFull.answer (.load type none)).result = .outcome .disabled ∧
    stopped.writer.enabled = false ∧ restarted.writer.enabled = true ∧
    (restarted.answer (.load (.plain ⟨3⟩ "B" .builtin) none)).result = .outcome (.recorded 2) := by
  intro type stopped restarted
  have hrun : (nearlyFull.writer.load type none).result = .disabled ∧
      stopped.writer.enabled = false ∧ restarted.writer.enabled = true ∧
      (restarted.writer.load (.plain ⟨3⟩ "B" .builtin) none).result = .recorded 2 := by
    decide +kernel
  obtain ⟨hdisabled, hstopped, hrestarted, hrecorded⟩ := hrun
  refine ⟨?_, hstopped, hrestarted, ?_⟩
  · rw [result_answer_load, hdisabled]
  · rw [result_answer_load, hrecorded]

end Session

end LoadOrder
