/-
# Sinks keep whole lines

A sink is followed through any calls. While it is open, its output holds the header and the lines
that it has acknowledged, each one flushed, and its counts say so. The first write or flush that
fails releases it; the output is then cut back to what was acknowledged, or keeps a start of the
line that failed where it cannot be cut. From then on nothing changes any more.

Main statements:
- `tracks_or_released_call`, `tracks_or_released_after`: what a call, and hence any calls, make of a
  sink that takes lines;
- `call_of_not_open`, `after_of_not_open`: calls change nothing about a sink that is not open;
- `sink_keeps_whole_lines`: both for a new sink, with the answers to every call.
-/
import LoadOrder.Proofs.Output
import LoadOrder.Sink

namespace LoadOrder

namespace Manifest

/-- The bytes of a manifest that has some lines after its header. -/
def bytes (lines : List String) : List UInt8 :=
  Utf8.encodeChars (linesChars (header ++ lines))

/-- Without lines there is the header alone. -/
theorem bytes_nil : bytes [] = Utf8.encode headerText := by
  rw [bytes, Utf8.encode, headerText, String.toList_ofList, List.append_nil]

/-- One more line comes with its ending, behind all that was there. -/
theorem bytes_concat (lines : List String) (line : String) :
    bytes (lines ++ [line]) = bytes lines ++ Utf8.encode (line ++ "\n") := by
  simp [bytes, linesChars, Utf8.encode, Utf8.encodeChars]

end Manifest

namespace Sink

/-! ## Calls -/

/-- What can be asked of a sink. -/
inductive Call where
  | writeLine (line : String)
  | close
  deriving DecidableEq, Repr

/-- The answer to a call, and the sink after it. -/
def call : Call → Sink → Effect Sink (Except Error Unit)
  | .writeLine line, sink => sink.writeLine line
  | .close, sink => sink.close

/-- The sink after calls. -/
def after (sink : Sink) (calls : List Call) : Sink :=
  calls.foldl (fun sink call => (sink.call call).state) sink

/-- The line that a call with the given answer has added, if it has added one. -/
def Call.added : Call → Except Error Unit → List String
  | .writeLine line, .ok () => [line]
  | _, _ => []

/-- The lines whose writing was answered with success. -/
def acknowledged (sink : Sink) : List Call → List String
  | [] => []
  | call :: rest => call.added (sink.call call).result ++ (sink.call call).state.acknowledged rest

/-! ## What a sink stands for -/

/-- A sink that takes lines: its output holds the header and the given lines, each of them was
flushed, and nothing was cut off. -/
structure Tracks (lines : List String) (sink : Sink) : Prop where
  isOpen : sink.isOpen = true
  contents : sink.output.contents = Manifest.bytes lines
  committed : sink.committed = sink.output.contents.length
  records : sink.records = lines.length
  flushes : sink.output.flushes = sink.records + 1
  truncations : sink.output.truncations = []

/-- A sink that was released when a text could not be written behind the bytes to keep: it asked
once to cut the output back to them. -/
structure Abandoned (kept : List UInt8) (text : String) (sink : Sink) : Prop where
  isOpen : sink.isOpen = false
  committed : sink.committed = kept.length
  truncations : sink.output.truncations = [sink.committed]
  contents_of_cut : sink.output.medium.truncateFails = false → sink.output.contents = kept
  contents_of_not_cut : sink.output.medium.truncateFails = true →
    ∃ part, part <+: Utf8.encode text ∧ sink.output.contents = kept ++ part

/-- A sink that takes no lines any more: one of the calls closed it with whole lines in its output,
or could not write its line. -/
def Released (calls : List Call) (lines : List String) (sink : Sink) : Prop :=
  (.close ∈ calls ∧ sink.isOpen = false ∧ sink.output.contents = Manifest.bytes lines ∧
    sink.output.truncations = []) ∨
  ∃ line, .writeLine line ∈ calls ∧ Abandoned (Manifest.bytes lines) (line ++ "\n") sink

/-- A released sink is not open. -/
theorem Released.isOpen {calls : List Call} {lines : List String} {sink : Sink}
    (h : sink.Released calls lines) : sink.isOpen = false := by
  rcases h with h | ⟨line, -, h⟩
  · exact h.2.1
  · exact h.isOpen

/-- A sink that was released by some calls was released by more. -/
theorem Released.mono {calls more : List Call} {lines : List String} {sink : Sink}
    (h : sink.Released calls lines) (hsub : calls ⊆ more) : sink.Released more lines := by
  rcases h with ⟨hclose, h⟩ | ⟨line, hline, h⟩
  · exact .inl ⟨hsub hclose, h⟩
  · exact .inr ⟨line, hsub hline, h⟩

/-! ## Appending -/

/-- An append goes by the commit of the text. -/
theorem append_of_commit_ok {sink : Sink} {text : String} {output : Output}
    (hopen : sink.isOpen = true) (h : sink.output.commit (Utf8.encode text) = (.ok (), output)) :
    sink.append text =
      { result := .ok ()
        state := { sink with output, committed := sink.committed + (Utf8.encode text).length } } := by
  simp [append, hopen, h]

/-- If the commit of the text fails, so does the append, and the sink is abandoned. -/
theorem append_of_commit_error {sink : Sink} {text : String} {output : Output}
    {fault : OutputFault} (hopen : sink.isOpen = true)
    (h : sink.output.commit (Utf8.encode text) = (.error fault, output)) :
    (sink.append text).result = .error (sink.ioError fault) ∧
      (sink.append text).state =
        { sink with output := (output.truncate sink.committed).2, isOpen := false } := by
  simp [append, hopen, h, abandon]

/-- An append that succeeds has put down and flushed the text. -/
theorem append_of_ok (sink : Sink) (text : String) (hopen : sink.isOpen = true)
    (h : (sink.append text).result = .ok ()) :
    (sink.append text).state =
      { sink with
        output := { sink.output with
          contents := sink.output.contents ++ Utf8.encode text
          flushes := sink.output.flushes + 1 }
        committed := sink.committed + (Utf8.encode text).length } := by
  rcases hcommit : sink.output.commit (Utf8.encode text) with ⟨fault | _, output⟩
  · rw [(append_of_commit_error hopen hcommit).1] at h
    simp at h
  · have houtput := Output.commit_of_ok _ _ (congrArg Prod.fst hcommit)
    rw [hcommit] at houtput
    obtain rfl := houtput
    rw [append_of_commit_ok hopen hcommit]

/-- An append succeeds where the text fits and the next flush is not the one to fail. -/
theorem append_of_room {sink : Sink} {text : String} (hopen : sink.isOpen = true)
    (hroom : ∀ capacity ∈ sink.output.medium.capacity,
      sink.output.contents.length + (Utf8.encode text).length ≤ capacity)
    (hchunk : sink.output.medium.chunk ≠ some 0)
    (hflush : sink.output.flushes + 1 ≠ sink.output.medium.failingFlush) :
    (sink.append text).result = .ok () := by
  have hcommit := Output.commit_of_room hroom hchunk hflush
  rcases h : sink.output.commit (Utf8.encode text) with ⟨result, output⟩
  rw [h] at hcommit
  obtain rfl := hcommit
  rw [append_of_commit_ok hopen h]

/-- An append that fails reports a fault of the output and abandons the sink. -/
theorem append_of_error (sink : Sink) (text : String) {error : Error} (hopen : sink.isOpen = true)
    (hcommitted : sink.committed = sink.output.contents.length)
    (htruncations : sink.output.truncations = [])
    (h : (sink.append text).result = .error error) :
    (∃ message, error = .io message (some sink.path)) ∧
      Abandoned sink.output.contents text (sink.append text).state := by
  rcases hcommit : sink.output.commit (Utf8.encode text) with ⟨fault | _, output⟩
  · obtain ⟨hresult, hstate⟩ := append_of_commit_error hopen hcommit
    obtain ⟨part, hpart, hcontents, -, hasked⟩ :=
      Output.exists_part_of_commit sink.output (Utf8.encode text)
    simp only [hcommit] at hcontents hasked
    -- the committed length is where the part of the text begins, so that is what the cut removes
    have hcut := Output.contents_truncate hcontents
    rw [← hcommitted] at hcut
    rw [hresult] at h
    refine ⟨⟨fault.text, (Except.error.inj h).symm⟩, ?_⟩
    rw [hstate]
    refine ⟨rfl, hcommitted, ?_, ?_, ?_⟩
    · simp [hasked, htruncations]
    · intro hworks
      have hworks : output.medium.truncateFails = false := by simpa using hworks
      simp [hcut, hworks]
    · intro hfails
      have hfails : output.medium.truncateFails = true := by simpa using hfails
      exact ⟨part, hpart, by simp [hcut, hfails]⟩
  · rw [append_of_commit_ok hopen hcommit] at h
    simp at h

/-- A sink that is not open takes nothing. -/
@[simp] theorem append_of_not_open {sink : Sink} (text : String) (h : sink.isOpen = false) :
    sink.append text = { result := .error .sinkClosed, state := sink } := by
  simp [append, h]

/-! ## One call -/

/-- A line that is appended is counted. -/
theorem writeLine_of_append_ok {sink : Sink} {line : String}
    (h : (sink.append (line ++ "\n")).result = .ok ()) :
    (sink.writeLine line).result = .ok () ∧
      (sink.writeLine line).state =
        { (sink.append (line ++ "\n")).state with
          records := (sink.append (line ++ "\n")).state.records + 1 } := by
  simp [writeLine, h]

/-- A line that cannot be appended is not counted. -/
theorem writeLine_of_append_error {sink : Sink} {line : String} {error : Error}
    (h : (sink.append (line ++ "\n")).result = .error error) :
    sink.writeLine line = sink.append (line ++ "\n") := by
  simp [writeLine, h]

/-- A sink that has written a line takes more. -/
theorem isOpen_writeLine {sink : Sink} {line : String} (hopen : sink.isOpen = true)
    (h : (sink.writeLine line).result = .ok ()) : (sink.writeLine line).state.isOpen = true := by
  cases happend : (sink.append (line ++ "\n")).result with
  | error error =>
    rw [writeLine_of_append_error happend, happend] at h
    simp at h
  | ok _ =>
    have hstate := append_of_ok sink _ hopen happend
    rw [(writeLine_of_append_ok happend).2, hstate]
    exact hopen

/-- An open sink that cannot write a line reports a fault of its output, and is released. -/
theorem released_writeLine {sink : Sink} {line : String} {error : Error}
    (hopen : sink.isOpen = true) (h : (sink.writeLine line).result = .error error) :
    (∃ message, error = .io message (some sink.path)) ∧
      (sink.writeLine line).state.isOpen = false := by
  cases happend : (sink.append (line ++ "\n")).result with
  | ok _ =>
    rw [(writeLine_of_append_ok happend).1] at h
    simp at h
  | error _ =>
    rw [writeLine_of_append_error happend] at h ⊢
    rcases hcommit : sink.output.commit (Utf8.encode (line ++ "\n")) with ⟨fault | _, output⟩
    · obtain ⟨hresult, hstate⟩ := append_of_commit_error hopen hcommit
      rw [hresult] at h
      rw [hstate]
      exact ⟨⟨fault.text, (Except.error.inj h).symm⟩, rfl⟩
    · rw [append_of_commit_ok hopen hcommit] at happend
      simp at happend

/-- A line that is written joins the lines that the sink stands for. -/
theorem tracks_writeLine {lines : List String} {sink : Sink} (h : sink.Tracks lines) {line : String}
    (hok : (sink.writeLine line).result = .ok ()) :
    (sink.writeLine line).state.Tracks (lines ++ [line]) := by
  cases happend : (sink.append (line ++ "\n")).result with
  | error error =>
    rw [writeLine_of_append_error happend, happend] at hok
    simp at hok
  | ok _ =>
    have happended := append_of_ok sink _ h.isOpen happend
    have hstate := (writeLine_of_append_ok happend).2
    rw [happended] at hstate
    rw [hstate]
    refine ⟨h.isOpen, ?_, ?_, ?_, ?_, h.truncations⟩
    · rw [Manifest.bytes_concat, ← h.contents]
    · rw [List.length_append, ← h.committed]
    · rw [List.length_append, List.length_singleton, ← h.records]
    · exact congrArg (· + 1) h.flushes

/-- A line that cannot be written is reported, and the sink abandoned. -/
theorem abandoned_writeLine {lines : List String} {sink : Sink} (h : sink.Tracks lines)
    {line : String} {error : Error} (herror : (sink.writeLine line).result = .error error) :
    (∃ message, error = .io message (some sink.path)) ∧
      Abandoned (Manifest.bytes lines) (line ++ "\n") (sink.writeLine line).state := by
  cases happend : (sink.append (line ++ "\n")).result with
  | error fault =>
    rw [writeLine_of_append_error happend] at herror ⊢
    rw [← h.contents]
    exact append_of_error sink _ h.isOpen h.committed h.truncations herror
  | ok _ =>
    rw [(writeLine_of_append_ok happend).1] at herror
    simp at herror

/-- Closing changes nothing in the output, whether or not the flush succeeds. -/
@[simp] theorem contents_close (sink : Sink) :
    sink.close.state.output.contents = sink.output.contents ∧
      sink.close.state.output.truncations = sink.output.truncations := by
  unfold close
  split
  · simp only [Output.flush]
    split <;> exact ⟨rfl, rfl⟩
  · exact ⟨rfl, rfl⟩

/-- A closed sink is not open, whether or not the flush succeeds. -/
@[simp] theorem isOpen_close (sink : Sink) : sink.close.state.isOpen = false := by
  unfold close
  cases hopen : sink.isOpen with
  | false =>
    rw [if_neg Bool.false_ne_true]
    exact hopen
  | true =>
    simp only [Output.flush, if_true]
    split <;> rfl

/-- Closing an open sink leaves the lines as they are and cuts nothing off. -/
theorem released_close {lines : List String} {sink : Sink} (h : sink.Tracks lines) :
    sink.close.state.Released [.close] lines :=
  .inl ⟨by simp, by simp, by simp [h.contents], by simp [h.truncations]⟩

/-- A sink that is not open refuses lines, and stays as it is. -/
@[simp] theorem writeLine_of_not_open {sink : Sink} (line : String) (h : sink.isOpen = false) :
    sink.writeLine line = { result := .error .sinkClosed, state := sink } := by
  simp [writeLine, h]

/-- A sink that is not open can be closed again, and stays as it is. -/
@[simp] theorem close_of_not_open {sink : Sink} (h : sink.isOpen = false) :
    sink.close = { result := .ok (), state := sink } := by
  simp [close, h]

/-- A sink that tracks lines still does so after a call, or was released by it. -/
theorem tracks_or_released_call {lines : List String} {sink : Sink} (h : sink.Tracks lines)
    (call : Call) :
    (sink.call call).state.Tracks (lines ++ call.added (sink.call call).result) ∨
      (sink.call call).state.Released [call] (lines ++ call.added (sink.call call).result) := by
  cases call with
  | writeLine line =>
    rw [Sink.call]
    cases hresult : (sink.writeLine line).result with
    | ok _ => exact .inl (tracks_writeLine h hresult)
    | error error =>
      have habandoned := (abandoned_writeLine h hresult).2
      rw [← List.append_nil lines] at habandoned
      exact .inr (.inr ⟨line, List.mem_singleton_self _, habandoned⟩)
  | close =>
    have hreleased := released_close h
    rw [← List.append_nil lines] at hreleased
    exact .inr hreleased

/-- A call changes nothing about a sink that is not open, and adds no line. -/
theorem call_of_not_open {sink : Sink} (call : Call) (h : sink.isOpen = false) :
    (sink.call call).state = sink ∧ call.added (sink.call call).result = [] := by
  cases call with
  | writeLine line => simp [Sink.call, h, Call.added]
  | close => simp [Sink.call, h, Call.added]

/-- An append keeps the sink's name and the output's medium. -/
@[simp] theorem path_append (sink : Sink) (text : String) :
    (sink.append text).state.path = sink.path ∧
      (sink.append text).state.output.medium = sink.output.medium := by
  cases hopen : sink.isOpen with
  | false => simp [hopen]
  | true =>
    obtain ⟨part, -, -, hmedium, -⟩ := Output.exists_part_of_commit sink.output (Utf8.encode text)
    rcases hcommit : sink.output.commit (Utf8.encode text) with ⟨fault | _, output⟩
    · simpa [(append_of_commit_error hopen hcommit).2, hcommit] using hmedium
    · simpa [append_of_commit_ok hopen hcommit, hcommit] using hmedium

/-- Writing a line keeps the sink's name and the output's medium. -/
@[simp] theorem path_writeLine (sink : Sink) (line : String) :
    (sink.writeLine line).state.path = sink.path ∧
      (sink.writeLine line).state.output.medium = sink.output.medium := by
  cases hresult : (sink.append (line ++ "\n")).result with
  | ok _ => simp [(writeLine_of_append_ok hresult).2]
  | error error => simp [writeLine_of_append_error hresult]

/-- Closing keeps the sink's name and the output's medium. -/
@[simp] theorem path_close (sink : Sink) :
    sink.close.state.path = sink.path ∧
      sink.close.state.output.medium = sink.output.medium := by
  unfold close
  split
  · simp only [Output.flush]
    split <;> exact ⟨rfl, rfl⟩
  · exact ⟨rfl, rfl⟩

/-- A call keeps the sink's name and the output's medium. -/
@[simp] theorem path_call (sink : Sink) (call : Call) :
    (sink.call call).state.path = sink.path ∧
      (sink.call call).state.output.medium = sink.output.medium := by
  cases call <;> simp [Sink.call]

/-! ## What the log is told -/

/-- Of an append the log is told at most that a part of the text could not be cut off. -/
theorem notices_append (sink : Sink) (text : String) :
    (sink.append text).notices = [] ∨
      ∃ message, (sink.append text).notices = [.partialKept sink.path message] := by
  unfold append
  split
  · dsimp only
    split
    · exact .inl rfl
    · unfold abandon
      dsimp only
      split
      · exact .inl rfl
      · exact .inr ⟨_, rfl⟩
  · exact .inl rfl

/-- Whatever the log is told of a line is of little consequence. -/
theorem level_of_mem_notices_writeLine {sink : Sink} {line : String} {notice : Notice}
    (h : notice ∈ (sink.writeLine line).notices) : notice.level = .debug := by
  have happend : ∀ notice ∈ (sink.append (line ++ "\n")).notices, notice.level = .debug := by
    intro notice hmem
    rcases notices_append sink (line ++ "\n") with hnotices | ⟨message, hnotices⟩
    · simp [hnotices] at hmem
    · rw [hnotices] at hmem
      rw [List.mem_singleton.1 hmem]
      rfl
  unfold writeLine at h
  dsimp only at h
  split at h
  · rcases List.mem_append.1 h with h | h
    · exact happend notice h
    · rw [List.mem_singleton.1 h]
      rfl
  · exact happend notice h

/-- Of a closing the log is told that an open sink was closed, if its last flush succeeds. -/
theorem notices_close (sink : Sink) :
    sink.close.notices = [] ∨ sink.close.notices = [.closed sink.path sink.records] := by
  unfold close
  split
  · dsimp only
    split
    · exact .inr rfl
    · exact .inl rfl
  · exact .inl rfl

/-! ## Many calls -/

/-- Calls change nothing about a sink that is not open, and add no lines. -/
theorem after_of_not_open {sink : Sink} (h : sink.isOpen = false) (calls : List Call) :
    sink.after calls = sink ∧ sink.acknowledged calls = [] := by
  induction calls with
  | nil => exact ⟨rfl, rfl⟩
  | cons call rest ih =>
    obtain ⟨hstate, hadded⟩ := call_of_not_open call h
    rw [acknowledged, hadded, hstate, after, List.foldl_cons, hstate]
    exact ih

/-- A sink is not open after calls among which there was a closing. -/
theorem isOpen_after_of_close {calls : List Call} (h : .close ∈ calls) (sink : Sink) :
    (sink.after calls).isOpen = false := by
  induction calls generalizing sink with
  | nil => simp at h
  | cons call rest ih =>
    rw [after, List.foldl_cons]
    rcases List.mem_cons.1 h with rfl | hrest
    · have hclosed := isOpen_close sink
      have hafter := (after_of_not_open hclosed rest).1
      rw [after] at hafter
      rw [Sink.call, hafter]
      exact hclosed
    · exact ih hrest _

/-- Calls keep the sink's name and the output's medium. -/
@[simp] theorem path_after (sink : Sink) (calls : List Call) :
    (sink.after calls).path = sink.path ∧
      (sink.after calls).output.medium = sink.output.medium := by
  induction calls generalizing sink with
  | nil => exact ⟨rfl, rfl⟩
  | cons call rest ih =>
    obtain ⟨hpath, hmedium⟩ := path_call sink call
    obtain ⟨hpath', hmedium'⟩ := ih (sink.call call).state
    rw [after, List.foldl_cons]
    exact ⟨hpath'.trans hpath, hmedium'.trans hmedium⟩

/-- A sink that tracks lines tracks those that it acknowledges after them, until it is released. -/
theorem tracks_or_released_after {lines : List String} {sink : Sink} (h : sink.Tracks lines)
    (calls : List Call) :
    (sink.after calls).Tracks (lines ++ sink.acknowledged calls) ∨
      (sink.after calls).Released calls (lines ++ sink.acknowledged calls) := by
  induction calls generalizing lines sink with
  | nil =>
    left
    rwa [acknowledged, List.append_nil]
  | cons call rest ih =>
    rw [acknowledged, ← List.append_assoc, after, List.foldl_cons]
    rcases tracks_or_released_call h call with hcall | hcall
    · rcases ih hcall with hrest | hrest
      · exact .inl hrest
      · exact .inr (hrest.mono (List.subset_cons_self call rest))
    · -- what released the sink leaves nothing for the later calls to do
      obtain ⟨hafter, hadded⟩ := after_of_not_open hcall.isOpen rest
      rw [after] at hafter
      rw [hafter, hadded, List.append_nil]
      exact .inr (hcall.mono (by simp))

/-! ## Sinks over empty outputs -/

/-- A sink that could be started has flushed the header once. -/
theorem state_start {path : FilePath} {medium : Medium} {place : Option Location}
    (h : (start path { medium } place).result = .ok ()) :
    (start path { medium } place).state =
      { path
        output := { medium, contents := Utf8.encode Manifest.headerText, flushes := 1 }
        place
        committed := (Utf8.encode Manifest.headerText).length } := by
  have hstate := append_of_ok { path, output := { medium }, place } Manifest.headerText rfl h
  simp only [List.nil_append, Nat.zero_add] at hstate
  exact hstate

/-- A sink that could be started has flushed the header and nothing else. -/
theorem tracks_start (path : FilePath) (medium : Medium) (place : Option Location)
    (h : (start path { medium } place).result = .ok ()) :
    (start path { medium } place).state.Tracks [] := by
  rw [state_start h]
  refine ⟨rfl, ?_, ?_, rfl, rfl, rfl⟩
  · rw [Manifest.bytes_nil]
  · dsimp only

/-- A sink that could not be started is abandoned, with no more than a start of the header in its
output. -/
theorem abandoned_start (path : FilePath) (medium : Medium) (place : Option Location)
    {error : Error} (h : (start path { medium } place).result = .error error) :
    (∃ message, error = .io message (some path)) ∧
      Abandoned [] Manifest.headerText (start path { medium } place).state :=
  append_of_error { path, output := { medium }, place } Manifest.headerText rfl rfl rfl h

/-- A new sink is open exactly if it could be started. -/
theorem isOpen_start (path : FilePath) (medium : Medium) (place : Option Location) :
    (start path { medium } place).result = .ok () ↔
      (start path { medium } place).state.isOpen = true := by
  cases hresult : (start path { medium } place).result with
  | ok _ => simp only [(tracks_start path medium place hresult).isOpen]
  | error error => simp [(abandoned_start path medium place hresult).2.isOpen]

/-- A sink can be started where the header fits and the first flush is not the one to fail. -/
theorem start_of_room (path : FilePath) (medium : Medium) (place : Option Location)
    (hroom : ∀ capacity ∈ medium.capacity,
      (Utf8.encode Manifest.headerText).length ≤ capacity)
    (hchunk : medium.chunk ≠ some 0) (hflush : medium.failingFlush ≠ 1) :
    (start path { medium } place).result = .ok () := by
  rw [start]
  refine append_of_room rfl ?_ hchunk hflush.symm
  intro capacity hcapacity
  rw [List.length_nil, Nat.zero_add]
  exact hroom capacity hcapacity

/-- A new sink has the path and the medium that it was given. -/
@[simp] theorem path_start (path : FilePath) (medium : Medium) (place : Option Location) :
    (start path { medium } place).state.path = path ∧
      (start path { medium } place).state.output.medium = medium := by
  rw [start]
  exact path_append { path, output := { medium }, place } Manifest.headerText

/-- A sink that could be started holds the header. -/
theorem contents_start {path : FilePath} {medium : Medium} {place : Option Location}
    (h : (start path { medium } place).result = .ok ()) :
    (start path { medium } place).state.output.contents = Utf8.encode Manifest.headerText := by
  rw [(tracks_start path medium place h).contents, Manifest.bytes_nil]

/-- A file that could be opened has a sink that could be started. -/
theorem opened_eq_ok {path : FilePath} {started : Effect Sink (Except Error Unit)}
    {directory : Directory} {sink : Sink}
    (h : (opened path started directory).result = .ok sink) :
    started.result = .ok () ∧ started.state = sink := by
  unfold opened at h
  cases hresult : started.result with
  | error error => simp [hresult] at h
  | ok _ => simpa [hresult] using h

/-- The sink over a new file is one that could be started over an empty file. -/
theorem exists_start_of_openFile {path : FilePath} {directory : Directory} {sink : Sink}
    (h : (openFile path directory).result = .ok sink) :
    ∃ place, (start path { medium := .file } place).result = .ok () ∧
      (start path { medium := .file } place).state = sink := by
  unfold openFile at h
  split at h
  · simp at h
  split at h
  · simp at h
  · exact ⟨_, opened_eq_ok h⟩

/-- An open sink stands for the lines that a new sink has acknowledged. -/
theorem tracks_after {sink : Sink} (hnew : sink.isOpen = true → sink.Tracks []) (calls : List Call)
    (h : (sink.after calls).isOpen = true) :
    (sink.after calls).Tracks (sink.acknowledged calls) := by
  cases hopen : sink.isOpen with
  | true =>
    rcases tracks_or_released_after (hnew hopen) calls with hafter | hafter
    · exact hafter
    · simp [hafter.isOpen] at h
  | false =>
    rw [(after_of_not_open hopen calls).1, hopen] at h
    simp at h

/-- A sink that is not open any more was released by one of the calls. -/
theorem released_after {sink : Sink} (hnew : sink.Tracks []) (calls : List Call)
    (h : (sink.after calls).isOpen = false) :
    (sink.after calls).Released calls (sink.acknowledged calls) := by
  rcases tracks_or_released_after hnew calls with hafter | hafter
  · simp [hafter.isOpen] at h
  · exact hafter

/-- **Sinks keep whole lines.** Over an empty output of any medium and after any calls, an open sink
stands for the lines that it has acknowledged. A sink that is not open was closed by a call, or
released by the first write or flush that failed, be it that of the header; that failure is
reported with the sink's path. From then on lines are refused, closing does nothing and nothing
changes. -/
theorem sink_keeps_whole_lines (path : FilePath) (medium : Medium) (place : Option Location)
    (calls : List Call) :
    let started := start path { medium } place
    let sink := started.state.after calls
    let lines := started.state.acknowledged calls
    (started.result = .ok () ↔ started.state.isOpen = true) ∧
    (∀ error, started.result = .error error →
      (∃ message, error = .io message (some path)) ∧
        started.state.Abandoned [] Manifest.headerText) ∧
    (sink.isOpen = true → sink.Tracks lines) ∧
    (started.result = .ok () → sink.isOpen = false → sink.Released calls lines) ∧
    (.close ∈ calls → sink.isOpen = false) ∧
    (sink.isOpen = true → ∀ line error, (sink.writeLine line).result = .error error →
      (∃ message, error = .io message (some path)) ∧
        (sink.writeLine line).state.Abandoned (Manifest.bytes lines) (line ++ "\n")) ∧
    (sink.isOpen = false →
      (∀ line, sink.writeLine line = { result := .error .sinkClosed, state := sink }) ∧
        sink.close = { result := .ok (), state := sink } ∧ ∀ more, sink.after more = sink) := by
  have hnew : (start path { medium } place).state.isOpen = true →
      (start path { medium } place).state.Tracks [] :=
    fun h => tracks_start path medium place ((isOpen_start path medium place).2 h)
  refine ⟨isOpen_start path medium place, fun error => abandoned_start path medium place,
    tracks_after hnew calls, fun h => released_after (tracks_start path medium place h) calls,
    fun h => isOpen_after_of_close h _, ?_, ?_⟩
  · intro hopen line error herror
    obtain ⟨⟨message, hmessage⟩, habandoned⟩ :=
      abandoned_writeLine (tracks_after hnew calls hopen) herror
    exact ⟨⟨message, by simpa using hmessage⟩, habandoned⟩
  · intro hclosed
    exact ⟨fun line => writeLine_of_not_open line hclosed, close_of_not_open hclosed,
      fun more => (after_of_not_open hclosed more).1⟩

end Sink

end LoadOrder
