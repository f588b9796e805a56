/-
# Streams of events

A stream of events is cut into lines, and a line holds an event, or nothing, or it is bad. The events on
the lines before the first bad one are what a replay does, in order; the bad line, if there is one, is
what it reports. So the replay of one stream after another is the replay of the two as one.

Main statements:
- `plays_iff`: what the lines of a stream come to, told without the replay;
- `counts_foldl_count`: a tally counts loads by their outcomes, and unloads;
- `runLines_later`: where counts and tallies begin matters to the result alone;
- `run_append_of_ok`, `run_append_of_error`: a stream behind another;
- `replay_is_fold_up_to_first_bad_line`: a replay is the events up to the first bad line.
-/
import LoadOrder.Proofs.Replay
import LoadOrder.Proofs.Text.Lines
import LoadOrder.Proofs.Text.Utf8

namespace LoadOrder

/-! ## Tallies -/

/-- The tally of two replays, one after the other. -/
instance : Add Tally where
  add first second :=
    { recorded := first.recorded + second.recorded
      rejected := first.rejected + second.rejected
      unloaded := first.unloaded + second.unloaded
      disabled := first.disabled + second.disabled }

/-- An event that is a load. -/
def Event.isLoad : Event → Bool
  | load .. => true
  | unload _ => false

/-- A fault that stands a number of lines further down. -/
def ReplayFault.later (count : Nat) : ReplayFault → ReplayFault
  | unreadable line => .unreadable (line + count)
  | invalid line => .invalid (line + count)
  | interrupted line => .interrupted (line + count)

/-- A tally that counts events by the answers to them. -/
structure Tally.Counts (tally : Tally) (events : List Event) (replies : List Writer.Reply) :
    Prop where
  recorded : tally.recorded = replies.countP (· matches .outcome (.recorded _))
  rejected : tally.rejected = replies.countP (· matches .outcome (.rejected _))
  disabled : tally.disabled = replies.countP (· matches .outcome .disabled)
  /-- Every load counts with its outcome. -/
  loads : tally.recorded + tally.rejected + tally.disabled = events.countP Event.isLoad
  unloaded : tally.unloaded = events.countP (!·.isLoad)

namespace Replay

/-! ## What a stream comes to -/

/-- A line that is text: blank, or an event. -/
inductive Holds : List UInt8 → Option Event → Prop where
  | blank {chars : List Char} (hblank : Text.allBlank chars = true) :
      Holds (Utf8.encodeChars chars) none
  | event {chars : List Char} {event : Event} (hblank : Text.allBlank chars = false)
      (hevent : Event.ofChars chars = some event) : Holds (Utf8.encodeChars chars) (some event)

/-- A bad line: one that is not text, or neither blank nor an event. -/
inductive Bad (number : Nat) : List UInt8 → ReplayFault → Prop where
  | unreadable {line : List UInt8} (h : ∀ chars, line ≠ Utf8.encodeChars chars) :
      Bad number line (.unreadable number)
  | invalid {chars : List Char} (hblank : Text.allBlank chars = false)
      (hevent : Event.ofChars chars = none) :
      Bad number (Utf8.encodeChars chars) (.invalid number)

/-- What lines come to, counted from a given number on: the events on all of them; or those on the lines
before the first bad one, and what is wrong with that. -/
inductive Plays (number : Nat) (lines : List (List UInt8)) :
    List Event → Option ReplayFault → Prop where
  | whole {held : List (Option Event)} (hheld : List.Forall₂ Holds lines held) :
      Plays number lines held.reduceOption none
  | upTo {before after : List (List UInt8)} {line : List UInt8} {held : List (Option Event)}
      {fault : ReplayFault} (hsplit : lines = before ++ line :: after)
      (hheld : List.Forall₂ Holds before held) (hbad : Bad (number + before.length) line fault) :
      Plays number lines held.reduceOption (some fault)

/-- A line before others adds the event that it holds. -/
theorem Plays.cons {number : Nat} {line : List UInt8} {held : Option Event}
    {rest : List (List UInt8)} {events : List Event} {fault : Option ReplayFault}
    (hline : Holds line held) (h : Plays (number + 1) rest events fault) :
    Plays number (line :: rest) (held.toList ++ events) fault := by
  have hreduce : ∀ more : List (Option Event),
      held.toList ++ more.reduceOption = (held :: more).reduceOption := by
    intro more
    cases held <;> rfl
  cases h with
  | whole hheld =>
    rw [hreduce]
    exact .whole (.cons hline hheld)
  | @upTo before after bad more fault hsplit hheld hbad =>
    rw [hreduce]
    rw [← Text.number_cons number line] at hbad
    exact .upTo (by rw [hsplit, List.cons_append]) (.cons hline hheld) hbad

/-- A line is taken for what it holds, or for what is wrong with it. -/
theorem holds_or_bad_of_content (number : Nat) (line : List UInt8) :
    match content line with
    | .blank => Holds line none
    | .event event => Holds line (some event)
    | .unreadable => Bad number line (.unreadable number)
    | .invalid => Bad number line (.invalid number) := by
  cases hdecode : Utf8.decode line with
  | none =>
    have hcontent : content line = .unreadable := by simp [content, hdecode]
    rw [hcontent]
    exact .unreadable (Utf8.decode_eq_none_iff.1 hdecode)
  | some chars =>
    obtain rfl := Utf8.decode_eq_some_iff.1 hdecode
    cases hblank : Text.allBlank chars with
    | true =>
      have hcontent : content (Utf8.encodeChars chars) = .blank := by
        simp [content, hdecode, hblank]
      rw [hcontent]
      exact .blank hblank
    | false =>
      cases hevent : Event.ofChars chars with
      | none =>
        have hcontent : content (Utf8.encodeChars chars) = .invalid := by
          simp [content, hdecode, hblank, hevent]
        rw [hcontent]
        exact .invalid hblank hevent
      | some event =>
        have hcontent : content (Utf8.encodeChars chars) = .event event := by
          simp [content, hdecode, hblank, hevent]
        rw [hcontent]
        exact .event hblank hevent

/-- The events that lines ask for and the fault of the first bad one are what the lines come to. -/
theorem plays_lines (number : Nat) (lines : List (List UInt8)) :
    Plays number lines (events lines) (firstFault number lines) := by
  induction lines generalizing number with
  | nil => exact .whole .nil
  | cons line rest ih =>
    have hcontent := holds_or_bad_of_content number line
    rw [events, firstFault]
    cases hline : content line with
    | blank =>
      rw [hline] at hcontent
      exact Plays.cons hcontent (ih (number + 1))
    | event event =>
      rw [hline] at hcontent
      exact Plays.cons hcontent (ih (number + 1))
    | unreadable | invalid =>
      -- the first bad line: the lines behind it do not count
      rw [hline] at hcontent
      exact .upTo (List.nil_append _).symm .nil hcontent

/-- A line is taken for what it holds. -/
theorem content_of_holds {line : List UInt8} {held : Option Event} (h : Holds line held) :
    content line = held.elim .blank .event := by
  cases h with
  | blank hblank => simp [content, hblank]
  | event hblank hevent => simp [content, hblank, hevent]

/-- Of a bad line comes its fault and no event, whatever follows. -/
theorem firstFault_of_bad {number : Nat} {line : List UInt8} {fault : ReplayFault}
    (h : Bad number line fault) (after : List (List UInt8)) :
    events (line :: after) = [] ∧ firstFault number (line :: after) = some fault := by
  cases h with
  | unreadable hline =>
    simp [events, firstFault, content, Utf8.decode_eq_none_iff.2 hline]
  | invalid hblank hevent =>
    simp [events, firstFault, content, hblank, hevent]

/-- Lines that hold something have their events before those on the lines behind, and no fault. -/
theorem events_append_of_holds {before : List (List UInt8)} {held : List (Option Event)}
    (h : List.Forall₂ Holds before held) (number : Nat) (after : List (List UInt8)) :
    events (before ++ after) = held.reduceOption ++ events after ∧
      firstFault number (before ++ after) = firstFault (number + before.length) after := by
  induction h generalizing number with
  | nil => exact ⟨rfl, rfl⟩
  | @cons line held rest more hline _ ih =>
    obtain ⟨hevents, hfault⟩ := ih (number + 1)
    rw [List.cons_append, events, firstFault, content_of_holds hline, Text.number_cons, ← hfault]
    cases held with
    | none => exact ⟨hevents, rfl⟩
    | some event => exact ⟨congrArg (event :: ·) hevents, rfl⟩

/-- Lines come to one list of events and one fault or none: those that the replay finds. -/
theorem plays_iff {number : Nat} {lines : List (List UInt8)} {found : List Event}
    {fault : Option ReplayFault} :
    Plays number lines found fault ↔ events lines = found ∧ firstFault number lines = fault := by
  constructor
  · intro h
    cases h with
    | whole hheld =>
      obtain ⟨hevents, hfault⟩ := events_append_of_holds hheld number []
      rw [List.append_nil] at hevents hfault
      exact ⟨hevents.trans (List.append_nil _), hfault⟩
    | @upTo before after _ _ _ hsplit hheld hbad =>
      obtain ⟨hevents, hfault⟩ := events_append_of_holds hheld number (_ :: after)
      obtain ⟨hnone, hsome⟩ := firstFault_of_bad hbad after
      rw [hsplit, hevents, hfault, hnone, List.append_nil]
      exact ⟨rfl, hsome⟩
  · rintro ⟨rfl, rfl⟩
    exact plays_lines number lines

/-! ## Counting -/

variable {σ : Type} [Catalog σ]

/-- An answer that is no interruption counts as what its event is: a load, with one of three outcomes,
or an unload. -/
theorem count_call {event : Event} {writer : Writer σ}
    (h : (writer.call event.call).result ≠ .outcome .interrupted) (tally : Tally) :
    let counted := count tally (writer.call event.call).result
    counted.recorded + counted.rejected + counted.disabled =
        tally.recorded + tally.rejected + tally.disabled +
          (if event.isLoad then 1 else 0) ∧
      counted.unloaded = tally.unloaded + if !event.isLoad then 1 else 0 := by
  cases event with
  | unload identity => exact ⟨rfl, rfl⟩
  | load type origin =>
    have hreply : (writer.call (.load type origin)).result =
        .outcome (writer.load type origin).result := rfl
    rw [Event.call, hreply] at h ⊢
    cases houtcome : (writer.load type origin).result with
    | interrupted => exact absurd (congrArg _ houtcome) h
    | recorded | rejected | disabled =>
      simp only [count, Tally.add, Event.isLoad, if_true, Bool.not_true, Bool.false_eq_true, if_false,
        Nat.add_zero, and_true]
      omega

/-- The answers to events add up to the loads and the unloads among them. -/
theorem foldl_count_calls {events : List Event} {writer : Writer σ}
    (h : .outcome .interrupted ∉ writer.replies (events.map Event.call)) (tally : Tally) :
    let counted := (writer.replies (events.map Event.call)).foldl count tally
    counted.recorded + counted.rejected + counted.disabled =
        tally.recorded + tally.rejected + tally.disabled + events.countP Event.isLoad ∧
      counted.unloaded = tally.unloaded + events.countP (!·.isLoad) := by
  induction events generalizing writer tally with
  | nil => exact ⟨rfl, rfl⟩
  | cons event rest ih =>
    rw [List.map_cons, Writer.replies, List.mem_cons, not_or] at h
    obtain ⟨hloads, hunloads⟩ := count_call (Ne.symm h.1) tally
    obtain ⟨hrest, hunloaded⟩ := ih h.2 (count tally (writer.call event.call).result)
    rw [List.map_cons, Writer.replies, List.foldl_cons, List.countP_cons, List.countP_cons]
    refine ⟨?_, ?_⟩ <;> omega

/-- The tally of a replay that is not broken off counts the events by the answers to them. -/
theorem counts_foldl_count {events : List Event} {writer : Writer σ}
    (h : .outcome .interrupted ∉ writer.replies (events.map Event.call)) :
    ((writer.replies (events.map Event.call)).foldl count {}).Counts events
      (writer.replies (events.map Event.call)) where
  recorded := (congrArg Tally.recorded (foldl_count _ {})).trans (Nat.zero_add _)
  rejected := (congrArg Tally.rejected (foldl_count _ {})).trans (Nat.zero_add _)
  disabled := (congrArg Tally.disabled (foldl_count _ {})).trans (Nat.zero_add _)
  loads := (foldl_count_calls h {}).1.trans (Nat.zero_add _)
  unloaded := (foldl_count_calls h {}).2.trans (Nat.zero_add _)

/-! ## One stream after another -/

/-- Where the tally begins matters to the tally alone. -/
theorem apply_add (event : Event) (first tally : Tally) (writer : Writer σ) :
    apply event (first + tally) writer =
      { apply event tally writer with
        result := (apply event tally writer).result.map (first + ·) } := by
  have hadd : ∀ outcome, (first + tally).add outcome = first + tally.add outcome := by
    intro outcome
    cases outcome <;> rfl
  cases event with
  | load type origin =>
    rw [apply, apply, hadd]
    split <;> rfl
  | unload identity => rfl

/-- Where the lines are counted from, and where the tally begins, matters to the result alone. -/
theorem runLines_later (count number : Nat) (first tally : Tally) (writer : Writer σ)
    (lines : List (List UInt8)) :
    runLines (number + count) (first + tally) writer lines =
      { runLines number tally writer lines with
        result := ((runLines number tally writer lines).result.mapError
          (ReplayFault.later count)).map (first + ·) } := by
  induction lines generalizing number tally writer with
  | nil => rfl
  | cons line rest ih =>
    rw [runLines, runLines, Nat.add_right_comm number count 1]
    cases content line with
    | blank => exact ih (number + 1) tally writer
    | unreadable | invalid => rfl
    | event event =>
      simp only [apply_add]
      cases (apply event tally writer).result with
      | none => rfl
      | some tally => simp only [Option.map_some, ih]

/-- Lines behind others are replayed on the writer that these leave, if their replay comes to its end. -/
theorem runLines_append_of_ok {number : Nat} {tally first : Tally} {writer : Writer σ}
    {front : List (List UInt8)} (h : (runLines number tally writer front).result = .ok first)
    (back : List (List UInt8)) :
    runLines number tally writer (front ++ back) =
      let before := runLines number tally writer front
      let e := runLines (number + front.length) first before.state back
      { e with notices := before.notices ++ e.notices } := by
  -- each line of the first part hands its tally and its writer on, so all three go along
  induction front generalizing number tally writer with
  | nil =>
    obtain rfl := Except.ok.inj h
    rfl
  | cons line rest ih =>
    rw [List.cons_append, runLines, runLines, Text.number_cons]
    rw [runLines] at h
    cases hcontent : content line with
    | blank =>
      simp only [hcontent] at h
      exact ih h
    | unreadable | invalid => simp [hcontent] at h
    | event event =>
      simp only [hcontent] at h ⊢
      cases hresult : (apply event tally writer).result with
      | none => simp [hresult] at h
      | some tally =>
        simp only [hresult] at h ⊢
        simp only [ih h, List.append_assoc]

/-- Lines behind others are not looked at if the replay of these ends early. -/
theorem runLines_append_of_error {number : Nat} {tally : Tally} {writer : Writer σ}
    {front : List (List UInt8)} {fault : ReplayFault}
    (h : (runLines number tally writer front).result = .error fault) (back : List (List UInt8)) :
    runLines number tally writer (front ++ back) = runLines number tally writer front := by
  induction front generalizing number tally writer with
  | nil => simp [runLines] at h
  | cons line rest ih =>
    rw [List.cons_append, runLines, runLines]
    rw [runLines] at h
    cases hcontent : content line with
    | blank =>
      simp only [hcontent] at h
      exact ih h
    | unreadable | invalid => rfl
    | event event =>
      simp only [hcontent] at h ⊢
      cases hresult : (apply event tally writer).result with
      | none => rfl
      | some tally =>
        simp only [hresult] at h ⊢
        simp only [ih h]

/-- The lines of a stream behind whole lines. -/
theorem lines_append {stream : List UInt8} (hwhole : stream = [] ∨ stream.getLast? = some 0x0A)
    (more : List UInt8) : lines (stream ++ more) = lines stream ++ lines more :=
  Text.lines_append stream more hwhole

/-- A stream behind one whose replay comes to its end is replayed on the writer that this leaves. -/
theorem run_append_of_ok {stream : List UInt8} {writer : Writer σ} {first : Tally}
    (hwhole : stream = [] ∨ stream.getLast? = some 0x0A)
    (h : (run stream writer).result = .ok first) (more : List UInt8) :
    run (stream ++ more) writer =
      let before := run stream writer
      let e := run more before.state
      { state := e.state
        result := (e.result.mapError (ReplayFault.later (stream.count 0x0A))).map (first + ·)
        notices := before.notices ++ e.notices } := by
  have hlines : (lines stream).length = stream.count 0x0A := Text.length_lines hwhole
  have hrest : ∀ state : Writer σ, runLines (1 + stream.count 0x0A) first state (lines more) =
      { run more state with
        result := ((run more state).result.mapError
          (ReplayFault.later (stream.count 0x0A))).map (first + ·) } :=
    fun state => runLines_later (stream.count 0x0A) 1 first {} state (lines more)
  rw [run, lines_append hwhole, runLines_append_of_ok h, hlines]
  simp only [hrest]
  rfl

/-- A stream behind one whose replay ends early is not looked at. -/
theorem run_append_of_error {stream : List UInt8} {writer : Writer σ} {fault : ReplayFault}
    (hwhole : stream = [] ∨ stream.getLast? = some 0x0A)
    (h : (run stream writer).result = .error fault) (more : List UInt8) :
    run (stream ++ more) writer = run stream writer := by
  rw [run, lines_append hwhole, runLines_append_of_error h, run]

/-- **A replay is the events up to the first bad line.** A stream is cut in one way into lines, each ended
by a line feed or a carriage return with a line feed, and these come to one list of events. If the
catalog does not break off, the writer is left as the events leave it one by one, and the replay reports
the first line that is not text, or neither blank nor an event, by its number, blank lines counted. If
there is no such line it comes to a tally that counts the events by the answers to them. So a stream
behind a whole one is replayed as it is on the writer that this leaves: tallies add up, and the number
of a bad line grows by the lines before. It is not looked at if the first replay ends early. -/
theorem replay_is_fold_up_to_first_bad_line (stream : List UInt8) (writer : Writer σ)
    (hsound : ∀ line, (run stream writer).result ≠ .error (.interrupted line)) :
    (∃ lines events fault,
      (∀ found, Text.Lined 0x0A 0x0D stream found ↔ lines = found) ∧
      (∀ others other, Plays 1 lines others other ↔ events = others ∧ fault = other) ∧
      (run stream writer).state = writer.after (events.map Event.call) ∧
      match fault with
      | some fault => (run stream writer).result = .error fault
      | none => ∃ tally, (run stream writer).result = .ok tally ∧
          tally.Counts events (writer.replies (events.map Event.call))) ∧
    ((stream = [] ∨ stream.getLast? = some 0x0A) → ∀ more,
      match (run stream writer).result with
      | .error _ => run (stream ++ more) writer = run stream writer
      | .ok first =>
        (run (stream ++ more) writer).state = (run more (run stream writer).state).state ∧
          (run (stream ++ more) writer).result =
            match (run more (run stream writer).state).result with
            | .ok second => .ok (first + second)
            | .error fault => .error (fault.later (stream.count 0x0A))) := by
  obtain ⟨hreplies, hstate, hresult⟩ := runLines_of_sound hsound
  refine ⟨⟨lines stream, events (lines stream), firstFault 1 (lines stream),
    fun _ => (Text.lines_eq_iff (by decide)).symm, fun _ _ => plays_iff, hstate, ?_⟩, ?_⟩
  · cases hfault : firstFault 1 (lines stream) with
    | some fault =>
      rw [hfault] at hresult
      exact hresult
    | none =>
      rw [hfault] at hresult
      exact ⟨_, hresult, counts_foldl_count hreplies⟩
  · intro hwhole more
    cases hfirst : (run stream writer).result with
    | error fault => exact run_append_of_error hwhole hfirst more
    | ok first =>
      rw [run_append_of_ok hwhole hfirst]
      refine ⟨rfl, ?_⟩
      cases hnext : (run more (run stream writer).state).result with
      | ok second => simp [hnext, Except.map, Except.mapError]
      | error fault => simp [hnext, Except.map, Except.mapError]

/-- The second line of a stream is bad. Behind a stream of one load and one blank line it is the fourth,
and what stands behind it is not done. -/
theorem second_line_is_fourth_behind_two :
    let first := Utf8.encode ("\x7b\"event\":\"load\",\"type\":" ++
      "\x7b\"identity\":1,\"name\":\"A\",\"loader\":\"builtin\"\x7d\x7d\r\n\n")
    let second := Utf8.encode ("\x7b\"event\":\"unload\",\"identity\":1\x7d\n" ++
      "\x7b\"event\":\"load\"\x7d\n" ++
      "\x7b\"event\":\"load\",\"type\":" ++
        "\x7b\"identity\":2,\"name\":\"B\",\"loader\":\"builtin\"\x7d\x7d")
    let writer := Writer.begun {} ({} : NameCatalog) ⟨[]⟩ {} none
    (∀ line, (run first writer).result ≠ .error (.interrupted line)) ∧
      (run first writer).result = .ok { recorded := 1 } ∧
      (run (first ++ second) writer).result = .error (.invalid 4) ∧
      (run (first ++ second) writer).state.live = 0 := by
  intro first second writer
  have hsound : ∀ line, (run first writer).result ≠ .error (.interrupted line) :=
    runLines_ne_interrupted NameCatalog.answers 1 {} writer (lines first)
  obtain ⟨hfirst, hsecond, hlive⟩ : (run first writer).result = .ok { recorded := 1 } ∧
      (run second (run first writer).state).result = .error (.invalid 2) ∧
      (run second (run first writer).state).state.live = 0 := by
    have hstart := Sink.start_of_room ⟨[]⟩ {} none (by decide) (by decide) (by decide)
    simp only [first, second, writer, Utf8.encode, String.toList_append]
    rw [Writer.begun_eq, Sink.state_start hstart]
    decide +kernel
  obtain ⟨hwhole, hcount⟩ : first.getLast? = some 0x0A ∧ first.count 0x0A = 2 := by
    simp only [first, Utf8.encode, String.toList_append]
    decide +kernel
  -- the streams and the writer are not to be looked into any more
  clear_value first second writer
  obtain ⟨-, happend⟩ := replay_is_fold_up_to_first_bad_line first writer hsound
  have hboth := happend (.inr hwhole) second
  rw [hfirst] at hboth
  obtain ⟨hstate, hresult⟩ := hboth
  rw [hsecond, hcount] at hresult
  refine ⟨hsound, hfirst, hresult, ?_⟩
  rw [hstate, hlive]

end Replay

end LoadOrder
