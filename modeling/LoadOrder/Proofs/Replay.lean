/-
# Replays as runs

A replay calls the writer once for each event of its stream. The first line that is no event is the
end of it. If the catalog does not break off nothing else can end a replay, so it leaves the writer
as the calls do, and comes to the tally of their answers or to the fault of that line.

Main statements:
- `apply_of_ne_interrupted`: an event is a call;
- `runLines_of_sound`: the writer after a replay, and what the replay comes to;
- `state_run`, `result_run`: the same for a catalog that never breaks off;
- `foldl_count`: a tally counts the answers by their kinds;
- `firstFault_eq_none_iff`: a replay comes to its end if each line is blank or an event.
-/
import LoadOrder.Proofs.Writer.Operations
import LoadOrder.Replay

namespace LoadOrder

/-! ## The calls of a replay -/

/-- What an event asks of the writer. -/
def Event.call : Event → Writer.Call
  | load type origin => .load type origin
  | unload identity => .unload identity

namespace Replay

/-- The events on the lines before the first one that is not text or no event. -/
def events : List (List UInt8) → List Event
  | [] => []
  | line :: rest =>
    match content line with
    | .blank => events rest
    | .event event => event :: events rest
    | .unreadable | .invalid => []

/-- What a recorded stream asks of the writer. -/
def calls (stream : List UInt8) : List Writer.Call :=
  (events (lines stream)).map Event.call

variable {σ : Type} [Catalog σ]

/-- A tally with one more answer to an event. -/
def count (tally : Tally) : Writer.Reply → Tally
  | .outcome outcome => tally.add outcome
  | .done => { tally with unloaded := tally.unloaded + 1 }
  | .id _ | .count _ | .path _ | .flag _ => tally

/-- If the catalog does not break off at an event, the event leaves the writer as its call does and
counts as the answer. -/
theorem apply_of_ne_interrupted {event : Event} {writer : Writer σ}
    (h : (writer.call event.call).result ≠ .outcome .interrupted) (tally : Tally) :
    (apply event tally writer).state = (writer.call event.call).state ∧
      (apply event tally writer).result = some (count tally (writer.call event.call).result) := by
  cases event with
  | load type origin =>
    have hresult : (writer.load type origin).result ≠ .interrupted :=
      fun hresult => h (congrArg Writer.Reply.outcome hresult)
    simp [apply, hresult, count, Event.call, Writer.call]
  | unload identity => exact ⟨rfl, rfl⟩

/-- If the catalog breaks off at an event, the replay does not go on. -/
theorem apply_of_interrupted {event : Event} {writer : Writer σ}
    (h : (writer.call event.call).result = .outcome .interrupted) (tally : Tally) :
    (apply event tally writer).result = none := by
  cases event with
  | load type origin =>
    have hresult : (writer.load type origin).result = .interrupted := Writer.Reply.outcome.inj h
    simp [apply, hresult]
  | unload identity => exact absurd h (by simp [Event.call, Writer.call])

/-! ## Whole replays -/

/-- The first line that is not text or no event, the lines being counted from a given number on. -/
def firstFault (number : Nat) : List (List UInt8) → Option ReplayFault
  | [] => none
  | line :: rest =>
    match content line with
    | .blank | .event _ => firstFault (number + 1) rest
    | .unreadable => some (.unreadable number)
    | .invalid => some (.invalid number)

/-- If the catalog does not break off, the lines of a stream leave the writer as the calls do that
they ask for, and come to the fault of the first bad line or to the tally of the answers. -/
theorem runLines_of_sound {number : Nat} {tally : Tally} {writer : Writer σ}
    {lines : List (List UInt8)}
    (hsound : ∀ line, (runLines number tally writer lines).result ≠ .error (.interrupted line)) :
    .outcome .interrupted ∉ writer.replies ((events lines).map Event.call) ∧
      (runLines number tally writer lines).state =
        writer.after ((events lines).map Event.call) ∧
      (runLines number tally writer lines).result =
        match firstFault number lines with
        | some fault => .error fault
        | none => .ok ((writer.replies ((events lines).map Event.call)).foldl count tally) := by
  induction lines generalizing number tally writer with
  | nil => exact ⟨by simp [events, Writer.replies], rfl, rfl⟩
  | cons line rest ih =>
    rw [runLines] at hsound ⊢
    rw [firstFault, events]
    cases hcontent : content line with
    | blank =>
      simp only [hcontent] at hsound
      exact ih hsound
    | unreadable | invalid => exact ⟨by simp [Writer.replies], rfl, rfl⟩
    | event event =>
      by_cases hbroken : (writer.call event.call).result = .outcome .interrupted
      · simp only [hcontent, apply_of_interrupted hbroken] at hsound
        exact absurd rfl (hsound number)
      · obtain ⟨hstate, hresult⟩ := apply_of_ne_interrupted hbroken tally
        simp only [hcontent, hresult, hstate] at hsound ⊢
        obtain ⟨hreplies, hafter, htally⟩ := ih hsound
        refine ⟨?_, hafter, htally⟩
        rw [List.map_cons, Writer.replies, List.mem_cons, not_or]
        exact ⟨Ne.symm hbroken, hreplies⟩

/-- If the catalog answers, no replay is broken off. -/
theorem runLines_ne_interrupted (hanswers : Catalog.Answers σ) (number : Nat) (tally : Tally)
    (writer : Writer σ) (lines : List (List UInt8)) :
    ∀ line, (runLines number tally writer lines).result ≠ .error (.interrupted line) := by
  induction lines generalizing number tally writer with
  | nil => simp [runLines]
  | cons line rest ih =>
    rw [runLines]
    cases content line with
    | blank => exact ih _ _ _
    | unreadable | invalid => simp
    | event event =>
      have hreply : (writer.call event.call).result ≠ .outcome .interrupted := by
        cases event with
        | load type origin =>
          exact fun h => writer.load_ne_interrupted hanswers type origin (Writer.Reply.outcome.inj h)
        | unload identity => simp [Event.call, Writer.call]
      simp only [(apply_of_ne_interrupted hreply tally).2]
      exact ih _ _ _

/-- A replay leaves the writer as the calls do that the stream asks for. -/
theorem state_run (hanswers : Catalog.Answers σ) (stream : List UInt8) (writer : Writer σ) :
    (run stream writer).state = writer.after (calls stream) :=
  (runLines_of_sound (runLines_ne_interrupted hanswers 1 {} writer (lines stream))).2.1

/-- A replay comes to the fault of the first bad line, or to the tally of the answers. -/
theorem result_run (hanswers : Catalog.Answers σ) (stream : List UInt8) (writer : Writer σ) :
    (run stream writer).result =
      match firstFault 1 (lines stream) with
      | some fault => .error fault
      | none => .ok ((writer.replies (calls stream)).foldl count {}) :=
  (runLines_of_sound (runLines_ne_interrupted hanswers 1 {} writer (lines stream))).2.2

/-- A line that is text, and blank or an event. -/
def Legible (line : List UInt8) : Prop :=
  ∃ chars, Utf8.decode line = some chars ∧
    (Text.allBlank chars = true ∨ ∃ event, Event.ofChars chars = some event)

/-- A line is legible if it is taken as blank or as an event. -/
theorem legible_iff (line : List UInt8) :
    Legible line ↔ content line = .blank ∨ ∃ event, content line = .event event := by
  cases hdecode : Utf8.decode line with
  | none => simp [Legible, content, hdecode]
  | some chars =>
    cases hblank : Text.allBlank chars with
    | true => simp [Legible, content, hdecode, hblank]
    | false =>
      cases hevent : Event.ofChars chars with
      | none => simp [Legible, content, hdecode, hblank, hevent]
      | some event => simp [Legible, content, hdecode, hblank, hevent]

/-- No line is at fault if all of them are legible. -/
theorem firstFault_eq_none_iff (number : Nat) (lines : List (List UInt8)) :
    firstFault number lines = none ↔ ∀ line ∈ lines, Legible line := by
  induction lines generalizing number with
  | nil => simp [firstFault]
  | cons line rest ih =>
    rw [firstFault, List.forall_mem_cons, legible_iff, ← ih (number + 1)]
    cases content line <;> simp

/-- What the answers add to a tally, by their kinds. -/
theorem foldl_count (replies : List Writer.Reply) (tally : Tally) :
    replies.foldl count tally =
      { recorded := tally.recorded + replies.countP (· matches .outcome (.recorded _))
        rejected := tally.rejected + replies.countP (· matches .outcome (.rejected _))
        unloaded := tally.unloaded + replies.countP (· matches .done)
        disabled := tally.disabled + replies.countP (· matches .outcome .disabled) } := by
  induction replies generalizing tally with
  | nil => rfl
  | cons reply rest ih =>
    rw [List.foldl_cons, ih]
    simp only [List.countP_cons, Tally.mk.injEq]
    rcases reply with (_ | _ | _ | _) | _ | _ | _ | _ | _ <;> simp [count, Tally.add] <;> omega

/-- A tally counts each load of a disabled writer. -/
theorem disabled_foldl_count (replies : List Writer.Reply) (tally : Tally) :
    (replies.foldl count tally).disabled =
      tally.disabled + replies.count (.outcome .disabled) := by
  have hsame : ∀ reply : Writer.Reply,
      (reply matches .outcome .disabled) = (reply == .outcome .disabled) := by
    rintro ((_ | _ | _ | _) | _ | _ | _ | _ | _) <;> rfl
  rw [foldl_count, List.count]
  simp only [hsame]

end Replay

end LoadOrder
