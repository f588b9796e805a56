/-
# Replays

A replay feeds the events of a recorded stream to a writer, line by line. Blank lines are passed
over but counted. The first line that is no text or no event ends the replay; what the lines before
it did stands.
-/
import LoadOrder.Event.Decoding
import LoadOrder.Text.Blank
import LoadOrder.Text.Lines
import LoadOrder.Writer

namespace LoadOrder

/-- How many events had which result. -/
structure Tally where
  recorded : Nat := 0
  rejected : Nat := 0
  unloaded : Nat := 0
  disabled : Nat := 0
  deriving DecidableEq, Repr, Inhabited

/-- A tally with one more load of the given outcome; an interrupted load does not count. -/
def Tally.add (tally : Tally) : Outcome → Tally
  | .recorded _ => { tally with recorded := tally.recorded + 1 }
  | .rejected _ => { tally with rejected := tally.rejected + 1 }
  | .disabled => { tally with disabled := tally.disabled + 1 }
  | .interrupted => tally

/-- Why a replay ended early. Lines are counted from 1. -/
inductive ReplayFault where
  /-- The line is not text. -/
  | unreadable (line : Nat)
  /-- The line is not an event. -/
  | invalid (line : Nat)
  /-- The catalog broke off at the event on the line. -/
  | interrupted (line : Nat)
  deriving DecidableEq, Repr, Inhabited

/-- The wording of a fault. -/
def ReplayFault.text : ReplayFault → String
  | unreadable line => s!"Failed to read event line {line}"
  | invalid line => s!"Invalid event on line {line}"
  | interrupted line => s!"Interrupted at event line {line}"

namespace Replay

/-- What a line of a stream holds. -/
inductive LineContent where
  | blank
  | event (event : Event)
  | unreadable
  | invalid
  deriving DecidableEq, Repr, Inhabited

/-- The content of a line. -/
def content (line : List UInt8) : LineContent :=
  match Utf8.decode line with
  | none => .unreadable
  | some chars =>
    if Text.allBlank chars then .blank
    else
      match Event.ofChars chars with
      | some event => .event event
      | none => .invalid

variable {σ : Type} [Catalog σ]

/-- One event. The result is none if the catalog broke off. -/
def apply (event : Event) (tally : Tally) (writer : Writer σ) :
    Effect (Writer σ) (Option Tally) :=
  match event with
  | .load type origin =>
    let e := writer.load type origin
    { e with result := if e.result = .interrupted then none else some (tally.add e.result) }
  | .unload identity =>
    { writer.unload identity with result := some { tally with unloaded := tally.unloaded + 1 } }

/-- The lines from a given number on. -/
def runLines (number : Nat) (tally : Tally) (writer : Writer σ) :
    List (List UInt8) → Effect (Writer σ) (Except ReplayFault Tally)
  | [] => { result := .ok tally, state := writer }
  | line :: rest =>
    match content line with
    | .blank => runLines (number + 1) tally writer rest
    | .unreadable => { result := .error (.unreadable number), state := writer }
    | .invalid => { result := .error (.invalid number), state := writer }
    | .event event =>
      let applied := apply event tally writer
      match applied.result with
      | none =>
        { result := .error (.interrupted number), state := applied.state,
          notices := applied.notices }
      | some tally =>
        let e := runLines (number + 1) tally applied.state rest
        { e with notices := applied.notices ++ e.notices }

/-- The lines of a recorded stream. -/
def lines (stream : List UInt8) : List (List UInt8) :=
  Text.lines 0x0A 0x0D stream

/-- Feeds a recorded stream to a writer. -/
def run (stream : List UInt8) (writer : Writer σ) :
    Effect (Writer σ) (Except ReplayFault Tally) :=
  runLines 1 {} writer (lines stream)

end Replay

end LoadOrder
