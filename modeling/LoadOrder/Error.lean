/-
# Errors

What setting up a manifest, writing to it and reading it can report. Each error has one wording.

Main statement:
- `bind_eq_ok_iff`: two steps of which each can fail give a result exactly if both do.
-/
import LoadOrder.FilePath

namespace LoadOrder

/-- A failure that a caller can act on. -/
inductive Error where
  /-- The host refused to create, write or flush the manifest. -/
  | io (message : String) (path : Option FilePath)
  /-- The sink was closed, or released after a failed write. -/
  | sinkClosed
  /-- An earlier operation broke off while it held the writer's lock. -/
  | lockPoisoned
  /-- A line, counted from 1, is not a record. -/
  | malformedLine (line : Nat) (message : String)
  /-- A record, counted from 1, breaks the order of the manifest. -/
  | outOfOrder (record : Nat) (message : String)
  deriving DecidableEq, Repr, Inhabited

namespace Error

/-- The wording of an error. -/
def text : Error → String
  | io message path => s!"IO error at {FilePath.quoted? path}: {message}"
  | sinkClosed => "Class list sink is closed"
  | lockPoisoned => "Class list lock poisoned by a panicking thread"
  | malformedLine line message => s!"Malformed manifest line {line}: {message}"
  | outOfOrder record message => s!"Manifest out of order at record {record}: {message}"

/-- Whether an error comes from the manifest as a file and not from what it says. -/
def isIo : Error → Bool
  | io .. | sinkClosed => true
  | lockPoisoned | malformedLine .. | outOfOrder .. => false

end Error

/-- Two steps succeed exactly if the first does and the second does with what the first gives. -/
theorem bind_eq_ok_iff {ε α β : Type} {first : Except ε α} {second : α → Except ε β} {b : β} :
    first >>= second = .ok b ↔ ∃ a, first = .ok a ∧ second a = .ok b := by
  constructor
  · intro h
    cases first with
    | error fault => cases h
    | ok a => exact ⟨a, rfl, h⟩
  · rintro ⟨a, rfl, h⟩
    exact h

end LoadOrder
