/-
# Outputs

An output takes bytes at its end. Its medium may be short of room, take only a few bytes at a time,
and fail to flush or to truncate.
-/

namespace LoadOrder

/-- What the medium of an output allows. -/
structure Medium where
  /-- How many bytes fit. -/
  capacity : Option Nat := none
  /-- How many bytes are taken at a time. -/
  chunk : Option Nat := none
  /-- Whether a full medium takes nothing where it could refuse. -/
  stallsWhenFull : Bool := false
  /-- The number, counted from 1, of the flush that fails; 0 if none does. -/
  failingFlush : Nat := 0
  truncateFails : Bool := false
  /-- Whether truncating beyond the end adds zero bytes. -/
  zeroFills : Bool := false
  deriving DecidableEq, Repr, Inhabited

/-- Files have no limits. -/
def Medium.file : Medium := { zeroFills := true }

/-- Why an output failed. -/
inductive OutputFault where
  | noSpace
  | nothingTaken
  | flushFailed
  | truncateFailed
  deriving DecidableEq, Repr, Inhabited

/-- The wording of a fault. -/
def OutputFault.text : OutputFault → String
  | noSpace => "no space left"
  | nothingTaken => "failed to write whole buffer"
  | flushFailed => "flush failed"
  | truncateFailed => "truncate failed"

/-- A medium and what has been done to it. -/
structure Output where
  medium : Medium := {}
  contents : List UInt8 := []
  /-- How many flushes were asked for. -/
  flushes : Nat := 0
  /-- The lengths to which truncation was asked for. -/
  truncations : List Nat := []
  deriving DecidableEq, Repr, Inhabited

namespace Output

/-! ## Writing -/

/-- How many of `n` bytes fit. -/
def room (output : Output) (n : Nat) : Nat :=
  match output.medium.capacity with
  | none => n
  | some capacity => min n (capacity - output.contents.length)

/-- How many of `n` bytes are taken at once. -/
def share (output : Output) (n : Nat) : Nat :=
  match output.medium.chunk with
  | none => output.room n
  | some chunk => min (output.room n) chunk

/-- One attempt to write: how many bytes were taken. -/
def write (bytes : List UInt8) (output : Output) : Except OutputFault Nat × Output :=
  if bytes ≠ [] ∧ output.room bytes.length = 0 ∧ ! output.medium.stallsWhenFull then
    (.error .noSpace, output)
  else
    let n := output.share bytes.length
    (.ok n, { output with contents := output.contents ++ bytes.take n })

/-- Attempts to write, as many as allowed, until all bytes are taken. -/
def writeWithin : Nat → List UInt8 → Output → Except OutputFault Unit × Output
  | _, [], output => (.ok (), output)
  | 0, _ :: _, output => (.error .nothingTaken, output)
  | attempts + 1, bytes@(_ :: _), output =>
    match output.write bytes with
    | (.error fault, output) => (.error fault, output)
    | (.ok 0, output) => (.error .nothingTaken, output)
    | (.ok (n + 1), output) => writeWithin attempts (bytes.drop (n + 1)) output

/-- Writes bytes until all are taken or an attempt fails. An attempt that takes nothing is the
last, so there are no more of them than bytes. -/
def writeAll (bytes : List UInt8) (output : Output) : Except OutputFault Unit × Output :=
  writeWithin bytes.length bytes output

/-! ## Flushing and truncating -/

/-- Counts a flush, which fails if it is the one that has to fail. -/
def flush (output : Output) : Except OutputFault Unit × Output :=
  let output := { output with flushes := output.flushes + 1 }
  (if output.flushes = output.medium.failingFlush then .error .flushFailed else .ok (), output)

/-- The first `length` bytes, filled up with zero bytes if the medium does so. -/
def cut (output : Output) (length : Nat) : List UInt8 :=
  output.contents.take length ++
    if output.medium.zeroFills then List.replicate (length - output.contents.length) 0 else []

/-- Notes the length that was asked for, and cuts unless that fails. -/
def truncate (length : Nat) (output : Output) : Except OutputFault Unit × Output :=
  let asked := { output with truncations := output.truncations ++ [length] }
  if output.medium.truncateFails then (.error .truncateFailed, asked)
  else (.ok (), { asked with contents := output.cut length })

/-- Writes bytes and then flushes once. -/
def commit (bytes : List UInt8) (output : Output) : Except OutputFault Unit × Output :=
  match output.writeAll bytes with
  | (.error fault, output) => (.error fault, output)
  | (.ok (), output) => output.flush

end Output

end LoadOrder
