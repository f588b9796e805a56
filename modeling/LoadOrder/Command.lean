/-
# Commands

What the program can be told to do: to replay a recorded stream into a new manifest, or to check
that a manifest is in order.
-/
import LoadOrder.Manifest.Order
import LoadOrder.Replay

namespace LoadOrder

/-- A task for the program. -/
inductive Command where
  | replay (events output : FilePath) (pathStyle : PathStyle) (hasRuntimeImage : Bool)
  | check (manifest : FilePath)
  deriving DecidableEq, Repr, Inhabited

namespace Command

/-- What a task came to: the error message if it failed, the directory after it, and what the log
was told. -/
abbrev Report := Effect Directory (Except String Unit)

/-! ## Replaying -/

/-- Replays the content of the events file. -/
def replayReading (events : FilePath) (writer : Writer NameCatalog) :
    Directory.Reading → Effect (Writer NameCatalog) (Except String Tally)
  | .absent => { result := .error s!"Failed to open {events.text}", state := writer }
  | .unreadable => { result := .error (ReplayFault.unreadable 1).text, state := writer }
  | .bytes stream =>
    let e := Replay.run stream writer
    { e with result := e.result.mapError ReplayFault.text }

/-- The last word on a replay that came to its end. -/
def conclude (tally : Tally) : Except String Unit :=
  if tally.disabled = 0 then .ok ()
  else .error s!"class list dumping was disabled after {tally.recorded} records"

/-- Opens the manifest, replays the events and closes the manifest, whatever happened. -/
def runReplay (launch : Launch) (directory : Directory) (events : FilePath) (config : Config) :
    Report :=
  let writer : Writer NameCatalog := { config, catalog := {} }
  let begun := writer.init launch directory
  let (writer, directory) := begun.state
  match begun.result with
  | .error error => { result := .error error.text, state := directory, notices := begun.notices }
  | .ok () =>
    let replayed := replayReading events writer ((writer.saveTo directory).read events)
    let closed := replayed.state.close
    let directory := closed.state.saveTo directory
    let notices := begun.notices ++ replayed.notices ++ closed.notices
    match replayed.result with
    | .error message => { result := .error message, state := directory, notices }
    | .ok tally =>
      { result := conclude tally
        state := directory
        notices := notices ++ [.replayed tally.recorded tally.rejected tally.unloaded] }

/-! ## Checking -/

/-- The number of records in a manifest in order. -/
def countRecords (text : String) : Except Error Nat := do
  let entries ← Manifest.read text
  Manifest.checkOrder entries
  .ok entries.length

/-- The text of a file, if it can be read and is text. -/
def readText (directory : Directory) (path : FilePath) : Option String :=
  match directory.read path with
  | .bytes bytes => (Utf8.decode bytes).map String.ofList
  | .absent | .unreadable => none

/-- Reads a manifest and checks its order. -/
def runCheck (directory : Directory) (manifest : FilePath) : Report :=
  match readText directory manifest with
  | none => { result := .error s!"Failed to read {manifest.text}", state := directory }
  | some text =>
    match countRecords text with
    | .error error => { result := .error error.text, state := directory }
    | .ok records =>
      { result := .ok (), state := directory, notices := [.inOrder manifest records] }

/-- Carries out a task in a directory. -/
def run (launch : Launch) (directory : Directory) : Command → Report
  | replay events output pathStyle hasRuntimeImage =>
    runReplay launch directory events { output := some output, pathStyle, hasRuntimeImage }
  | check manifest => runCheck directory manifest

end Command

end LoadOrder
