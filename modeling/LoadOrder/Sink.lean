/-
# Sinks

A sink puts lines at the end of a manifest. It writes the header when it is made, and flushes after
the header and after every line. When a write or a flush fails, the sink asks once for the part of
the line to be cut off and takes no more lines, so a manifest ends with a whole line.
-/
import LoadOrder.Directory
import LoadOrder.Manifest
import LoadOrder.Notice
import LoadOrder.Output

namespace LoadOrder

/-- A manifest that is being written. -/
structure Sink where
  /-- The name of the manifest in messages. -/
  path : FilePath
  output : Output
  /-- The place of the file that the output fills, if it fills one. -/
  place : Option Location := none
  isOpen : Bool := true
  /-- The length in bytes of the header and all whole lines. -/
  committed : Nat := 0
  /-- The number of lines after the header. -/
  records : Nat := 0
  deriving DecidableEq, Repr, Inhabited

namespace Sink

/-- The error that a fault of the output gives. -/
def ioError (sink : Sink) (fault : OutputFault) : Error :=
  .io fault.text (some sink.path)

/-! ## Writing -/

/-- Cuts off what is not committed and releases the output. -/
def abandon (sink : Sink) : Effect Sink Unit :=
  let (result, output) := sink.output.truncate sink.committed
  { result := ()
    state := { sink with output, isOpen := false }
    notices :=
      match result with
      | .ok () => []
      | .error fault => [.partialKept sink.path fault.text] }

/-- Writes a text and flushes it; a failure releases the output. -/
def append (text : String) (sink : Sink) : Effect Sink (Except Error Unit) :=
  if sink.isOpen then
    let bytes := Utf8.encode text
    match sink.output.commit bytes with
    | (.ok (), output) =>
      { result := .ok ()
        state := { sink with output, committed := sink.committed + bytes.length } }
    | (.error fault, output) =>
      let dropped := abandon { sink with output }
      { result := .error (sink.ioError fault), state := dropped.state, notices := dropped.notices }
  else { result := .error .sinkClosed, state := sink }

/-- A sink over an empty output, with the header written. If that fails the sink is not open. -/
def start (path : FilePath) (output : Output) (place : Option Location) :
    Effect Sink (Except Error Unit) :=
  append Manifest.headerText { path, output, place }

/-- Writes a line and flushes it. -/
def writeLine (line : String) (sink : Sink) : Effect Sink (Except Error Unit) :=
  let appended := sink.append (line ++ "\n")
  match appended.result with
  | .ok () =>
    { appended with
      state := { appended.state with records := appended.state.records + 1 }
      notices := appended.notices ++ [.written line] }
  | .error _ => appended

/-- Flushes and releases the output. A sink that is not open stays as it is. -/
def close (sink : Sink) : Effect Sink (Except Error Unit) :=
  if sink.isOpen then
    let (result, output) := sink.output.flush
    let released := { sink with output, isOpen := false }
    match result with
    | .ok () =>
      { result := .ok (), state := released, notices := [.closed sink.path sink.records] }
    | .error fault => { result := .error (sink.ioError fault), state := released }
  else { result := .ok (), state := sink }

/-! ## Manifests in a directory -/

/-- The directory with what the sink has written, if it fills a file. -/
def saveTo (sink : Sink) (directory : Directory) : Directory :=
  match sink.place with
  | some place => directory.put place (.file sink.output.contents)
  | none => directory

/-- Makes the folders above a path that are missing. -/
def prepareFolder (path : FilePath) (directory : Directory) : Except Error Unit × Directory :=
  match path.parent with
  | none => (.ok (), directory)
  | some parent =>
    if parent.bytes = [] ∨ directory.exists? parent then (.ok (), directory)
    else
      match directory.makeFolders parent with
      | (true, directory) => (.ok (), directory)
      | (false, directory) =>
        (.error (.io s!"Failed to create directory {parent.text}" (some parent)), directory)

/-- The sink over a new file, unless it could not be started. -/
def opened (path : FilePath) (started : Effect Sink (Except Error Unit)) (directory : Directory) :
    Effect Directory (Except Error Sink) :=
  let directory := started.state.saveTo directory
  match started.result with
  | .error error => { result := .error error, state := directory, notices := started.notices }
  | .ok () =>
    { result := .ok started.state, state := directory,
      notices := started.notices ++ [.opened path] }

/-- A sink over a new file at a path, in place of a file that stands there. -/
def openFile (path : FilePath) (directory : Directory) :
    Effect Directory (Except Error Sink) :=
  match prepareFolder path directory with
  | (.error error, directory) => { result := .error error, state := directory }
  | (.ok (), directory) =>
    match directory.create path with
    | none =>
      { result := .error (.io s!"Failed to create class list {path.text}" (some path))
        state := directory }
    | some (place, directory) =>
      opened path (start path { medium := .file } (some place)) directory

/-! ## Showing a sink -/

/-- A sink in short form. -/
def text (sink : Sink) : String :=
  s!"ManifestSink \x7b path: {sink.path.quoted}, open: {sink.isOpen}, " ++
    s!"committed: {sink.committed}, records: {sink.records} \x7d"

end Sink

end LoadOrder
