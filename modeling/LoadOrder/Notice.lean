/-
# Notices

What the library tells its log. A notice is a fact of the library; its level and its wording are
functions of it.
-/
import LoadOrder.Eligibility
import LoadOrder.Error

namespace LoadOrder

/-- How much a notice matters. -/
inductive Level where
  | trace
  | debug
  | info
  | warn
  deriving DecidableEq, Repr, Inhabited

/-- The name of a level. -/
def Level.text : Level → String
  | trace => "TRACE"
  | debug => "DEBUG"
  | info => "INFO"
  | warn => "WARN"

/-- Something that the log is told. -/
inductive Notice where
  /-- A type was left out of the manifest. -/
  | skipped (name : String) (identity : TypeIdentity) (reason : Rejection)
  /-- A line was written and flushed. -/
  | written (line : String)
  /-- What a failed write left could not be cut off. -/
  | partialKept (path : FilePath) (message : String)
  /-- A manifest file was opened. -/
  | opened (path : FilePath)
  /-- A manifest was flushed and released. -/
  | closed (path : FilePath) (records : Nat)
  | openFailed (path : FilePath) (error : Error)
  | writeFailed (error : Error)
  | closeFailed (error : Error)
  /-- A load came upon a lock that an interrupted load had left poisoned. -/
  | lockRefused (error : Error)
  /-- A load came upon a runtime without a packaged image. -/
  | noRuntimeImage
  /-- A recorded type was unloaded. -/
  | unloaded (identity : TypeIdentity) (id : UInt32)
  /-- A stream of events was replayed to its end. -/
  | replayed (recorded rejected gone : Nat)
  /-- A manifest was read and found in order. -/
  | inOrder (path : FilePath) (records : Nat)
  deriving DecidableEq, Repr, Inhabited

namespace Notice

/-- How much a notice matters. What ends a manifest early is a warning. -/
def level : Notice → Level
  | skipped .. => .trace
  | written .. | partialKept .. | unloaded .. => .debug
  | opened .. | closed .. | replayed .. | inOrder .. => .info
  | openFailed .. | writeFailed .. | closeFailed .. | lockRefused .. | noRuntimeImage => .warn

/-- The wording of a notice. -/
def text : Notice → String
  | skipped name identity reason => s!"Skipping {name} ({identity.text}): {reason.text}"
  | written line => s!"class list: {line}"
  | partialKept path message => s!"Could not remove partial record from {path.text}: {message}"
  | opened path => s!"Dumping loaded classes to {path.text}"
  | closed path records => s!"Closed class list {path.text} ({records} records)"
  | openFailed path error => s!"Cannot open class list {path.text}, dumping disabled: {error.text}"
  | writeFailed error => s!"Failed to write class list, dumping disabled: {error.text}"
  | closeFailed error => s!"Failed to close class list: {error.text}"
  | lockRefused error => s!"Class list dumping disabled: {error.text}"
  | noRuntimeImage => "Class list dumping is not supported in exploded build"
  | unloaded identity id => s!"Unloaded {identity.text} (class list id {id.toNat})"
  | replayed recorded rejected gone =>
    s!"Replayed events: {recorded} recorded, {rejected} rejected, {gone} unloaded"
  | inOrder path records => s!"{path.text}: {records} records in order"

end Notice

/-- A rejected type is mentioned in the log. -/
def Decision.notices (type : LoadedType) : Decision → List Notice
  | rejected reason => [.skipped type.name type.identity reason]
  | eligible | interrupted => []

/-- A result, the state after it, and what the log is told on the way. -/
structure Effect (σ α : Type) where
  result : α
  state : σ
  notices : List Notice := []
  deriving Repr

end LoadOrder
