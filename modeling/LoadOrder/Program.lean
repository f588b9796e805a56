/-
# The program

From the arguments and the directory in which the program starts to its exit code, its log, its
complaint and the directory that it leaves.
-/
import LoadOrder.Command.Arguments
import LoadOrder.Text.Guarded

namespace LoadOrder

/-- A notice as the log shows it. -/
structure LogLine where
  level : Level
  text : String
  deriving DecidableEq, Repr, Inhabited

/-- The log may be read on a terminal, so no name that a notice mentions may command it. -/
def LogLine.ofNotice (notice : Notice) : LogLine :=
  { level := notice.level, text := String.ofList (Text.guarded notice.text.toList) }

/-- What a run of the program comes to. -/
structure Conclusion where
  exitCode : UInt8
  directory : Directory
  /-- What the log shows. -/
  log : List LogLine := []
  /-- What is said about a failure. -/
  complaint : Option String := none

namespace Program

/-- Whether the log shows notices of a level. -/
def shows (debug : Bool) : Level → Bool
  | .trace => false
  | .debug => debug
  | .info | .warn => true

/-- The complaint about a failure. -/
def complaint (message : String) : String :=
  s!"Error: {message}"

/-- The conclusion from the report on a command. -/
def conclude (debug : Bool) (report : Command.Report) : Conclusion :=
  let shown := report.notices.filter fun notice => shows debug notice.level
  let log := shown.map LogLine.ofNotice
  match report.result with
  | .ok () => { exitCode := 0, directory := report.state, log }
  | .error message =>
    { exitCode := 1, directory := report.state, log, complaint := some (complaint message) }

/-- Runs the program. -/
def run (launch : Launch) (directory : Directory) (arguments : List String) : Conclusion :=
  match Arguments.read arguments with
  | .help => { exitCode := 0, directory }
  | .misuse => { exitCode := 2, directory }
  | .run debug command => conclude debug (command.run launch directory)

end Program

end LoadOrder
