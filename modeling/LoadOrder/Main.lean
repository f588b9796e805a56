/-
# The command line

The program works on a picture of the files that its arguments name. This module takes the picture,
lets the program run on it, and brings about what it changed.
-/
import LoadOrder.Program

namespace LoadOrder.Main

/-! ## The process -/

/-- The number at the head of a text. -/
def leadingNumber (text : List Char) : Nat :=
  Nat.ofDigitChars 10 (text.takeWhile Char.isDigit) 0

/-- The number after a word and a space. -/
def numberAfter (word text : String) : Nat :=
  match (text.splitOn s!"{word} ").tail.head? with
  | some rest => leadingNumber rest.toList
  | none => 0

/-- The number of this process, from the host's table of processes. -/
def pid : IO Nat :=
  return leadingNumber (← IO.FS.readFile "/proc/self/stat").toList

/-- The time by the host's clock, without regard to the time zone. -/
def now : IO LocalTime := do
  let started := numberAfter "btime" (← IO.FS.readFile "/proc/stat")
  let running := leadingNumber (← IO.FS.readFile "/proc/uptime").toList
  return .ofSeconds (started + running)

/-- What log names may mention; nothing in particular where the host does not tell. -/
def launch : IO Launch := do
  try return { pid := ← pid, time := ← now }
  catch _ => return default

/-! ## The files -/

/-- A place as the host spells it. -/
def hostPath (place : Location) : String :=
  String.ofList ('/' :: ['/'].intercalate (place.map Utf8.lossy))

/-- What stands at a place in a folder: a file if it can be read, else a folder. -/
def observe (place : Location) : IO (Option Node) := do
  try return some (.file (← IO.FS.readBinFile (hostPath place)).toList)
  catch
  | .noFileOrDirectory .. => return none
  | _ => return some .folder

/-- A directory with what stands on the way to a path. -/
def addPath (directory : Directory) (path : FilePath) : IO Directory := do
  let mut directory := directory
  let mut place := if path.isAbsolute then [] else directory.workingFolder
  for name in Directory.steps path do
    if name = FilePath.dotDot then place := place.dropLast
    else if name ≠ FilePath.dot then
      let inFolder := directory.node? place = some .folder
      place := place ++ [name]
      if inFolder then
        if let some node ← observe place then directory := directory.put place node
  return directory

/-- The paths that a command names. -/
def pathsOf (launch : Launch) : Usage → List FilePath
  | .run _ (.replay events output ..) => [events, LogName.expand launch output]
  | .run _ (.check manifest) => [manifest]
  | .help | .misuse => []

/-- Puts a file or a folder at a place of the host. -/
def storeNode (place : Location) : Node → IO Unit
  | .folder => IO.FS.createDirAll (hostPath place)
  | .file bytes => IO.FS.writeBinFile (hostPath place) bytes.toByteArray

/-- Brings about what is new or changed in a directory. -/
def store (before after : Directory) : IO Unit :=
  (after.nodesSince before).forM fun entry => storeNode entry.1 entry.2

/-! ## The program -/

/-- How the program is used. -/
def usage : String := "\n".intercalate [
  "Usage: load-order [-d | --debug] <command>",
  "",
  "Commands:",
  "  replay --events <file> --output <file> [--drive-letter] [--exploded]",
  "                    write a manifest from a recorded stream of events",
  "  check <manifest>  check that a manifest refers back to earlier records only",
  "  help [command]    print this text"]

end LoadOrder.Main

open LoadOrder in
def main (arguments : List String) : IO UInt32 := do
  let launch ← Main.launch
  let here := Utf8.encode (← IO.currentDir).toString
  let mut before := Directory.within (Directory.steps ⟨here⟩)
  let usage := Arguments.read arguments
  for path in Main.pathsOf launch usage do
    before ← Main.addPath before path
  let conclusion := Program.run launch before arguments
  match usage with
  | .help => IO.println Main.usage
  | .misuse => IO.eprintln Main.usage
  | .run .. => Main.store before conclusion.directory
  for line in conclusion.log do
    IO.println s!"{line.level.text} {line.text}"
  if let some complaint := conclusion.complaint then IO.eprintln complaint
  return conclusion.exitCode.toUInt32
