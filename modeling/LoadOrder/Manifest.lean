/-
# Manifests

A manifest is a header of three comment lines and then one line for each entry. A reader skips
comment lines and blank lines wherever they stand, but counts them.
-/
import LoadOrder.Entry.Parser
import LoadOrder.Text.Lines

namespace LoadOrder.Manifest

/-! ## Writing -/

/-- The lines that every manifest begins with. -/
def header : List String := [
  "# NOTE: Do not modify this file.",
  "# This file is generated by dumping the list of loaded classes",
  "# and is used at archive dump time to replay the load order."]

/-- Lines as they stand in a file, each with its ending. -/
def linesChars (lines : List String) : List Char :=
  lines.flatMap fun line => line.toList ++ ['\n']

/-- The header as it stands in a file. -/
def headerText : String :=
  String.ofList (linesChars header)

/-- The manifest of a list of entries. -/
def render (entries : List Entry) : String :=
  String.ofList (linesChars (header ++ entries.map Entry.line))

/-! ## Reading -/

/-- Blank lines and comment lines are no records. -/
def isSkipped (line : List Char) : Bool :=
  Text.allBlank line || line.head? = some '#'

/-- The entries on lines that are numbered from a given number on. -/
def readLines (number : Nat) : List (List Char) → Except Error (List Entry)
  | [] => .ok []
  | line :: rest =>
    if isSkipped line then readLines (number + 1) rest
    else do
      let entry ← Entry.parse (String.ofList line) number
      .ok (entry :: (← readLines (number + 1) rest))

/-- The entries of a manifest, or the first line that is not a record. -/
def read (text : String) : Except Error (List Entry) :=
  readLines 1 (Text.lines '\n' '\r' text.toList)

end LoadOrder.Manifest
