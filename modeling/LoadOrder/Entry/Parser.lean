/-
# Reading an entry

A line is cut at the first source mark. The words before it are a name, the word `id:` and an id,
then at most one super id, then at most one list of interface ids, which takes every word that
follows it.
-/
import LoadOrder.Entry
import LoadOrder.Error
import LoadOrder.Text.Blank
import LoadOrder.Text.Decimal

namespace LoadOrder

/-- Why a line is not an entry. -/
inductive LineFault where
  | emptyRecord
  | idExpected
  | missingId
  | invalidId (word : List Char)
  | unexpectedField (word : List Char)
  | noInterfaces
  deriving DecidableEq, Repr, Inhabited

/-- The wording of a fault. -/
def LineFault.text : LineFault → String
  | emptyRecord => "empty record"
  | idExpected => "expected `id:` after the type name"
  | missingId => "missing id"
  | invalidId word => s!"invalid id `{String.ofList word}`"
  | unexpectedField word => s!"unexpected field `{String.ofList word}`"
  | noInterfaces => "`interfaces:` with no ids"

namespace Entry

/-- The text before the first source mark and, if there is one, the text after it. -/
def splitSource : List Char → List Char × Option (List Char)
  | [] => ([], none)
  | c :: rest =>
    if sourceMark.isPrefixOf (c :: rest) then ([], some ((c :: rest).drop sourceMark.length))
    else
      let (fields, source) := splitSource rest
      (c :: fields, source)

/-- The id that a word spells. -/
def readId (word : List Char) : Except LineFault RecordId :=
  match Decimal.read 4294967295 word with
  | some n => .ok (UInt32.ofNat n)
  | none => .error (.invalidId word)

/-- The id at the head of a list of words, and the words after it. -/
def takeId : List (List Char) → Except LineFault (RecordId × List (List Char))
  | [] => .error .missingId
  | word :: rest => do .ok (← readId word, rest)

/-- The interface ids, which are all the words that are left. -/
def readInterfaces (words : List (List Char)) : Except LineFault (List RecordId) :=
  if words = [] then .error .noInterfaces else words.mapM readId

/-- The super id and the interface ids in the words after the id. -/
def readFields : List (List Char) → Except LineFault (Option RecordId × List RecordId)
  | [] => .ok (none, [])
  | word :: rest =>
    if word = superWord then do
      let (superId, rest) ← takeId rest
      .ok (some superId, ← readTail rest)
    else do .ok (none, ← readTail (word :: rest))
where
  /-- The interface ids in the words after the super id. -/
  readTail : List (List Char) → Except LineFault (List RecordId)
    | [] => .ok []
    | word :: rest =>
      if word = interfacesWord then readInterfaces rest else .error (.unexpectedField word)

/-- The entry that a line spells. -/
def ofChars (line : List Char) : Except LineFault Entry := do
  let (fields, source) := splitSource line
  match Text.words fields with
  | [] => .error .emptyRecord
  | name :: rest =>
    if rest.head? ≠ some idWord then .error .idExpected
    else
      let (id, rest) ← takeId rest.tail
      let (superId, interfaces) ← readFields rest
      .ok { name := String.ofList name, id, superId, interfaces,
            source := source.map String.ofList }

/-- The entry on a line of a manifest, the line's number being for the error alone. -/
def parse (line : String) (number : Nat) : Except Error Entry :=
  (ofChars line.toList).mapError fun fault => .malformedLine number fault.text

end Entry

end LoadOrder
