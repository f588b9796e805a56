/-
# File paths

A path is a run of bytes in which slashes separate the names. It need not be text: for messages it
is shown with U+FFFD for broken bytes, or quoted.
-/
import LoadOrder.Text.Quoted

namespace LoadOrder

/-- A path as the host spells it. -/
structure FilePath where
  bytes : List UInt8
  deriving DecidableEq, Repr, Inhabited

namespace FilePath

/-- The path with a given spelling. -/
def ofString (spelling : String) : FilePath :=
  ⟨Utf8.encode spelling⟩

/-- A path as it stands in a message. -/
def text (path : FilePath) : String :=
  String.ofList (Utf8.lossy path.bytes)

/-- A path between quotes, every character apart. -/
def quoted (path : FilePath) : String :=
  Quoted.text path.bytes

/-- A path or its absence, as error messages show it. -/
def quoted? : Option FilePath → String
  | none => "None"
  | some path => s!"Some({path.quoted})"

/-! ## Parents

Empty names and single dots after the first name are idle: they do not count as names. A leading
slash, or else a leading single dot, is an anchor. The parent is the path before the last name,
without the idle names there. -/

/-- The byte that separates names. -/
def slash : UInt8 := 0x2F

/-- The name that means the directory itself. -/
def dot : List UInt8 := [0x2E]

/-- The name that means the directory above. -/
def dotDot : List UInt8 := [0x2E, 0x2E]

/-- Whether a path starts from the root. -/
def isAbsolute (path : FilePath) : Bool :=
  path.bytes.head? = some slash

/-- The leading slash or single dot of a path, or nothing. -/
def anchor (path : FilePath) : List UInt8 :=
  if path.isAbsolute || (path.bytes.splitOn slash).head? = some dot then path.bytes.take 1 else []

/-- Names without the idle ones at the end. -/
def dropIdle (names : List (List UInt8)) : List (List UInt8) :=
  (names.reverse.dropWhile fun name => name = [] ∨ name = dot).reverse

/-- What stands between the slashes after the anchor, up to the last name. -/
def names (path : FilePath) : List (List UInt8) :=
  dropIdle ((path.bytes.drop path.anchor.length).splitOn slash)

/-- The path before the last name; a sole slash and the empty path have none. -/
def parent (path : FilePath) : Option FilePath :=
  match path.names with
  | [] => if path.anchor = dot then some ⟨[]⟩ else none
  | names@(_ :: _) =>
    some ⟨path.anchor ++ [slash].intercalate (dropIdle names.dropLast)⟩

end FilePath

end LoadOrder
