/-
# Directories

The files and folders that a run can see, as a finite tree. Paths are followed name by name from
the working folder: every name but the last must lead to a folder, a single dot stays where it is,
two dots lead one level up.
-/
import LoadOrder.FilePath
import Std.Data.ExtTreeMap

namespace LoadOrder

/-- The names that lead from the root to a place in the tree. -/
abbrev Location := List (List UInt8)

/-- What stands at a place. -/
inductive Node where
  | folder
  | file (bytes : List UInt8)
  deriving DecidableEq, Repr, Inhabited

/-- A tree of files and folders with a working folder. The root is always a folder. -/
structure Directory where
  nodes : Std.ExtTreeMap Location Node := ∅
  workingFolder : Location := []

instance : Inhabited Directory := ⟨{}⟩

/-- Why a path leads nowhere. -/
inductive Obstacle where
  /-- A name does not exist. -/
  | missing
  /-- A file stands where a folder should, or a name or the path has no legal form. -/
  | illegal
  deriving DecidableEq, Repr, Inhabited

namespace Directory

/-- What stands at a place. -/
def node? (directory : Directory) (place : Location) : Option Node :=
  if place = [] then some .folder else directory.nodes[place]?

/-- The tree with a node at a place, instead of what stands there. -/
def put (directory : Directory) (place : Location) (node : Node) : Directory :=
  { directory with nodes := directory.nodes.insert place node }

/-! ## Following paths -/

/-- The greatest length of a name in bytes. -/
def nameLimit : Nat := 255

/-- The greatest length of a path in bytes. -/
def pathLimit : Nat := 4095

/-- The names on a path; the empty ones between slashes do not count. -/
def steps (path : FilePath) : List (List UInt8) :=
  (path.bytes.splitOn FilePath.slash).filter (· ≠ [])

/-- A path that ends in a slash can only mean a folder. -/
def meansFolder (path : FilePath) : Bool :=
  path.bytes.getLast? = some FilePath.slash

/-- Where a path starts, if it has a legal form. -/
def start (directory : Directory) (path : FilePath) : Except Obstacle Location :=
  if path.bytes = [] then .error .missing
  else if (0 : UInt8) ∈ path.bytes ∨ pathLimit < path.bytes.length then .error .illegal
  else .ok (if path.isAbsolute then [] else directory.workingFolder)

/-- The place of a name in a folder, whether or not anything stands there. -/
def step (directory : Directory) (place : Location) (name : List UInt8) :
    Except Obstacle Location :=
  if directory.node? place ≠ some .folder then .error .illegal
  else if name = FilePath.dot then .ok place
  else if name = FilePath.dotDot then .ok place.dropLast
  else if nameLimit < name.length then .error .illegal
  else .ok (place ++ [name])

/-- The place of a name in a folder where something stands. -/
def enter (directory : Directory) (place : Location) (name : List UInt8) :
    Except Obstacle Location := do
  let place ← directory.step place name
  if (directory.node? place).isSome then .ok place else .error .missing

/-- The place to which a path leads. -/
def locate (directory : Directory) (path : FilePath) : Except Obstacle Location := do
  let place ← (steps path).foldlM directory.enter (← directory.start path)
  if meansFolder path ∧ directory.node? place ≠ some .folder then .error .illegal
  else .ok place

/-- Whether a path leads to anything. -/
def exists? (directory : Directory) (path : FilePath) : Bool :=
  (directory.locate path).isOk

/-- Whether a path leads to a folder. -/
def isFolder (directory : Directory) (path : FilePath) : Bool :=
  match directory.locate path with
  | .ok place => directory.node? place = some .folder
  | .error _ => false

/-! ## Reading and making files -/

/-- What comes of reading a file. -/
inductive Reading where
  /-- The path leads nowhere. -/
  | absent
  /-- The path leads to a folder. -/
  | unreadable
  | bytes (bytes : List UInt8)
  deriving DecidableEq, Repr, Inhabited

/-- The content of the file to which a path leads. -/
def read (directory : Directory) (path : FilePath) : Reading :=
  match directory.locate path with
  | .error _ => .absent
  | .ok place =>
    match directory.node? place with
    | some (.file bytes) => .bytes bytes
    | _ => .unreadable

/-- The folder before the last name of a path, and that name. -/
def locateParent (directory : Directory) (path : FilePath) :
    Except Obstacle (Location × List UInt8) := do
  let place ← (steps path).dropLast.foldlM directory.enter (← directory.start path)
  match (steps path).getLast? with
  | none => .ok (place, FilePath.dot)
  | some name => .ok (place, name)

/-- An empty file at a path, in place of a file that stands there. -/
def create (directory : Directory) (path : FilePath) : Option (Location × Directory) :=
  match directory.locateParent path with
  | .error _ => none
  | .ok (parent, name) =>
    match directory.step parent name with
    | .error _ => none
    | .ok place =>
      if meansFolder path ∨ directory.node? place = some .folder then none
      else some (place, directory.put place (.file []))

/-! ## Making folders -/

/-- A new folder at a path. The error is none if something stands there. -/
def makeFolder (directory : Directory) (path : FilePath) :
    Except (Option Obstacle) Directory :=
  match directory.locateParent path with
  | .error obstacle => .error obstacle
  | .ok (parent, name) =>
    match directory.step parent name with
    | .error obstacle => .error obstacle
    | .ok place =>
      if (directory.node? place).isSome then .error none
      else .ok (directory.put place .folder)

/-- A path and the paths above it, the nearest first, as far as a number of levels. -/
def ancestors : Nat → FilePath → List FilePath
  | 0, _ => []
  | levels + 1, path =>
    if path.bytes = [] then []
    else path :: (path.parent.map (ancestors levels)).getD []

/-- Makes the first path a folder, after the paths above it where they are missing, and tells
whether it is a folder now. -/
def makeFoldersAlong (directory : Directory) : List FilePath → Bool × Directory
  | [] => (true, directory)
  | path :: above =>
    match directory.makeFolder path with
    | .ok directory => (true, directory)
    | .error (some .missing) =>
      match directory.makeFoldersAlong above with
      | (false, directory) => (false, directory)
      | (true, directory) =>
        match directory.makeFolder path with
        | .ok directory => (true, directory)
        | .error _ => (directory.isFolder path, directory)
    | .error _ => (directory.isFolder path, directory)

/-- Makes a path a folder, with the folders above it. -/
def makeFolders (directory : Directory) (path : FilePath) : Bool × Directory :=
  directory.makeFoldersAlong (ancestors (path.bytes.length + 1) path)

/-! ## Setting up and listing -/

/-- An empty tree in which a folder is the working folder. -/
def within (place : Location) : Directory :=
  (List.range place.length).foldl (fun directory n => directory.put (place.take (n + 1)) .folder)
    { workingFolder := place }

/-- The tree with a file, and with the folders above it. -/
def addFile (directory : Directory) (path : FilePath) (bytes : List UInt8) : Directory :=
  let directory :=
    match path.parent with
    | some parent => (directory.makeFolders parent).2
    | none => directory
  match directory.create path with
  | some (place, directory) => directory.put place (.file bytes)
  | none => directory

/-- The file that stands at a place below the working folder, with its path from there. -/
def fileAt (directory : Directory) (place : Location) : Node → Option (FilePath × List UInt8)
  | .folder => none
  | .file bytes =>
    if directory.workingFolder.isPrefixOf place then
      let names := place.drop directory.workingFolder.length
      some (⟨[FilePath.slash].intercalate names⟩, bytes)
    else none

/-- What is new or changed since an earlier tree. A folder stands before what is in it. -/
def nodesSince (directory earlier : Directory) : List (Location × Node) :=
  directory.nodes.toList.filter fun entry => earlier.node? entry.1 ≠ some entry.2

/-- The files below the working folder that are new or changed since an earlier tree, with their
paths from there. -/
def filesSince (directory earlier : Directory) : List (FilePath × List UInt8) :=
  (directory.nodesSince earlier).filterMap fun entry => directory.fileAt entry.1 entry.2

end Directory

end LoadOrder
