/-
# Arguments

The words after the program's name. They are read from left to right; a request for help counts
where it is reached before any fault. Options may stand in any order, each once at most; a value
follows its option as the next word or after an equals sign, and must not look like an option in the
first case nor be empty in either. After a double dash no word is an option.
-/
import LoadOrder.Command

namespace LoadOrder

/-- What the arguments ask for. -/
inductive Usage where
  | run (debug : Bool) (command : Command)
  | help
  /-- The arguments are not understood. -/
  | misuse
  deriving DecidableEq, Repr, Inhabited

namespace Arguments

/-- The form of a word where options may stand. -/
inductive Form where
  /-- A double dash. -/
  | ending
  /-- An option by name, perhaps with a value after an equals sign. -/
  | long (name : List Char) (value : Option (List Char))
  /-- Options by their letters. -/
  | short (letters : List Char)
  | plain (word : List Char)
  deriving DecidableEq, Repr, Inhabited

/-- The form of a word. A sole dash is no option. -/
def form : List Char → Form
  | ['-', '-'] => .ending
  | '-' :: '-' :: rest =>
    .long (rest.takeWhile (· ≠ '=')) (rest.dropWhile (· ≠ '=')).tail?
  | '-' :: letter :: letters => .short (letter :: letters)
  | word => .plain word

/-- What options without a value come to. -/
inductive Progress where
  | goOn (debug : Bool)
  | help
  | misuse
  deriving DecidableEq, Repr, Inhabited

/-- The option for debugging, which must not stand twice. -/
def askDebug (debug : Bool) : Progress :=
  if debug then .misuse else .goOn true

/-- Options by their letters. -/
def readLetters : Bool → List Char → Progress
  | debug, [] => .goOn debug
  | debug, letter :: letters =>
    if letter = 'h' then .help
    else if letter = 'd' then if debug then .misuse else readLetters true letters
    else .misuse

/-- The options that every command knows, by name. -/
def readCommon (debug : Bool) (name : List Char) (value : Option (List Char)) : Progress :=
  if value.isSome then .misuse
  else if name = "help".toList then .help
  else if name = "debug".toList then askDebug debug
  else .misuse

/-- The path that a word spells; the empty word spells none. -/
def path? (word : List Char) : Option FilePath :=
  if word = [] then none else some ⟨Utf8.encodeChars word⟩

/-! ## Replaying -/

/-- What has been said about a replay so far. -/
structure ReplayOptions where
  debug : Bool := false
  events : Option FilePath := none
  output : Option FilePath := none
  driveLetter : Bool := false
  exploded : Bool := false
  deriving DecidableEq, Repr, Inhabited

namespace ReplayOptions

/-- The usage, if nothing is missing. -/
def finish (outerDebug : Bool) (options : ReplayOptions) : Usage :=
  match options.events, options.output with
  | some events, some output =>
    .run (outerDebug || options.debug) (.replay events output
      (if options.driveLetter then .driveLetter else .posix) (! options.exploded))
  | _, _ => .misuse

/-- The options with a path, unless it has been given before. -/
def setPath (name value : List Char) (options : ReplayOptions) : Option ReplayOptions :=
  match path? value with
  | none => none
  | some path =>
    if name = "events".toList ∧ options.events = none then some { options with events := some path }
    else if name = "output".toList ∧ options.output = none then
      some { options with output := some path }
    else none

/-- The options with a mark, unless it has been set before. -/
def setMark (name : List Char) (options : ReplayOptions) : Option ReplayOptions :=
  if name = "drive-letter".toList ∧ ! options.driveLetter then
    some { options with driveLetter := true }
  else if name = "exploded".toList ∧ ! options.exploded then some { options with exploded := true }
  else none

end ReplayOptions

/-- Whether an option takes a path. -/
def takesPath (name : List Char) : Bool :=
  name = "events".toList || name = "output".toList

/-- Whether an option is a mark of a replay. -/
def isMark (name : List Char) : Bool :=
  name = "drive-letter".toList || name = "exploded".toList

/-- The words after `replay`. -/
def readReplay (outerDebug : Bool) (options : ReplayOptions) : List (List Char) → Usage
  | [] => options.finish outerDebug
  | word :: rest =>
    let goOn : Progress → Usage
      | .goOn debug => readReplay outerDebug { options with debug } rest
      | .help => .help
      | .misuse => .misuse
    match form word with
    | .plain _ => .misuse
    | .ending => if rest = [] then options.finish outerDebug else .misuse
    | .short letters => goOn (readLetters options.debug letters)
    | .long name value =>
      if takesPath name then
        match value, rest with
        | some value, rest =>
          match options.setPath name value with
          | some options => readReplay outerDebug options rest
          | none => .misuse
        | none, [] => .misuse
        | none, value :: rest =>
          match form value with
          | .plain value =>
            match options.setPath name value with
            | some options => readReplay outerDebug options rest
            | none => .misuse
          | .ending | .long .. | .short _ => .misuse
      else if isMark name ∧ value = none then
        match options.setMark name with
        | some options => readReplay outerDebug options rest
        | none => .misuse
      else goOn (readCommon options.debug name value)

/-! ## Checking -/

/-- The usage of a check, if the manifest is named. -/
def finishCheck (debug : Bool) : Option FilePath → Usage
  | some manifest => .run debug (.check manifest)
  | none => .misuse

/-- The words after `check`. -/
def readCheck (outerDebug debug : Bool) (manifest : Option FilePath) : List (List Char) → Usage
  | [] => finishCheck (outerDebug || debug) manifest
  | word :: rest =>
    let goOn : Progress → Usage
      | .goOn debug => readCheck outerDebug debug manifest rest
      | .help => .help
      | .misuse => .misuse
    match form word with
    | .plain word =>
      match manifest, path? word with
      | none, some path => readCheck outerDebug debug (some path) rest
      | _, _ => .misuse
    | .ending =>
      match manifest, rest with
      | _, [] => finishCheck (outerDebug || debug) manifest
      | none, [word] => finishCheck (outerDebug || debug) (path? word)
      | _, _ => .misuse
    | .short letters => goOn (readLetters debug letters)
    | .long name value => goOn (readCommon debug name value)

/-! ## All arguments -/

/-- The commands, and the request for help by name. -/
def topics : List (List Char) := ["replay".toList, "check".toList, "help".toList]

/-- The words after `help`. -/
def readHelp : List (List Char) → Usage
  | [] => .help
  | [topic] => if topic ∈ topics then .help else .misuse
  | _ => .misuse

/-- The words before and after the command. -/
def readFrom (debug : Bool) : List (List Char) → Usage
  | [] => .misuse
  | word :: rest =>
    let goOn : Progress → Usage
      | .goOn debug => readFrom debug rest
      | .help => .help
      | .misuse => .misuse
    match form word with
    | .plain word =>
      if word = "replay".toList then readReplay debug {} rest
      else if word = "check".toList then readCheck debug false none rest
      else if word = "help".toList then readHelp rest
      else .misuse
    | .ending => .misuse
    | .short letters => goOn (readLetters debug letters)
    | .long name value => goOn (readCommon debug name value)

/-- What a list of arguments asks for. -/
def read (arguments : List String) : Usage :=
  readFrom false (arguments.map String.toList)

end Arguments

end LoadOrder
