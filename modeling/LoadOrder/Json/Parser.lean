/-
# Reading JSON

The words are put together with a stack of the arrays and objects that are open. A text is JSON if
its words make up one value and nothing is left.
-/
import LoadOrder.Json.Lexer

namespace LoadOrder.Json

namespace Parser

/-- The members of an object, the last one first. -/
abbrev Members := List (Option (List Char) × Json)

/-- An open array or object. -/
inductive Frame where
  /-- The items so far, the last one first. -/
  | array (items : List Json)
  /-- The members so far, the last one first, and the key of the next. -/
  | object (members : Members) (key : Option (List Char))
  deriving Repr, Inhabited

/-- What may come next, inside the open arrays and objects, the innermost first. -/
inductive State where
  /-- A value. -/
  | value (stack : List Frame)
  /-- A value, or the end of the array just opened. -/
  | firstItem (stack : List Frame)
  /-- A key, or the end of the object just opened. -/
  | firstKey (stack : List Frame)
  | key (members : Members) (stack : List Frame)
  | colon (members : Members) (key : Option (List Char)) (stack : List Frame)
  /-- What follows a value. -/
  | after (value : Json) (stack : List Frame)
  deriving Repr, Inhabited

/-- A word at a place for a value. -/
def stepValue (stack : List Frame) : Token → Option State
  | .null => some (.after .null stack)
  | .bool b => some (.after (.bool b) stack)
  | .number n => some (.after (.number n) stack)
  | .text t => some (.after (.text t) stack)
  | .openArray => some (.firstItem stack)
  | .openObject => some (.firstKey stack)
  | .closeArray | .closeObject | .colon | .comma => none

/-- A word after a value. -/
def stepAfter (value : Json) : List Frame → Token → Option State
  | .array items :: stack, .comma => some (.value (.array (value :: items) :: stack))
  | .array items :: stack, .closeArray => some (.after (.array (value :: items).reverse) stack)
  | .object members key :: stack, .comma => some (.key ((key, value) :: members) stack)
  | .object members key :: stack, .closeObject =>
    some (.after (.object ((key, value) :: members).reverse) stack)
  | _, _ => none

/-- One word. -/
def step : State → Token → Option State
  | .value stack, token => stepValue stack token
  | .firstItem stack, .closeArray => some (.after (.array []) stack)
  | .firstItem stack, token => stepValue (.array [] :: stack) token
  | .firstKey stack, .closeObject => some (.after (.object []) stack)
  | .firstKey stack, .text key => some (.colon [] key stack)
  | .key members stack, .text key => some (.colon members key stack)
  | .colon members key stack, .colon => some (.value (.object members key :: stack))
  | .after value stack, token => stepAfter value stack token
  | .firstKey _, _ | .key .., _ | .colon .., _ => none

/-- The value that has been read, if nothing is open. -/
def finish : State → Option Json
  | .after value [] => some value
  | _ => none

end Parser

/-- The value that a list of words makes up. -/
def ofTokens (tokens : List Token) : Option Json :=
  (tokens.foldlM Parser.step (.value [])).bind Parser.finish

/-- The value that a text spells. -/
def read (text : List Char) : Option Json :=
  (tokens text).bind ofTokens

end LoadOrder.Json
