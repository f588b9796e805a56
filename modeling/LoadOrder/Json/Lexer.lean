/-
# The words of JSON

A text is read character by character. A number or a name ends where a character follows that
cannot belong to it, and that character is then read as if it stood alone.
-/
import LoadOrder.Json

namespace LoadOrder.Json

/-- A word of JSON. -/
inductive Token where
  | openArray
  | closeArray
  | openObject
  | closeObject
  | colon
  | comma
  | null
  | bool (value : Bool)
  | number (numeral : Numeral)
  | text (chars : Option (List Char))
  deriving DecidableEq, Repr, Inhabited

namespace Lexer

/-- Where the reader stands. Characters and units read so far stand with the last one first. -/
inductive Mode where
  | between
  /-- Between quotes. -/
  | text (units : List TextUnit)
  /-- After a backslash. -/
  | escape (units : List TextUnit)
  /-- Inside the number of a unit, after some of its four digits. -/
  | code (units : List TextUnit) (digits value : Nat)
  | numeral (chars : List Char)
  | name (chars : List Char)
  deriving DecidableEq, Repr, Inhabited

/-- The state of the reader: where it stands and the words read so far, the last one first. -/
structure State where
  mode : Mode := .between
  tokens : List Token := []
  deriving DecidableEq, Repr, Inhabited

/-- A character between two words. -/
def stepBetween (tokens : List Token) (c : Char) : Option State :=
  if c = ' ' ∨ c = '\t' ∨ c = '\n' ∨ c = '\r' then some { tokens }
  else if c = '[' then some { tokens := .openArray :: tokens }
  else if c = ']' then some { tokens := .closeArray :: tokens }
  else if c = '\x7b' then some { tokens := .openObject :: tokens }
  else if c = '\x7d' then some { tokens := .closeObject :: tokens }
  else if c = ':' then some { tokens := .colon :: tokens }
  else if c = ',' then some { tokens := .comma :: tokens }
  else if c = '"' then some { mode := .text [], tokens }
  else if c = '-' ∨ c.isDigit then some { mode := .numeral [c], tokens }
  else if c.isLower then some { mode := .name [c], tokens }
  else none

/-- A character that may belong to a number. -/
def isNumeralChar (c : Char) : Bool :=
  c.isDigit || c = '-' || c = '+' || c = '.' || c = 'e' || c = 'E'

/-- The word that a name stands for. -/
def nameToken (name : List Char) : Option Token :=
  if name = "null".toList then some .null
  else if name = "true".toList then some (.bool true)
  else if name = "false".toList then some (.bool false)
  else none

/-- The character that a backslash and a letter stand for. -/
def escaped (c : Char) : Option Char :=
  if c = '"' ∨ c = '\\' ∨ c = '/' then some c
  else if c = 'b' then some '\x08'
  else if c = 'f' then some '\x0c'
  else if c = 'n' then some '\n'
  else if c = 'r' then some '\r'
  else if c = 't' then some '\t'
  else none

/-- The value of a hexadecimal digit. -/
def hexValue (c : Char) : Option Nat :=
  if c.isDigit then some (c.toNat - '0'.toNat)
  else if 'a' ≤ c ∧ c ≤ 'f' then some (c.toNat - 'a'.toNat + 10)
  else if 'A' ≤ c ∧ c ≤ 'F' then some (c.toNat - 'A'.toNat + 10)
  else none

/-- One character. -/
def step (state : State) (c : Char) : Option State :=
  match state.mode with
  | .between => stepBetween state.tokens c
  | .text units =>
    if c = '"' then some { tokens := .text (TextUnit.join units.reverse) :: state.tokens }
    else if c = '\\' then some { state with mode := .escape units }
    else if c.toNat < 0x20 then none
    else some { state with mode := .text (.char c :: units) }
  | .escape units =>
    if c = 'u' then some { state with mode := .code units 0 0 }
    else (escaped c).map fun c => { state with mode := .text (.char c :: units) }
  | .code units digits value =>
    (hexValue c).map fun digit =>
      let value := value * 16 + digit
      if digits = 3 then { state with mode := .text (.code value :: units) }
      else { state with mode := .code units (digits + 1) value }
  | .numeral chars =>
    if isNumeralChar c then some { state with mode := .numeral (c :: chars) }
    else (Numeral.read chars.reverse).bind fun n => stepBetween (.number n :: state.tokens) c
  | .name chars =>
    if c.isLower then some { state with mode := .name (c :: chars) }
    else (nameToken chars.reverse).bind fun token => stepBetween (token :: state.tokens) c

/-- The words at the end of the text. -/
def finish (state : State) : Option (List Token) :=
  match state.mode with
  | .between => some state.tokens.reverse
  | .numeral chars =>
    (Numeral.read chars.reverse).map fun n => (.number n :: state.tokens).reverse
  | .name chars => (nameToken chars.reverse).map fun token => (token :: state.tokens).reverse
  | .text _ | .escape _ | .code .. => none

end Lexer

/-- The words of a text. -/
def tokens (text : List Char) : Option (List Token) :=
  (text.foldlM Lexer.step {}).bind Lexer.finish

end LoadOrder.Json
