/-
# JSON values

A value keeps what a reader of typed data may still refuse: numbers as they are spelled, and texts
whose escapes do not give characters.
-/

namespace LoadOrder

/-- The spelling of a number. -/
structure Numeral where
  negative : Bool := false
  /-- The digits before the point. -/
  whole : List Char
  /-- The digits after the point; none if there is no point. -/
  fraction : List Char := []
  /-- Whether the exponent is negative, and its digits. -/
  exponent : Option (Bool × List Char) := none
  deriving DecidableEq, Repr, Inhabited

/-- A value. A text is absent if its escapes do not give characters; the keys of an object are
texts, in the order in which they stand. -/
inductive Json where
  | null
  | bool (value : Bool)
  | number (numeral : Numeral)
  | text (chars : Option (List Char))
  | array (items : List Json)
  | object (members : List (Option (List Char) × Json))
  deriving Repr, Inhabited

/-! ## Numerals -/

namespace Numeral

/-- The digits at the head of a text, one at least, and the text after them. -/
def takeDigits (text : List Char) : Option (List Char × List Char) :=
  let digits := text.takeWhile Char.isDigit
  if digits = [] then none else some (digits, text.dropWhile Char.isDigit)

/-- The exponent that makes up a text. -/
def readExponent : List Char → Option (Option (Bool × List Char))
  | [] => some none
  | mark :: rest =>
    if mark = 'e' ∨ mark = 'E' then
      let (negative, digits) :=
        match rest with
        | '-' :: digits => (true, digits)
        | '+' :: digits => (false, digits)
        | digits => (false, digits)
      if digits ≠ [] ∧ digits.all Char.isDigit then some (some (negative, digits)) else none
    else none

/-- The numeral that makes up a text: no leading zero, and digits on both sides of a point. -/
def read (text : List Char) : Option Numeral := do
  let negative : Bool := text.head? = some '-'
  let (whole, rest) ← takeDigits (if negative then text.tail else text)
  if whole.head? = some '0' ∧ whole ≠ ['0'] then none
  else if rest.head? = some '.' then
    let (fraction, rest) ← takeDigits rest.tail
    some { negative, whole, fraction, exponent := ← readExponent rest }
  else some { negative, whole, exponent := ← readExponent rest }

/-- The number up to a limit that a numeral spells without sign, point or exponent. -/
def toNat? (limit : Nat) (numeral : Numeral) : Option Nat :=
  let value := Nat.ofDigitChars 10 numeral.whole 0
  if ! numeral.negative ∧ numeral.fraction = [] ∧ numeral.exponent = none ∧ value ≤ limit then
    some value
  else none

end Numeral

/-! ## Texts -/

/-- A part of a text between quotes. -/
inductive TextUnit where
  | char (c : Char)
  /-- A sixteen-bit unit given by its number. -/
  | code (unit : Nat)
  deriving DecidableEq, Repr, Inhabited

namespace TextUnit

/-- The first unit of a pair. -/
def isHigh (unit : Nat) : Bool := 0xD800 ≤ unit && unit ≤ 0xDBFF

/-- The second unit of a pair. -/
def isLow (unit : Nat) : Bool := 0xDC00 ≤ unit && unit ≤ 0xDFFF

/-- The character that a pair of units stands for. -/
def pair (high low : Nat) : Char :=
  Char.ofNat (0x10000 + (high - 0xD800) * 0x400 + (low - 0xDC00))

/-- The characters of a text. A unit of a pair must not stand alone. -/
def join : List TextUnit → Option (List Char)
  | [] => some []
  | .char c :: rest => (join rest).map (c :: ·)
  | .code unit :: rest =>
    if isHigh unit then
      match rest with
      | .code low :: rest => if isLow low then (join rest).map (pair unit low :: ·) else none
      | _ => none
    else if isLow unit then none
    else (join rest).map (Char.ofNat unit :: ·)

end TextUnit

end LoadOrder
