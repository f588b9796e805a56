/-
# Strict values

A strict value has arrays and objects only to a limited depth, texts that are made of characters,
and numbers that a binary number of double width can hold.

A number is read as a whole number times a power of ten. The whole number takes up digits as long as
it fits into 64 bits; further digits before the point raise the power, further ones after it do not
count. The whole number and the power are rounded to double width, and so is their product.
-/
import LoadOrder.Json

namespace LoadOrder

namespace Numeral

/-- The greatest number of 64 bits. -/
def maxSignificand : Nat := 0xFFFFFFFFFFFFFFFF

/-- The greatest exponent that is read as a number. -/
def maxExponent : Nat := 0x7FFFFFFF

/-- The greatest power of ten that double width can hold. -/
def maxPower : Int := 308

/-- A number followed by digits as long as it fits, and how many digits are left. -/
def absorb : Nat → List Char → Nat × Nat
  | n, [] => (n, 0)
  | n, c :: rest =>
    let next := n * 10 + (c.toNat - '0'.toNat)
    if next ≤ maxSignificand then absorb next rest else (n, rest.length + 1)

/-- A number rounded to 53 bits, ties to even. -/
def roundTo53 (n : Nat) : Nat :=
  let unit := Nat.pow 2 (n.log2 + 1 - 53)
  let quotient := n / unit
  let rest := n % unit
  let up := unit < 2 * rest ∨ 2 * rest = unit ∧ quotient % 2 = 1
  (if up then quotient + 1 else quotient) * unit

/-- The least number that is rounded beyond all numbers of double width. -/
def overflowBound : Nat := Nat.pow 2 1024 - Nat.pow 2 970

/-- Whether a whole number times a power of ten is too large. -/
def overflows (significand : Nat) (power : Int) : Bool :=
  significand ≠ 0 && 0 ≤ power &&
    (maxPower < power ||
      overflowBound ≤ roundTo53 significand * roundTo53 (Nat.pow 10 power.toNat))

/-- Whether double width can hold the number. -/
def fitsDouble (numeral : Numeral) : Bool :=
  let (whole, beyond) := absorb 0 numeral.whole
  let (significand, unused) := absorb whole numeral.fraction
  let power : Int := beyond - (numeral.fraction.length - unused : Nat)
  match numeral.exponent with
  | none => ! overflows significand power
  | some (negative, digits) =>
    let exponent := Nat.ofDigitChars 10 digits 0
    if negative then ! overflows significand (power - exponent)
    else if maxExponent < exponent then significand = 0
    else ! overflows significand (power + exponent)

end Numeral

namespace Json

/-- Whether a value is strict, arrays and objects being open to the given depth at most. -/
def isStrict : Nat → Json → Bool
  | _, .null | _, .bool _ => true
  | _, .number numeral => numeral.fitsDouble
  | _, .text chars => chars.isSome
  | 0, .array _ | 0, .object _ => false
  | depth + 1, .array items => items.all (isStrict depth)
  | depth + 1, .object members => members.all fun m => m.1.isSome && isStrict depth m.2

end Json

end LoadOrder
