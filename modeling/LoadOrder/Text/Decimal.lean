/-
# Decimal numbers

Main statement:
- `read_toDigits`: the decimal digits of a number up to the limit are read as that number.
-/

namespace LoadOrder.Decimal

/-- The number that a text spells: an optional plus sign, then one or more digits, leading zeros
allowed, for a number up to the limit. -/
def read (limit : Nat) (text : List Char) : Option Nat :=
  let digits := if text.head? = some '+' then text.tail else text
  if digits ≠ [] ∧ digits.all Char.isDigit ∧ Nat.ofDigitChars 10 digits 0 ≤ limit then
    some (Nat.ofDigitChars 10 digits 0)
  else none

/-- The digits of a number within the limit read back as the number. -/
theorem read_toDigits {limit n : Nat} (h : n ≤ limit) :
    read limit (Nat.toDigits 10 n) = some n := by
  have hd : ∀ c ∈ Nat.toDigits 10 n, c.isDigit = true :=
    fun c hc => Nat.isDigit_of_mem_toDigits (by decide) (by decide) hc
  have hs : (Nat.toDigits 10 n).head? ≠ some '+' := fun hp =>
    absurd (hd '+' (List.mem_of_mem_head? hp)) (by decide)
  simp [read, hs, Nat.toDigits_ne_nil, Nat.ofDigitChars_ten_toDigits, h]
  exact hd

/-- The digits of a number, filled up on the left with zeros to a least width. -/
def padded (width n : Nat) : List Char :=
  (Nat.toDigits 10 n).leftpad width '0'

end LoadOrder.Decimal
