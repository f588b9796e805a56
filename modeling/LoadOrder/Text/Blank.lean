/-
# Blank characters and words

Blank characters are the twenty-five code points with the Unicode property `White_Space`.
A word is a maximal run of characters that are not blank.

Main statements:
- `words_append_blank`: a blank character separates words, whatever stands around it.
-/

namespace LoadOrder.Text

/-! ## Blank characters -/

/-- A character with the Unicode property `White_Space`. -/
def isBlank (c : Char) : Bool :=
  let n := c.toNat
  (0x09 ≤ n && n ≤ 0x0D) || n == 0x20 || n == 0x85 || n == 0xA0 || n == 0x1680 ||
    (0x2000 ≤ n && n ≤ 0x200A) || n == 0x2028 || n == 0x2029 || n == 0x202F || n == 0x205F ||
    n == 0x3000

example : isBlank '\u00a0' = true ∧ isBlank '\u200b' = false ∧ isBlank '\ufeff' = false ∧
    isBlank '\u001c' = false := by decide

/-! ## Words -/

/-- The words of a text, in order. -/
def words (text : List Char) : List (List Char) :=
  (text.splitOnP isBlank).filter (! ·.isEmpty)

/-- A blank character separates the words before it from the words after it. -/
theorem words_append_blank (front back : List Char) {c : Char} (h : isBlank c = true) :
    words (front ++ c :: back) = words front ++ words back := by
  simp [words, List.splitOnP_append_cons _ _ h]

/-- A text of blank characters only, the empty text among them. -/
def allBlank (text : List Char) : Bool :=
  text.all isBlank

end LoadOrder.Text
