/-
# Lines

A line ends at a line feed; one carriage return directly before the line feed belongs to the
ending. What follows the last line feed is a line of its own unless it is empty, and keeps every
carriage return. The split is the same for texts and for bytes, so the two marks are parameters.

Main statement:
- `lines_append`: splitting is compositional after a whole line.
-/

namespace LoadOrder.Text

variable {α : Type} [DecidableEq α]

/-- The lines of a text, without their endings. -/
def lines (feed carriage : α) : List α → List (List α)
  | [] => []
  | c :: rest =>
    if c = feed then [] :: lines feed carriage rest
    else if c = carriage ∧ rest.head? = some feed then lines feed carriage rest
    else
      match lines feed carriage rest with
      | line :: more => (c :: line) :: more
      | [] => [[c]]

/-- Only the empty text has no lines. -/
theorem lines_ne_nil {feed carriage : α} {text : List α} (h : text ≠ []) :
    lines feed carriage text ≠ [] := by
  induction text with
  | nil => exact absurd rfl h
  | cons c rest ih =>
    rw [lines]
    split
    · simp
    · split
      · next hc =>
        apply ih
        intro hr
        simp [hr] at hc
      · split <;> simp

/-- After a text that ends in a line feed, the split starts afresh. -/
theorem lines_append {feed carriage : α} (front back : List α)
    (h : front = [] ∨ front.getLast? = some feed) :
    lines feed carriage (front ++ back) =
      lines feed carriage front ++ lines feed carriage back := by
  induction front with
  | nil => simp [lines]
  | cons c rest ih =>
    have hlast : (c :: rest).getLast? = some feed := by simpa using h
    cases rest with
    | nil =>
      have hc : c = feed := by simpa using hlast
      simp [lines, hc]
    | cons d rest =>
      have ih := ih (.inr (by simpa using hlast))
      have hne : lines feed carriage (d :: rest) ≠ [] := lines_ne_nil (List.cons_ne_nil d rest)
      rw [List.cons_append, lines, lines, ih]
      cases hl : lines feed carriage (d :: rest) with
      | nil => exact absurd hl hne
      | cons line more =>
        by_cases hf : c = feed
        · simp [hf]
        · by_cases hr : c = carriage ∧ d = feed
          · obtain ⟨rfl, rfl⟩ := hr
            simp [hf]
          · simp [hf, hr]

end LoadOrder.Text
