/-
# Manifests one after the other

A manifest is read line by line, and only the error knows the number of its line. So behind a text of
whole lines another text is read as it is read alone, its lines being counted on, and the text
before it is read as if nothing stood behind it.

Main statements:
- `readLines_append`: lines behind other lines are read on their own;
- `readLines_later`: where the count begins matters to the error alone;
- `read_eq_error_iff`: the error names the first malformed line;
- `reading_is_compositional`: texts of whole lines can be put one after the other.
-/
import LoadOrder.Manifest
import LoadOrder.Proofs.Text.Lines
import Mathlib.Data.List.Basic

namespace LoadOrder

open Text

/-- An error about a line that stands a number of lines further down. -/
def Error.later (count : Nat) : Error → Error
  | malformedLine line message => .malformedLine (line + count) message
  | error => error

/-- The number of a line goes into the error as it is. -/
theorem Entry.parse_later (line : String) (number count : Nat) :
    parse line (number + count) = (parse line number).mapError (Error.later count) := by
  rw [parse, parse]
  cases ofChars line.toList <;> rfl

namespace Manifest

/-! ## Lines behind lines -/

/-- Lines behind other lines are read as on their own, and come only after these. -/
theorem readLines_append (number : Nat) (front back : List (List Char)) :
    readLines number (front ++ back) =
      readLines number front >>= fun entries =>
        (readLines (number + front.length) back).map (entries ++ ·) := by
  induction front generalizing number with
  | nil =>
    show readLines number back = (readLines number back).map ([] ++ ·)
    cases readLines number back <;> rfl
  | cons line rest ih =>
    rw [List.cons_append, readLines, readLines, ih, number_cons]
    split
    · rfl
    · cases Entry.parse (String.ofList line) number with
      | error error => rfl
      | ok entry =>
        cases readLines (number + 1) rest with
        | error error => rfl
        | ok entries =>
          show ((readLines (number + 1 + rest.length) back).map (entries ++ ·) >>= fun more =>
              Except.ok (entry :: more)) =
            (readLines (number + 1 + rest.length) back).map (entry :: entries ++ ·)
          cases readLines (number + 1 + rest.length) back <;> rfl

/-- Where the count of the lines begins matters to the error alone. -/
theorem readLines_later (number count : Nat) (lines : List (List Char)) :
    readLines (number + count) lines = (readLines number lines).mapError (Error.later count) := by
  induction lines generalizing number with
  | nil => rfl
  | cons line rest ih =>
    rw [readLines, readLines, Nat.add_right_comm number count 1, ih, Entry.parse_later]
    split
    · rfl
    · cases Entry.parse (String.ofList line) number with
      | error error => rfl
      | ok entry => cases readLines (number + 1) rest <;> rfl

/-- A text behind a text of whole lines is read as on its own, its lines being counted on. -/
theorem read_append {front : String} (h : front = "" ∨ front.toList.getLast? = some '\n')
    (back : String) :
    read (front ++ back) =
      read front >>= fun entries =>
        ((read back).mapError (Error.later (front.toList.count '\n'))).map (entries ++ ·) := by
  have hwhole : front.toList = [] ∨ front.toList.getLast? = some '\n' := by
    rcases h with rfl | hlast
    · exact .inl rfl
    · exact .inr hlast
  rw [read, String.toList_append, lines_append _ _ hwhole, readLines_append, length_lines hwhole,
    readLines_later, ← read, ← read]

/-! ## The first malformed line -/

/-- A line that a manifest may have: a blank line, a comment, or a record. -/
def WellFormed (line : List Char) : Prop :=
  isSkipped line = true ∨ ∃ entry, Entry.ofChars line = .ok entry

/-- A line that a manifest may not have, and what is wrong with it. -/
structure Malformed (line : List Char) (fault : LineFault) : Prop where
  notSkipped : isSkipped line = false
  fault : Entry.ofChars line = .error fault

/-- A line that is well formed has an entry, or none, for those of the lines below it. -/
theorem WellFormed.exists_readLines_cons {line : List Char} (h : WellFormed line) (number : Nat)
    (rest : List (List Char)) :
    ∃ entry : Option Entry, readLines number (line :: rest) =
      (readLines (number + 1) rest).map (entry.toList ++ ·) := by
  rw [readLines]
  cases hskipped : isSkipped line with
  | true =>
    refine ⟨none, ?_⟩
    rw [if_pos rfl]
    cases readLines (number + 1) rest <;> rfl
  | false =>
    obtain ⟨entry, hentry⟩ := h.resolve_left (by simp [hskipped])
    refine ⟨some entry, ?_⟩
    rw [if_neg Bool.false_ne_true, Entry.parse, String.toList_ofList, hentry]
    cases readLines (number + 1) rest <;> rfl

/-- A malformed line ends the reading. -/
theorem Malformed.readLines_cons {line : List Char} {fault : LineFault} (h : Malformed line fault)
    (number : Nat) (rest : List (List Char)) :
    readLines number (line :: rest) = .error (.malformedLine number fault.text) := by
  rw [readLines, if_neg (by simp [h.notSkipped]), Entry.parse, String.toList_ofList, h.fault]
  rfl

/-- A line is well formed or malformed. -/
theorem wellFormed_or_malformed (line : List Char) :
    WellFormed line ∨ ∃ fault, Malformed line fault := by
  cases hskipped : isSkipped line with
  | true => exact .inl (.inl hskipped)
  | false =>
    cases hentry : Entry.ofChars line with
    | ok entry => exact .inl (.inr ⟨entry, hentry⟩)
    | error fault => exact .inr ⟨fault, hskipped, hentry⟩

/-- Reading lines fails exactly if one of them is malformed, and names the first that is. -/
theorem readLines_eq_error_iff {number : Nat} {lines : List (List Char)} {error : Error} :
    readLines number lines = .error error ↔
      ∃ before line after fault, lines = before ++ line :: after ∧
        (∀ earlier ∈ before, WellFormed earlier) ∧ Malformed line fault ∧
        error = .malformedLine (number + before.length) fault.text := by
  constructor
  · intro h
    induction lines generalizing number with
    | nil => simp [readLines] at h
    | cons line rest ih =>
      rcases wellFormed_or_malformed line with hline | ⟨fault, hline⟩
      · obtain ⟨entry, hread⟩ := hline.exists_readLines_cons number rest
        cases hrest : readLines (number + 1) rest with
        | ok entries => simp [hread, hrest, Except.map] at h
        | error other =>
          obtain rfl : other = error := by simpa [hread, hrest, Except.map] using h
          obtain ⟨before, bad, after, fault, rfl, hbefore, hbad, herror⟩ := ih hrest
          refine ⟨line :: before, bad, after, fault, rfl, ?_, hbad, ?_⟩
          · exact List.forall_mem_cons.2 ⟨hline, hbefore⟩
          · rw [herror, number_cons]
      · rw [hline.readLines_cons] at h
        exact ⟨[], line, rest, fault, rfl, by simp, hline, (Except.error.inj h).symm⟩
  · rintro ⟨before, line, after, fault, rfl, hbefore, hline, rfl⟩
    induction before generalizing number with
    | nil => exact hline.readLines_cons number after
    | cons earlier before ih =>
      obtain ⟨hearlier, hbefore⟩ := List.forall_mem_cons.1 hbefore
      obtain ⟨entry, hread⟩ := hearlier.exists_readLines_cons number (before ++ line :: after)
      rw [List.cons_append, hread, ih hbefore, number_cons]
      rfl

/-- A text is not read exactly if one of its lines is malformed, and the error names the first that
is by its place among all lines. -/
theorem read_eq_error_iff (text : String) (error : Error) :
    read text = .error error ↔
      ∃ before line after fault, Lined '\n' '\r' text.toList (before ++ line :: after) ∧
        (∀ earlier ∈ before, WellFormed earlier) ∧ Malformed line fault ∧
        error = .malformedLine (before.length + 1) fault.text := by
  rw [read, readLines_eq_error_iff]
  simp only [lines_eq_iff (show '\r' ≠ '\n' by decide), Nat.add_comm 1]

/-- **Manifests are read piece by piece.** Behind a text of whole lines a text is read as on its own: its
entries come behind those of the text before it, and an error in it is the one that it has on its own, its line
being counted from the beginning of the first text. An error in the first text is the one that
this has on its own. In each text the error names the first line that is neither blank nor a comment
nor a record, and counts all lines before it. -/
theorem reading_is_compositional {front : String}
    (h : front = "" ∨ front.toList.getLast? = some '\n') (back : String) :
    (∀ entries more, read front = .ok entries → read back = .ok more →
      read (front ++ back) = .ok (entries ++ more)) ∧
    (∀ entries error, read front = .ok entries → read back = .error error →
      read (front ++ back) = .error (error.later (front.toList.count '\n'))) ∧
    (∀ error, read front = .error error → read (front ++ back) = .error error) ∧
    ∀ text error, read text = .error error ↔
      ∃ before line after fault, Lined '\n' '\r' text.toList (before ++ line :: after) ∧
        (∀ earlier ∈ before, WellFormed earlier) ∧ Malformed line fault ∧
        error = .malformedLine (before.length + 1) fault.text := by
  refine ⟨?_, ?_, ?_, read_eq_error_iff⟩
  · intro entries more hfront hback
    rw [read_append h, hfront, hback]
    rfl
  · intro entries error hfront hback
    rw [read_append h, hfront, hback]
    rfl
  · intro error hfront
    rw [read_append h, hfront]
    rfl

/-- Three lines, one of them blank and one a comment, stand before the malformed one. -/
theorem malformed_line_behind_three :
    let front := "# NOTE\n\u00a0\r\nA id: 0\n"
    let back := "B id: 1\nC 2\n"
    front.toList.getLast? = some '\n' ∧
    read back = .error (.malformedLine 2 "expected `id:` after the type name") ∧
    read (front ++ back) = .error (.malformedLine 5 "expected `id:` after the type name") := by
  intro front back
  have hfront : front.toList.getLast? = some '\n' := by decide +kernel
  have hentries : read front = .ok [{ name := "A", id := 0 }] := by decide +kernel
  have hback : read back = .error (.malformedLine 2 "expected `id:` after the type name") := by
    decide +kernel
  have hcount : front.toList.count '\n' = 3 := by decide +kernel
  refine ⟨hfront, hback, ?_⟩
  rw [(reading_is_compositional (.inr hfront) back).2.1 _ _ hentries hback, hcount]
  rfl

end Manifest

end LoadOrder
