/-
# Lines with their endings

Splitting lines that were put one after the other, each with a line feed, gives the lines back,
except that a carriage return at the end of a line is lost.

Main statements:
- `feed_not_mem_of_mem_lines`: no line contains a line feed;
- `lines_concat_feed`, `lines_flatMap`: the lines of one line and of many;
- `lines_eq_iff`: the lines of a text are what stands before their endings;
- `length_lines`: whole lines are as many as their line feeds.
-/
import LoadOrder.Text.Lines

namespace LoadOrder.Text

variable {α : Type} [DecidableEq α] {feed carriage : α}

/-- Behind a line, lines are counted from the next number on. -/
theorem number_cons {β : Type} (number : Nat) (line : β) (rest : List β) :
    number + (line :: rest).length = number + 1 + rest.length := by
  rw [List.length_cons]
  omega

/-- A line without the carriage return at its end, if it has one. -/
def withoutCarriage (carriage : α) (line : List α) : List α :=
  if line.getLast? = some carriage then line.dropLast else line

/-- A line that does not end with a carriage return stays as it is. -/
@[simp] theorem withoutCarriage_of_ne {line : List α} (h : line.getLast? ≠ some carriage) :
    withoutCarriage carriage line = line :=
  if_neg h

/-- A line stays as it is exactly if it does not end with a carriage return. -/
theorem withoutCarriage_eq_self_iff {line : List α} :
    withoutCarriage carriage line = line ↔ line.getLast? ≠ some carriage := by
  refine ⟨?_, withoutCarriage_of_ne⟩
  intro heq hlast
  rw [withoutCarriage, if_pos hlast] at heq
  have hlength := congrArg List.length heq
  have hpos : 0 < line.length := by
    rw [List.length_pos_iff]
    intro hnil
    simp [hnil] at hlast
  rw [List.length_dropLast] at hlength
  omega

/-- Behind a text that does not end with one, only the end can have the carriage return. -/
theorem withoutCarriage_append {front : List α} (h : front.getLast? ≠ some carriage)
    (back : List α) :
    withoutCarriage carriage (front ++ back) = front ++ withoutCarriage carriage back := by
  cases back with
  | nil =>
    rw [List.append_nil, withoutCarriage_of_ne h, withoutCarriage_of_ne (by simp),
      List.append_nil]
  | cons c rest =>
    have hlast : (front ++ c :: rest).getLast? = (c :: rest).getLast? := by
      rw [List.getLast?_append, List.getLast?_cons, Option.some_or]
    have hdrop : (front ++ c :: rest).dropLast = front ++ (c :: rest).dropLast :=
      List.dropLast_append_of_ne_nil (List.cons_ne_nil c rest)
    rw [withoutCarriage, hlast, hdrop, withoutCarriage]
    split <;> rfl

/-- No line of a text contains a line feed. -/
theorem feed_not_mem_of_mem_lines {text line : List α} (h : line ∈ lines feed carriage text) :
    feed ∉ line := by
  induction text generalizing line with
  | nil => simp [lines] at h
  | cons c rest ih =>
    rw [lines] at h
    split at h
    · rcases List.mem_cons.1 h with rfl | h
      · simp
      · exact ih h
    · next hc =>
      split at h
      · exact ih h
      · split at h
        · next first more hrest =>
          -- the first line of the rest takes the character, which is no line feed
          rcases List.mem_cons.1 h with rfl | h
          · have hfirst := ih (hrest ▸ List.mem_cons_self)
            simp [Ne.symm hc, hfirst]
          · exact ih (hrest ▸ List.mem_cons_of_mem first h)
        · obtain rfl := List.mem_singleton.1 h
          simpa using Ne.symm hc

/-- A text with one line feed, at its end, is one line. -/
theorem lines_concat_feed {line : List α} (h : feed ∉ line) :
    lines feed carriage (line ++ [feed]) = [withoutCarriage carriage line] := by
  induction line with
  | nil => simp [lines, withoutCarriage]
  | cons c rest ih =>
    obtain ⟨hc, hrest⟩ : c ≠ feed ∧ feed ∉ rest := by simpa [eq_comm] using h
    rw [List.cons_append, lines, if_neg hc, ih hrest]
    cases rest with
    | nil =>
      by_cases hcarriage : c = carriage
      · rw [if_pos ⟨hcarriage, rfl⟩, hcarriage, withoutCarriage, withoutCarriage]
        simp
      · rw [if_neg fun hboth => hcarriage hboth.1, withoutCarriage, withoutCarriage]
        simp [hcarriage]
    | cons d more =>
      have hd : d ≠ feed := fun heq => hrest (heq ▸ List.mem_cons_self)
      rw [if_neg fun hboth => hd (Option.some.inj hboth.2)]
      simp only [withoutCarriage, List.getLast?_cons_cons, List.dropLast_cons_cons]
      split <;> rfl

/-- The lines of texts that were put one after the other, each with a line feed. -/
theorem lines_flatMap {texts : List (List α)}
    (h : ∀ text ∈ texts, feed ∉ text) :
    lines feed carriage (texts.flatMap fun text => text ++ [feed]) =
      texts.map (withoutCarriage carriage) := by
  induction texts with
  | nil => rfl
  | cons text rest ih =>
    have hlast : (text ++ [feed]).getLast? = some feed := List.getLast?_concat
    rw [List.flatMap_cons, lines_append _ _ (.inr hlast),
      lines_concat_feed (h text List.mem_cons_self),
      ih fun other hother => h other (List.mem_cons_of_mem text hother)]
    rfl

/-! ## Endings -/

/-- The lines of a text one after another, each ended by a line feed, or by a carriage return and a
line feed. The last one may lack its ending, unless it is empty. -/
inductive Lined (feed carriage : α) : List α → List (List α) → Prop where
  | nothing : Lined feed carriage [] []
  | unended {line : List α} (hne : line ≠ []) (hline : feed ∉ line) :
      Lined feed carriage line [line]
  | fed {line rest : List α} {more : List (List α)} (hline : feed ∉ line)
      (hlast : line.getLast? ≠ some carriage) (hrest : Lined feed carriage rest more) :
      Lined feed carriage (line ++ feed :: rest) (line :: more)
  | returned {line rest : List α} {more : List (List α)} (hline : feed ∉ line)
      (hrest : Lined feed carriage rest more) :
      Lined feed carriage (line ++ carriage :: feed :: rest) (line :: more)

/-- A text without a line feed is one line, if it is not empty. -/
theorem lines_of_not_mem {line : List α} (hne : line ≠ []) (h : feed ∉ line) :
    lines feed carriage line = [line] := by
  induction line with
  | nil => exact absurd rfl hne
  | cons c rest ih =>
    obtain ⟨hc, hrest⟩ : c ≠ feed ∧ feed ∉ rest := by simpa [eq_comm] using h
    have hhead : rest.head? ≠ some feed := fun hhead => hrest (List.mem_of_head? hhead)
    rw [lines, if_neg hc, if_neg fun hboth => hhead hboth.2]
    cases rest with
    | nil => rfl
    | cons d more => rw [ih (List.cons_ne_nil d more) hrest]

/-- A line is split off at its line feed. -/
theorem lines_append_feed {line : List α} (h : feed ∉ line) (rest : List α) :
    lines feed carriage (line ++ feed :: rest) =
      withoutCarriage carriage line :: lines feed carriage rest := by
  have hlast : (line ++ [feed]).getLast? = some feed := List.getLast?_concat
  rw [List.append_cons, lines_append _ _ (.inr hlast), lines_concat_feed h, List.singleton_append]

/-- Every text has lines with their endings. -/
theorem exists_lined (feed carriage : α) (text : List α) :
    ∃ more, Lined feed carriage text more := by
  -- what is left behind a line feed is a shorter text
  induction hlength : text.length using Nat.strongRecOn generalizing text with
  | ind length ih =>
    by_cases hmem : feed ∈ text
    · obtain ⟨line, rest, rfl, hline⟩ := List.eq_append_cons_of_mem hmem
      have hshorter : rest.length < length := by
        rw [← hlength, List.length_append, List.length_cons]
        omega
      obtain ⟨more, hrest⟩ := ih rest.length hshorter rest rfl
      by_cases hlast : line.getLast? = some carriage
      · obtain ⟨front, rfl⟩ := List.getLast?_eq_some_iff.1 hlast
        rw [← List.append_cons]
        exact ⟨front :: more, .returned (fun h => hline (List.mem_append_left _ h)) hrest⟩
      · exact ⟨line :: more, .fed hline hlast hrest⟩
    · cases text with
      | nil => exact ⟨[], .nothing⟩
      | cons c rest => exact ⟨[c :: rest], .unended (List.cons_ne_nil c rest) hmem⟩

/-- The lines of a text are what stands before their endings. -/
theorem lines_eq_iff (hne : carriage ≠ feed) {text : List α} {found : List (List α)} :
    lines feed carriage text = found ↔ Lined feed carriage text found := by
  have hlines : ∀ {text found}, Lined feed carriage text found →
      lines feed carriage text = found := by
    intro text found h
    induction h with
    | nothing => rfl
    | unended hne hline => exact lines_of_not_mem hne hline
    | fed hline hlast _ ih => rw [lines_append_feed hline, withoutCarriage_of_ne hlast, ih]
    | @returned line rest more hline _ ih =>
      have hfeed : feed ∉ line ++ [carriage] := by simp [hline, hne.symm]
      rw [List.append_cons, lines_append_feed hfeed, ih, withoutCarriage,
        if_pos List.getLast?_concat, List.dropLast_concat]
  constructor
  · rintro rfl
    obtain ⟨found, h⟩ := exists_lined feed carriage text
    rwa [hlines h]
  · exact hlines

/-- Whole lines are as many as their line feeds. -/
theorem length_lines {text : List α} (h : text = [] ∨ text.getLast? = some feed) :
    (lines feed carriage text).length = text.count feed := by
  induction text with
  | nil => rfl
  | cons c rest ih =>
    have hlast : (c :: rest).getLast? = some feed := by simpa using h
    rw [lines, List.count_cons]
    cases rest with
    | nil =>
      have hc : c = feed := by simpa using hlast
      simp [hc, lines]
    | cons d more =>
      have ih := ih (.inr (by simpa using hlast))
      have hne : lines feed carriage (d :: more) ≠ [] := lines_ne_nil (List.cons_ne_nil d more)
      by_cases hfeed : c = feed
      · rw [if_pos hfeed, if_pos (beq_iff_eq.2 hfeed), List.length_cons, ih]
      · have hcount : (c == feed) = false := beq_false_of_ne hfeed
        rw [if_neg hfeed, hcount, if_neg Bool.false_ne_true, Nat.add_zero]
        split
        · exact ih
        · split
          · next line lines hsplit =>
            rw [← ih, hsplit, List.length_cons, List.length_cons]
          · next hsplit => exact absurd hsplit hne

end LoadOrder.Text
