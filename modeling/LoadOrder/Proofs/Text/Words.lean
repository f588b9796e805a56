/-
# Words and joined words

Joining words with single spaces and splitting the text again gives the words back.

Main statements:
- `isWord_of_mem_words`: a text is split into words;
- `words_joined`: the words of words that are joined are those words;
- `words_eq_iff`: the words of a text are what its blanks leave.
-/
import LoadOrder.Text.Blank

namespace LoadOrder.Text

/-- A text that is a single word: it is not empty, and no character in it is blank. -/
structure IsWord (word : List Char) : Prop where
  ne_nil : word ≠ []
  notBlank : ∀ c ∈ word, isBlank c = false

/-- Whether a text is a single word can be computed. -/
theorem isWord_iff {word : List Char} :
    IsWord word ↔ word ≠ [] ∧ word.all (! isBlank ·) = true := by
  have hall : word.all (! isBlank ·) = true ↔ ∀ c ∈ word, isBlank c = false := by
    simp [List.all_eq_true]
  rw [hall]
  exact ⟨fun h => ⟨h.ne_nil, h.notBlank⟩, fun h => ⟨h.1, h.2⟩⟩

instance (word : List Char) : Decidable (IsWord word) :=
  decidable_of_iff' _ isWord_iff

/-- No piece that a text is split into contains a blank character. -/
theorem notBlank_of_mem_splitOnP {text piece : List Char} (h : piece ∈ text.splitOnP isBlank) :
    ∀ c ∈ piece, isBlank c = false := by
  induction text generalizing piece with
  | nil =>
    obtain rfl := List.mem_singleton.1 h
    simp
  | cons a rest ih =>
    rw [List.splitOnP_cons_eq_if_modifyHead] at h
    split at h
    · rcases List.mem_cons.1 h with rfl | h
      · simp
      · exact ih h
    · next ha =>
      -- the first piece of the rest takes the character, the others stay as they are
      obtain ⟨head, more, hsplit⟩ :=
        List.exists_cons_of_ne_nil (List.splitOnP_ne_nil isBlank rest)
      rw [hsplit, List.modifyHead_cons] at h
      rcases List.mem_cons.1 h with rfl | h
      · have hhead := ih (hsplit ▸ List.mem_cons_self)
        rw [List.forall_mem_cons]
        exact ⟨by simpa using ha, hhead⟩
      · exact ih (hsplit ▸ List.mem_cons_of_mem head h)

/-- A text is split into words. -/
theorem isWord_of_mem_words {text word : List Char} (h : word ∈ words text) : IsWord word := by
  obtain ⟨hmem, hne⟩ := List.mem_filter.1 h
  exact ⟨by simpa using hne, notBlank_of_mem_splitOnP hmem⟩

/-- A single word is its only word. -/
theorem words_of_isWord {word : List Char} (h : IsWord word) : words word = [word] := by
  rw [words, List.splitOnP_eq_singleton h.notBlank]
  simp [h.ne_nil]

/-- Words that follow on a word, each behind a space. -/
def joined (ws : List (List Char)) : List Char :=
  ws.flatMap fun word => ' ' :: word

/-- Joining words puts a space before all but the first. -/
theorem intercalate_space (word : List Char) (ws : List (List Char)) :
    [' '].intercalate (word :: ws) = word ++ joined ws := by
  induction ws generalizing word with
  | nil => simp [joined, List.intercalate]
  | cons next rest ih =>
    have hstep : [' '].intercalate (word :: next :: rest) =
        word ++ ' ' :: [' '].intercalate (next :: rest) := by
      simp [List.intercalate]
    rw [hstep, ih, joined, joined, List.flatMap_cons]
    rfl

/-- The words of a text to which words are joined. -/
theorem words_joined (front : List Char) {ws : List (List Char)} (h : ∀ word ∈ ws, IsWord word) :
    words (front ++ joined ws) = words front ++ ws := by
  induction ws generalizing front with
  | nil => simp [joined]
  | cons word rest ih =>
    have hword := h word List.mem_cons_self
    have hrest := fun other hother => h other (List.mem_cons_of_mem word hother)
    calc words (front ++ joined (word :: rest))
        = words ((front ++ ' ' :: word) ++ joined rest) := by simp [joined]
      _ = words (front ++ ' ' :: word) ++ rest := ih _ hrest
      _ = words front ++ words word ++ rest := by rw [words_append_blank _ _ (by decide)]
      _ = words front ++ word :: rest := by rw [words_of_isWord hword, List.append_assoc]; rfl

/-- A text that begins with a word is not all blank. -/
theorem not_allBlank_of_isWord {word : List Char} (h : IsWord word) (rest : List Char) :
    allBlank (word ++ rest) = false := by
  obtain ⟨c, hc⟩ := List.exists_mem_of_ne_nil word h.ne_nil
  rw [allBlank, List.all_eq_false]
  exact ⟨c, List.mem_append_left rest hc, by rw [h.notBlank c hc]; exact Bool.false_ne_true⟩

/-! ## Words with blanks around them -/

/-- The words of a text one after another, with blank characters before, between and behind them. -/
inductive Spaced : List Char → List (List Char) → Prop where
  | blank {text : List Char} (h : ∀ c ∈ text, isBlank c = true) : Spaced text []
  | word {blanks word rest : List Char} {ws : List (List Char)}
      (hblanks : ∀ c ∈ blanks, isBlank c = true) (hword : IsWord word)
      (hend : ∀ c ∈ rest.head?, isBlank c = true) (hrest : Spaced rest ws) :
      Spaced (blanks ++ (word ++ rest)) (word :: ws)

/-- Blank characters in front of a text add no word. -/
theorem words_blank_append {blanks : List Char} (h : ∀ c ∈ blanks, isBlank c = true)
    (text : List Char) : words (blanks ++ text) = words text := by
  induction blanks with
  | nil => rfl
  | cons c blanks ih =>
    obtain ⟨hc, hblanks⟩ := List.forall_mem_cons.1 h
    rw [List.cons_append, ← ih hblanks]
    exact words_append_blank [] (blanks ++ text) hc

/-- A word that ends before a blank character is the first of the words. -/
theorem words_word_append {word rest : List Char} (hword : IsWord word)
    (hend : ∀ c ∈ rest.head?, isBlank c = true) : words (word ++ rest) = word :: words rest := by
  cases rest with
  | nil =>
    rw [List.append_nil, words_of_isWord hword]
    rfl
  | cons c rest =>
    have hc := hend c rfl
    have hrest : words (c :: rest) = words rest := words_append_blank [] rest hc
    rw [words_append_blank word rest hc, words_of_isWord hword, hrest]
    rfl

/-- Every text is words with blanks around them. -/
theorem exists_spaced (text : List Char) : ∃ ws, Spaced text ws := by
  induction text with
  | nil => exact ⟨[], .blank (by simp)⟩
  | cons c text ih =>
    obtain ⟨ws, hspaced⟩ := ih
    cases hc : isBlank c with
    | true =>
      cases hspaced with
      | blank h => exact ⟨[], .blank (List.forall_mem_cons.2 ⟨hc, h⟩)⟩
      | @word blanks word rest ws hblanks hword hend hrest =>
        have hmore : ∀ b ∈ c :: blanks, isBlank b = true := List.forall_mem_cons.2 ⟨hc, hblanks⟩
        exact ⟨word :: ws, .word hmore hword hend hrest⟩
    | false =>
      -- the character begins the word behind it, or is a word of its own before a blank
      have hnone : ∀ b ∈ ([] : List Char), isBlank b = true := by simp
      have hletter : IsWord [c] := ⟨by simp, by simpa using hc⟩
      cases hspaced with
      | blank h =>
        have hend : ∀ b ∈ text.head?, isBlank b = true := fun b hb => h b (List.mem_of_mem_head? hb)
        exact ⟨[[c]], .word hnone hletter hend (.blank h)⟩
      | @word blanks word rest ws hblanks hword hend hrest =>
        cases blanks with
        | nil =>
          have hlonger : IsWord (c :: word) :=
            ⟨by simp, List.forall_mem_cons.2 ⟨hc, hword.notBlank⟩⟩
          exact ⟨(c :: word) :: ws, .word hnone hlonger hend hrest⟩
        | cons b blanks =>
          have hblank : ∀ d ∈ (b :: blanks ++ (word ++ rest)).head?, isBlank d = true := by
            simpa using hblanks b List.mem_cons_self
          exact ⟨[c] :: word :: ws, .word hnone hletter hblank (.word hblanks hword hend hrest)⟩

/-- The words of a text are what stands between its blanks. -/
theorem words_eq_iff {text : List Char} {ws : List (List Char)} :
    words text = ws ↔ Spaced text ws := by
  have hwords : ∀ {text ws}, Spaced text ws → words text = ws := by
    intro text ws h
    induction h with
    | @blank text h =>
      rw [← List.append_nil text, words_blank_append h]
      rfl
    | word hblanks hword hend _ ih =>
      rw [words_blank_append hblanks, words_word_append hword hend, ih]
  constructor
  · rintro rfl
    obtain ⟨ws, h⟩ := exists_spaced text
    rwa [hwords h]
  · exact hwords

end LoadOrder.Text
