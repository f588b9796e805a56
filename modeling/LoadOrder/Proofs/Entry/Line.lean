/-
# Lines of entries

The line of an entry is read as that entry, whatever its source is, if its name is a single word. An
entry that was read has such a name, so its line is a normal form of the text it was read from.

Main statements:
- `splitSource_lineChars`: the first source mark on a line is the one before the source;
- `ofChars_lineChars`: a line is read as the entry that it was written for;
- `isWord_name_of_ofChars`, `source_suffix_of_ofChars`: what an entry that was read is like;
- `line_is_normal_form`: when a line is parsed as the entry it was written for.
-/
import LoadOrder.Entry.Parser
import LoadOrder.Proofs.Text.Words

namespace LoadOrder.Entry

open Text

/-! ## The words of an entry -/

/-- The word in the source mark. -/
def sourceWord : List Char := "source:".toList

/-- The source mark is its word between spaces. -/
theorem sourceMark_eq : sourceMark = ' ' :: sourceWord ++ [' '] := by
  decide +kernel

/-- The word in the source mark is a word. -/
theorem isWord_sourceWord : IsWord sourceWord := by
  decide +kernel

/-- A digit is not blank. -/
theorem notBlank_of_isDigit {c : Char} (h : c.isDigit = true) : isBlank c = false := by
  have hc : 48 ≤ c.toNat ∧ c.toNat ≤ 57 := by
    simpa [Char.isDigit, UInt32.le_iff_toNat_le] using h
  simp only [isBlank, Bool.or_eq_false_iff, Bool.and_eq_false_iff, decide_eq_false_iff_not,
    beq_eq_false_iff_ne]
  omega

/-- The digits of an id are a word, and not that of the source mark. -/
theorem isWord_idChars (id : RecordId) : IsWord (idChars id) ∧ idChars id ≠ sourceWord := by
  have hdigit : ∀ c ∈ idChars id, c.isDigit = true := by
    intro c hc
    exact Nat.isDigit_of_mem_toDigits (by decide) (by decide) hc
  refine ⟨⟨Nat.toDigits_ne_nil, fun c hc => notBlank_of_isDigit (hdigit c hc)⟩, ?_⟩
  intro heq
  have hmem : 's' ∈ idChars id := by
    rw [heq]
    decide +kernel
  exact absurd (hdigit 's' hmem) (by decide)

/-- All words behind the name are words, and none is that of the source mark. -/
theorem isWord_of_mem_tail {entry : Entry} {word : List Char} (h : word ∈ entry.fieldWords.tail) :
    IsWord word ∧ word ≠ sourceWord := by
  have hfixed : ∀ other ∈ [idWord, superWord, interfacesWord],
      IsWord other ∧ other ≠ sourceWord := by
    decide +kernel
  have hcases : word ∈ [idWord, superWord, interfacesWord] ∨ ∃ id, word = idChars id := by
    rcases entry with ⟨name, id, superId, interfaces, source⟩
    cases superId <;> cases interfaces <;> simp [fieldWords] at h ⊢ <;> grind
  rcases hcases with hword | ⟨id, rfl⟩
  · exact hfixed word hword
  · exact isWord_idChars id

/-! ## The source -/

/-- Where the mark does not begin, the split goes on with the next character. -/
theorem splitSource_cons {c : Char} {rest : List Char} (h : ¬ sourceMark <+: c :: rest) :
    splitSource (c :: rest) = (c :: (splitSource rest).1, (splitSource rest).2) := by
  rw [splitSource, if_neg (by rwa [List.isPrefixOf_iff_prefix])]

/-- Everything behind a mark at the beginning is the source. -/
theorem splitSource_mark (source : List Char) :
    splitSource (sourceMark ++ source) = ([], some source) := by
  have hprefix : sourceMark <+: ' ' :: (sourceWord ++ ' ' :: source) := by
    rw [sourceMark_eq]
    exact ⟨source, by simp⟩
  have htext : sourceMark ++ source = ' ' :: (sourceWord ++ ' ' :: source) := by
    rw [sourceMark_eq]
    simp
  rw [htext, splitSource, if_pos (List.isPrefixOf_iff_prefix.2 hprefix), ← htext,
    List.drop_left]

/-- No mark begins within a word. -/
theorem splitSource_word {word : List Char} (h : ∀ c ∈ word, isBlank c = false)
    (rest : List Char) :
    splitSource (word ++ rest) = (word ++ (splitSource rest).1, (splitSource rest).2) := by
  induction word with
  | nil => rfl
  | cons c word ih =>
    obtain ⟨hc, hword⟩ := List.forall_mem_cons.1 h
    -- a mark begins with a space, and there is none in the word
    have hmark : ¬ sourceMark <+: c :: (word ++ rest) := by
      intro hprefix
      rw [sourceMark_eq, List.cons_append, List.cons_prefix_cons] at hprefix
      rw [← hprefix.1] at hc
      exact absurd hc (by decide)
    rw [List.cons_append, splitSource_cons hmark, ih hword]
    rfl

/-- A mark that begins at a space has its word behind the space. -/
theorem eq_sourceWord_of_mark {word rest : List Char} (hword : IsWord word)
    (hrest : ∀ c ∈ rest.head?, c = ' ') (h : sourceMark <+: ' ' :: (word ++ rest)) :
    word = sourceWord := by
  have hcut : ∀ {front back : List Char}, (∀ c ∈ front, isBlank c = false) →
      (∀ c ∈ back.head?, c = ' ') → (front ++ back).takeWhile (! isBlank ·) = front := by
    intro front back hfront hback
    rw [List.takeWhile_append_of_pos (by simpa using hfront)]
    cases back with
    | nil => simp
    | cons c back =>
      obtain rfl : c = ' ' := hback c rfl
      rw [List.takeWhile_cons_of_neg (by decide), List.append_nil]
  -- both are what stands before the first blank character
  obtain ⟨back, hback⟩ := h
  rw [sourceMark_eq, List.cons_append, List.cons_append, List.cons_inj_right,
    List.append_assoc] at hback
  calc word = (word ++ rest).takeWhile (! isBlank ·) := (hcut hword.notBlank hrest).symm
    _ = (sourceWord ++ ([' '] ++ back)).takeWhile (! isBlank ·) := by rw [hback]
    _ = sourceWord := hcut isWord_sourceWord.notBlank (by simp)

/-- No mark begins in words that are joined, unless one of them is that of the mark. -/
theorem splitSource_joined {ws : List (List Char)}
    (h : ∀ word ∈ ws, IsWord word ∧ word ≠ sourceWord) {rest : List Char}
    (hrest : ∀ c ∈ rest.head?, c = ' ') :
    splitSource (joined ws ++ rest) =
      (joined ws ++ (splitSource rest).1, (splitSource rest).2) := by
  induction ws with
  | nil => rfl
  | cons word ws ih =>
    obtain ⟨⟨hword, hne⟩, hws⟩ := List.forall_mem_cons.1 h
    have hspace : ∀ c ∈ (joined ws ++ rest).head?, c = ' ' := by
      cases ws with
      | nil => exact hrest
      | cons => simp [joined]
    have hmark : ¬ sourceMark <+: ' ' :: (word ++ (joined ws ++ rest)) :=
      fun hprefix => hne (eq_sourceWord_of_mark hword hspace hprefix)
    have htext : joined (word :: ws) ++ rest = ' ' :: (word ++ (joined ws ++ rest)) := by
      simp [joined]
    rw [htext, splitSource_cons hmark, splitSource_word hword.notBlank, ih hws]
    simp [joined]

/-- The line of an entry is its name, its other words and its source. -/
theorem lineChars_eq (entry : Entry) :
    entry.lineChars = entry.name.toList ++ (joined entry.fieldWords.tail ++
      match entry.source with
      | some source => sourceMark ++ source.toList
      | none => []) := by
  have hwords : entry.fieldWords = entry.name.toList :: entry.fieldWords.tail := rfl
  rw [lineChars, hwords, intercalate_space, List.append_assoc]
  rfl

/-- The first mark on a line is the one before the source. -/
theorem splitSource_lineChars {entry : Entry} (hname : IsWord entry.name.toList) :
    splitSource entry.lineChars =
      (entry.name.toList ++ joined entry.fieldWords.tail, entry.source.map String.toList) := by
  rw [lineChars_eq, splitSource_word hname.notBlank]
  have htail : ∀ word ∈ entry.fieldWords.tail, IsWord word ∧ word ≠ sourceWord :=
    fun word hmem => isWord_of_mem_tail hmem
  cases entry.source with
  | none =>
    rw [splitSource_joined htail (by simp)]
    simp [splitSource]
  | some source =>
    have hspace : ∀ c ∈ (sourceMark ++ source.toList).head?, c = ' ' := by
      rw [sourceMark_eq]
      simp
    rw [splitSource_joined htail hspace, splitSource_mark]
    simp

/-! ## Ids -/

/-- The digits of an id are read as the id. -/
theorem readId_idChars (id : RecordId) : readId (idChars id) = .ok id := by
  have hlimit : id.toNat ≤ 4294967295 := by
    have hlt := id.toNat_lt
    omega
  rw [readId, idChars, Decimal.read_toDigits hlimit]
  exact congrArg Except.ok UInt32.ofNat_toNat

/-- The digits of ids are read as the ids. -/
theorem mapM_readId_idChars (ids : List RecordId) : (ids.map idChars).mapM readId = .ok ids := by
  induction ids with
  | nil => rfl
  | cons id rest ih =>
    rw [List.map_cons, List.mapM_cons, readId_idChars, ih]
    rfl

/-- The words of interface ids are read as the ids. -/
theorem readTail_interfaces (ids : List RecordId) :
    readFields.readTail (match ids with
      | [] => []
      | ids => interfacesWord :: ids.map idChars) = .ok ids := by
  cases ids with
  | nil => rfl
  | cons id rest =>
    rw [readFields.readTail, if_pos rfl, readInterfaces, if_neg (by simp)]
    exact mapM_readId_idChars (id :: rest)

/-- The words behind the id are read as the super id and the interface ids. -/
theorem readFields_words (superId : Option RecordId) (ids : List RecordId) :
    readFields
      ((match superId with
        | some id => [superWord, idChars id]
        | none => []) ++
      (match ids with
        | [] => []
        | ids => interfacesWord :: ids.map idChars)) = .ok (superId, ids) := by
  cases superId with
  | some id =>
    have htail := readTail_interfaces ids
    generalize (match ids with
      | [] => []
      | ids => interfacesWord :: ids.map idChars) = tail at htail ⊢
    show readFields (superWord :: idChars id :: tail) = _
    rw [readFields, if_pos rfl, takeId, readId_idChars]
    show (do .ok (some id, ← readFields.readTail tail)) = _
    rw [htail]
    rfl
  | none =>
    cases ids with
    | nil => rfl
    | cons id rest =>
      have htail := readTail_interfaces (id :: rest)
      have hne : interfacesWord ≠ superWord := by decide +kernel
      show readFields (interfacesWord :: (id :: rest).map idChars) = _
      rw [readFields, if_neg hne, htail]
      rfl

/-! ## Whole lines -/

/-- A line is read as the entry that it was written for. -/
theorem ofChars_lineChars {entry : Entry} (hname : IsWord entry.name.toList) :
    ofChars entry.lineChars = .ok entry := by
  have htail : ∀ word ∈ entry.fieldWords.tail, IsWord word :=
    fun word hmem => (isWord_of_mem_tail hmem).1
  have hwords : words (entry.name.toList ++ joined entry.fieldWords.tail) = entry.fieldWords := by
    rw [words_joined _ htail, words_of_isWord hname]
    rfl
  obtain ⟨fields, hfields, hread⟩ : ∃ fields,
      entry.fieldWords = entry.name.toList :: idWord :: idChars entry.id :: fields ∧
        readFields fields = .ok (entry.superId, entry.interfaces) :=
    ⟨_, rfl, readFields_words entry.superId entry.interfaces⟩
  have hsource : (entry.source.map String.toList).map String.ofList = entry.source := by
    cases entry.source <;> simp
  rw [ofChars, splitSource_lineChars hname]
  dsimp only
  rw [hwords, hfields]
  dsimp only
  rw [if_neg (by simp), List.tail_cons, takeId, readId_idChars]
  dsimp only [bind, Except.bind]
  rw [hread]
  dsimp only
  rw [hsource, String.ofList_toList]

/-- The source of a split line is the end of the line. -/
theorem suffix_of_splitSource {line source : List Char} (h : (splitSource line).2 = some source) :
    source <:+ line := by
  induction line with
  | nil => simp [splitSource] at h
  | cons c rest ih =>
    rw [splitSource] at h
    split at h
    · obtain rfl := Option.some.inj h
      exact List.drop_suffix _ _
    · exact (ih h).trans (List.suffix_cons c rest)

/-- An entry that was read has the first word of the line for its name and the source of the line
for its source. -/
theorem name_source_of_ofChars {line : List Char} {entry : Entry}
    (h : ofChars line = .ok entry) :
    (words (splitSource line).1).head? = some entry.name.toList ∧
      entry.source = (splitSource line).2.map String.ofList := by
  unfold ofChars at h
  cases hwords : words (splitSource line).1 with
  | nil => simp [hwords] at h
  | cons name rest =>
    simp only [hwords] at h
    split at h
    · simp at h
    · cases hid : takeId rest.tail with
      | error fault => simp [hid, bind, Except.bind] at h
      | ok id =>
        cases hfields : readFields id.2 with
        | error fault => simp [hid, hfields, bind, Except.bind] at h
        | ok fields =>
          simp only [hid, hfields, bind, Except.bind] at h
          obtain rfl := Except.ok.inj h
          simp

/-- The name of an entry that was read is a word. -/
theorem isWord_name_of_ofChars {line : List Char} {entry : Entry} (h : ofChars line = .ok entry) :
    IsWord entry.name.toList :=
  isWord_of_mem_words (List.mem_of_mem_head? (name_source_of_ofChars h).1)

/-- The source of an entry that was read is the end of the line. -/
theorem source_suffix_of_ofChars {line : List Char} {entry : Entry} {source : String}
    (h : ofChars line = .ok entry) (hsource : entry.source = some source) :
    source.toList <:+ line := by
  rw [(name_source_of_ofChars h).2, Option.map_eq_some_iff] at hsource
  obtain ⟨chars, hchars, rfl⟩ := hsource
  rw [String.toList_ofList]
  exact suffix_of_splitSource hchars

/-! ## Normal form -/

/-- A line that spells an entry is parsed as it, whatever its number. -/
theorem parse_eq_ok_iff (number : Nat) {line : List Char} {entry : Entry} :
    parse (String.ofList line) number = .ok entry ↔ ofChars line = .ok entry := by
  rw [parse, String.toList_ofList]
  cases ofChars line with
  | error fault =>
    show Except.error (Error.malformedLine number fault.text) = Except.ok entry ↔ _
    simp
  | ok other =>
    show Except.ok other = Except.ok entry ↔ _
    simp

/-- The line of the entry that a text spells. -/
def normalize (text : String) (number : Nat) : Except Error String :=
  (parse text number).map line

/-- The line of an entry is parsed as the entry exactly if its name is a word. -/
theorem parse_line_eq_ok_iff (entry : Entry) (number : Nat) :
    parse entry.line number = .ok entry ↔ IsWord entry.name.toList := by
  rw [line, parse_eq_ok_iff]
  exact ⟨isWord_name_of_ofChars, ofChars_lineChars⟩

/-- The name of an entry that was parsed is a word. -/
theorem isWord_name_of_parse {text : String} {number : Nat} {entry : Entry}
    (h : parse text number = .ok entry) : IsWord entry.name.toList := by
  rw [← String.ofList_toList (s := text), parse_eq_ok_iff] at h
  exact isWord_name_of_ofChars h

/-- **The line of an entry is its normal form.** It is parsed as the entry exactly if the name is a
single word, whatever the source is. Any entry that is parsed at all is parsed from its line, so
writing what was parsed gives a line that parsing and writing again leave as it is. -/
theorem line_is_normal_form (entry : Entry) (number : Nat) :
    (parse entry.line number = .ok entry ↔ IsWord entry.name.toList) ∧
    ((∃ text other, parse text other = .ok entry) ↔ parse entry.line number = .ok entry) ∧
    (∀ text other, normalize text other >>= (normalize · number) = normalize text other) := by
  refine ⟨parse_line_eq_ok_iff entry number, ?_, ?_⟩
  · constructor
    · rintro ⟨text, other, h⟩
      exact (parse_line_eq_ok_iff entry number).2 (isWord_name_of_parse h)
    · exact fun h => ⟨entry.line, number, h⟩
  · intro text other
    cases hparse : parse text other with
    | error error =>
      have hnormal : normalize text other = .error error := by
        rw [normalize, hparse, Except.map]
      simp only [hnormal, bind, Except.bind]
    | ok first =>
      have hnormal : normalize text other = .ok first.line := by
        rw [normalize, hparse, Except.map]
      have hagain : normalize first.line number = .ok first.line := by
        rw [normalize, (parse_line_eq_ok_iff first number).2 (isWord_name_of_parse hparse),
          Except.map]
      simp only [hnormal, bind, Except.bind, hagain]

example : (normalize " app/Foo  id: +012 super:\t0 source:  a source: b" 7).toOption =
    some "app/Foo id: 12 super: 0 source:  a source: b" := by
  decide +kernel

end LoadOrder.Entry
