/-
# The grammar of lines

Which lines are read as entries, told without the reader. A line is cut at its first source mark.
The text before the mark is some words with blanks around them: a name, the word for the id and the
id, then perhaps a super id, then perhaps interface ids. An id is digits, perhaps behind a plus
sign.

Main statements:
- `Decimal.read_eq_some_iff`: which texts are read as numbers;
- `splitSource_eq_iff`: where a line is cut;
- `readFields_eq_ok_iff`: which words are read as super ids and interface ids;
- `line_is_read_iff_spells_entry`: the lines that are read are those that spell an entry.
-/
import LoadOrder.Proofs.Entry.Line
import Mathlib.Data.List.Forall2

namespace LoadOrder

/-! ## Numbers -/

namespace Decimal

/-- Digits that spell a number, leading zeros allowed. -/
structure IsNumeral (digits : List Char) (n : Nat) : Prop where
  ne_nil : digits ≠ []
  digit : ∀ c ∈ digits, c.isDigit = true
  value : Nat.ofDigitChars 10 digits 0 = n

/-- Digits do not begin with a plus sign. -/
theorem IsNumeral.head?_ne_plus {digits : List Char} {n : Nat} (h : IsNumeral digits n) :
    digits.head? ≠ some '+' := by
  intro hhead
  exact absurd (h.digit '+' (List.mem_of_mem_head? hhead)) (by decide)

/-- A number within the limit is read from its numerals and, behind a plus sign, from them again,
and from nothing else. -/
theorem read_eq_some_iff {limit n : Nat} {text : List Char} :
    read limit text = some n ↔
      n ≤ limit ∧ ∃ digits, IsNumeral digits n ∧ (text = digits ∨ text = '+' :: digits) := by
  constructor
  · intro h
    simp only [read, Option.ite_none_right_eq_some, List.all_eq_true] at h
    obtain ⟨⟨hne, hdigit, hlimit⟩, hvalue⟩ := h
    obtain rfl := Option.some.inj hvalue
    refine ⟨hlimit, _, ⟨hne, hdigit, rfl⟩, ?_⟩
    split
    · next hplus =>
      obtain ⟨rest, rfl⟩ := List.head?_eq_some_iff.1 hplus
      exact Or.inr rfl
    · exact Or.inl rfl
  · rintro ⟨hlimit, digits, hdigits, htext⟩
    have hsigned : (if text.head? = some '+' then text.tail else text) = digits := by
      rcases htext with rfl | rfl
      · rw [if_neg hdigits.head?_ne_plus]
      · rfl
    rw [read, hsigned]
    have hall : digits.all Char.isDigit = true := List.all_eq_true.2 hdigits.digit
    rw [hdigits.value, if_pos ⟨hdigits.ne_nil, hall, hlimit⟩]

end Decimal

namespace Entry

open Text

/-! ## The mark before the source -/

/-- The text before the first source mark of a line, and the text behind it if there is one. -/
inductive CutAtMark (line : List Char) : List Char → Option (List Char) → Prop where
  | unmarked (h : ¬ sourceMark <:+: line) : CutAtMark line line none
  | marked {fields source : List Char} (hline : line = fields ++ (sourceMark ++ source))
      (hfirst : ∀ front back, line = front ++ (sourceMark ++ back) →
        fields.length ≤ front.length) :
      CutAtMark line fields (some source)

/-- A line is split at its first mark. -/
theorem cutAtMark_splitSource (line : List Char) :
    CutAtMark line (splitSource line).1 (splitSource line).2 := by
  induction line with
  | nil =>
    rw [splitSource]
    exact .unmarked (by decide +kernel)
  | cons c rest ih =>
    by_cases hmark : sourceMark <+: c :: rest
    · obtain ⟨source, hsource⟩ := hmark
      rw [← hsource, splitSource_mark]
      exact .marked rfl fun front back _ => Nat.zero_le _
    · rw [splitSource_cons hmark]
      generalize splitSource rest = parts at ih ⊢
      obtain ⟨fields, source⟩ := parts
      dsimp only at ih ⊢
      cases ih with
      | unmarked hnone =>
        refine .unmarked ?_
        rw [List.infix_cons_iff]
        exact fun hboth => hboth.elim hmark hnone
      | @marked _ source hline hfirst =>
        refine .marked (by rw [hline, List.cons_append]) ?_
        intro front back heq
        -- no mark begins at the first character, so any other is a mark of the rest
        cases front with
        | nil => exact absurd ⟨back, heq.symm⟩ hmark
        | cons d front =>
          have hrest := hfirst front back (List.cons.inj heq).2
          rw [List.length_cons, List.length_cons]
          omega

/-- The first mark of a line is in one place. -/
theorem CutAtMark.unique {line fields fields' : List Char} {source source' : Option (List Char)}
    (h : CutAtMark line fields source) (h' : CutAtMark line fields' source') :
    fields = fields' ∧ source = source' := by
  have hoccurs : ∀ {fields source}, line = fields ++ (sourceMark ++ source) →
      sourceMark <:+: line := by
    rintro fields source rfl
    exact ⟨fields, source, List.append_assoc _ _ _⟩
  cases h with
  | unmarked hnone =>
    cases h' with
    | unmarked => exact ⟨rfl, rfl⟩
    | marked hline => exact absurd (hoccurs hline) hnone
  | marked hline hfirst =>
    cases h' with
    | unmarked hnone => exact absurd (hoccurs hline) hnone
    | marked hline' hfirst' =>
      -- neither text is longer than the other, and both begin the line
      have hlength := Nat.le_antisymm (hfirst _ _ hline') (hfirst' _ _ hline)
      obtain ⟨rfl, hrest⟩ := List.append_inj (hline.symm.trans hline') hlength
      exact ⟨rfl, congrArg some (List.append_cancel_left hrest)⟩

/-- Splitting a line finds its first mark and nothing else. -/
theorem splitSource_eq_iff {line fields : List Char} {source : Option (List Char)} :
    splitSource line = (fields, source) ↔ CutAtMark line fields source := by
  constructor
  · intro h
    have hcut := cutAtMark_splitSource line
    rwa [h] at hcut
  · intro h
    obtain ⟨hfields, hsource⟩ := (cutAtMark_splitSource line).unique h
    exact Prod.ext hfields hsource

/-! ## Ids -/

/-- A word that spells an id: its number in digits, or that behind a plus sign. Numbers beyond the
range of ids are not spelled by any word. -/
inductive SpellsId : List Char → RecordId → Prop where
  | unsigned {digits : List Char} {id : RecordId} (h : Decimal.IsNumeral digits id.toNat) :
      SpellsId digits id
  | signed {digits : List Char} {id : RecordId} (h : Decimal.IsNumeral digits id.toNat) :
      SpellsId ('+' :: digits) id

/-- An id is read from the words that spell it. -/
theorem readId_eq_ok_iff {word : List Char} {id : RecordId} :
    readId word = .ok id ↔ SpellsId word id := by
  have hread : readId word = .ok id ↔ Decimal.read 4294967295 word = some id.toNat := by
    unfold readId
    split
    · next n hn =>
      have hlimit := (Decimal.read_eq_some_iff.1 hn).1
      rw [hn]
      constructor
      · intro h
        obtain rfl := Except.ok.inj h
        rw [UInt32.toNat_ofNat_of_lt' (by simp [UInt32.size]; omega)]
      · intro h
        rw [Option.some.inj h, UInt32.ofNat_toNat]
    · next hn => simp [hn]
  have hlimit : id.toNat ≤ 4294967295 := by
    have hlt := id.toNat_lt
    omega
  rw [hread, Decimal.read_eq_some_iff]
  constructor
  · rintro ⟨-, digits, hdigits, rfl | rfl⟩
    · exact .unsigned hdigits
    · exact .signed hdigits
  · rintro (hdigits | hdigits)
    · exact ⟨hlimit, _, hdigits, Or.inl rfl⟩
    · exact ⟨hlimit, _, hdigits, Or.inr rfl⟩

/-- A list of ids is read from words that spell them one by one. -/
theorem mapM_readId_eq_ok_iff {words : List (List Char)} {ids : List RecordId} :
    words.mapM readId = .ok ids ↔ List.Forall₂ SpellsId words ids := by
  induction words generalizing ids with
  | nil =>
    rw [List.mapM_nil, List.forall₂_nil_left_iff]
    exact ⟨fun h => (Except.ok.inj h).symm, fun h => congrArg Except.ok h.symm⟩
  | cons word rest ih =>
    rw [List.mapM_cons, List.forall₂_cons_left_iff]
    constructor
    · intro h
      obtain ⟨id, hid, hmore⟩ := bind_eq_ok_iff.1 h
      obtain ⟨more, hids, hlist⟩ := bind_eq_ok_iff.1 hmore
      exact ⟨id, more, readId_eq_ok_iff.1 hid, ih.1 hids, (Except.ok.inj hlist).symm⟩
    · rintro ⟨id, more, hid, hids, rfl⟩
      rw [readId_eq_ok_iff.2 hid, ih.2 hids]
      rfl

/-! ## Fields -/

/-- The words of a super id, which can be left out. -/
inductive SpellsSuper : List (List Char) → Option RecordId → Prop where
  | absent : SpellsSuper [] none
  | present {word : List Char} {id : RecordId} (h : SpellsId word id) :
      SpellsSuper [superWord, word] (some id)

/-- The words of interface ids, which are left out if there are none. -/
inductive SpellsInterfaces : List (List Char) → List RecordId → Prop where
  | absent : SpellsInterfaces [] []
  | present {words : List (List Char)} {ids : List RecordId} (hne : ids ≠ [])
      (h : List.Forall₂ SpellsId words ids) : SpellsInterfaces (interfacesWord :: words) ids

/-- Interface ids are read from their words. -/
theorem readTail_eq_ok_iff {words : List (List Char)} {ids : List RecordId} :
    readFields.readTail words = .ok ids ↔ SpellsInterfaces words ids := by
  constructor
  · intro h
    cases words with
    | nil =>
      obtain rfl := Except.ok.inj h
      exact .absent
    | cons word rest =>
      rw [readFields.readTail] at h
      split at h
      · next hword =>
        rw [readInterfaces] at h
        split at h
        · simp at h
        · next hne =>
          have hids := mapM_readId_eq_ok_iff.1 h
          obtain rfl := hword
          refine .present ?_ hids
          rintro rfl
          exact hne (List.forall₂_nil_right_iff.1 hids)
      · simp at h
  · intro h
    cases h with
    | absent => rfl
    | @present words _ hne hids =>
      have hwords : words ≠ [] := by
        rintro rfl
        exact hne (List.forall₂_nil_left_iff.1 hids)
      rw [readFields.readTail, if_pos rfl, readInterfaces, if_neg hwords]
      exact mapM_readId_eq_ok_iff.2 hids

/-- An id is taken from a word that spells it. -/
theorem takeId_eq_ok_iff {words rest : List (List Char)} {id : RecordId} :
    takeId words = .ok (id, rest) ↔ ∃ word, words = word :: rest ∧ SpellsId word id := by
  constructor
  · intro h
    cases words with
    | nil => simp [takeId] at h
    | cons word others =>
      obtain ⟨other, hid, hpair⟩ := bind_eq_ok_iff.1 h
      obtain ⟨rfl, rfl⟩ := Prod.mk.inj (Except.ok.inj hpair)
      exact ⟨word, rfl, readId_eq_ok_iff.1 hid⟩
  · rintro ⟨word, rfl, hid⟩
    rw [takeId, readId_eq_ok_iff.2 hid]
    rfl

/-- The super id and the interface ids are read from their words. -/
theorem readFields_eq_ok_iff {words : List (List Char)} {superId : Option RecordId}
    {ids : List RecordId} :
    readFields words = .ok (superId, ids) ↔
      ∃ front back, words = front ++ back ∧ SpellsSuper front superId ∧
        SpellsInterfaces back ids := by
  constructor
  · intro h
    cases words with
    | nil =>
      obtain ⟨rfl, rfl⟩ := Prod.mk.inj (Except.ok.inj h)
      exact ⟨[], [], rfl, .absent, .absent⟩
    | cons word rest =>
      rw [readFields] at h
      split at h
      · next hword =>
        obtain ⟨⟨id, back⟩, hid, hmore⟩ := bind_eq_ok_iff.1 h
        obtain ⟨others, hids, hpair⟩ := bind_eq_ok_iff.1 hmore
        obtain ⟨rfl, rfl⟩ := Prod.mk.inj (Except.ok.inj hpair)
        obtain ⟨number, rfl, hnumber⟩ := takeId_eq_ok_iff.1 hid
        exact ⟨[word, number], back, rfl, hword ▸ .present hnumber, readTail_eq_ok_iff.1 hids⟩
      · obtain ⟨others, hids, hpair⟩ := bind_eq_ok_iff.1 h
        obtain ⟨rfl, rfl⟩ := Prod.mk.inj (Except.ok.inj hpair)
        exact ⟨[], word :: rest, rfl, .absent, readTail_eq_ok_iff.1 hids⟩
  · rintro ⟨front, back, rfl, hsuper, hinterfaces⟩
    have htail := readTail_eq_ok_iff.2 hinterfaces
    cases hsuper with
    | absent =>
      cases hinterfaces with
      | absent => rfl
      | present =>
        have hne : interfacesWord ≠ superWord := by decide +kernel
        rw [List.nil_append, readFields, if_neg hne, htail]
        rfl
    | @present number id hid =>
      have htake : takeId (number :: back) = .ok (id, back) :=
        takeId_eq_ok_iff.2 ⟨number, rfl, hid⟩
      show readFields (superWord :: number :: back) = _
      rw [readFields, if_pos rfl, htake]
      show (do .ok (some id, ← readFields.readTail back)) = _
      rw [htail]
      rfl

/-! ## Lines -/

/-- A line that spells an entry: before the source stand its name, the word for the id and the id,
then the words of the super id and those of the interface ids. -/
inductive Spells (line : List Char) (entry : Entry) : Prop where
  | intro {fields number : List Char} {superWords interfaceWords : List (List Char)}
      (hcut : CutAtMark line fields (entry.source.map String.toList))
      (hwords : Spaced fields
        (entry.name.toList :: idWord :: number :: (superWords ++ interfaceWords)))
      (hid : SpellsId number entry.id) (hsuper : SpellsSuper superWords entry.superId)
      (hinterfaces : SpellsInterfaces interfaceWords entry.interfaces) : Spells line entry

/-- An entry that was read is spelled by its line. -/
theorem spells_of_ofChars {line : List Char} {entry : Entry} (h : ofChars line = .ok entry) :
    Spells line entry := by
  have hcut := cutAtMark_splitSource line
  unfold ofChars at h
  generalize splitSource line = parts at h hcut
  obtain ⟨fields, source⟩ := parts
  dsimp only at h hcut
  split at h
  · simp at h
  next name rest hwords =>
  split at h
  · simp at h
  next hhead =>
  obtain ⟨⟨id, others⟩, hid, hmore⟩ := bind_eq_ok_iff.1 h
  obtain ⟨⟨superId, interfaces⟩, hfields, hentry⟩ := bind_eq_ok_iff.1 hmore
  obtain rfl := Except.ok.inj hentry
  obtain ⟨number, htail, hnumber⟩ := takeId_eq_ok_iff.1 hid
  obtain ⟨superWords, interfaceWords, rfl, hsuper, hinterfaces⟩ := readFields_eq_ok_iff.1 hfields
  have hrest : rest = idWord :: number :: (superWords ++ interfaceWords) := by
    obtain ⟨tail, rfl⟩ := List.head?_eq_some_iff.1 (not_not.1 hhead)
    exact congrArg (idWord :: ·) htail
  have hsource : (source.map String.ofList).map String.toList = source := by
    cases source <;> simp
  have hspaced := words_eq_iff.1 hwords
  rw [hrest, ← String.toList_ofList (l := name)] at hspaced
  rw [← hsource] at hcut
  exact .intro hcut hspaced hnumber hsuper hinterfaces

/-- An entry is read from the lines that spell it. -/
theorem ofChars_eq_ok_iff {line : List Char} {entry : Entry} :
    ofChars line = .ok entry ↔ Spells line entry := by
  refine ⟨spells_of_ofChars, ?_⟩
  rintro ⟨hcut, hspaced, hid, hsuper, hinterfaces⟩
  have hsource : (entry.source.map String.toList).map String.ofList = entry.source := by
    cases entry.source <;> simp
  rw [ofChars, splitSource_eq_iff.2 hcut]
  dsimp only
  rw [words_eq_iff.2 hspaced]
  dsimp only
  rw [if_neg (by simp), List.tail_cons, takeId_eq_ok_iff.2 ⟨_, rfl, hid⟩]
  dsimp only [bind, Except.bind]
  rw [readFields_eq_ok_iff.2 ⟨_, _, rfl, hsuper, hinterfaces⟩]
  dsimp only
  rw [hsource, String.ofList_toList]

/-- **Exactly the lines that spell an entry are read as one.** Every other line is refused under the
number that it was given. -/
theorem line_is_read_iff_spells_entry (text : String) (number : Nat) :
    (∀ entry, parse text number = .ok entry ↔ Spells text.toList entry) ∧
    ((∃ message, parse text number = .error (.malformedLine number message)) ↔
      ∀ entry, ¬ Spells text.toList entry) := by
  have hparse : ∀ entry, parse text number = .ok entry ↔ Spells text.toList entry := by
    intro entry
    rw [← ofChars_eq_ok_iff, ← parse_eq_ok_iff number, String.ofList_toList]
  refine ⟨hparse, ?_⟩
  constructor
  · rintro ⟨message, herror⟩ entry hspells
    rw [(hparse entry).2 hspells] at herror
    simp at herror
  · intro hnone
    rw [parse]
    cases hread : ofChars text.toList with
    | error fault => exact ⟨fault.text, rfl⟩
    | ok entry => exact absurd (ofChars_eq_ok_iff.1 hread) (hnone entry)

end Entry

end LoadOrder
