/-
# The plain text of a value

A plain text has no space, and no escapes but those that it needs: for quotes and backslashes, and for
characters with a number below that of space. Its spellings are among those that are read back, as
long as its numbers are natural and its texts are made of characters.

Main statement: `spells_compact`.
-/
import LoadOrder.Proofs.Json.Reading
import LoadOrder.Proofs.Json.Records

namespace LoadOrder.Json

/-- A character between quotes, escaped only if it must be. -/
def escape (c : Char) : List Char :=
  match shortEscapes.find? fun pair => pair.2 = c && pair.1 ≠ '/' with
  | some (letter, _) => ['\\', letter]
  | none =>
    if c.toNat < 0x20 then
      ['\\', 'u', '0', '0', Nat.digitChar (c.toNat / 16), Nat.digitChar (c.toNat % 16)]
    else [c]

/-- The plain spelling of a word, if it is a number a natural one. -/
def Token.plain : Token → List Char
  | .openArray => ['[']
  | .closeArray => [']']
  | .openObject => ['\x7b']
  | .closeObject => ['\x7d']
  | .colon => [':']
  | .comma => [',']
  | .null => "null".toList
  | .bool value => if value then "true".toList else "false".toList
  | .number numeral => numeral.whole
  | .text chars => '"' :: (chars.getD []).flatMap escape ++ ['"']

/-- The plain text of a value. -/
def compact (value : Json) : List Char :=
  (tokensOf value).flatMap Token.plain

/-- A value whose plain text is one of its texts. -/
def IsPlain (value : Json) : Prop :=
  ∀ token ∈ tokensOf value, token.Spelling token.plain

/-! ## Characters -/

/-- A character is spelled by its escape. -/
theorem charSpelling_escape (c : Char) : CharSpelling c (escape c) := by
  rw [escape]
  cases hfind : shortEscapes.find? fun pair => pair.2 = c && pair.1 ≠ '/' with
  | some pair =>
    have hmem := List.mem_of_find?_eq_some hfind
    have hpair := List.find?_some hfind
    rw [Bool.and_eq_true, decide_eq_true_eq] at hpair
    obtain ⟨letter, _⟩ := pair
    obtain ⟨rfl, -⟩ := hpair
    exact .short hmem
  | none =>
    have hnone := List.find?_eq_none.1 hfind
    dsimp only
    split
    · have hdigit : ∀ value < 16, IsHexDigit (Nat.digitChar value) value :=
        fun value hvalue => ⟨hvalue, .inl rfl⟩
      have hhex := IsHex.digits (hdigit 0 (by decide)) (hdigit 0 (by decide))
        (hdigit (c.toNat / 16) (by omega)) (hdigit (c.toNat % 16) (by omega))
      have hvalue : ((0 * 16 + 0) * 16 + c.toNat / 16) * 16 + c.toNat % 16 = c.toNat := by omega
      rw [hvalue] at hhex
      exact .code hhex
    · refine .plain (by omega) ?_ ?_
      · rintro rfl
        exact hnone ('"', '"') (by decide) (by decide)
      · rintro rfl
        exact hnone ('\\', '\\') (by decide) (by decide)

/-- A text is spelled by the escapes of its characters. -/
theorem textSpelling_flatMap_escape (chars : List Char) :
    TextSpelling chars (chars.flatMap escape) := by
  induction chars with
  | nil => exact .nil
  | cons c rest ih => exact .cons (charSpelling_escape c) ih

/-! ## Values -/

/-- The absence of content is plain. -/
theorem isPlain_null : IsPlain .null := by
  rintro token hmem
  rw [tokensOf, List.mem_singleton] at hmem
  rw [hmem]
  exact .null

/-- Truth values are plain. -/
theorem isPlain_bool (value : Bool) : IsPlain (.bool value) := by
  intro token hmem
  rw [tokensOf, List.mem_singleton] at hmem
  rw [hmem]
  cases value
  · exact .no
  · exact .yes

/-- Natural numbers are plain. -/
theorem isPlain_number (n : Nat) : IsPlain (.number { whole := Nat.toDigits 10 n }) := by
  intro token hmem
  rw [tokensOf, List.mem_singleton] at hmem
  rw [hmem]
  exact .number n

/-- Texts of characters are plain. -/
theorem isPlain_text (chars : List Char) : IsPlain (.text (some chars)) := by
  intro token hmem
  rw [tokensOf, List.mem_singleton] at hmem
  rw [hmem]
  exact .text (textSpelling_flatMap_escape chars)

/-- What may be absent is plain, if it is so when it is there. -/
theorem isPlain_elim {α : Type} {json : α → Json} (h : ∀ a, (json a).IsPlain) (option : Option α) :
    (option.elim .null json).IsPlain := by
  cases option with
  | none => exact isPlain_null
  | some a => exact h a

/-- An array of plain values is plain. -/
theorem isPlain_array {items : List Json} (h : ∀ item ∈ items, IsPlain item) :
    IsPlain (.array items) := by
  have hitems : ∀ token ∈ tokensOfItems items, token.Spelling token.plain := by
    induction items with
    | nil => simp [tokensOfItems]
    | cons item rest ih =>
      rw [List.forall_mem_cons] at h
      cases rest with
      | nil =>
        rw [tokensOfItems]
        exact h.1
      | cons next rest =>
        rw [tokensOfItems]
        intro token hmem
        rcases List.mem_append.1 hmem with hmem | hmem
        · exact h.1 token hmem
        · rcases List.mem_cons.1 hmem with rfl | hmem
          · exact .comma
          · exact ih h.2 token hmem
  intro token hmem
  rw [tokensOf, List.mem_cons, List.mem_append, List.mem_singleton] at hmem
  obtain rfl | hmem | rfl := hmem
  · exact .openArray
  · exact hitems token hmem
  · exact .closeArray

/-- An object of plain values is plain. -/
theorem isPlain_objectOf {members : List (String × Json)}
    (h : ∀ member ∈ members, IsPlain member.2) : IsPlain (objectOf members) := by
  have hmembers : ∀ token ∈ tokensOfMembers
      (members.map fun member => (some member.1.toList, member.2)),
      token.Spelling token.plain := by
    induction members with
    | nil => simp [tokensOfMembers]
    | cons member rest ih =>
      rw [List.forall_mem_cons] at h
      have hkey : (Token.text (some member.1.toList)).Spelling
          (Token.text (some member.1.toList)).plain :=
        .text (textSpelling_flatMap_escape member.1.toList)
      cases rest with
      | nil =>
        rw [List.map_cons, List.map_nil, tokensOfMembers, List.forall_mem_cons,
          List.forall_mem_cons]
        exact ⟨hkey, .colon, h.1⟩
      | cons next rest =>
        rw [List.map_cons, List.map_cons, tokensOfMembers, List.forall_mem_cons,
          List.forall_mem_cons]
        refine ⟨hkey, .colon, ?_⟩
        rw [List.forall_mem_append, List.forall_mem_cons]
        exact ⟨h.1, .comma, ih h.2⟩
  rw [objectOf, IsPlain, tokensOf, List.forall_mem_cons, List.forall_mem_append,
    List.forall_mem_singleton]
  exact ⟨.openObject, hmembers, .closeObject⟩

/-- The plain text of words. -/
theorem spellsTokens_flatMap_plain {tokens : List Token}
    (h : ∀ token ∈ tokens, token.Spelling token.plain) :
    SpellsTokens tokens (tokens.flatMap Token.plain) := by
  induction tokens with
  | nil => exact .nil rfl
  | cons token rest ih =>
    rw [List.forall_mem_cons] at h
    rw [List.flatMap_cons, ← List.nil_append (token.plain ++ _)]
    exact .cons rfl h.1 (ih h.2)

/-- **The plain text** of a value is one of its texts. -/
theorem spells_compact {value : Json} (h : IsPlain value) : value.Spells value.compact :=
  spellsTokens_flatMap_plain h

end LoadOrder.Json
