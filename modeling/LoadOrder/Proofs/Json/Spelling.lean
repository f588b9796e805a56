/-
# Spellings of JSON words

Words may have any space before, between and after them. Punctuation and names are spelled in one way,
natural numbers in decimal digits. A text stands between quotes, and each of its characters is spelled
in one of several ways: as itself, by a backslash and a letter, by its number in four digits of base
sixteen, or, beyond four digits, by the numbers of two units. However words are spelled, they are read
as these words, as long as no two of them that need something between them meet.

Main statements:
- `foldlM_of_charSpelling`, `foldlM_of_textSpelling`: characters are read from their spellings;
- `foldlM_of_spelling`: so is a word;
- `tokens_of_spellsTokens`: and so are words, whatever the space between them.
-/
import LoadOrder.Json.Lexer
import Mathlib.Data.List.Chain
import Mathlib.Data.List.TakeWhile

namespace LoadOrder.Json

/-! ## Spellings -/

/-- A digit of base sixteen. Its letter may be small or large. -/
def IsHexDigit (c : Char) (value : Nat) : Prop :=
  value < 16 ∧ (c = Nat.digitChar value ∨ c = (Nat.digitChar value).toUpper)

/-- Four digits of base sixteen. -/
inductive IsHex : List Char → Nat → Prop where
  | digits {a b c d : Char} {i j k l : Nat} (ha : IsHexDigit a i) (hb : IsHexDigit b j)
      (hc : IsHexDigit c k) (hd : IsHexDigit d l) :
      IsHex [a, b, c, d] (((i * 16 + j) * 16 + k) * 16 + l)

/-- The letters that may follow a backslash, with the characters that they stand for. -/
def shortEscapes : List (Char × Char) :=
  [('"', '"'), ('\\', '\\'), ('/', '/'), ('b', '\x08'), ('f', '\x0c'), ('n', '\n'), ('r', '\r'),
    ('t', '\t')]

/-- The spellings of a character between quotes. -/
inductive CharSpelling : Char → List Char → Prop where
  | plain {c : Char} (hcode : 0x20 ≤ c.toNat) (hquote : c ≠ '"') (hbackslash : c ≠ '\\') :
      CharSpelling c [c]
  | short {letter c : Char} (h : (letter, c) ∈ shortEscapes) : CharSpelling c ['\\', letter]
  | code {c : Char} {digits : List Char} (h : IsHex digits c.toNat) :
      CharSpelling c ('\\' :: 'u' :: digits)
  | pair {c : Char} {high low : List Char} (hcode : 0x10000 ≤ c.toNat)
      (hhigh : IsHex high (0xD800 + (c.toNat - 0x10000) / 0x400))
      (hlow : IsHex low (0xDC00 + (c.toNat - 0x10000) % 0x400)) :
      CharSpelling c ('\\' :: 'u' :: high ++ '\\' :: 'u' :: low)

/-- The spellings of a text between quotes. -/
inductive TextSpelling : List Char → List Char → Prop where
  | nil : TextSpelling [] []
  | cons {c : Char} {chars front back : List Char} (hc : CharSpelling c front)
      (hchars : TextSpelling chars back) : TextSpelling (c :: chars) (front ++ back)

/-- The spellings of a word; of the numbers, only natural ones are spelled here. -/
inductive Token.Spelling : Token → List Char → Prop where
  | openArray : Spelling .openArray ['[']
  | closeArray : Spelling .closeArray [']']
  | openObject : Spelling .openObject ['\x7b']
  | closeObject : Spelling .closeObject ['\x7d']
  | colon : Spelling .colon [':']
  | comma : Spelling .comma [',']
  | null : Spelling .null "null".toList
  | yes : Spelling (.bool true) "true".toList
  | no : Spelling (.bool false) "false".toList
  | number (n : Nat) : Spelling (.number { whole := Nat.toDigits 10 n }) (Nat.toDigits 10 n)
  | text {chars body : List Char} (h : TextSpelling chars body) :
      Spelling (.text (some chars)) ('"' :: body ++ ['"'])

/-- The characters that may stand between words. -/
def isSpace (c : Char) : Bool :=
  c = ' ' || c = '\t' || c = '\n' || c = '\r'

/-- The spellings of words, with space before, between and after them. -/
inductive SpellsTokens : List Token → List Char → Prop where
  | nil {space : List Char} (hspace : space.all isSpace = true) : SpellsTokens [] space
  | cons {token : Token} {tokens : List Token} {space word rest : List Char}
      (hspace : space.all isSpace = true) (hword : token.Spelling word)
      (hrest : SpellsTokens tokens rest) : SpellsTokens (token :: tokens) (space ++ (word ++ rest))

/-- A word that ends only where another character follows: a number or a name. -/
def Token.isOpen : Token → Bool
  | .null | .bool _ | .number _ => true
  | _ => false

/-- Words that can stand next to each other without space. -/
def Apart (token next : Token) : Prop :=
  token.isOpen = true → next.isOpen = false

/-! ## Characters -/

namespace Lexer

/-- The value of a digit of base sixteen. -/
theorem hexValue_of_isHexDigit {c : Char} {value : Nat} (h : IsHexDigit c value) :
    hexValue c = some value := by
  have hall : ∀ value < 16, hexValue (Nat.digitChar value) = some value ∧
      hexValue (Nat.digitChar value).toUpper = some value := by decide
  obtain ⟨hvalue, rfl | rfl⟩ := h
  · exact (hall value hvalue).1
  · exact (hall value hvalue).2

/-- The character for a letter after a backslash. -/
theorem escaped_of_mem {letter c : Char} (h : (letter, c) ∈ shortEscapes) :
    letter ≠ 'u' ∧ escaped letter = some c := by
  have hall : ∀ pair ∈ shortEscapes, pair.1 ≠ 'u' ∧ escaped pair.1 = some pair.2 := by decide
  exact hall _ h

/-- Four digits of base sixteen after a backslash and a letter are read as a unit. -/
theorem foldlM_of_isHex {digits : List Char} {code : Nat} (h : IsHex digits code)
    (units : List TextUnit) (tokens : List Token) :
    ('\\' :: 'u' :: digits).foldlM step { mode := .text units, tokens } =
      some { mode := .text (.code code :: units), tokens } := by
  cases h with
  | digits ha hb hc hd =>
    simp [step, hexValue_of_isHexDigit ha, hexValue_of_isHexDigit hb, hexValue_of_isHexDigit hc,
      hexValue_of_isHexDigit hd]

/-- A character is no unit of a pair. -/
theorem not_isHigh_or_isLow (c : Char) :
    TextUnit.isHigh c.toNat = false ∧ TextUnit.isLow c.toNat = false := by
  have hvalid : c.toNat < 0xD800 ∨ 0xDFFF < c.toNat ∧ c.toNat < 0x110000 := c.valid
  simp only [TextUnit.isHigh, TextUnit.isLow, Bool.and_eq_false_iff, decide_eq_false_iff_not]
  omega

/-- The units of a character beyond four digits are a pair that stands for it. -/
theorem join_pair {c : Char} (hcode : 0x10000 ≤ c.toNat) (rest : List TextUnit) :
    TextUnit.join (.code (0xD800 + (c.toNat - 0x10000) / 0x400) ::
        .code (0xDC00 + (c.toNat - 0x10000) % 0x400) :: rest) =
      (TextUnit.join rest).map (c :: ·) := by
  have hvalid : c.toNat < 0xD800 ∨ 0xDFFF < c.toNat ∧ c.toNat < 0x110000 := c.valid
  have hhigh : TextUnit.isHigh (0xD800 + (c.toNat - 0x10000) / 0x400) = true := by
    simp only [TextUnit.isHigh, Bool.and_eq_true, decide_eq_true_eq]
    omega
  have hlow : TextUnit.isLow (0xDC00 + (c.toNat - 0x10000) % 0x400) = true := by
    simp only [TextUnit.isLow, Bool.and_eq_true, decide_eq_true_eq]
    omega
  have hpair : TextUnit.pair (0xD800 + (c.toNat - 0x10000) / 0x400)
      (0xDC00 + (c.toNat - 0x10000) % 0x400) = c := by
    have hcode : 0x10000 + (0xD800 + (c.toNat - 0x10000) / 0x400 - 0xD800) * 0x400 +
        (0xDC00 + (c.toNat - 0x10000) % 0x400 - 0xDC00) = c.toNat := by omega
    rw [TextUnit.pair, hcode, Char.ofNat_toNat]
  rw [TextUnit.join, if_pos hhigh]
  simp only [hlow, if_true, hpair]

/-- However a character is spelled, the units that are read stand for it. -/
theorem foldlM_of_charSpelling {c : Char} {spelling : List Char} (h : CharSpelling c spelling)
    (units : List TextUnit) (tokens : List Token) :
    ∃ spelled : List TextUnit,
      spelling.foldlM step { mode := .text units, tokens } =
        some { mode := .text (spelled.reverse ++ units), tokens } ∧
      ∀ rest, TextUnit.join (spelled ++ rest) = (TextUnit.join rest).map (c :: ·) := by
  cases h with
  | plain hcode hquote hbackslash =>
    refine ⟨[.char c], ?_, fun rest => rfl⟩
    simp [step, hquote, hbackslash, Nat.not_lt.2 hcode]
  | short hmem =>
    obtain ⟨hne, hescaped⟩ := escaped_of_mem hmem
    exact ⟨[.char c], by simp [step, hne, hescaped], fun rest => rfl⟩
  | code hdigits =>
    refine ⟨[.code c.toNat], foldlM_of_isHex hdigits units tokens, ?_⟩
    intro rest
    obtain ⟨hhigh, hlow⟩ := not_isHigh_or_isLow c
    rw [List.singleton_append, TextUnit.join.eq_def]
    simp [hhigh, hlow]
  | pair hcode hhigh hlow =>
    refine ⟨[.code _, .code _], ?_, join_pair hcode⟩
    rw [List.foldlM_append, foldlM_of_isHex hhigh]
    exact foldlM_of_isHex hlow _ tokens

/-- However a text is spelled, the units that are read stand for it. -/
theorem foldlM_of_textSpelling {chars body : List Char} (h : TextSpelling chars body)
    (units : List TextUnit) (tokens : List Token) :
    ∃ spelled : List TextUnit,
      body.foldlM step { mode := .text units, tokens } =
        some { mode := .text (spelled.reverse ++ units), tokens } ∧
      TextUnit.join spelled = some chars := by
  induction h generalizing units with
  | nil => exact ⟨[], rfl, rfl⟩
  | cons hc hchars ih =>
    obtain ⟨first, hfirst, hjoin⟩ := foldlM_of_charSpelling hc units tokens
    obtain ⟨spelled, hspelled, hrest⟩ := ih (first.reverse ++ units)
    refine ⟨first ++ spelled, ?_, ?_⟩
    · rw [List.foldlM_append, hfirst, List.reverse_append, List.append_assoc]
      exact hspelled
    · rw [hjoin, hrest]
      rfl

/-! ## Numbers -/

/-- A digit continues a number. -/
theorem isNumeralChar_of_isDigit {c : Char} (h : c.isDigit = true) : isNumeralChar c = true := by
  simp [isNumeralChar, h]

/-- A digit between two words begins a number. -/
theorem stepBetween_of_isDigit (tokens : List Token) {c : Char} (h : c.isDigit = true) :
    stepBetween tokens c = some { mode := .numeral [c], tokens } := by
  have hne : ∀ other : Char, other.isDigit = false → c ≠ other := by
    rintro other hother rfl
    simp [hother] at h
  simp only [stepBetween, hne ' ' (by decide), hne '\t' (by decide), hne '\n' (by decide),
    hne '\r' (by decide), hne '[' (by decide), hne ']' (by decide), hne '\x7b' (by decide),
    hne '\x7d' (by decide), hne ':' (by decide), hne ',' (by decide), hne '"' (by decide), h,
    or_false, or_true, if_false, if_true]

/-- Digits continue a number. -/
theorem foldlM_of_digits {digits : List Char} (h : ∀ c ∈ digits, c.isDigit = true)
    (chars : List Char) (tokens : List Token) :
    digits.foldlM step { mode := .numeral chars, tokens } =
      some { mode := .numeral (digits.reverse ++ chars), tokens } := by
  induction digits generalizing chars with
  | nil => rfl
  | cons c rest ih =>
    have hc := isNumeralChar_of_isDigit (h c List.mem_cons_self)
    have hstep : step { mode := .numeral chars, tokens } c =
        some { mode := .numeral (c :: chars), tokens } := by
      simp [step, hc]
    rw [List.foldlM_cons, hstep, List.reverse_cons, List.append_assoc]
    exact ih (fun d hd => h d (List.mem_cons_of_mem c hd)) (c :: chars)

end Lexer

/-- The first digit of a number is no zero, unless it is the only one. -/
theorem head?_toDigits (n : Nat) :
    (Nat.toDigits 10 n).head? = some '0' → Nat.toDigits 10 n = ['0'] := by
  induction n using Nat.strongRecOn with
  | ind n ih =>
    intro hzero
    by_cases hsmall : n < 10
    · rw [Nat.toDigits_of_lt_base hsmall] at hzero ⊢
      exact congrArg (fun c => [c]) (Option.some.inj hzero)
    · have hbase : 10 ≤ n := Nat.le_of_not_lt hsmall
      rw [Nat.toDigits_of_base_le (by decide) hbase] at hzero ⊢
      rw [List.head?_append_of_ne_nil _ Nat.toDigits_ne_nil] at hzero
      -- the digits before the last one are those of a smaller number, which is not zero
      have hfront := ih (n / 10) (by omega) hzero
      have hvalue := Nat.ofDigitChars_toDigits (b := 10) (n := n / 10) (by decide) (by decide)
      rw [hfront] at hvalue
      have hnone : n / 10 = 0 := hvalue.symm
      omega

/-- The digits of a natural number are read as a numeral. -/
theorem read_toDigits_numeral (n : Nat) :
    Numeral.read (Nat.toDigits 10 n) = some { whole := Nat.toDigits 10 n } := by
  have hdigits : ∀ c ∈ Nat.toDigits 10 n, c.isDigit = true :=
    fun c hc => Nat.isDigit_of_mem_toDigits (by decide) (by decide) hc
  have hsign : (Nat.toDigits 10 n).head? ≠ some '-' := fun hminus =>
    absurd (hdigits '-' (List.mem_of_mem_head? hminus)) (by decide)
  have htake : Numeral.takeDigits (Nat.toDigits 10 n) = some (Nat.toDigits 10 n, []) := by
    have hall : (Nat.toDigits 10 n).takeWhile Char.isDigit = Nat.toDigits 10 n :=
      List.takeWhile_eq_self_iff.2 hdigits
    have hrest : (Nat.toDigits 10 n).dropWhile Char.isDigit = [] :=
      List.dropWhile_eq_nil_iff.2 hdigits
    simp [Numeral.takeDigits, hall, hrest, Nat.toDigits_ne_nil]
  have hzero : ¬ ((Nat.toDigits 10 n).head? = some '0' ∧ Nat.toDigits 10 n ≠ ['0']) :=
    fun ⟨hhead, hne⟩ => hne (head?_toDigits n hhead)
  simp only [Numeral.read, hsign, htake, decide_false, Bool.false_eq_true, if_false,
    Option.bind_eq_bind, Option.bind_some, if_neg hzero]
  rfl

/-! ## Words -/

namespace Lexer

/-- A state in which some words have been read, the last one first. The end of the last one may still
be open. -/
inductive HasRead : List Token → State → Prop where
  | between (tokens : List Token) : HasRead tokens { tokens }
  | numeral {tokens : List Token} {chars : List Char} {n : Numeral}
      (h : Numeral.read chars.reverse = some n) :
      HasRead (.number n :: tokens) { mode := .numeral chars, tokens }
  | name {tokens : List Token} {chars : List Char} {token : Token}
      (h : nameToken chars.reverse = some token) (hopen : token.isOpen = true) :
      HasRead (token :: tokens) { mode := .name chars, tokens }

/-- At the end of a text all its words have been read. -/
theorem HasRead.finish {tokens : List Token} {state : State} (h : HasRead tokens state) :
    finish state = some tokens.reverse := by
  cases h with
  | between tokens => rfl
  | numeral hread => simp [Lexer.finish, hread]
  | name hname hopen => simp [Lexer.finish, hname]

/-- Unless its end is open, nothing is pending after a word. -/
theorem HasRead.eq_between {tokens : List Token} {state : State} (h : HasRead tokens state)
    (hclosed : ∀ token ∈ tokens.head?, token.isOpen = false) : state = { tokens } := by
  cases h with
  | between tokens => rfl
  | numeral hread => exact absurd (hclosed _ rfl) (by simp [Token.isOpen])
  | name hname hopen => exact absurd (hclosed _ rfl) (by simp [hopen])

/-- A character that continues neither a number nor a name is read as if it stood alone. -/
theorem HasRead.step {tokens : List Token} {state : State} (h : HasRead tokens state) {c : Char}
    (hnumeral : isNumeralChar c = false) (hlower : c.isLower = false) :
    step state c = stepBetween tokens c := by
  cases h with
  | between tokens => rfl
  | numeral hread => simp [Lexer.step, hnumeral, hread]
  | name hname hopen => simp [Lexer.step, hlower, hname]

/-- Space changes nothing. -/
theorem HasRead.space {tokens : List Token} {state : State} (h : HasRead tokens state)
    {space : List Char} (hspace : space.all isSpace = true) :
    ∃ after, space.foldlM Lexer.step state = some after ∧ HasRead tokens after := by
  induction space generalizing state with
  | nil => exact ⟨state, rfl, h⟩
  | cons c rest ih =>
    rw [List.all_cons, Bool.and_eq_true] at hspace
    obtain ⟨hc, hrest⟩ := hspace
    have hstep : Lexer.step state c = some { tokens } := by
      simp only [isSpace, Bool.or_eq_true, decide_eq_true_eq] at hc
      rcases hc with ((rfl | rfl) | rfl) | rfl <;>
        exact h.step (by decide) (by decide)
    rw [List.foldlM_cons, hstep]
    exact ih (.between tokens) hrest

/-- A word is read from its spelling, if it can stand after the words before it. -/
theorem foldlM_of_spelling {token : Token} {word : List Char} (hword : token.Spelling word)
    {tokens : List Token} {state : State} (h : HasRead tokens state)
    (hapart : ∀ last ∈ tokens.head?, Apart last token) :
    ∃ after, word.foldlM step state = some after ∧ HasRead (token :: tokens) after := by
  -- a number or a name comes after a word that is not open, so nothing is pending
  have hbetween : token.isOpen = true → state = { tokens } := by
    intro hopen
    apply h.eq_between
    intro last hlast
    by_contra hlastOpen
    rw [Bool.not_eq_false] at hlastOpen
    rw [hapart last hlast hlastOpen] at hopen
    simp at hopen
  have hsingle : ∀ (c : Char) (token : Token), isNumeralChar c = false → c.isLower = false →
      stepBetween tokens c = some { tokens := token :: tokens } →
      ∃ after, [c].foldlM step state = some after ∧ HasRead (token :: tokens) after := by
    intro c token hnumeral hlower hc
    refine ⟨{ tokens := token :: tokens }, ?_, .between _⟩
    rw [List.foldlM_cons, h.step hnumeral hlower, hc]
    rfl
  cases hword with
  | openArray | closeArray | openObject | closeObject | colon | comma =>
    exact hsingle _ _ (by decide) (by decide) rfl
  | null | yes | no =>
    rw [hbetween rfl]
    exact ⟨_, rfl, .name rfl rfl⟩
  | number n =>
    rw [hbetween rfl]
    have hdigits : ∀ c ∈ Nat.toDigits 10 n, c.isDigit = true :=
      fun c hc => Nat.isDigit_of_mem_toDigits (by decide) (by decide) hc
    have hread := read_toDigits_numeral n
    generalize Nat.toDigits 10 n = digits at hdigits hread ⊢
    cases digits with
    | nil => simp [Numeral.read, Numeral.takeDigits] at hread
    | cons c rest =>
      have hc := hdigits c List.mem_cons_self
      have hstep : step { tokens } c = some { mode := .numeral [c], tokens } :=
        stepBetween_of_isDigit tokens hc
      refine ⟨{ mode := .numeral (rest.reverse ++ [c]), tokens }, ?_, .numeral ?_⟩
      · rw [List.foldlM_cons, hstep]
        exact foldlM_of_digits (fun d hd => hdigits d (List.mem_cons_of_mem c hd)) [c] tokens
      · simpa using hread
  | text htext =>
    obtain ⟨spelled, hspelled, hjoin⟩ := foldlM_of_textSpelling htext [] tokens
    refine ⟨{ tokens := .text (some _) :: tokens }, ?_, .between _⟩
    have hquote : step state '"' = some { mode := .text [], tokens } :=
      h.step (by decide) (by decide)
    rw [List.cons_append, List.foldlM_cons, hquote]
    simp only [Option.bind_eq_bind, Option.bind_some]
    rw [List.foldlM_append, hspelled]
    simp [step, hjoin]

/-- Words are read from their spellings, if they can stand after each other and after the words before
them. -/
theorem foldlM_of_spellsTokens {words : List Token} {text : List Char}
    (hwords : SpellsTokens words text) {tokens : List Token} {state : State}
    (h : HasRead tokens state) (hapart : (tokens.head?.toList ++ words).IsChain Apart) :
    ∃ after, text.foldlM step state = some after ∧ HasRead (words.reverse ++ tokens) after := by
  induction hwords generalizing tokens state with
  | nil hspace => exact h.space hspace
  | @cons token words space word rest hspace hword hrest ih =>
    obtain ⟨between, hbetween, hread⟩ := h.space hspace
    have hlast : ∀ last ∈ tokens.head?, Apart last token := by
      intro last hmem
      rw [Option.mem_def.1 hmem] at hapart
      exact (List.isChain_cons_cons.1 hapart).1
    obtain ⟨after, hafter, hread⟩ := foldlM_of_spelling hword hread hlast
    have hchain : (token :: words).IsChain Apart := (List.isChain_append.1 hapart).2.1
    obtain ⟨last, hfold, hread⟩ := ih hread hchain
    refine ⟨last, ?_, ?_⟩
    · rw [List.foldlM_append, hbetween]
      simp only [Option.bind_eq_bind, Option.bind_some]
      rw [List.foldlM_append, hafter]
      exact hfold
    · rw [List.reverse_cons, List.append_assoc]
      exact hread

end Lexer

/-- **Words are read back.** From any spelling of words that can stand after each other, these words
are read. -/
theorem tokens_of_spellsTokens {words : List Token} {text : List Char}
    (h : SpellsTokens words text) (hapart : words.IsChain Apart) : tokens text = some words := by
  obtain ⟨after, hfold, hread⟩ := Lexer.foldlM_of_spellsTokens h (.between []) hapart
  rw [tokens, hfold, Option.bind_some, hread.finish, List.append_nil, List.reverse_reverse]

end LoadOrder.Json
