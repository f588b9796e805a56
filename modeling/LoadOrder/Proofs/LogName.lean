/-
# Templates of log names

A template is expanded from left to right. A percent sign is taken together with the character behind
it, so in a run of percent signs each pair makes one sign, and only the last sign of an odd run is
taken together with what stands behind the run. Behind an even run a template can be cut: the two parts
are expanded on their own.

Main statements:
- `expandChars_append`, `expandChars_append_ne`: where a template can be cut;
- `expandChars_escape`: a text with its percent signs doubled stands for itself;
- `Expands.unique`: the laws of expansion leave no choice;
- `expansion_is_determined_by_laws`: templates that are text are expanded by these laws.
-/
import LoadOrder.LogName
import LoadOrder.Proofs.Text.Utf8
import Mathlib.Algebra.Group.Nat.Even
import Mathlib.Data.List.DropRight

namespace LoadOrder.LogName

variable {launch : Launch}

/-! ## Runs of percent signs -/

/-- The number of percent signs at the end of a text. -/
def percentsAtEnd (text : List Char) : Nat :=
  (text.rtakeWhile (· = '%')).length

/-- A percent sign more at the end is one more. -/
@[simp] theorem percentsAtEnd_concat_percent (text : List Char) :
    percentsAtEnd (text ++ ['%']) = percentsAtEnd text + 1 := by
  simp [percentsAtEnd]

/-- Behind any other character at the end there is none. -/
@[simp] theorem percentsAtEnd_concat_of_ne (text : List Char) {c : Char} (h : c ≠ '%') :
    percentsAtEnd (text ++ [c]) = 0 := by
  simp [percentsAtEnd, h]

/-- A character other than a percent sign at the beginning does not count. -/
@[simp] theorem percentsAtEnd_cons_of_ne {c : Char} (h : c ≠ '%') (text : List Char) :
    percentsAtEnd (c :: text) = percentsAtEnd text := by
  induction text using List.reverseRecOn with
  | nil => exact percentsAtEnd_concat_of_ne [] h
  | append_singleton text d ih =>
    rw [← List.cons_append]
    by_cases hd : d = '%'
    · rw [hd, percentsAtEnd_concat_percent, percentsAtEnd_concat_percent, ih]
    · rw [percentsAtEnd_concat_of_ne _ hd, percentsAtEnd_concat_of_ne _ hd]

/-- A percent sign and the character behind it, at the beginning, leave the run at the end even or
odd. -/
theorem even_percentsAtEnd_pair (c : Char) (text : List Char) :
    Even (percentsAtEnd ('%' :: c :: text)) ↔ Even (percentsAtEnd text) := by
  induction text using List.reverseRecOn with
  | nil =>
    by_cases hc : c = '%'
    · rw [hc]
      decide
    · have hzero : percentsAtEnd ['%', c] = 0 := percentsAtEnd_concat_of_ne ['%'] hc
      rw [hzero]
      decide
  | append_singleton text d ih =>
    rw [← List.cons_append, ← List.cons_append]
    by_cases hd : d = '%'
    · rw [hd, percentsAtEnd_concat_percent, percentsAtEnd_concat_percent, Nat.even_add_one,
        Nat.even_add_one, ih]
    · rw [percentsAtEnd_concat_of_ne _ hd, percentsAtEnd_concat_of_ne _ hd]

/-! ## The parts of a template -/

/-- A template in parts: characters other than percent signs, percent signs with the character behind
each, and perhaps a percent sign at the end. -/
inductive Parts : List Char → Prop where
  | nothing : Parts []
  | last : Parts ['%']
  | plain {c : Char} {rest : List Char} (hc : c ≠ '%') (hrest : Parts rest) : Parts (c :: rest)
  | pair (c : Char) {rest : List Char} (hrest : Parts rest) : Parts ('%' :: c :: rest)

/-- Every template has such parts. -/
theorem parts : ∀ template : List Char, Parts template
  | [] => .nothing
  | [c] => if hc : c = '%' then hc ▸ .last else .plain hc .nothing
  | c :: d :: rest =>
    if hc : c = '%' then hc ▸ .pair d (parts rest) else .plain hc (parts (d :: rest))

/-- What a percent sign and the character behind it stand for. -/
def expandPair (launch : Launch) (c : Char) : List Char :=
  if c = 'p' then Nat.toDigits 10 launch.pid
  else if c = 't' then launch.time.stamp
  else if c = '%' then ['%']
  else ['%', c]

/-- A character other than a percent sign stands for itself. -/
@[simp] theorem expandChars_cons_of_ne {c : Char} (h : c ≠ '%') (rest : List Char) :
    expandChars launch (c :: rest) = c :: expandChars launch rest := by
  rw [expandChars] <;> simp [h]

/-- A percent sign is taken together with the character behind it. -/
theorem expandChars_pair (c : Char) (rest : List Char) :
    expandChars launch ('%' :: c :: rest) = expandPair launch c ++ expandChars launch rest := by
  unfold expandPair
  split
  · next hp => rw [hp, expandChars]
  · next hp =>
    split
    · next ht => rw [ht, expandChars]
    · next ht =>
      split
      · next hc =>
        rw [hc, expandChars]
        rfl
      · next hc =>
        rw [expandChars, expandChars_cons_of_ne hc] <;> simp [hp, ht, hc]

/-! ## Cutting a template -/

/-- A template can be cut behind an even run of percent signs. -/
theorem expandChars_append {front : List Char} (h : Even (percentsAtEnd front))
    (back : List Char) :
    expandChars launch (front ++ back) = expandChars launch front ++ expandChars launch back := by
  induction parts front with
  | nothing => rfl
  | last => exact absurd h (by decide)
  | plain hc _ ih =>
    rw [percentsAtEnd_cons_of_ne hc] at h
    simp [hc, ih h]
  | pair c _ ih =>
    rw [even_percentsAtEnd_pair] at h
    rw [List.cons_append, List.cons_append, expandChars_pair, expandChars_pair, ih h,
      List.append_assoc]

/-- Runs of two, three and two percent signs, the second of them before a mark of its own. -/
example : expandChars ⟨42, default⟩ "%%p%%%p%%".toList = "%p%42%".toList := by decide

/-- Behind an odd run it cannot: the last percent sign of the run is taken together with what stands
behind the cut. -/
theorem expandChars_append_ne {front : List Char} (h : ¬ Even (percentsAtEnd front)) :
    expandChars launch (front ++ ['p']) ≠
      expandChars launch front ++ expandChars launch ['p'] := by
  rcases List.eq_nil_or_concat' front with rfl | ⟨init, c, rfl⟩
  · exact absurd (by decide) h
  obtain rfl : c = '%' := by
    by_contra hc
    simp [hc] at h
  rw [percentsAtEnd_concat_percent, Nat.even_add_one, not_not] at h
  rw [List.append_assoc, expandChars_append h, expandChars_append h, List.append_assoc]
  intro heq
  have hdigits : Nat.toDigits 10 launch.pid = ['%', 'p'] := by
    have hpair := List.append_cancel_left heq
    rw [List.singleton_append, expandChars_pair] at hpair
    simpa [expandPair, expandChars] using hpair
  -- a number does not begin with a percent sign
  have hpercent : '%' ∈ Nat.toDigits 10 launch.pid := by
    rw [hdigits]
    exact List.mem_cons_self
  exact absurd (Nat.isDigit_of_mem_toDigits (by decide) (by decide) hpercent) (by decide)

/-! ## Doubled percent signs -/

/-- A text with its percent signs doubled. -/
def escape (text : List Char) : List Char :=
  text.flatMap fun c => if c = '%' then ['%', '%'] else [c]

/-- A text with its percent signs doubled stands for itself. -/
theorem expandChars_escape (launch : Launch) (text : List Char) :
    expandChars launch (escape text) = text := by
  induction text with
  | nil => rfl
  | cons c rest ih =>
    rw [escape, List.flatMap_cons, ← escape]
    by_cases hc : c = '%'
    · rw [if_pos hc, List.cons_append, List.singleton_append, expandChars, ih, hc]
    · rw [if_neg hc, List.singleton_append, expandChars_cons_of_ne hc, ih]

/-! ## The laws of expansion -/

/-- What is asked of the expansion of templates that are text. -/
structure Expands (launch : Launch) (f : List Char → List UInt8) : Prop where
  /-- A template can be cut behind an even run of percent signs. -/
  append : ∀ front back, Even (percentsAtEnd front) → f (front ++ back) = f front ++ f back
  /-- A text with its percent signs doubled stands for itself. -/
  escape : ∀ text, f (escape text) = Utf8.encodeChars text
  pid : f ['%', 'p'] = Utf8.encodeChars (Nat.toDigits 10 launch.pid)
  time : f ['%', 't'] = Utf8.encodeChars launch.time.stamp
  /-- A percent sign before a character that makes no mark with it is kept, -/
  other : ∀ c, c ≠ 'p' → c ≠ 't' → c ≠ '%' → f ['%', c] = Utf8.encodeChars ['%', c]
  /-- and so is one at the end. -/
  last : f ['%'] = Utf8.encodeChars ['%']

/-- The laws say what a percent sign and the character behind it stand for. -/
theorem Expands.pair {f : List Char → List UInt8} (h : Expands launch f) (c : Char) :
    f ['%', c] = Utf8.encodeChars (expandPair launch c) := by
  unfold expandPair
  split
  · next hp => rw [hp, h.pid]
  · next hp =>
    split
    · next ht => rw [ht, h.time]
    · next ht =>
      split
      · next hc =>
        rw [hc]
        exact h.escape ['%']
      · next hc => exact h.other c hp ht hc

/-- The laws leave no choice. -/
theorem Expands.unique {f : List Char → List UInt8} (h : Expands launch f)
    (template : List Char) : f template = Utf8.encodeChars (expandChars launch template) := by
  induction parts template with
  | nothing => exact h.escape []
  | last => exact h.last
  | @plain c rest hc _ ih =>
    have heven : Even (percentsAtEnd [c]) := by
      rw [percentsAtEnd_cons_of_ne hc]
      decide
    have hfirst : f [c] = Utf8.encodeChars [c] := by
      have hescape := h.escape [c]
      rwa [LogName.escape, List.flatMap_singleton, if_neg hc] at hescape
    calc f (c :: rest) = f [c] ++ f rest := h.append [c] rest heven
      _ = Utf8.encodeChars ([c] ++ expandChars launch rest) := by
        rw [hfirst, ih, Utf8.encodeChars_append]
      _ = Utf8.encodeChars (expandChars launch (c :: rest)) := by
        rw [expandChars_cons_of_ne hc, List.singleton_append]
  | @pair c rest _ ih =>
    have heven : Even (percentsAtEnd ['%', c]) := (even_percentsAtEnd_pair c []).2 (by decide)
    calc f ('%' :: c :: rest) = f ['%', c] ++ f rest := h.append ['%', c] rest heven
      _ = Utf8.encodeChars (expandPair launch c ++ expandChars launch rest) := by
        rw [h.pair, ih, Utf8.encodeChars_append]
      _ = Utf8.encodeChars (expandChars launch ('%' :: c :: rest)) := by rw [expandChars_pair]

/-- Expanding from left to right obeys the laws. -/
theorem expands_expandChars (launch : Launch) :
    Expands launch fun template => Utf8.encodeChars (expandChars launch template) where
  append front back h := by rw [expandChars_append h, Utf8.encodeChars_append]
  escape text := by rw [expandChars_escape]
  pid := by rw [expandChars_pair, expandChars, List.append_nil, expandPair, if_pos rfl]
  time := by
    rw [expandChars_pair, expandChars, List.append_nil, expandPair, if_neg (by decide), if_pos rfl]
  other c hp ht hc := by
    rw [expandChars_pair, expandChars, List.append_nil, expandPair, if_neg hp, if_neg ht, if_neg hc]
  last := rfl

/-- The bytes of the path that a template stands for, if the template is text. -/
def expandText (launch : Launch) (template : List Char) : List UInt8 :=
  (expand launch ⟨Utf8.encodeChars template⟩).bytes

/-- Whether or not there is a percent sign in it, a template that is text is expanded from left to
right. -/
theorem expandText_eq (launch : Launch) (template : List Char) :
    expandText launch template = Utf8.encodeChars (expandChars launch template) := by
  rw [expandText, expand, Utf8.lossy_encodeChars]
  by_cases hpercent : '%' ∈ template
  · rw [if_pos hpercent]
  · rw [if_neg hpercent, expandChars_of_not_mem launch hpercent]

/-- **Expansion is determined by its laws.** For every process and time, the expansion of templates that
are text obeys the laws, and nothing else obeys them. A template can be cut, whatever stands behind the cut,
exactly if the run of percent signs before it is even. And the templates without percent
signs, which are not looked through, are expanded as all others are. -/
theorem expansion_is_determined_by_laws (launch : Launch) :
    Expands launch (expandText launch) ∧
    (∀ f, Expands launch f → f = expandText launch) ∧
    (∀ front, (∀ back, expandText launch (front ++ back) =
        expandText launch front ++ expandText launch back) ↔ Even (percentsAtEnd front)) ∧
    ∀ template, expandText launch template = Utf8.encodeChars (expandChars launch template) := by
  have hexpandText : expandText launch =
      fun template => Utf8.encodeChars (expandChars launch template) :=
    funext (expandText_eq launch)
  have hlaws : Expands launch (expandText launch) := by
    rw [hexpandText]
    exact expands_expandChars launch
  refine ⟨hlaws, ?_, ?_, expandText_eq launch⟩
  · intro f h
    rw [hexpandText]
    exact funext h.unique
  · intro front
    refine ⟨?_, fun heven back => hlaws.append front back heven⟩
    intro hcut
    by_contra hodd
    have hbytes := hcut ['p']
    rw [expandText_eq, expandText_eq, expandText_eq, ← Utf8.encodeChars_append] at hbytes
    exact expandChars_append_ne hodd (Utf8.encodeChars_injective hbytes)

end LoadOrder.LogName
