/-
# Bytes that are text

The pieces of a run of bytes, put together again, are the bytes. So bytes that decode to a text are
the bytes of that text and of no other, and bytes that do not decode are the bytes of no text.

Main statements:
- `flatMap_bytes_pieces`: every byte is taken into one piece, and in order;
- `decode_eq_some_iff`: bytes decode to a text exactly if they are its bytes.
-/
import LoadOrder.Text.Utf8
import Mathlib

namespace LoadOrder.Utf8

/-- The bytes of two texts one after the other are those of the one and then those of the other. -/
theorem encodeChars_append (front back : List Char) :
    encodeChars (front ++ back) = encodeChars front ++ encodeChars back :=
  List.flatMap_append

/-! ## The bytes of pieces -/

/-- The bytes of a piece. -/
def Piece.bytes : Piece → List UInt8
  | char c => String.utf8EncodeChar c
  | broken bytes => bytes

/-- The bytes of a character that is open, if one is. -/
def openBytes (pending : Option Pending) : List UInt8 :=
  pending.elim [] fun p => p.seen.reverse

/-- The bytes of a character by its code point. -/
theorem utf8EncodeChar_ofNat {n : Nat} (h : n < 0xD800 ∨ 0xDFFF < n ∧ n < 0x110000) :
    String.utf8EncodeChar (Char.ofNat n) =
      if n ≤ 0x7F then [UInt8.ofNat n]
      else if n ≤ 0x7FF then [UInt8.ofNat (n / 64 % 32 + 0xC0), UInt8.ofNat (n % 64 + 0x80)]
      else if n ≤ 0xFFFF then
        [UInt8.ofNat (n / 4096 % 16 + 0xE0), UInt8.ofNat (n / 64 % 64 + 0x80),
          UInt8.ofNat (n % 64 + 0x80)]
      else
        [UInt8.ofNat (n / 262144 % 8 + 0xF0), UInt8.ofNat (n / 4096 % 64 + 0x80),
          UInt8.ofNat (n / 64 % 64 + 0x80), UInt8.ofNat (n % 64 + 0x80)] := by
  have hcode : (Char.ofNat n).val.toNat = n := (Char.toNat_ofNat n).trans (if_pos h)
  simp only [String.utf8EncodeChar, hcode]

/-- A byte is determined by its number. -/
theorem ofNat_of_eq {n : Nat} {b : UInt8} (h : n = b.toNat) : UInt8.ofNat n = b := by
  rw [h, UInt8.ofNat_toNat]

/-! ## Open characters -/

/-- The bytes that come second in a character of three bytes. Others would begin an overlong sequence
or a surrogate. -/
def SecondOfThree (b c : Nat) : Prop :=
  0x80 ≤ c ∧ c ≤ 0xBF ∧ (b = 0xE0 → 0xA0 ≤ c) ∧ (b = 0xED → c ≤ 0x9F)

/-- The bytes that come second in a character of four bytes. Others would begin an overlong sequence
or a number beyond the last code point. -/
def SecondOfFour (b c : Nat) : Prop :=
  0x80 ≤ c ∧ c ≤ 0xBF ∧ (b = 0xF0 → 0x90 ≤ c) ∧ (b = 0xF4 → c ≤ 0x8F)

/-- The characters that can be open, by how many bytes they have and how many of them were read. -/
inductive Opened : Pending → Prop where
  | oneOfTwo {b : UInt8} (hb : 0xC2 ≤ b.toNat ∧ b.toNat < 0xE0) :
      Opened ⟨[b], b.toNat - 0xC0, 0, 0x80, 0xBF⟩
  | oneOfThree {b low high : UInt8} {code : Nat} (hb : 0xE0 ≤ b.toNat ∧ b.toNat < 0xF0)
      (hcode : code = b.toNat - 0xE0)
      (hnext : ∀ c, low.toNat ≤ c → c ≤ high.toNat → SecondOfThree b.toNat c) :
      Opened ⟨[b], code, 1, low, high⟩
  | twoOfThree {b c : UInt8} (hb : 0xE0 ≤ b.toNat ∧ b.toNat < 0xF0)
      (hc : SecondOfThree b.toNat c.toNat) :
      Opened ⟨[c, b], (b.toNat - 0xE0) * 64 + c.toNat % 64, 0, 0x80, 0xBF⟩
  | oneOfFour {b low high : UInt8} {code : Nat} (hb : 0xF0 ≤ b.toNat ∧ b.toNat < 0xF5)
      (hcode : code = b.toNat - 0xF0)
      (hnext : ∀ c, low.toNat ≤ c → c ≤ high.toNat → SecondOfFour b.toNat c) :
      Opened ⟨[b], code, 2, low, high⟩
  | twoOfFour {b c : UInt8} (hb : 0xF0 ≤ b.toNat ∧ b.toNat < 0xF5)
      (hc : SecondOfFour b.toNat c.toNat) :
      Opened ⟨[c, b], (b.toNat - 0xF0) * 64 + c.toNat % 64, 1, 0x80, 0xBF⟩
  | threeOfFour {b c d : UInt8} (hb : 0xF0 ≤ b.toNat ∧ b.toNat < 0xF5)
      (hc : SecondOfFour b.toNat c.toNat) (hd : 0x80 ≤ d.toNat ∧ d.toNat ≤ 0xBF) :
      Opened ⟨[d, c, b], ((b.toNat - 0xF0) * 64 + c.toNat % 64) * 64 + d.toNat % 64, 0, 0x80, 0xBF⟩

/-- A byte between two characters is a piece of its own, or opens a character. -/
theorem start_opened (b : UInt8) :
    (start b).1.flatMap Piece.bytes ++ openBytes (start b).2 = [b] ∧
      ∀ p, (start b).2 = some p → Opened p := by
  have hlt := b.toNat_lt
  fun_cases start b
  case case1 n h =>
    rw [List.flatMap_singleton, Piece.bytes, utf8EncodeChar_ofNat (by omega), if_pos (by omega),
      ofNat_of_eq rfl]
    exact ⟨rfl, by simp⟩
  case case2 | case10 => exact ⟨rfl, by simp⟩
  case case3 n _ _ _ =>
    refine ⟨rfl, ?_⟩
    rintro p ⟨⟩
    exact .oneOfTwo (by omega)
  -- three bytes: the first decides what may come second
  case case4 n _ _ _ _ | case5 n _ _ _ _ _ | case6 n _ _ _ _ _ _ =>
    refine ⟨rfl, ?_⟩
    rintro p ⟨⟩
    refine .oneOfThree (by omega) (by omega) ?_
    intro c hlow hhigh
    simp only [UInt8.reduceToNat] at hlow hhigh
    unfold SecondOfThree
    omega
  -- four bytes, likewise
  case case7 n _ _ _ _ _ _ _ | case8 n _ _ _ _ _ _ _ _ | case9 n _ _ _ _ _ _ _ _ _ =>
    refine ⟨rfl, ?_⟩
    rintro p ⟨⟩
    refine .oneOfFour (by omega) (by omega) ?_
    intro c hlow hhigh
    simp only [UInt8.reduceToNat] at hlow hhigh
    unfold SecondOfFour
    omega

/-- A byte in the range of an open character is the last of it or leaves it open; any other byte ends
it as a broken piece. -/
theorem feed_opened {p : Pending} (hp : Opened p) (b : UInt8) :
    (feed (some p) b).1.flatMap Piece.bytes ++ openBytes (feed (some p) b).2 =
        p.seen.reverse ++ [b] ∧
      ∀ q, (feed (some p) b).2 = some q → Opened q := by
  have hlt := b.toNat_lt
  unfold feed
  dsimp only
  split
  · next h =>
    cases hp with
    | @oneOfTwo c hc =>
      simp only [UInt8.reduceToNat] at h ⊢
      rw [List.flatMap_singleton, Piece.bytes, utf8EncodeChar_ofNat (by omega), if_neg (by omega),
        if_pos (by omega), ofNat_of_eq (b := c) (by omega), ofNat_of_eq (b := b) (by omega)]
      exact ⟨rfl, by simp⟩
    | oneOfThree hc hcode hnext =>
      refine ⟨rfl, ?_⟩
      rintro q ⟨⟩
      rw [hcode]
      exact .twoOfThree hc (hnext _ h.1 h.2)
    | @twoOfThree c d hc hd =>
      simp only [UInt8.reduceToNat] at h ⊢
      unfold SecondOfThree at hd
      rw [List.flatMap_singleton, Piece.bytes, utf8EncodeChar_ofNat (by omega), if_neg (by omega),
        if_neg (by omega), if_pos (by omega), ofNat_of_eq (b := c) (by omega),
        ofNat_of_eq (b := d) (by omega), ofNat_of_eq (b := b) (by omega)]
      exact ⟨rfl, by simp⟩
    | oneOfFour hc hcode hnext =>
      refine ⟨rfl, ?_⟩
      rintro q ⟨⟩
      rw [hcode]
      exact .twoOfFour hc (hnext _ h.1 h.2)
    | twoOfFour hc hd =>
      refine ⟨rfl, ?_⟩
      rintro q ⟨⟩
      exact .threeOfFour hc hd h
    | @threeOfFour c d e hc hd he =>
      simp only [UInt8.reduceToNat] at h ⊢
      unfold SecondOfFour at hd
      rw [List.flatMap_singleton, Piece.bytes, utf8EncodeChar_ofNat (by omega), if_neg (by omega),
        if_neg (by omega), if_neg (by omega), ofNat_of_eq (b := c) (by omega),
        ofNat_of_eq (b := d) (by omega), ofNat_of_eq (b := e) (by omega),
        ofNat_of_eq (b := b) (by omega)]
      exact ⟨rfl, by simp⟩
  · obtain ⟨hstart, hopened⟩ := start_opened b
    refine ⟨?_, hopened⟩
    rw [List.flatMap_cons, List.append_assoc, hstart, Piece.bytes]

/-! ## Whole runs of bytes -/

/-- Read on from a character that may be open, the pieces have its bytes and those that follow. -/
theorem flatMap_bytes_piecesFrom {pending : Option Pending}
    (h : ∀ p, pending = some p → Opened p) (bytes : List UInt8) :
    (piecesFrom pending bytes).flatMap Piece.bytes = openBytes pending ++ bytes := by
  induction bytes generalizing pending with
  | nil =>
    cases pending with
    | none => rfl
    | some p => simp [piecesFrom, Piece.bytes, openBytes]
  | cons b rest ih =>
    have hfeed : (feed pending b).1.flatMap Piece.bytes ++ openBytes (feed pending b).2 =
        openBytes pending ++ [b] ∧ ∀ p, (feed pending b).2 = some p → Opened p := by
      cases pending with
      | none => exact start_opened b
      | some p => exact feed_opened (h p rfl) b
    obtain ⟨hbytes, hopened⟩ := hfeed
    rw [piecesFrom, List.flatMap_append, ih hopened, ← List.append_assoc, hbytes,
      List.append_assoc, List.singleton_append]

/-- Every byte is taken into one piece, and in order. -/
theorem flatMap_bytes_pieces (bytes : List UInt8) :
    (pieces bytes).flatMap Piece.bytes = bytes :=
  flatMap_bytes_piecesFrom (by simp) bytes

/-- Bytes decode to a text exactly if they are its bytes. -/
theorem decode_eq_some_iff {bytes : List UInt8} {text : List Char} :
    decode bytes = some text ↔ bytes = encodeChars text := by
  constructor
  · intro h
    have hpieces : ∀ {found : List Piece} {text}, found.mapM Piece.char? = some text →
        found = text.map .char := by
      intro found
      induction found with
      | nil => simp
      | cons piece rest ih =>
        intro text h
        cases piece with
        | broken bytes => simp [Piece.char?] at h
        | char c =>
          simp only [List.mapM_cons, Piece.char?, Option.bind_eq_bind, Option.bind_some,
            Option.pure_def, Option.bind_eq_some_iff, Option.some.injEq] at h
          obtain ⟨more, hmore, rfl⟩ := h
          rw [ih hmore, List.map_cons]
    rw [← flatMap_bytes_pieces bytes, hpieces h, List.flatMap_map]
    rfl
  · rintro rfl
    exact decode_encodeChars text

/-- Texts of the same bytes are the same. -/
theorem encodeChars_injective {front back : List Char} (h : encodeChars front = encodeChars back) :
    front = back := by
  have hdecode := congrArg decode h
  rw [decode_encodeChars, decode_encodeChars] at hdecode
  exact Option.some.inj hdecode

/-- Bytes that do not decode are the bytes of no text. -/
theorem decode_eq_none_iff {bytes : List UInt8} :
    decode bytes = none ↔ ∀ text, bytes ≠ encodeChars text := by
  rw [Option.eq_none_iff_forall_ne_some]
  simp only [ne_eq, decode_eq_some_iff]

end LoadOrder.Utf8
