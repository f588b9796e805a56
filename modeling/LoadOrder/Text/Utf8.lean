/-
# UTF-8

Bytes are read one at a time. Between characters the reader owes nothing; inside a character it
keeps the bytes taken so far and the range that the next byte must lie in. A byte outside that
range ends the sequence as a broken piece and is then read afresh, so every broken piece is the
longest start of a character that the bytes there allow.

Main statements:
- `pieces_encodeChars`: the bytes of a text are read as the characters of that text;
- `decode_encodeChars`, `lossy_encodeChars`: hence they decode to it.
-/

namespace LoadOrder.Utf8

/-! ## From text to bytes -/

/-- The bytes of a text. -/
def encodeChars (text : List Char) : List UInt8 :=
  text.flatMap String.utf8EncodeChar

/-- The bytes of a string. -/
def encode (text : String) : List UInt8 :=
  encodeChars text.toList

/-- The bytes of a text are those of its first character and those of the rest. -/
theorem length_encodeChars_cons (c : Char) (text : List Char) :
    (encodeChars (c :: text)).length = c.utf8Size + (encodeChars text).length := by
  simp [encodeChars, String.length_utf8EncodeChar]

/-! ## From bytes to text -/

/-- What a run of bytes stands for. -/
inductive Piece where
  | char (c : Char)
  | broken (bytes : List UInt8)
  deriving DecidableEq, Repr

/-- A character of several bytes, partly read. -/
structure Pending where
  /-- The bytes read so far, the last one first. -/
  seen : List UInt8
  /-- The bits of the code point read so far. -/
  code : Nat
  /-- How many bytes are still owed after the next one. -/
  owed : Nat
  /-- The least byte that may come next. -/
  low : UInt8
  /-- The greatest byte that may come next. -/
  high : UInt8
  deriving DecidableEq, Repr

/-- A byte between two characters is a piece of its own or opens a character. -/
def start (b : UInt8) : List Piece × Option Pending :=
  let n := b.toNat
  if n < 0x80 then ([.char (Char.ofNat n)], none)
  else if n < 0xC2 then ([.broken [b]], none)
  else if n < 0xE0 then ([], some ⟨[b], n - 0xC0, 0, 0x80, 0xBF⟩)
  else if n = 0xE0 then ([], some ⟨[b], 0, 1, 0xA0, 0xBF⟩)
  else if n = 0xED then ([], some ⟨[b], 0xD, 1, 0x80, 0x9F⟩)
  else if n < 0xF0 then ([], some ⟨[b], n - 0xE0, 1, 0x80, 0xBF⟩)
  else if n = 0xF0 then ([], some ⟨[b], 0, 2, 0x90, 0xBF⟩)
  else if n < 0xF4 then ([], some ⟨[b], n - 0xF0, 2, 0x80, 0xBF⟩)
  else if n = 0xF4 then ([], some ⟨[b], 4, 2, 0x80, 0x8F⟩)
  else ([.broken [b]], none)

/-- One byte: the pieces it completes, and the character that is open after it. -/
def feed : Option Pending → UInt8 → List Piece × Option Pending
  | none, b => start b
  | some p, b =>
    if p.low.toNat ≤ b.toNat ∧ b.toNat ≤ p.high.toNat then
      let code := p.code * 64 + b.toNat % 64
      match p.owed with
      | 0 => ([.char (Char.ofNat code)], none)
      | owed + 1 => ([], some ⟨b :: p.seen, code, owed, 0x80, 0xBF⟩)
    else
      let (pieces, next) := start b
      (.broken p.seen.reverse :: pieces, next)

/-- The pieces of a run of bytes, read on from a character that may be open. -/
def piecesFrom : Option Pending → List UInt8 → List Piece
  | none, [] => []
  | some p, [] => [.broken p.seen.reverse]
  | p, b :: rest => (feed p b).1 ++ piecesFrom (feed p b).2 rest

/-- The pieces of a run of bytes. -/
def pieces (bytes : List UInt8) : List Piece :=
  piecesFrom none bytes

/-- The character of an unbroken piece. -/
def Piece.char? : Piece → Option Char
  | .char c => some c
  | .broken _ => none

/-- The text that the bytes stand for, if no piece of them is broken. -/
def decode (bytes : List UInt8) : Option (List Char) :=
  (pieces bytes).mapM Piece.char?

/-- The text that the bytes stand for, with U+FFFD for each broken piece. -/
def lossy (bytes : List UInt8) : List Char :=
  (pieces bytes).map fun piece => piece.char?.getD '\ufffd'

/-! ## Reading back what was written -/

private theorem start_two {b : UInt8} (h : 0xC2 ≤ b.toNat) (h' : b.toNat < 0xE0) :
    start b = ([], some ⟨[b], b.toNat - 0xC0, 0, 0x80, 0xBF⟩) := by
  grind [start]

private theorem start_three {b : UInt8} (h : 0xE0 ≤ b.toNat) (h' : b.toNat < 0xF0) :
    start b = ([], some ⟨[b], b.toNat - 0xE0, 1, if b.toNat = 0xE0 then 0xA0 else 0x80,
      if b.toNat = 0xED then 0x9F else 0xBF⟩) := by
  grind [start]

private theorem start_four {b : UInt8} (h : 0xF0 ≤ b.toNat) (h' : b.toNat < 0xF5) :
    start b = ([], some ⟨[b], b.toNat - 0xF0, 2, if b.toNat = 0xF0 then 0x90 else 0x80,
      if b.toNat = 0xF4 then 0x8F else 0xBF⟩) := by
  grind [start]

private theorem feed_last {p : Pending} {b : UInt8} (hp : p.owed = 0)
    (h : p.low.toNat ≤ b.toNat) (h' : b.toNat ≤ p.high.toNat) :
    feed (some p) b = ([.char (Char.ofNat (p.code * 64 + b.toNat % 64))], none) := by
  simp [feed, h, h', hp]

private theorem feed_more {p : Pending} {b : UInt8} {k : Nat} (hp : p.owed = k + 1)
    (h : p.low.toNat ≤ b.toNat) (h' : b.toNat ≤ p.high.toNat) :
    feed (some p) b =
      ([], some ⟨b :: p.seen, p.code * 64 + b.toNat % 64, k, 0x80, 0xBF⟩) := by
  simp [feed, h, h', hp]

private theorem piecesFrom_cons (p : Option Pending) (b : UInt8) (rest : List UInt8) :
    piecesFrom p (b :: rest) = (feed p b).1 ++ piecesFrom (feed p b).2 rest := by
  cases p <;> rfl

/-- Reading goes on between characters after the bytes of one. -/
theorem piecesFrom_encodeChar (c : Char) (rest : List UInt8) :
    piecesFrom none (String.utf8EncodeChar c ++ rest) = .char c :: piecesFrom none rest := by
  have hv : c.toNat < 0xD800 ∨ 0xDFFF < c.toNat ∧ c.toNat < 0x110000 := c.valid
  have hb : ∀ n, n < 256 → (UInt8.ofNat n).toNat = n := fun n h => by simp [Nat.mod_eq_of_lt h]
  have hn : c.val.toNat = c.toNat := rfl
  have hc : Char.ofNat c.toNat = c := c.ofNat_toNat
  simp only [String.utf8EncodeChar, hn]
  generalize c.toNat = n at *
  split
  -- one byte
  · next h =>
    have h1 := hb n (by omega)
    simp [piecesFrom_cons, feed, start, h1, Nat.lt_succ_of_le h, hc]
  split
  -- two bytes
  · have h1 := hb (n / 64 % 0x20 + 0xc0) (by omega)
    have h2 := hb (n % 0x40 + 0x80) (by omega)
    simp only [List.cons_append, List.nil_append, piecesFrom_cons]
    rw [feed, start_two (by omega) (by omega), List.nil_append,
      feed_last rfl (by rw [h2]; simp) (by rw [h2]; simp; omega), List.singleton_append]
    rw [h1, h2, ← hc]
    dsimp only
    congr 3
    omega
  split
  -- three bytes: the range of the second depends on the first
  · have h1 := hb (n / 4096 % 0x10 + 0xe0) (by omega)
    have h2 := hb (n / 64 % 0x40 + 0x80) (by omega)
    have h3 := hb (n % 0x40 + 0x80) (by omega)
    simp only [List.cons_append, List.nil_append, piecesFrom_cons]
    rw [feed, start_three (by omega) (by omega), List.nil_append,
      feed_more (k := 0) rfl (by rw [h1, h2]; dsimp only; split <;> grind)
        (by rw [h1, h2]; dsimp only; split <;> grind), List.nil_append,
      feed_last rfl (by rw [h3]; simp) (by rw [h3]; simp; omega), List.singleton_append]
    simp only [h1, h2, h3]
    rw [← hc]
    congr 3
    omega
  -- four bytes, likewise
  · have h1 := hb (n / 262144 % 0x08 + 0xf0) (by omega)
    have h2 := hb (n / 4096 % 0x40 + 0x80) (by omega)
    have h3 := hb (n / 64 % 0x40 + 0x80) (by omega)
    have h4 := hb (n % 0x40 + 0x80) (by omega)
    simp only [List.cons_append, List.nil_append, piecesFrom_cons]
    rw [feed, start_four (by omega) (by omega), List.nil_append,
      feed_more (k := 1) rfl (by rw [h1, h2]; dsimp only; split <;> grind)
        (by rw [h1, h2]; dsimp only; split <;> grind), List.nil_append,
      feed_more (k := 0) rfl (by rw [h3]; simp) (by rw [h3]; simp; omega), List.nil_append,
      feed_last rfl (by rw [h4]; simp) (by rw [h4]; simp; omega), List.singleton_append]
    simp only [h1, h2, h3, h4]
    rw [← hc]
    congr 3
    omega

/-- The bytes of a text make up its characters and nothing broken. -/
@[simp]
theorem pieces_encodeChars (text : List Char) : pieces (encodeChars text) = text.map .char := by
  induction text with
  | nil => rfl
  | cons c rest ih =>
    rw [encodeChars, List.flatMap_cons, pieces, piecesFrom_encodeChar]
    exact congrArg _ ih

/-- The bytes of a text decode to the text. -/
@[simp] theorem decode_encodeChars (text : List Char) : decode (encodeChars text) = some text := by
  rw [decode, pieces_encodeChars, List.mapM_map]
  induction text with
  | nil => rfl
  | cons c rest ih => simp_all [Piece.char?]

/-- Nothing is lost from the bytes of a text. -/
@[simp] theorem lossy_encodeChars (text : List Char) : lossy (encodeChars text) = text := by
  simp [lossy, pieces_encodeChars, Piece.char?, Function.comp_def]

end LoadOrder.Utf8
