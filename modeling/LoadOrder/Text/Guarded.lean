/-
# Guarded text

A terminal takes some control characters for commands: bell, backspace, form feed, escape and
delete, and the control characters from U+0080 to U+009F. A guarded text shows these by number and
every other character as it is.

Main statements:
- `guarded_of_not_isCommand`: a text without commands stays as it is;
- `not_isCommand_of_mem_guarded`: a guarded text has no commands.
-/

namespace LoadOrder.Text

/-- A control character that a terminal takes for a command. -/
def isCommand (c : Char) : Bool :=
  c.toNat ∈ [0x07, 0x08, 0x0C, 0x1B, 0x7F] || (0x80 ≤ c.toNat && c.toNat ≤ 0x9F)

/-- A character as a guarded text shows it. -/
def guardedChar (c : Char) : List Char :=
  if ! isCommand c then [c]
  else if c.toNat < 0x80 then ['\\', 'x'] ++ (Nat.toDigits 16 c.toNat).leftpad 2 '0'
  else ['\\', 'u', '\x7b'] ++ Nat.toDigits 16 c.toNat ++ ['\x7d']

/-- A text with its commands shown by number. -/
def guarded (text : List Char) : List Char :=
  text.flatMap guardedChar

example :
    guarded ['a', '\x1b', '[', '\x07', '\u009b', '\n'] =
      "a\\x1b[\\x07\\u\x7b9b\x7d\n".toList := by
  decide

/-- A text without commands stays as it is. -/
theorem guarded_of_not_isCommand {text : List Char} (h : ∀ c ∈ text, isCommand c = false) :
    guarded text = text := by
  induction text with
  | nil => rfl
  | cons c rest ih =>
    have hc : guardedChar c = [c] := by simp [guardedChar, h c List.mem_cons_self]
    rw [guarded, List.flatMap_cons, hc]
    exact congrArg (c :: ·) (ih fun d hd => h d (List.mem_cons_of_mem c hd))

/-- What stands for a command is none: there are few enough commands to look at each. -/
private theorem not_isCommand_of_code :
    (List.range 0xA0).all fun n =>
      (guardedChar (Char.ofNat n)).all fun d => ! isCommand d := by
  decide +kernel

/-- A guarded text has no commands. -/
theorem not_isCommand_of_mem_guarded {text : List Char} {d : Char} (h : d ∈ guarded text) :
    isCommand d = false := by
  obtain ⟨c, -, hd⟩ := List.mem_flatMap.1 h
  by_cases hc : isCommand c = true
  · -- a command has a small number
    have hn : c.toNat < 0xA0 := by
      simp only [isCommand, Bool.or_eq_true, decide_eq_true_eq, Bool.and_eq_true, List.mem_cons,
        List.not_mem_nil, or_false] at hc
      omega
    have h := List.all_eq_true.1 not_isCommand_of_code c.toNat (List.mem_range.2 hn)
    rw [Char.ofNat_toNat] at h
    simpa using List.all_eq_true.1 h d hd
  · -- any other character stands for itself
    rw [guardedChar, if_pos (by simpa using hc), List.mem_singleton] at hd
    simpa [hd] using hc

end LoadOrder.Text
