/-
# Quoted text

Bytes between double quotes in a form that shows every character apart: quotes and backslashes are
marked, line ends and tabs have names, other characters without a shape of their own and characters
that would melt into the one before them are given by number, and so is every byte that belongs to
no character.
-/
import LoadOrder.Text.Extending
import LoadOrder.Text.Unprintable
import LoadOrder.Text.Utf8

namespace LoadOrder.Quoted

/-- The quoted form of a character. -/
def char (c : Char) : List Char :=
  if c = '"' ∨ c = '\\' then ['\\', c]
  else if c = '\x00' then ['\\', '0']
  else if c = '\t' then ['\\', 't']
  else if c = '\n' then ['\\', 'n']
  else if c = '\r' then ['\\', 'r']
  else if Text.isUnprintable c || Text.isExtending c then
    ['\\', 'u', '\x7b'] ++ Nat.toDigits 16 c.toNat ++ ['\x7d']
  else [c]

/-- The quoted form of a byte that belongs to no character. -/
def byte (b : UInt8) : List Char :=
  ['\\', 'x'] ++ ((Nat.toDigits 16 b.toNat).map Char.toUpper).leftpad 2 '0'

/-- The quoted form of a piece of text. -/
def piece : Utf8.Piece → List Char
  | .char c => char c
  | .broken bytes => bytes.flatMap byte

/-- The quoted form of a run of bytes. -/
def text (bytes : List UInt8) : String :=
  String.ofList ('"' :: (Utf8.pieces bytes).flatMap piece ++ ['"'])

example : text (Utf8.encode "a\"é\u0301\n'\u200b") = "\"a\\\"é\\u\x7b301\x7d\\n'\\u\x7b200b\x7d\"" := by
  decide +kernel

end LoadOrder.Quoted
