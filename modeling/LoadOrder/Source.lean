/-
# Sources

The source of a type is the address of its file with the scheme cut off by a fixed number of bytes.
Where absolute paths begin with a drive letter the cut takes one byte more: `file:/C:/dir/app.jar`
becomes `C:/dir/app.jar`, and elsewhere `file:/dir/app.jar` becomes `/dir/app.jar`.

Main statements:
- `dropBytes_eq_some`: a cut leaves a text exactly when it falls between two characters;
- `strip_eq_none_iff`: which addresses cannot be cut.
-/
import LoadOrder.Text.Utf8

namespace LoadOrder

/-! ## Conventions for local files -/

/-- How the address of a local file spells an absolute path. -/
inductive PathStyle where
  | driveLetter
  | posix
  deriving DecidableEq, Repr, Inhabited

namespace PathStyle

/-- The convention of the host. -/
def host : PathStyle := .posix

/-- The name under which a convention is shown. -/
def text : PathStyle → String
  | .driveLetter => "drive-letter"
  | .posix => "posix"

end PathStyle

namespace Source

/-- The scheme that the address of a user-defined type must carry. -/
def fileScheme : String := "file:"

/-- The address that the generator of species types reports. -/
def speciesMarker : String := "_ClassSpecializer_generateConcreteSpeciesCode"

/-- How many bytes the cut takes. -/
def cutWidth : PathStyle → Nat
  | .driveLetter => 6
  | .posix => 5

/-! ## Cutting bytes off a text -/

/-- The text after its first `n` bytes, if they are there and end between two characters. -/
def dropBytes : Nat → List Char → Option (List Char)
  | 0, text => some text
  | _ + 1, [] => none
  | n + 1, c :: text => if c.utf8Size ≤ n + 1 then dropBytes (n + 1 - c.utf8Size) text else none

/-- A cut of `n` bytes leaves `rest` exactly when `rest` follows characters of `n` bytes. -/
theorem dropBytes_eq_some {n : Nat} {text rest : List Char} :
    dropBytes n text = some rest ↔
      ∃ front, text = front ++ rest ∧ (Utf8.encodeChars front).length = n := by
  induction text generalizing n with
  | nil =>
    cases n with
    | zero =>
      rw [dropBytes, Option.some.injEq]
      constructor
      · rintro rfl
        exact ⟨[], rfl, rfl⟩
      · rintro ⟨front, h, -⟩
        exact (List.append_eq_nil_iff.1 h.symm).2.symm
    | succ n =>
      rw [dropBytes]
      refine ⟨fun h => by simp at h, ?_⟩
      rintro ⟨front, h, hn⟩
      obtain ⟨rfl, -⟩ := List.append_eq_nil_iff.1 h.symm
      exact absurd hn (by simp [Utf8.encodeChars])
  | cons c text ih =>
    cases n with
    | zero =>
      rw [dropBytes, Option.some.injEq]
      constructor
      · rintro rfl
        exact ⟨[], rfl, rfl⟩
      · rintro ⟨front, h, hn⟩
        cases front with
        | nil => exact h
        | cons d front =>
          rw [Utf8.length_encodeChars_cons] at hn
          have := d.utf8Size_pos
          omega
    | succ n =>
      rw [dropBytes]
      constructor
      · intro h
        split at h
        · obtain ⟨front, rfl, hn⟩ := ih.1 h
          exact ⟨c :: front, rfl, by rw [Utf8.length_encodeChars_cons]; omega⟩
        · simp at h
      · rintro ⟨front, h, hn⟩
        cases front with
        | nil => simp [Utf8.encodeChars] at hn
        | cons d front =>
          obtain ⟨rfl, rfl⟩ := List.cons.inj h
          rw [Utf8.length_encodeChars_cons] at hn
          rw [if_pos (by omega), ih]
          exact ⟨front, rfl, by omega⟩

/-- The source that an address leaves after the cut, if the cut falls between two characters. -/
def strip (style : PathStyle) (address : String) : Option String :=
  (dropBytes (cutWidth style) address.toList).map String.ofList

/-- An address cannot be cut exactly if no characters at its beginning have the width of the cut. -/
theorem strip_eq_none_iff {style : PathStyle} {address : String} :
    strip style address = none ↔
      ∀ front back, address.toList = front ++ back →
        (Utf8.encodeChars front).length ≠ cutWidth style := by
  rw [strip, Option.map_eq_none_iff]
  constructor
  · intro hnone front back haddress hwidth
    rw [dropBytes_eq_some.2 ⟨front, haddress, hwidth⟩] at hnone
    simp at hnone
  · intro h
    cases hdrop : dropBytes (cutWidth style) address.toList with
    | none => rfl
    | some back =>
      obtain ⟨front, haddress, hwidth⟩ := dropBytes_eq_some.1 hdrop
      exact absurd hwidth (h front back haddress)

/-- An address with the file scheme. -/
def hasFileScheme (address : String) : Bool :=
  fileScheme.toList.isPrefixOf address.toList

/-- An address has the scheme exactly if it begins with it. -/
theorem hasFileScheme_iff {address : String} :
    hasFileScheme address = true ↔ fileScheme.toList <+: address.toList :=
  List.isPrefixOf_iff_prefix

/-- Where the cut takes the scheme alone, every address with the scheme can be cut. -/
theorem strip_posix_ne_none {address : String} (h : hasFileScheme address = true) :
    strip .posix address ≠ none := by
  obtain ⟨back, hback⟩ := hasFileScheme_iff.1 h
  rw [Ne, strip_eq_none_iff]
  intro hall
  exact hall fileScheme.toList back hback.symm (by decide +kernel)

example : strip .driveLetter "file:/C:/dir/app.jar" = some "C:/dir/app.jar" ∧
    strip .posix "file:/dir/app.jar" = some "/dir/app.jar" ∧ strip .posix "file:" = some "" ∧
    strip .driveLetter "file:" = none ∧ strip .driveLetter "file:édir" = none := by decide

end Source

end LoadOrder
