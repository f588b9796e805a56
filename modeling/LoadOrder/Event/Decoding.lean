/-
# Events in JSON

A record is an object with its fields by name, or an array with its fields in order. Fields with a
default may be left out, in an array at the end only. An object may have fields of other names, but
none of its own twice; an array has no further items. An event is a record whose first field,
`event`, tells the kind, and all of its text must be strict.
-/
import LoadOrder.Event
import LoadOrder.Json.Parser
import LoadOrder.Json.Strict
import LoadOrder.Source

namespace LoadOrder.Json

/-! ## Records -/

/-- The members of an object whose keys are all texts of characters. -/
def namedMembers (members : List (Option (List Char) × Json)) :
    Option (List (List Char × Json)) :=
  members.mapM fun (key, value) => key.map (·, value)

/-- The value of a field that may be absent but must not stand twice. -/
def field (members : List (List Char × Json)) (name : String) : Option (Option Json) :=
  match members.filter (·.1 = name.toList) with
  | [] => some none
  | [(_, value)] => some (some value)
  | _ => none

/-- The values of the named fields of a record, in the order of the names. -/
def fields (names : List String) : Json → Option (List (Option Json))
  | .object members => (namedMembers members).bind fun members => names.mapM (field members)
  | .array items =>
    if items.length ≤ names.length then
      some (items.map some ++ List.replicate (names.length - items.length) none)
    else none
  | _ => none

/-- A field with a default for its absence. -/
def fieldOr {α : Type} (default : α) (decode : Json → Option α) : Option Json → Option α
  | none => some default
  | some value => decode value

/-! ## Simple values -/

/-- A truth value. -/
def bool? : Json → Option Bool
  | .bool value => some value
  | _ => none

/-- A text of characters. -/
def string? : Json → Option String
  | .text (some chars) => some (String.ofList chars)
  | _ => none

/-- A value that may be null. -/
def orNull {α : Type} (decode : Json → Option α) : Json → Option (Option α)
  | .null => some none
  | value => (decode value).map some

/-- An array whose items all have a meaning. -/
def list? {α : Type} (decode : Json → Option α) : Json → Option (List α)
  | .array items => items.mapM decode
  | _ => none

/-- The greatest identity. -/
def maxIdentity : Nat := 0xFFFFFFFFFFFFFFFF

/-- An identity is a number without sign, point or exponent. -/
def identity? : Json → Option TypeIdentity
  | .number numeral => (numeral.toNat? maxIdentity).map fun n => ⟨UInt64.ofNat n⟩
  | _ => none

/-- How the absence of content may be written: as null, and inside an event also as an empty
object. -/
inductive Setting where
  | alone
  | inEvent
  deriving DecidableEq, Repr, Inhabited

/-- Whether a value has no content. -/
def isVoid (setting : Setting) : Json → Bool
  | .null => true
  | .object [] => setting = .inEvent
  | _ => false

/-- The name of a choice: a text, or an object whose only key it is and whose value is void. -/
def choice? (setting : Setting) : Json → Option (List Char)
  | .text chars => chars
  | .object [(key, value)] => if isVoid setting value then key else none
  | _ => none

/-- A loader by its name. -/
def loader? (setting : Setting) (value : Json) : Option Loader := do
  let name ← choice? setting value
  if name = "builtin".toList then some .builtin
  else if name = "user_defined".toList then some .userDefined
  else none

/-- A convention by its name. -/
def pathStyle? (setting : Setting) (value : Json) : Option PathStyle := do
  let name ← choice? setting value
  if name = "drive_letter".toList then some .driveLetter
  else if name = "posix".toList then some .posix
  else none

/-! ## Types and origins -/

/-- The fields of the flags, in order. -/
def flagsFields : List String := ["is_hidden", "is_from_prior_archive", "belongs_to_patched_module"]

/-- Flags. Each is false if it is left out. -/
def flags? (value : Json) : Option TypeFlags := do
  match ← fields flagsFields value with
  | [hidden, fromPriorArchive, inPatchedModule] =>
    some {
      hidden := ← fieldOr false bool? hidden
      fromPriorArchive := ← fieldOr false bool? fromPriorArchive
      inPatchedModule := ← fieldOr false bool? inPatchedModule }
  | _ => none

/-- The fields of a type, in order. -/
def typeFields : List String :=
  ["identity", "name", "loader", "super_type", "interfaces", "flags"]

/-- A type. Identity, name and loader must be there. -/
def loadedType? (setting : Setting) (value : Json) : Option LoadedType := do
  match ← fields typeFields value with
  | [some identity, some name, some loader, superType, interfaces, flags] =>
    some {
      identity := ← identity? identity
      name := ← string? name
      loader := ← loader? setting loader
      superType := ← fieldOr none (orNull identity?) superType
      interfaces := ← fieldOr [] (list? identity?) interfaces
      flags := ← fieldOr {} flags? flags }
  | _ => none

/-- The field of an origin. -/
def originFields : List String := ["source"]

/-- An origin. Its source may be null or left out. -/
def origin? (value : Json) : Option Origin := do
  match ← fields originFields value with
  | [source] => some { source := ← fieldOr none (orNull string?) source }
  | _ => none

/-! ## Events -/

/-- The greatest depth of arrays and objects in an event. -/
def maxDepth : Nat := 127

/-- The kind of an event and the record of its other fields. -/
def tagged? : Json → Option (String × Json)
  | .object members => do
    let named ← namedMembers members
    let kind ← (← field named "event").bind string?
    some (kind, .object (members.filter (·.1 ≠ some "event".toList)))
  | .array (kind :: items) => do some (← string? kind, .array items)
  | _ => none

/-- The fields of a load, in order. -/
def loadFields : List String := ["type", "origin"]

/-- The field of an unload. -/
def unloadFields : List String := ["identity"]

/-- An event: a strict value with a known kind and the fields of that kind. -/
def event? (value : Json) : Option Event := do
  if ! value.isStrict maxDepth then none
  else
    let (kind, record) ← tagged? value
    if kind = "load" then
      match ← fields loadFields record with
      | [some type, origin] =>
        some (.load (← loadedType? .inEvent type) (← fieldOr none (orNull origin?) origin))
      | _ => none
    else if kind = "unload" then
      match ← fields unloadFields record with
      | [some identity] => some (.unload (← identity? identity))
      | _ => none
    else none

end LoadOrder.Json

namespace LoadOrder.Event

/-- The event that a line of a recorded stream spells. -/
def ofChars (line : List Char) : Option Event :=
  (Json.read line).bind Json.event?

end LoadOrder.Event
