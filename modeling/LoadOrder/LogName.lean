/-
# Log names

The name of a log file may be a template: `%p` stands for the number of the process, `%t` for the
local time, `%%` for a percent sign. Any other percent sign stands for itself.

Main statement:
- `expandChars_of_not_mem`: a template without percent signs stands for itself.
-/
import LoadOrder.FilePath
import LoadOrder.Text.Decimal

namespace LoadOrder

/-- A local date and time, to the second. -/
structure LocalTime where
  year : Int
  month : Nat
  day : Nat
  hour : Nat
  minute : Nat
  second : Nat
  deriving DecidableEq, Repr, Inhabited

namespace LocalTime

/-- The layout of a time in a log name, in the usual letters. -/
def layout : String := "%Y-%m-%d_%H-%M-%S"

/-- A year has at least four digits, and a sign outside the years 0 to 9999. -/
def yearChars (year : Int) : List Char :=
  let digits := Decimal.padded 4 year.natAbs
  if year < 0 then '-' :: digits
  else if year ≤ 9999 then digits
  else '+' :: digits

/-- A time as it stands in a log name. -/
def stamp (time : LocalTime) : List Char :=
  yearChars time.year ++ ['-'] ++ Decimal.padded 2 time.month ++ ['-'] ++
    Decimal.padded 2 time.day ++ ['_'] ++ Decimal.padded 2 time.hour ++ ['-'] ++
    Decimal.padded 2 time.minute ++ ['-'] ++ Decimal.padded 2 time.second

/-- The date and time that lies a number of seconds after the start of 1970. A day is found by its
place in the era of 400 years and in the year that begins with March. -/
def ofSeconds (seconds : Nat) : LocalTime :=
  let days := seconds / 86400 + 719468
  let dayOfEra := days % 146097
  let yearOfEra :=
    (dayOfEra - dayOfEra / 1460 + dayOfEra / 36524 - dayOfEra / 146096) / 365
  let dayOfYear := dayOfEra - (365 * yearOfEra + yearOfEra / 4 - yearOfEra / 100)
  let monthFromMarch := (5 * dayOfYear + 2) / 153
  let month := if monthFromMarch < 10 then monthFromMarch + 3 else monthFromMarch - 9
  let year := yearOfEra + days / 146097 * 400 + if month ≤ 2 then 1 else 0
  { year, month
    day := dayOfYear - (153 * monthFromMarch + 2) / 5 + 1
    hour := seconds / 3600 % 24
    minute := seconds / 60 % 60
    second := seconds % 60 }

example : ofSeconds 951827696 = ⟨2000, 2, 29, 12, 34, 56⟩ := by decide

end LocalTime

/-- What a log name may mention: the process and the time. -/
structure Launch where
  pid : Nat
  time : LocalTime
  deriving DecidableEq, Repr, Inhabited

namespace LogName

/-- A template with its marks replaced. -/
def expandChars (launch : Launch) : List Char → List Char
  | [] => []
  | '%' :: 'p' :: rest => Nat.toDigits 10 launch.pid ++ expandChars launch rest
  | '%' :: 't' :: rest => launch.time.stamp ++ expandChars launch rest
  | '%' :: '%' :: rest => '%' :: expandChars launch rest
  | c :: rest => c :: expandChars launch rest

/-- A template without percent signs stands for itself. -/
theorem expandChars_of_not_mem (launch : Launch) {template : List Char} (h : '%' ∉ template) :
    expandChars launch template = template := by
  induction template with
  | nil => rfl
  | cons c rest ih =>
    have hc : c ≠ '%' := fun hc => h (by simp [hc])
    rw [expandChars, ih fun hr => h (List.mem_cons_of_mem c hr)]
    all_goals simp [hc]

/-- The path that a template stands for. A template without percent signs is kept byte for byte. -/
def expand (launch : Launch) (template : FilePath) : FilePath :=
  let text := Utf8.lossy template.bytes
  if '%' ∈ text then ⟨Utf8.encodeChars (expandChars launch text)⟩ else template

end LogName

end LoadOrder
