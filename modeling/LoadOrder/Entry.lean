/-
# Manifest entries

An entry is one record of a manifest, one line of the form

    name id: 12 super: 0 interfaces: 3 7 source: /dir/app.jar

in which the super id, the interface ids and the source are left out where there are none.
-/

namespace LoadOrder

/-- The number of a record in a manifest. -/
abbrev RecordId := UInt32

/-- One record of a manifest. -/
structure Entry where
  /-- The name of the type, written as it is. -/
  name : String
  id : RecordId
  superId : Option RecordId := none
  interfaces : List RecordId := []
  source : Option String := none
  deriving DecidableEq, Repr, Inhabited

namespace Entry

/-- The records that an entry refers to, the super type's first. -/
def dependencies (entry : Entry) : List RecordId :=
  entry.superId.toList ++ entry.interfaces

/-! ## The written form -/

/-- The word before the id. -/
def idWord : List Char := "id:".toList

/-- The word before the super id. -/
def superWord : List Char := "super:".toList

/-- The word before the interface ids. -/
def interfacesWord : List Char := "interfaces:".toList

/-- What separates the source from the words before it. -/
def sourceMark : List Char := " source: ".toList

/-- An id in decimal digits. -/
def idChars (id : RecordId) : List Char :=
  Nat.toDigits 10 id.toNat

/-- The words of an entry before its source. -/
def fieldWords (entry : Entry) : List (List Char) :=
  [entry.name.toList, idWord, idChars entry.id] ++
    (match entry.superId with
      | some id => [superWord, idChars id]
      | none => []) ++
    (match entry.interfaces with
      | [] => []
      | ids => interfacesWord :: ids.map idChars)

/-- The line of an entry. -/
def lineChars (entry : Entry) : List Char :=
  [' '].intercalate entry.fieldWords ++
    (match entry.source with
      | some source => sourceMark ++ source.toList
      | none => [])

/-- The line of an entry, without its ending. -/
def line (entry : Entry) : String :=
  String.ofList entry.lineChars

example :
    line { name := "app/Main", id := 12, superId := some 0, interfaces := [3, 7],
           source := some "/dir/app.jar" } =
      "app/Main id: 12 super: 0 interfaces: 3 7 source: /dir/app.jar" := by
  decide +kernel

end Entry

end LoadOrder
