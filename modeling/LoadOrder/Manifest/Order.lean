/-
# The order of a manifest

Ids grow from entry to entry, and an entry refers only to entries before it.
-/
import LoadOrder.Entry
import LoadOrder.Error

namespace LoadOrder.Manifest

/-- How an entry breaks the order. -/
inductive OrderFault where
  /-- Its id is not above the id of the entry before it. -/
  | notAbove (name : String) (id previous : RecordId)
  /-- It refers to an id that no entry before it has. -/
  | unwritten (name : String) (id : RecordId)
  deriving DecidableEq, Repr, Inhabited

/-- The wording of a fault. -/
def OrderFault.text : OrderFault → String
  | notAbove name id previous => s!"{name} has id {id.toNat} after id {previous.toNat}"
  | unwritten name id => s!"{name} refers to id {id.toNat} before it was written"

/-- The fault of an entry after entries with the given ids, the last one first. -/
def orderFault (written : List RecordId) (entry : Entry) : Option OrderFault :=
  match written.head?.filter fun previous => entry.id ≤ previous with
  | some previous => some (.notAbove entry.name entry.id previous)
  | none => (entry.dependencies.find? (· ∉ written)).map (.unwritten entry.name)

/-- The first fault of a list of entries that are numbered from a given number on. -/
def checkOrderFrom (record : Nat) (written : List RecordId) : List Entry → Except Error Unit
  | [] => .ok ()
  | entry :: rest =>
    match orderFault written entry with
    | some fault => .error (.outOfOrder record fault.text)
    | none => checkOrderFrom (record + 1) (entry.id :: written) rest

/-- Accepts the entries of a manifest in order, and else names the first one out of order. -/
def checkOrder (entries : List Entry) : Except Error Unit :=
  checkOrderFrom 1 [] entries

end LoadOrder.Manifest
