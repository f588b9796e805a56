/-
# Texts of a JSON value

The words of a value are its brackets, keys, colons and commas with the words of what it contains in
between. The stack of open arrays and objects takes them back to the value, and so any spelling of
the words is read as the value.

Main statements:
- `Parser.foldlM_tokensOf`: the words of a value are read as the value, whatever is open around it;
- `isChain_tokensOf`: the words of a value can stand next to each other;
- `read_of_spells`: every text of a value is read as the value.
-/
import LoadOrder.Json.Parser
import LoadOrder.Proofs.Json.Spelling

namespace LoadOrder.Json

/-! ## The words of a value -/

mutual

/-- The words of a value. -/
def tokensOf : Json → List Token
  | .null => [.null]
  | .bool value => [.bool value]
  | .number numeral => [.number numeral]
  | .text chars => [.text chars]
  | .array items => .openArray :: (tokensOfItems items ++ [.closeArray])
  | .object members => .openObject :: (tokensOfMembers members ++ [.closeObject])

/-- The words of the items of an array. -/
def tokensOfItems : List Json → List Token
  | [] => []
  | [item] => tokensOf item
  | item :: next :: rest => tokensOf item ++ .comma :: tokensOfItems (next :: rest)

/-- The words of the members of an object. -/
def tokensOfMembers : List (Option (List Char) × Json) → List Token
  | [] => []
  | [(key, value)] => .text key :: .colon :: tokensOf value
  | (key, value) :: next :: rest =>
    .text key :: .colon :: (tokensOf value ++ .comma :: tokensOfMembers (next :: rest))

end

/-- The texts of a value: its words, spelled in any way. -/
def Spells (value : Json) (text : List Char) : Prop :=
  SpellsTokens (tokensOf value) text

/-! ## From words to values -/

namespace Parser

/-- At the place for the first item of an array, a value is read as at the place for any other. -/
theorem exists_tokensOf_eq_cons (value : Json) :
    ∃ first rest, tokensOf value = first :: rest ∧
      ∀ stack, step (.firstItem stack) first = step (.value (.array [] :: stack)) first := by
  cases value with
  | null | bool | number | text | array | object =>
    exact ⟨_, _, by rw [tokensOf], fun stack => rfl⟩

/-- The items of an array begin with the words of the first one. -/
theorem exists_tokensOfItems_eq_append (item : Json) (rest : List Json) :
    ∃ words, tokensOfItems (item :: rest) = tokensOf item ++ words := by
  cases rest with
  | nil => exact ⟨[], by rw [tokensOfItems, List.append_nil]⟩
  | cons next rest => exact ⟨_, by rw [tokensOfItems]⟩

/-- At the place for the first item of an array, items are read as at the place for any other. -/
theorem foldlM_firstItem (item : Json) (items : List Json) (stack : List Frame)
    (rest : List Token) :
    (tokensOfItems (item :: items) ++ rest).foldlM step (.firstItem stack) =
      (tokensOfItems (item :: items) ++ rest).foldlM step (.value (.array [] :: stack)) := by
  obtain ⟨words, hwords⟩ := exists_tokensOfItems_eq_append item items
  obtain ⟨first, others, hfirst, hstep⟩ := exists_tokensOf_eq_cons item
  rw [hwords, hfirst, List.cons_append, List.cons_append, List.foldlM_cons, List.foldlM_cons, hstep]

/-- At the place for the first key of an object, members are read as at the place for any other. -/
theorem foldlM_firstKey (member : Option (List Char) × Json)
    (members : List (Option (List Char) × Json)) (stack : List Frame) (rest : List Token) :
    (tokensOfMembers (member :: members) ++ rest).foldlM step (.firstKey stack) =
      (tokensOfMembers (member :: members) ++ rest).foldlM step (.key [] stack) := by
  cases members with
  | nil | cons => rw [tokensOfMembers]; rfl

mutual

/-- The words of a value are read as the value. -/
theorem foldlM_tokensOf (value : Json) (stack : List Frame) (rest : List Token) :
    (tokensOf value ++ rest).foldlM step (.value stack) =
      rest.foldlM step (.after value stack) := by
  match value with
  | .null | .bool value | .number numeral | .text chars => rw [tokensOf]; rfl
  | .array [] => rw [tokensOf, tokensOfItems]; rfl
  | .array (item :: items) =>
    calc (tokensOf (.array (item :: items)) ++ rest).foldlM step (.value stack)
        = (tokensOfItems (item :: items) ++ .closeArray :: rest).foldlM step
            (.firstItem stack) := by
          rw [tokensOf, List.cons_append, List.append_assoc]
          rfl
      _ = rest.foldlM step (.after (.array (item :: items)) stack) := by
          rw [foldlM_firstItem]
          exact foldlM_tokensOfItems item items [] stack rest
  | .object [] => rw [tokensOf, tokensOfMembers]; rfl
  | .object (member :: members) =>
    calc (tokensOf (.object (member :: members)) ++ rest).foldlM step (.value stack)
        = (tokensOfMembers (member :: members) ++ .closeObject :: rest).foldlM step
            (.firstKey stack) := by
          rw [tokensOf, List.cons_append, List.append_assoc]
          rfl
      _ = rest.foldlM step (.after (.object (member :: members)) stack) := by
          rw [foldlM_firstKey]
          exact foldlM_tokensOfMembers member members [] stack rest
termination_by sizeOf value

/-- The words of items are read as the items after those before them. -/
theorem foldlM_tokensOfItems (item : Json) (items done : List Json) (stack : List Frame)
    (rest : List Token) :
    (tokensOfItems (item :: items) ++ .closeArray :: rest).foldlM step
        (.value (.array done :: stack)) =
      rest.foldlM step (.after (.array (done.reverse ++ item :: items)) stack) := by
  match items with
  | [] =>
    rw [tokensOfItems, foldlM_tokensOf item]
    simp only [List.foldlM_cons, step, stepAfter, Option.bind_eq_bind, Option.bind_some,
      List.reverse_cons]
  | next :: items =>
    rw [tokensOfItems, List.append_assoc, foldlM_tokensOf item]
    have hnext := foldlM_tokensOfItems next items (item :: done) stack rest
    rw [List.reverse_cons, List.append_assoc] at hnext
    exact hnext
termination_by sizeOf (item :: items)

/-- The words of members are read as the members after those before them. -/
theorem foldlM_tokensOfMembers (member : Option (List Char) × Json)
    (members done : List (Option (List Char) × Json)) (stack : List Frame) (rest : List Token) :
    (tokensOfMembers (member :: members) ++ .closeObject :: rest).foldlM step (.key done stack) =
      rest.foldlM step (.after (.object (done.reverse ++ member :: members)) stack) := by
  match member, members with
  | (key, value), [] =>
    rw [tokensOfMembers]
    have hvalue := foldlM_tokensOf value (.object done key :: stack) (.closeObject :: rest)
    simp only [List.cons_append, List.foldlM_cons, step, Option.bind_eq_bind, Option.bind_some]
    rw [hvalue]
    simp only [List.foldlM_cons, step, stepAfter, Option.bind_eq_bind, Option.bind_some,
      List.reverse_cons]
  | (key, value), next :: members =>
    rw [tokensOfMembers]
    have hvalue := foldlM_tokensOf value (.object done key :: stack)
      (.comma :: (tokensOfMembers (next :: members) ++ .closeObject :: rest))
    have hnext := foldlM_tokensOfMembers next members ((key, value) :: done) stack rest
    simp only [List.cons_append, List.append_assoc, List.foldlM_cons, step, Option.bind_eq_bind,
      Option.bind_some]
    rw [hvalue]
    rw [List.reverse_cons, List.append_assoc] at hnext
    exact hnext
termination_by sizeOf (member :: members)

end

end Parser

/-- The words of a value make up the value. -/
theorem ofTokens_tokensOf (value : Json) : ofTokens (tokensOf value) = some value := by
  have hread := Parser.foldlM_tokensOf value [] []
  rw [List.append_nil] at hread
  rw [ofTokens, hread]
  rfl

/-! ## Words that stand next to each other -/

/-- A word that is not open can stand before any other. -/
theorem isChain_cons_of_closed {token : Token} (hclosed : token.isOpen = false)
    {rest : List Token} (hrest : rest.IsChain Apart) : (token :: rest).IsChain Apart := by
  cases hrest with
  | nil => exact .singleton token
  | singleton next => exact .cons_cons (fun hopen => by simp [hclosed] at hopen) (.singleton next)
  | cons_cons hfirst hrest =>
    exact .cons_cons (fun hopen => by simp [hclosed] at hopen) (.cons_cons hfirst hrest)

/-- A word that is not open can stand after any other. -/
theorem isChain_append_of_closed {words rest : List Token} {token : Token}
    (hwords : words.IsChain Apart) (hclosed : token.isOpen = false)
    (hrest : rest.IsChain Apart) : (words ++ token :: rest).IsChain Apart := by
  refine List.isChain_append.2 ⟨hwords, isChain_cons_of_closed hclosed hrest, ?_⟩
  intro last _ next hnext _
  rw [List.head?_cons, Option.mem_def, Option.some.injEq] at hnext
  rw [← hnext, hclosed]

mutual

/-- The words of a value can stand next to each other. -/
theorem isChain_tokensOf (value : Json) : (tokensOf value).IsChain Apart := by
  match value with
  | .null | .bool value | .number numeral | .text chars => rw [tokensOf]; exact .singleton _
  | .array items =>
    rw [tokensOf]
    exact isChain_cons_of_closed rfl (isChain_append_of_closed (isChain_tokensOfItems items) rfl .nil)
  | .object members =>
    rw [tokensOf]
    exact isChain_cons_of_closed rfl
      (isChain_append_of_closed (isChain_tokensOfMembers members) rfl .nil)

/-- The words of items can stand next to each other. -/
theorem isChain_tokensOfItems (items : List Json) : (tokensOfItems items).IsChain Apart := by
  match items with
  | [] => rw [tokensOfItems]; exact .nil
  | [item] => rw [tokensOfItems]; exact isChain_tokensOf item
  | item :: next :: rest =>
    rw [tokensOfItems]
    exact isChain_append_of_closed (isChain_tokensOf item) rfl (isChain_tokensOfItems (next :: rest))

/-- The words of members can stand next to each other. -/
theorem isChain_tokensOfMembers (members : List (Option (List Char) × Json)) :
    (tokensOfMembers members).IsChain Apart := by
  match members with
  | [] => rw [tokensOfMembers]; exact .nil
  | [(key, value)] =>
    rw [tokensOfMembers]
    exact isChain_cons_of_closed rfl (isChain_cons_of_closed rfl (isChain_tokensOf value))
  | (key, value) :: next :: rest =>
    rw [tokensOfMembers]
    exact isChain_cons_of_closed rfl (isChain_cons_of_closed rfl (isChain_append_of_closed
      (isChain_tokensOf value) rfl (isChain_tokensOfMembers (next :: rest))))

end

/-- **Values are read back.** From any text of a value, this value is read. -/
theorem read_of_spells {value : Json} {text : List Char} (h : value.Spells text) :
    read text = some value := by
  rw [read, tokens_of_spellsTokens h (isChain_tokensOf value), Option.bind_some,
    ofTokens_tokensOf]

end LoadOrder.Json
