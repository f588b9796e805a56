/-
# Records and their fields

A record is written as an object with its fields in any order. A field with a default may be left out
where it has its default. For each kind of value there is a relation between what is meant and what is
written; a decoder keeps to it if it takes everything that is written to what is meant by it.

Main statements:
- `fields_of_writtenRecord`: the fields of a record are found, in whatever order they stand;
- `tagged?_of_writtenRecord`: so is the kind of an event, and its other fields are a record;
- `decodes_identity`: identities are numbers that double width can hold.
-/
import LoadOrder.Event.Decoding
import Mathlib.Data.List.Forall2

namespace LoadOrder.Json

/-! ## What is written -/

/-- The fields that are written: those that are not left out. -/
def writtenFields (fields : List (String × Option Json)) : List (String × Json) :=
  fields.filterMap fun field => field.2.map (field.1, ·)

/-- The object with some members. -/
def objectOf (members : List (String × Json)) : Json :=
  .object (members.map fun member => (some member.1.toList, member.2))

/-- A record is an object with its fields in any order. -/
def WrittenRecord (fields : List (String × Option Json)) (value : Json) : Prop :=
  ∃ members, members.Perm (writtenFields fields) ∧ value = objectOf members

variable {α : Type}

/-- What has the default may be left out. -/
def WrittenOrOmitted (default : α) (written : α → Json → Prop) (a : α) (field : Option Json) :
    Prop :=
  field = none ∧ a = default ∨ ∃ value, field = some value ∧ written a value

/-- What is absent is written as null. -/
def WrittenOrNull (written : α → Json → Prop) : Option α → Json → Prop
  | none, value => value = .null
  | some a, value => written a value

/-- A list is written as an array of its items. -/
def WrittenList (written : α → Json → Prop) (as : List α) (value : Json) : Prop :=
  ∃ items, value = .array items ∧ List.Forall₂ written as items

/-- A truth value. -/
def WrittenBool (b : Bool) (value : Json) : Prop :=
  value = .bool b

/-- A text of characters. -/
def WrittenString (s : String) (value : Json) : Prop :=
  value = .text (some s.toList)

/-- An identity is a natural number. -/
def WrittenIdentity (identity : TypeIdentity) (value : Json) : Prop :=
  value = .number { whole := Nat.toDigits 10 identity.value.toNat }

/-- What is written has arrays and objects to some depth at most and is taken by a decoder to what is
meant by it. -/
structure Decodes (depth : Nat) (written : α → Json → Prop) (decode : Json → Option α) : Prop where
  decode_eq {a : α} {value : Json} (h : written a value) : decode value = some a
  isStrict {a : α} {value : Json} {limit : Nat} (h : written a value) (hlimit : depth ≤ limit) :
    value.isStrict limit = true

/-! ## Simple values -/

/-- Truth values are decoded. -/
theorem decodes_bool : Decodes 0 WrittenBool bool? where
  decode_eq := by rintro b _ rfl; rfl
  isStrict := by rintro b _ limit rfl _; simp [Json.isStrict]

/-- Texts of characters are decoded. -/
theorem decodes_string : Decodes 0 WrittenString string? where
  decode_eq := by rintro s _ rfl; simp [string?]
  isStrict := by rintro s _ limit rfl _; simp [Json.isStrict]

/-- Rounding to 53 bits adds to a number of 64 bits less than 12 bits can hold. -/
theorem roundTo53_le {n : Nat} (h : n ≤ Numeral.maxSignificand) :
    Numeral.roundTo53 n ≤ n + 2048 := by
  have hlog : n.log2 < 64 := by
    cases n with
    | zero => decide
    | succ n =>
      refine (Nat.log2_lt (Nat.succ_ne_zero n)).2 (Nat.lt_of_le_of_lt h ?_)
      decide
  have hunit : Nat.pow 2 (n.log2 + 1 - 53) ≤ 2048 := by
    calc Nat.pow 2 (n.log2 + 1 - 53) ≤ Nat.pow 2 11 := Nat.pow_le_pow_right (by decide) (by omega)
      _ = 2048 := by decide
  have hquotient : n / Nat.pow 2 (n.log2 + 1 - 53) * Nat.pow 2 (n.log2 + 1 - 53) ≤ n :=
    Nat.div_mul_le_self n _
  simp only [Numeral.roundTo53]
  split
  · rw [Nat.succ_mul]
    exact Nat.add_le_add hquotient hunit
  · exact Nat.le_trans hquotient (Nat.le_add_right n 2048)

/-- Digits after a number do not make it smaller. -/
theorem le_ofDigitChars (digits : List Char) (n : Nat) : n ≤ Nat.ofDigitChars 10 digits n := by
  rw [Nat.ofDigitChars_eq_ofDigitChars_zero]
  calc n ≤ 10 ^ digits.length * n := Nat.le_mul_of_pos_left n (Nat.pow_pos (by decide))
    _ ≤ 10 ^ digits.length * n + Nat.ofDigitChars 10 digits 0 := Nat.le_add_right _ _

/-- Digits are taken up while the number that they spell fits. -/
theorem absorb_eq (digits : List Char) :
    ∀ n, Nat.ofDigitChars 10 digits n ≤ Numeral.maxSignificand →
      Numeral.absorb n digits = (Nat.ofDigitChars 10 digits n, 0) := by
  induction digits with
  | nil => intro n _; rfl
  | cons c rest ih =>
    intro n h
    rw [Nat.ofDigitChars_cons, Nat.mul_comm] at h ⊢
    have hnext : n * 10 + (c.toNat - '0'.toNat) ≤ Numeral.maxSignificand :=
      Nat.le_trans (le_ofDigitChars rest _) h
    rw [Numeral.absorb, if_pos hnext]
    exact ih _ h

/-- A natural number of 64 bits fits double width. -/
theorem fitsDouble_toDigits {n : Nat} (h : n ≤ Numeral.maxSignificand) :
    Numeral.fitsDouble { whole := Nat.toDigits 10 n } = true := by
  have hvalue : Nat.ofDigitChars 10 (Nat.toDigits 10 n) 0 = n :=
    Nat.ofDigitChars_toDigits (by decide) (by decide)
  have habsorb : Numeral.absorb 0 (Nat.toDigits 10 n) = (n, 0) := by
    rw [absorb_eq _ 0 (by rwa [hvalue]), hvalue]
  have hbound : Numeral.maxSignificand + 2048 < Numeral.overflowBound := by decide +kernel
  have hpower : Numeral.roundTo53 (Nat.pow 10 (0 : Int).toNat) = 1 := by decide
  have hround : Numeral.roundTo53 n < Numeral.overflowBound :=
    Nat.lt_of_le_of_lt (Nat.le_trans (roundTo53_le h) (Nat.add_le_add_right h 2048)) hbound
  have hfits : Numeral.overflows n 0 = false := by
    rw [Numeral.overflows, hpower, Nat.mul_one, decide_eq_false (Nat.not_le.2 hround)]
    simp [Numeral.maxPower]
  simp [Numeral.fitsDouble, habsorb, Numeral.absorb, hfits]

/-- Identities have 64 bits. -/
theorem toNat_le_maxIdentity (identity : TypeIdentity) : identity.value.toNat ≤ maxIdentity :=
  Nat.le_of_lt_succ identity.value.toNat_lt

/-- Identities are decoded. -/
theorem decodes_identity : Decodes 0 WrittenIdentity identity? where
  decode_eq := by
    rintro identity _ rfl
    have hvalue : Nat.ofDigitChars 10 (Nat.toDigits 10 identity.value.toNat) 0 =
        identity.value.toNat := Nat.ofDigitChars_toDigits (by decide) (by decide)
    simp [identity?, Numeral.toNat?, hvalue, toNat_le_maxIdentity]
  isStrict := by
    rintro identity _ limit rfl _
    rw [Json.isStrict, fitsDouble_toDigits (toNat_le_maxIdentity identity)]

/-! ## Composite values -/

section Composite

variable {depth : Nat} {written : α → Json → Prop} {decode : Json → Option α}

/-- What may be absent is decoded if null stands for nothing else. -/
theorem Decodes.orNull (h : Decodes depth written decode) (hnull : ∀ a, ¬ written a .null) :
    Decodes depth (WrittenOrNull written) (orNull decode) where
  decode_eq := by
    intro a value hwritten
    cases a with
    | none => rw [show value = .null from hwritten]; rfl
    | some a =>
      have hvalue : written a value := hwritten
      have hne : value ≠ .null := by
        rintro rfl
        exact hnull a hvalue
      rw [Json.orNull, h.decode_eq hvalue]
      · rfl
      · exact hne
  isStrict := by
    intro a value limit hwritten hlimit
    cases a with
    | none => rw [show value = .null from hwritten]; simp [Json.isStrict]
    | some a => exact h.isStrict hwritten hlimit

/-- Lists are decoded if their items are. -/
theorem Decodes.list (h : Decodes depth written decode) :
    Decodes (depth + 1) (WrittenList written) (list? decode) where
  decode_eq := by
    rintro as _ ⟨items, rfl, hitems⟩
    rw [list?]
    induction hitems with
    | nil => rfl
    | cons hitem hitems ih => simp [List.mapM_cons, h.decode_eq hitem, ih]
  isStrict := by
    rintro as _ limit ⟨items, rfl, hitems⟩ hlimit
    obtain ⟨limit, rfl⟩ : ∃ smaller, limit = smaller + 1 := ⟨limit - 1, by omega⟩
    rw [Json.isStrict, List.all_eq_true]
    induction hitems with
    | nil => simp
    | cons hitem hitems ih =>
      rw [List.forall_mem_cons]
      exact ⟨h.isStrict hitem (by omega), ih⟩

/-- A field with a default is decoded, whether it is left out or not. -/
theorem Decodes.fieldOr (h : Decodes depth written decode) {default a : α} {field : Option Json}
    (hfield : WrittenOrOmitted default written a field) :
    fieldOr default decode field = some a := by
  obtain ⟨rfl, rfl⟩ | ⟨value, rfl, hvalue⟩ := hfield
  · rfl
  · exact h.decode_eq hvalue

/-- A field with a default is strict if it is not left out. -/
theorem Decodes.isStrict_field (h : Decodes depth written decode) {default a : α}
    {field : Option Json} (hfield : WrittenOrOmitted default written a field) {limit : Nat}
    (hlimit : depth ≤ limit) : ∀ value ∈ field, value.isStrict limit = true := by
  obtain ⟨rfl, -⟩ | ⟨value, rfl, hvalue⟩ := hfield
  · simp
  · intro other hother
    rw [← Option.some.inj hother]
    exact h.isStrict hvalue hlimit

/-- A field that is not left out. -/
theorem WrittenOrOmitted.of_written {default a : α} {value : Json} (h : written a value) :
    WrittenOrOmitted default written a (some value) :=
  .inr ⟨value, rfl, h⟩

/-- What may be absent is written as null or as what it is. -/
theorem writtenOrNull_elim {json : α → Json} (h : ∀ a, written a (json a)) (option : Option α) :
    WrittenOrNull written option (option.elim .null json) := by
  cases option with
  | none => rfl
  | some a => exact h a

end Composite

/-! ## Records -/

section Records

variable {fields : List (String × Option Json)} {members : List (String × Json)} {value : Json}

/-- A list whose items all have a value. -/
theorem mapM_eq_some_map {β γ : Type} {f : β → Option γ} {g : β → γ} {items : List β}
    (h : ∀ item ∈ items, f item = some (g item)) : items.mapM f = some (items.map g) := by
  induction items with
  | nil => rfl
  | cons item rest ih =>
    rw [List.forall_mem_cons] at h
    simp [List.mapM_cons, h.1, ih h.2]

/-- The keys of an object of named members are texts of characters. -/
theorem namedMembers_objectOf (members : List (String × Json)) :
    namedMembers (members.map fun member => (some member.1.toList, member.2)) =
      some (members.map fun member => (member.1.toList, member.2)) := by
  rw [namedMembers, List.mapM_map]
  exact mapM_eq_some_map fun member _ => rfl

/-- The fields that are written of a first field and others. -/
theorem writtenFields_cons (name : String) (field : Option Json)
    (rest : List (String × Option Json)) :
    writtenFields ((name, field) :: rest) = field.toList.map (name, ·) ++ writtenFields rest := by
  cases field <;> rfl

/-- A written field. -/
theorem mem_writtenFields_iff {name : String} {value : Json} :
    (name, value) ∈ writtenFields fields ↔ (name, some value) ∈ fields := by
  simp only [writtenFields, List.mem_filterMap, Option.map_eq_some_iff, Prod.mk.injEq]
  constructor
  · rintro ⟨⟨other, _⟩, hmem, _, rfl, rfl, rfl⟩
    exact hmem
  · intro hmem
    exact ⟨_, hmem, value, rfl, rfl, rfl⟩

/-- Among fields of different names, those of one name are that field, unless it is left out. -/
theorem filter_writtenFields (hnodup : (fields.map Prod.fst).Nodup) {name : String}
    {field : Option Json} (hmem : (name, field) ∈ fields) :
    (writtenFields fields).filter (·.1 = name) = field.toList.map (name, ·) := by
  induction fields with
  | nil => simp at hmem
  | cons first rest ih =>
    obtain ⟨other, otherField⟩ := first
    rw [List.map_cons, List.nodup_cons] at hnodup
    obtain ⟨hnew, hnodup⟩ := hnodup
    rw [writtenFields_cons, List.filter_append]
    rcases List.mem_cons.1 hmem with heq | hmem
    · -- no field after the first one has its name
      obtain ⟨rfl, rfl⟩ := Prod.mk.inj heq
      have hrest : (writtenFields rest).filter (·.1 = name) = [] := by
        rw [List.filter_eq_nil_iff]
        rintro ⟨_, value⟩ hvalue hname
        obtain rfl := of_decide_eq_true hname
        exact hnew (List.mem_map.2 ⟨_, mem_writtenFields_iff.1 hvalue, rfl⟩)
      rw [hrest, List.append_nil]
      cases field <;> simp
    · have hne : other ≠ name := by
        rintro rfl
        exact hnew (List.mem_map.2 ⟨_, hmem, rfl⟩)
      rw [ih hnodup hmem]
      cases otherField <;> simp [hne]

/-- A field of a record is found, wherever it stands. -/
theorem field_of_perm (hnodup : (fields.map Prod.fst).Nodup)
    (hmembers : members.Perm (writtenFields fields)) {name : String} {value : Option Json}
    (hmem : (name, value) ∈ fields) :
    field (members.map fun member => (member.1.toList, member.2)) name = some value := by
  have hfilter : members.filter (·.1 = name) = value.toList.map (name, ·) := by
    have hperm := hmembers.filter (fun member => decide (member.1 = name))
    rw [filter_writtenFields hnodup hmem] at hperm
    cases value with
    | none => exact hperm.eq_nil
    | some value => exact List.perm_singleton.1 hperm
  have hsame : (fun member : List Char × Json => decide (member.1 = name.toList)) ∘
      (fun member : String × Json => (member.1.toList, member.2)) =
        fun member => decide (member.1 = name) := by
    funext member
    simp [String.toList_inj]
  rw [field, List.filter_map, hsame, hfilter]
  cases value <;> rfl

/-- **Fields are found.** The values of the fields of a record are found, in whatever order they
stand. -/
theorem fields_of_writtenRecord (h : WrittenRecord fields value)
    (hnodup : (fields.map Prod.fst).Nodup) :
    Json.fields (fields.map Prod.fst) value = some (fields.map Prod.snd) := by
  obtain ⟨members, hperm, rfl⟩ := h
  rw [objectOf, Json.fields, namedMembers_objectOf, Option.bind_some, List.mapM_map]
  exact mapM_eq_some_map fun member hmember => field_of_perm hnodup hperm hmember

/-- A record is strict if its fields are, one level below it. -/
theorem isStrict_of_writtenRecord (h : WrittenRecord fields value) {depth limit : Nat}
    (hlimit : depth + 1 ≤ limit)
    (hfields : ∀ inner, depth ≤ inner → ∀ field ∈ fields, ∀ value ∈ field.2,
      value.isStrict inner = true) : value.isStrict limit = true := by
  obtain ⟨members, hperm, rfl⟩ := h
  obtain ⟨inner, rfl⟩ : ∃ inner, limit = inner + 1 := ⟨limit - 1, by omega⟩
  rw [objectOf, Json.isStrict, List.all_eq_true]
  intro member hmember
  obtain ⟨⟨name, value⟩, hmem, rfl⟩ := List.mem_map.1 hmember
  have hwritten := mem_writtenFields_iff.1 (hperm.mem_iff.1 hmem)
  have hfield := hfields inner (by omega) _ hwritten value rfl
  simpa using hfield

/-- **The kind is found.** The kind of an event is found, wherever it stands, and the other fields are
a record. -/
theorem tagged?_of_writtenRecord {kind : String}
    (h : WrittenRecord (("event", some (.text (some kind.toList))) :: fields) value)
    (hnodup : ("event" :: fields.map Prod.fst).Nodup) :
    ∃ record, tagged? value = some (kind, record) ∧ WrittenRecord fields record := by
  obtain ⟨members, hperm, rfl⟩ := h
  refine ⟨objectOf (members.filter (·.1 ≠ "event")), ?_, _, ?_, rfl⟩
  · have hnames : ((("event", some (Json.text (some kind.toList))) :: fields).map Prod.fst).Nodup :=
      hnodup
    have hkind := field_of_perm hnames hperm List.mem_cons_self
    have hothers : (members.map fun member => (some member.1.toList, member.2)).filter
        (·.1 ≠ some "event".toList) =
          (members.filter (·.1 ≠ "event")).map fun member => (some member.1.toList, member.2) := by
      rw [List.filter_map]
      congr 2
      funext member
      simp only [Function.comp_apply, ne_eq, Option.some.injEq, String.toList_inj]
    rw [objectOf, tagged?, namedMembers_objectOf, hothers]
    simp [hkind, string?, objectOf]
  · have hothers : (writtenFields fields).filter (·.1 ≠ "event") = writtenFields fields := by
      rw [List.filter_eq_self]
      rintro ⟨name, value⟩ hmem
      have hname : name ≠ "event" := by
        rintro rfl
        exact (List.nodup_cons.1 hnodup).1 (List.mem_map.2 ⟨_, mem_writtenFields_iff.1 hmem, rfl⟩)
      simpa using hname
    have hfilter := hperm.filter (fun member => decide (member.1 ≠ "event"))
    rw [writtenFields_cons, List.filter_append, hothers] at hfilter
    exact hfilter

/-- A record may have all its fields, in order. -/
theorem writtenRecord_objectOf
    (h : fields = members.map fun member => (member.1, some member.2)) :
    WrittenRecord fields (objectOf members) := by
  have hwritten : writtenFields fields = members := by
    rw [h, writtenFields, List.filterMap_map]
    exact List.filterMap_some
  exact ⟨members, .of_eq hwritten.symm, rfl⟩

end Records

end LoadOrder.Json
