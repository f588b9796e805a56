/-
# Events read back from their texts

An event is written as a record of its kind and its fields, which are simple values, lists or records
themselves. Every record may have its fields in any order and leave out those that have their default,
and the words may be spelled in any way. From each of these texts the event is read, and one of them is
the plain text of the event with all its fields.

Main statements:
- `decodes_type`, `decodes_origin`, `decodes_event`: what is written is decoded;
- `hasText_fullText`: the plain text with all fields is one of the texts of an event;
- `event_is_read_from_its_texts`: from each of its texts an event is read.
-/
import LoadOrder.Proofs.Json.Writing

namespace LoadOrder

open Json

/-! ## What is written -/

/-- Flags as a record, each false by default. -/
def TypeFlags.WrittenAs (flags : TypeFlags) (value : Json) : Prop :=
  ∃ hidden fromPriorArchive inPatchedModule,
    WrittenOrOmitted false WrittenBool flags.hidden hidden ∧
    WrittenOrOmitted false WrittenBool flags.fromPriorArchive fromPriorArchive ∧
    WrittenOrOmitted false WrittenBool flags.inPatchedModule inPatchedModule ∧
    WrittenRecord [("is_hidden", hidden), ("is_from_prior_archive", fromPriorArchive),
      ("belongs_to_patched_module", inPatchedModule)] value

/-- The name of a loader. -/
def Loader.name : Loader → String
  | .builtin => "builtin"
  | .userDefined => "user_defined"

/-- A type as a record. It has no super type, no interfaces and no flags by default. -/
def LoadedType.WrittenAs (type : LoadedType) (value : Json) : Prop :=
  ∃ identity name loader superType interfaces flags,
    WrittenIdentity type.identity identity ∧ WrittenString type.name name ∧
    WrittenString type.loader.name loader ∧
    WrittenOrOmitted none (WrittenOrNull WrittenIdentity) type.superType superType ∧
    WrittenOrOmitted [] (WrittenList WrittenIdentity) type.interfaces interfaces ∧
    WrittenOrOmitted {} TypeFlags.WrittenAs type.flags flags ∧
    WrittenRecord [("identity", some identity), ("name", some name), ("loader", some loader),
      ("super_type", superType), ("interfaces", interfaces), ("flags", flags)] value

/-- An origin as a record, without a source by default. -/
def Origin.WrittenAs (origin : Origin) (value : Json) : Prop :=
  ∃ source, WrittenOrOmitted none (WrittenOrNull WrittenString) origin.source source ∧
    WrittenRecord [("source", source)] value

/-- An event as a record with its kind. A load has no origin by default. -/
inductive Event.WrittenAs : Event → Json → Prop where
  | load {type : LoadedType} {origin : Option Origin} {typeValue value : Json}
      {originField : Option Json} (htype : type.WrittenAs typeValue)
      (horigin : WrittenOrOmitted none (WrittenOrNull Origin.WrittenAs) origin originField)
      (hvalue : WrittenRecord [("event", some (.text (some "load".toList))),
        ("type", some typeValue), ("origin", originField)] value) :
      WrittenAs (.load type origin) value
  | unload {identity : TypeIdentity} {identityValue value : Json}
      (hidentity : WrittenIdentity identity identityValue)
      (hvalue : WrittenRecord [("event", some (.text (some "unload".toList))),
        ("identity", some identityValue)] value) :
      WrittenAs (.unload identity) value

/-- The texts of an event: what it is written as, with its words spelled in any way. -/
def Event.HasText (event : Event) (text : List Char) : Prop :=
  ∃ value, event.WrittenAs value ∧ value.Spells text

/-! ## What is written is decoded -/

/-- Flags are decoded. -/
theorem decodes_flags : Decodes 1 TypeFlags.WrittenAs flags? where
  decode_eq := by
    rintro flags value ⟨hidden, fromPriorArchive, inPatchedModule, hhidden, hprior, hpatched, hvalue⟩
    have hnodup : flagsFields.Nodup := by decide
    have hfields : fields flagsFields value = some [hidden, fromPriorArchive, inPatchedModule] :=
      fields_of_writtenRecord hvalue hnodup
    simp [flags?, hfields, decodes_bool.fieldOr hhidden, decodes_bool.fieldOr hprior,
      decodes_bool.fieldOr hpatched]
  isStrict := by
    rintro flags value limit
      ⟨hidden, fromPriorArchive, inPatchedModule, hhidden, hprior, hpatched, hvalue⟩ hlimit
    refine isStrict_of_writtenRecord hvalue hlimit fun inner _ => ?_
    simp only [List.forall_mem_cons]
    exact ⟨decodes_bool.isStrict_field hhidden (Nat.zero_le _),
      decodes_bool.isStrict_field hprior (Nat.zero_le _),
      decodes_bool.isStrict_field hpatched (Nat.zero_le _), by simp⟩

/-- Loaders are decoded from their names. -/
theorem loader?_of_written {loader : Loader} {value : Json}
    (h : WrittenString loader.name value) : loader? .inEvent value = some loader := by
  rw [show value = .text (some loader.name.toList) from h]
  cases loader <;> rfl

/-- Identities that may be absent are decoded. -/
theorem decodes_superType : Decodes 0 (WrittenOrNull WrittenIdentity) (orNull identity?) :=
  decodes_identity.orNull fun _ h => by cases h

/-- Types are decoded. -/
theorem decodes_type : Decodes 2 LoadedType.WrittenAs (loadedType? .inEvent) where
  decode_eq := by
    rintro type value ⟨identity, name, loader, superType, interfaces, flags, hidentity, hname,
      hloader, hsuper, hinterfaces, hflags, hvalue⟩
    have hnodup : typeFields.Nodup := by decide
    have hfields : fields typeFields value =
        some [some identity, some name, some loader, superType, interfaces, flags] :=
      fields_of_writtenRecord hvalue hnodup
    simp [loadedType?, hfields, decodes_identity.decode_eq hidentity, decodes_string.decode_eq hname,
      loader?_of_written hloader, decodes_superType.fieldOr hsuper,
      decodes_identity.list.fieldOr hinterfaces, decodes_flags.fieldOr hflags]
  isStrict := by
    rintro type value limit ⟨identity, name, loader, superType, interfaces, flags, hidentity, hname,
      hloader, hsuper, hinterfaces, hflags, hvalue⟩ hlimit
    refine isStrict_of_writtenRecord hvalue hlimit fun inner hinner => ?_
    simp only [List.forall_mem_cons, Option.mem_def, Option.some.injEq, forall_eq']
    exact ⟨decodes_identity.isStrict hidentity (Nat.zero_le _),
      decodes_string.isStrict hname (Nat.zero_le _),
      decodes_string.isStrict hloader (Nat.zero_le _),
      decodes_superType.isStrict_field hsuper (Nat.zero_le _),
      decodes_identity.list.isStrict_field hinterfaces hinner,
      decodes_flags.isStrict_field hflags hinner, by simp⟩

/-- The source of an origin is decoded. -/
theorem decodes_source : Decodes 0 (WrittenOrNull WrittenString) (orNull string?) :=
  decodes_string.orNull fun _ h => by cases h

/-- Origins are decoded. -/
theorem decodes_origin : Decodes 1 Origin.WrittenAs origin? where
  decode_eq := by
    rintro origin value ⟨source, hsource, hvalue⟩
    have hnodup : originFields.Nodup := by decide
    have hfields : fields originFields value = some [source] :=
      fields_of_writtenRecord hvalue hnodup
    simp [origin?, hfields, decodes_source.fieldOr hsource]
  isStrict := by
    rintro origin value limit ⟨source, hsource, hvalue⟩ hlimit
    refine isStrict_of_writtenRecord hvalue hlimit fun inner _ => ?_
    rw [List.forall_mem_singleton]
    exact decodes_source.isStrict_field hsource (Nat.zero_le _)

/-- The origin of a load is decoded. -/
theorem decodes_loadOrigin : Decodes 1 (WrittenOrNull Origin.WrittenAs) (orNull origin?) :=
  decodes_origin.orNull fun _ ⟨_, _, _, _, h⟩ => by cases h

/-- What is written of an event has arrays and objects to a depth of three at most. -/
theorem isStrict_of_writtenAs {event : Event} {value : Json} (h : event.WrittenAs value)
    {limit : Nat} (hlimit : 3 ≤ limit) : value.isStrict limit = true := by
  cases h with
  | load htype horigin hvalue =>
    refine isStrict_of_writtenRecord hvalue hlimit fun inner hinner => ?_
    simp only [List.forall_mem_cons, Option.mem_def, Option.some.injEq, forall_eq']
    exact ⟨by simp [Json.isStrict], decodes_type.isStrict htype hinner,
      decodes_loadOrigin.isStrict_field horigin (by omega), by simp⟩
  | unload hidentity hvalue =>
    refine isStrict_of_writtenRecord hvalue hlimit fun inner _ => ?_
    simp only [List.forall_mem_cons, Option.mem_def, Option.some.injEq, forall_eq']
    exact ⟨by simp [Json.isStrict], decodes_identity.isStrict hidentity (Nat.zero_le _), by simp⟩

/-- Events are decoded. -/
theorem decodes_event : Decodes 3 Event.WrittenAs event? where
  decode_eq := by
    intro event value h
    have hstrict : value.isStrict maxDepth = true := isStrict_of_writtenAs h (by decide)
    cases h with
    | @load type origin typeValue value originField htype horigin hvalue =>
      have hnodup : ("event" :: loadFields).Nodup := by decide
      obtain ⟨record, htagged, hrecord⟩ := tagged?_of_writtenRecord hvalue hnodup
      have hfields : fields loadFields record = some [some typeValue, originField] :=
        fields_of_writtenRecord hrecord (List.nodup_cons.1 hnodup).2
      simp [event?, hstrict, htagged, hfields, decodes_type.decode_eq htype,
        decodes_loadOrigin.fieldOr horigin]
    | @unload identity identityValue value hidentity hvalue =>
      have hnodup : ("event" :: unloadFields).Nodup := by decide
      obtain ⟨record, htagged, hrecord⟩ := tagged?_of_writtenRecord hvalue hnodup
      have hfields : fields unloadFields record = some [some identityValue] :=
        fields_of_writtenRecord hrecord (List.nodup_cons.1 hnodup).2
      simp [event?, hstrict, htagged, hfields, decodes_identity.decode_eq hidentity]
  isStrict h hlimit := isStrict_of_writtenAs h hlimit

/-! ## The text with all fields -/

/-- Flags with all fields. -/
def TypeFlags.json (flags : TypeFlags) : Json :=
  objectOf [("is_hidden", .bool flags.hidden),
    ("is_from_prior_archive", .bool flags.fromPriorArchive),
    ("belongs_to_patched_module", .bool flags.inPatchedModule)]

/-- An identity. -/
def TypeIdentity.json (identity : TypeIdentity) : Json :=
  .number { whole := Nat.toDigits 10 identity.value.toNat }

/-- A type with all fields. -/
def LoadedType.json (type : LoadedType) : Json :=
  objectOf [("identity", type.identity.json), ("name", .text (some type.name.toList)),
    ("loader", .text (some type.loader.name.toList)),
    ("super_type", type.superType.elim .null TypeIdentity.json),
    ("interfaces", .array (type.interfaces.map TypeIdentity.json)), ("flags", type.flags.json)]

/-- An origin with its field. -/
def Origin.json (origin : Origin) : Json :=
  objectOf [("source", origin.source.elim .null fun source => .text (some source.toList))]

/-- An event with its kind and all fields. -/
def Event.json : Event → Json
  | .load type origin => objectOf [("event", .text (some "load".toList)), ("type", type.json),
      ("origin", origin.elim .null Origin.json)]
  | .unload identity => objectOf [("event", .text (some "unload".toList)),
      ("identity", identity.json)]

/-- The plain text of an event with all fields. -/
def Event.fullText (event : Event) : List Char :=
  event.json.compact

/-- Flags with all fields are one of the ways in which they are written. -/
theorem TypeFlags.writtenAs_json (flags : TypeFlags) : flags.WrittenAs flags.json :=
  ⟨_, _, _, .of_written rfl, .of_written rfl, .of_written rfl, writtenRecord_objectOf rfl⟩

/-- A type with all fields is one of the ways in which it is written. -/
theorem LoadedType.writtenAs_json (type : LoadedType) : type.WrittenAs type.json := by
  have hidentity : ∀ identity : TypeIdentity, WrittenIdentity identity identity.json := fun _ => rfl
  have hinterfaces : WrittenList WrittenIdentity type.interfaces
      (.array (type.interfaces.map TypeIdentity.json)) :=
    ⟨_, rfl, List.forall₂_map_right_iff.2 (List.forall₂_same.2 fun identity _ => hidentity identity)⟩
  exact ⟨_, _, _, _, _, _, hidentity type.identity, rfl, rfl,
    .of_written (writtenOrNull_elim hidentity type.superType), .of_written hinterfaces,
    .of_written type.flags.writtenAs_json, writtenRecord_objectOf rfl⟩

/-- An origin with its field is one of the ways in which it is written. -/
theorem Origin.writtenAs_json (origin : Origin) : origin.WrittenAs origin.json := by
  have hsource : ∀ source : String, WrittenString source (.text (some source.toList)) :=
    fun _ => rfl
  exact ⟨_, .of_written (writtenOrNull_elim hsource origin.source), writtenRecord_objectOf rfl⟩

/-- An event with all fields is one of the ways in which it is written. -/
theorem Event.writtenAs_json (event : Event) : event.WrittenAs event.json := by
  cases event with
  | load type origin =>
    exact .load type.writtenAs_json
      (.of_written (writtenOrNull_elim Origin.writtenAs_json origin)) (writtenRecord_objectOf rfl)
  | unload identity => exact .unload rfl (writtenRecord_objectOf rfl)

/-- A type with all fields is plain. -/
theorem LoadedType.isPlain_json (type : LoadedType) : type.json.IsPlain := by
  have hidentity : ∀ identity : TypeIdentity, identity.json.IsPlain := fun _ => isPlain_number _
  have hflags : type.flags.json.IsPlain := by
    apply isPlain_objectOf
    simp only [List.forall_mem_cons]
    exact ⟨isPlain_bool _, isPlain_bool _, isPlain_bool _, by simp⟩
  have hinterfaces : (Json.array (type.interfaces.map TypeIdentity.json)).IsPlain :=
    isPlain_array (List.forall_mem_map.2 fun identity _ => hidentity identity)
  apply isPlain_objectOf
  simp only [List.forall_mem_cons]
  exact ⟨hidentity _, isPlain_text _, isPlain_text _, isPlain_elim hidentity _, hinterfaces, hflags,
    by simp⟩

/-- An origin with its field is plain. -/
theorem Origin.isPlain_json (origin : Origin) : origin.json.IsPlain := by
  apply isPlain_objectOf
  rw [List.forall_mem_singleton]
  exact isPlain_elim (fun _ => isPlain_text _) origin.source

/-- An event with all fields is plain: its numbers are natural, and its texts are made of
characters. -/
theorem Event.isPlain_json (event : Event) : event.json.IsPlain := by
  cases event with
  | load type origin =>
    apply isPlain_objectOf
    simp only [List.forall_mem_cons]
    exact ⟨isPlain_text _, type.isPlain_json, isPlain_elim Origin.isPlain_json origin, by simp⟩
  | unload identity =>
    apply isPlain_objectOf
    simp only [List.forall_mem_cons]
    exact ⟨isPlain_text _, isPlain_number _, by simp⟩

/-- The plain text with all fields is one of the texts of an event. -/
theorem hasText_fullText (event : Event) : event.HasText event.fullText :=
  ⟨event.json, event.writtenAs_json, spells_compact event.isPlain_json⟩

/-! ## The round trip -/

/-- **Events are read back.** From each of its texts an event is read, and the plain text with all its
fields is one of them. -/
theorem event_is_read_from_its_texts (event : Event) :
    (∀ text, event.HasText text → Event.ofChars text = some event) ∧
      event.HasText event.fullText ∧ Event.ofChars event.fullText = some event := by
  have hread : ∀ text, event.HasText text → Event.ofChars text = some event := by
    rintro text ⟨value, hvalue, htext⟩
    rw [Event.ofChars, read_of_spells htext, Option.bind_some]
    exact decodes_event.decode_eq hvalue
  exact ⟨hread, hasText_fullText event, hread _ (hasText_fullText event)⟩

/-- The fields of an event may stand in any order, with space between its words and escapes in
them. -/
theorem unload_is_read_from_odd_text :
    (Event.unload ⟨0xFFFFFFFFFFFFFFFF⟩).HasText
        " \x7b\"identity\":\t18446744073709551615 ,\"\\u0065vent\":\"unload\"\x7d".toList ∧
      Event.ofChars
          " \x7b\"identity\":\t18446744073709551615 ,\"\\u0065vent\":\"unload\"\x7d".toList =
        some (.unload ⟨0xFFFFFFFFFFFFFFFF⟩) := by
  have hplain : ∀ chars, (Token.text (some chars)).Spelling ('"' :: chars.flatMap escape ++ ['"']) :=
    fun chars => .text (textSpelling_flatMap_escape chars)
  have hkind : TextSpelling "event".toList "\\u0065vent".toList := by
    have hdigit : IsHex ['0', '0', '6', '5'] 'e'.toNat :=
      .digits (i := 0) (j := 0) (k := 6) (l := 5) ⟨by decide, by decide⟩ ⟨by decide, by decide⟩
        ⟨by decide, by decide⟩ ⟨by decide, by decide⟩
    exact .cons (.code hdigit) (textSpelling_flatMap_escape "vent".toList)
  -- the words from the last one on, each with the space before it
  have hnone : ([] : List Char).all isSpace = true := rfl
  have hend := SpellsTokens.nil hnone
  have hclose := SpellsTokens.cons hnone .closeObject hend
  have hunload := SpellsTokens.cons hnone (hplain "unload".toList) hclose
  have hcolon := SpellsTokens.cons hnone .colon hunload
  have hevent := SpellsTokens.cons hnone (.text hkind) hcolon
  have hcomma := SpellsTokens.cons (show [' '].all isSpace = true by decide) .comma hevent
  have hnumber := SpellsTokens.cons (show ['\t'].all isSpace = true by decide)
    (.number 0xFFFFFFFFFFFFFFFF) hcomma
  have hsecond := SpellsTokens.cons hnone .colon hnumber
  have hidentity := SpellsTokens.cons hnone (hplain "identity".toList) hsecond
  have hwords := SpellsTokens.cons (show [' '].all isSpace = true by decide) .openObject hidentity
  have hvalue : (Event.unload ⟨0xFFFFFFFFFFFFFFFF⟩).WrittenAs
      (objectOf [("identity", TypeIdentity.json ⟨0xFFFFFFFFFFFFFFFF⟩),
        ("event", .text (some "unload".toList))]) :=
    .unload rfl ⟨_, .swap _ _ _, rfl⟩
  have htext : (Event.unload ⟨0xFFFFFFFFFFFFFFFF⟩).HasText
      " \x7b\"identity\":\t18446744073709551615 ,\"\\u0065vent\":\"unload\"\x7d".toList := by
    refine ⟨_, hvalue, ?_⟩
    rw [Json.Spells]
    convert hwords using 1
    · rfl
    · decide +kernel
  exact ⟨htext, (event_is_read_from_its_texts _).1 _ htext⟩

end LoadOrder
