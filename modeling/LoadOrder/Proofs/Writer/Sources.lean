/-
# Sources in the manifest

The address of a user-defined type is looked at twice: the rules of eligibility test that it can be
cut, and then the cut is made again for the entry. Both come to the same, so every line of a
user-defined type has a source. But a cut that takes the whole address is a cut, and the source that
it leaves is empty.

Main statements:
- `strip_eq_some_iff`, `eq_empty_iff_of_strip`: what a cut leaves, and when that is nothing;
- `hasFileScheme_and_strip_iff`: what it leaves of an address with the scheme;
- `source_entryOf`: the source of an eligible user-defined type;
- `happeningIn_eq_recorded_iff`: the operation in which a type gets its line;
- `source_is_address_behind_scheme`: rules and writer agree on the source of every type;
- `sources_are_nonempty_iff`: when no line of a user-defined type has an empty source.
-/
import LoadOrder.Proofs.Writer.Operations
import LoadOrder.Proofs.Writer.References

namespace LoadOrder

/-! ## Cuts -/

namespace Source

/-- The source is what follows characters of the width of the cut. -/
theorem strip_eq_some_iff {style : PathStyle} {address source : String} :
    strip style address = some source ↔
      ∃ front, address.toList = front ++ source.toList ∧
        (Utf8.encodeChars front).length = cutWidth style := by
  rw [strip, Option.map_eq_some_iff]
  constructor
  · rintro ⟨rest, hrest, rfl⟩
    rw [String.toList_ofList]
    exact dropBytes_eq_some.1 hrest
  · intro h
    exact ⟨source.toList, dropBytes_eq_some.2 h, String.ofList_toList⟩

/-- An address that has as many bytes as the cut takes. -/
def isBare (style : PathStyle) (address : String) : Bool :=
  (Utf8.encode address).length = cutWidth style

/-- A cut leaves nothing of a bare address, and of no other one that can be cut. -/
theorem eq_empty_iff_of_strip {style : PathStyle} {address source : String}
    (h : strip style address = some source) : source = "" ↔ isBare style address = true := by
  obtain ⟨front, haddress, hwidth⟩ := strip_eq_some_iff.1 h
  have hlength : (Utf8.encode address).length =
      cutWidth style + (Utf8.encodeChars source.toList).length := by
    rw [Utf8.encode, haddress, Utf8.encodeChars, List.flatMap_append, List.length_append, ← hwidth]
    rfl
  rw [isBare, decide_eq_true_iff, hlength]
  constructor
  · rintro rfl
    rfl
  · intro hnone
    have hempty : (Utf8.encodeChars source.toList).length = 0 := by omega
    cases hsource : source.toList with
    | nil => rw [← String.ofList_toList (s := source), hsource]
    | cons c rest =>
      rw [hsource, Utf8.length_encodeChars_cons] at hempty
      have hsize := c.utf8Size_pos
      omega

/-- A cut goes through the characters of a text one by one. -/
theorem dropBytes_append (front : List Char) (n : Nat) (back : List Char) :
    dropBytes ((Utf8.encodeChars front).length + n) (front ++ back) = dropBytes n back := by
  induction front with
  | nil => rw [Utf8.encodeChars, List.flatMap_nil, List.length_nil, Nat.zero_add, List.nil_append]
  | cons c front ih =>
    have hsize := c.utf8Size_pos
    obtain ⟨m, hm⟩ : ∃ m, c.utf8Size + (Utf8.encodeChars front).length + n = m + 1 :=
      Nat.exists_eq_add_one.2 (by omega)
    have hrest : m + 1 - c.utf8Size = (Utf8.encodeChars front).length + n := by omega
    rw [Utf8.length_encodeChars_cons, hm, List.cons_append, dropBytes, if_pos (by omega), hrest, ih]

/-- A cut of one byte takes a character of one byte. -/
theorem dropBytes_one_eq_some {text rest : List Char} :
    dropBytes 1 text = some rest ↔ ∃ c : Char, c.utf8Size = 1 ∧ text = c :: rest := by
  cases text with
  | nil => simp [dropBytes]
  | cons c text =>
    have hsize := c.utf8Size_pos
    rw [dropBytes]
    constructor
    · intro h
      split at h
      · next hle =>
        have hone : c.utf8Size = 1 := by omega
        rw [hone, dropBytes] at h
        exact ⟨c, hone, by rw [Option.some.inj h]⟩
      · simp at h
    · rintro ⟨d, hd, heq⟩
      obtain ⟨rfl, rfl⟩ := List.cons.inj heq
      rw [hd, if_pos (Nat.le_refl 1), dropBytes]

/-- An address of the scheme and a source. Where absolute paths begin with a drive letter, a character
of a single byte stands between the two. -/
def IsAddress : PathStyle → String → String → Prop
  | .posix, address, source => address = "file:" ++ source
  | .driveLetter, address, source =>
    ∃ c : Char, c.utf8Size = 1 ∧ address = "file:" ++ String.singleton c ++ source

/-- An address with the scheme leaves the source that it was made of after the cut. -/
theorem hasFileScheme_and_strip_iff {style : PathStyle} {address source : String} :
    hasFileScheme address = true ∧ strip style address = some source ↔
      IsAddress style address source := by
  have hwidth : (Utf8.encodeChars fileScheme.toList).length = 5 := by decide +kernel
  -- behind the scheme the cut takes no byte or one
  have hcut : ∀ n back, dropBytes (5 + n) (fileScheme.toList ++ back) = dropBytes n back := by
    intro n back
    rw [← hwidth, dropBytes_append]
  have hnone : ∀ back, dropBytes 5 (fileScheme.toList ++ back) = some back := by
    intro back
    rw [← Nat.add_zero 5, hcut, dropBytes]
  rw [hasFileScheme_iff, strip, Option.map_eq_some_iff]
  cases style with
  | posix =>
    rw [IsAddress, cutWidth, ← fileScheme]
    constructor
    · rintro ⟨⟨back, hback⟩, rest, hrest, rfl⟩
      rw [← hback, hnone, Option.some.injEq] at hrest
      rw [← String.toList_inj, String.toList_append, String.toList_ofList, ← hback, hrest]
    · rintro rfl
      rw [String.toList_append]
      exact ⟨List.prefix_append _ _, source.toList, hnone _, String.ofList_toList⟩
  | driveLetter =>
    rw [IsAddress, cutWidth, ← fileScheme]
    constructor
    · rintro ⟨⟨back, hback⟩, rest, hrest, rfl⟩
      rw [← hback, hcut 1, dropBytes_one_eq_some] at hrest
      obtain ⟨c, hc, rfl⟩ := hrest
      refine ⟨c, hc, ?_⟩
      rw [← String.toList_inj, String.toList_append, String.toList_append, String.toList_ofList,
        String.toList_singleton, ← hback, List.append_assoc, List.singleton_append]
    · rintro ⟨c, hc, rfl⟩
      rw [String.toList_append, String.toList_append, String.toList_singleton, List.append_assoc]
      exact ⟨List.prefix_append _ _, source.toList,
        (hcut 1 _).trans (dropBytes_one_eq_some.2 ⟨c, hc, rfl⟩), String.ofList_toList⟩

end Source

namespace Writer

variable {σ : Type}

/-- An eligible user-defined type has the address of a file, and its entry the source that the cut of
the address leaves. -/
theorem source_entryOf [Catalog σ] {writer : Writer σ} {type : LoadedType}
    {origin : Option Origin} {catalog : σ} (h : writer.Judged type origin .eligible catalog)
    (huser : type.isBuiltin = false) :
    ∃ address source, Eligibility.address origin = some address ∧
      Source.hasFileScheme address = true ∧
      Source.strip writer.config.pathStyle address = some source ∧
      (writer.entryOf type origin).source = some source := by
  obtain ⟨hnew, hcheck⟩ := h
  have hregistrable := Eligibility.asksCatalog_iff.1 (Eligibility.asks_of_eligible hcheck huser)
  obtain ⟨address, source, haddress, hscheme, hstrip⟩ := hregistrable.address
  have hdependencies := Eligibility.hasId_of_eligible hcheck
  refine ⟨address, source, haddress, hscheme, hstrip, ?_⟩
  rw [entryOf, entryFor_of_hasId writer.config.pathStyle origin hnew hdependencies]
  simp [huser, haddress, Option.filter, hscheme, hstrip]

/-! ## What happens in the course of operations -/

/-- What happens in an operation. That a manifest is opened or a sink given is not told. -/
def happeningIn [Catalog σ] (writer : Writer σ) : Operation → Option Happening
  | .init .. | .attach .. => none
  | .call call => writer.happening call

/-- All that happens in the course of operations, in order. -/
def annals [Catalog σ] (writer : Writer σ) (operations : List Operation) : List Happening :=
  writer.collect happeningIn operations

/-- A load that gives its type a line: the type is answered with an id and held none before. -/
def GivesLine [Catalog σ] (writer : Writer σ) (type : LoadedType) (origin : Option Origin) : Prop :=
  writer.idOf type.identity = none ∧ ∃ id, (writer.load type origin).result = .recorded id

/-- A type gets a line in an operation that is a load of it. -/
theorem happeningIn_eq_recorded_iff [Catalog σ] {writer : Writer σ} {operation : Operation}
    {type : LoadedType} {entry : Entry} :
    writer.happeningIn operation = some (.recorded type entry) ↔
      ∃ origin, operation = .call (.load type origin) ∧ writer.GivesLine type origin ∧
        entry = writer.entryOf type origin := by
  constructor
  · intro h
    cases operation with
    | init launch directory => simp [happeningIn] at h
    | attach sink hopen => simp [happeningIn] at h
    | call call =>
      cases call with
      | unload identity => simp [happeningIn, happening] at h
      | close | idOf | live | outputPath | isEnabled => simp [happeningIn, happening] at h
      | load other origin =>
        obtain ⟨hsame, hnew, hresult⟩ := told_load_eq_some_iff.1 h
        obtain ⟨rfl, rfl⟩ := Happening.recorded.inj hsame
        exact ⟨origin, rfl, ⟨hnew, _, hresult⟩, rfl⟩
  · rintro ⟨origin, rfl, ⟨hnew, id, hresult⟩, rfl⟩
    rw [happeningIn, happening, hresult, told, if_pos hnew]

/-- A user-defined type that gets a line has an address, and the source in its line is what the cut of
the address leaves. -/
theorem source_of_givesLine [Catalog σ] {writer : Writer σ} {type : LoadedType}
    {origin : Option Origin} (h : writer.GivesLine type origin) (huser : type.isBuiltin = false) :
    ∃ address source, Eligibility.address origin = some address ∧
      Source.hasFileScheme address = true ∧
      Source.strip writer.config.pathStyle address = some source ∧
      (writer.entryOf type origin).source = some source := by
  obtain ⟨hnew, id, hresult⟩ := h
  obtain ⟨sink, catalog, hready, hjudged, -⟩ := recorded_of_new hresult hnew
  exact source_entryOf hjudged huser

/-! ## Exact sources -/

/-- The source in the entry of a user-defined type, whatever state the writer is in. -/
theorem source_entryOf_eq_some_iff {writer : Writer σ} {type : LoadedType} {origin : Option Origin}
    {source : String} (huser : type.isBuiltin = false) :
    (writer.entryOf type origin).source = some source ↔
      ∃ address, Eligibility.address origin = some address ∧
        Source.IsAddress writer.config.pathStyle address source := by
  have hsource : (writer.entryOf type origin).source =
      ((Eligibility.address origin).filter Source.hasFileScheme).bind
        (Source.strip writer.config.pathStyle) := by
    simp [entryOf, entryFor, huser]
  rw [hsource, Option.bind_eq_some_iff]
  simp only [Option.filter_eq_some_iff, and_assoc, Source.hasFileScheme_and_strip_iff]

/-- **The source in a line is the address behind the scheme.** In whatever state a writer is, the entry
of a user-defined type has a source exactly if the rules on addresses let the type through, and then
the address is the five bytes `file:` and the source, with one character of a single byte between
them where absolute paths begin with a drive letter. So if a load gives the type a line, it comes with
such an address, and the line that is written is that of an entry with such a source. -/
theorem source_is_address_behind_scheme [Catalog σ] (writer : Writer σ) {type : LoadedType}
    (huser : type.isBuiltin = false) (origin : Option Origin) :
    let entry := writer.entryOf type origin
    (∀ source, entry.source = some source ↔
      ∃ address, Eligibility.address origin = some address ∧
        Source.IsAddress writer.config.pathStyle address source) ∧
    (Eligibility.addressFault writer.config.pathStyle (Eligibility.address origin) = none ↔
      ∃ source, entry.source = some source) ∧
    (writer.GivesLine type origin →
      ∃ sink address source, Eligibility.address origin = some address ∧
        entry.source = some source ∧ Source.IsAddress writer.config.pathStyle address source ∧
        writer.sink = some sink ∧ (sink.writeLine entry.line).result = .ok () ∧
        (writer.load type origin).state.sink = some (sink.writeLine entry.line).state) := by
  intro entry
  have hsource : ∀ source, entry.source = some source ↔
      ∃ address, Eligibility.address origin = some address ∧
        Source.IsAddress writer.config.pathStyle address source :=
    fun source => source_entryOf_eq_some_iff huser
  refine ⟨hsource, ?_, ?_⟩
  · simp only [Eligibility.addressFault_eq_none_iff, hsource, Source.hasFileScheme_and_strip_iff]
    exact exists_comm
  · rintro ⟨hnew, id, hresult⟩
    obtain ⟨sink, catalog, hready, hjudged, hwritten, -, hstate⟩ := recorded_of_new hresult hnew
    obtain ⟨address, source, haddress, hscheme, hstrip, hentry⟩ := source_entryOf hjudged huser
    refine ⟨sink, address, source, haddress, hentry,
      Source.hasFileScheme_and_strip_iff.1 ⟨hscheme, hstrip⟩, hready.sink_eq, hwritten, ?_⟩
    rw [hstate]
    rfl

/-- A slash is the one character of a single byte before a source that begins with one of two bytes. -/
theorem source_is_address_behind_drive_slash :
    let object := LoadedType.plain ⟨1⟩ "java/lang/Object" .builtin
    let type := (LoadedType.plain ⟨2⟩ "app/Foo" .userDefined).withSuper ⟨1⟩
    let origin : Option Origin := some { source := some "file:/é:/日.jar" }
    let writer := (begun { pathStyle := .driveLetter } ({} : NameCatalog) ⟨[]⟩ {} none).after
      [.load object none]
    type.isBuiltin = false ∧ writer.GivesLine type origin ∧
      (writer.entryOf type origin).source = some "é:/日.jar" ∧
      ∃ sink, writer.sink = some sink ∧
        (sink.writeLine (writer.entryOf type origin).line).result = .ok () := by
  intro object type origin writer
  have huser : type.isBuiltin = false := rfl
  have hstart := Sink.start_of_room ⟨[]⟩ {} none (by decide) (by decide) (by decide)
  have hrun : writer.idOf type.identity = none ∧ (writer.load type origin).result = .recorded 1 ∧
      writer.config.pathStyle = .driveLetter := by
    simp only [writer]
    rw [begun_eq, Sink.state_start hstart]
    decide +kernel
  obtain ⟨hnew, hresult, hstyle⟩ := hrun
  have hline : writer.GivesLine type origin := ⟨hnew, 1, hresult⟩
  obtain ⟨hsource, -, hgives⟩ := source_is_address_behind_scheme writer huser origin
  obtain ⟨sink, _, _, -, -, -, hsink, hwritten, -⟩ := hgives hline
  refine ⟨huser, hline, (hsource _).2 ⟨"file:/é:/日.jar", rfl, ?_⟩, sink, hsink, hwritten⟩
  rw [hstyle]
  exact ⟨'/', by decide, by decide⟩

/-! ## Empty sources -/

/-- **Sources are empty only where the cut takes the whole address.** In the course of any operations on
a new writer, with any catalog, every user-defined type that gets a line has a source in it. All of
these sources are texts of one character at least exactly if none of the loads that give such lines
comes with a bare address. -/
theorem sources_are_nonempty_iff [Catalog σ] (config : Config) (catalog : σ)
    (operations : List Operation) :
    let new : Writer σ := { config, catalog }
    (∀ type entry, .recorded type entry ∈ new.annals operations → type.isBuiltin = false →
      ∃ source, entry.source = some source) ∧
    ((∀ type entry, .recorded type entry ∈ new.annals operations → type.isBuiltin = false →
        entry.source ≠ some "") ↔
      ∀ front type origin back, operations = front ++ .call (.load type origin) :: back →
        (new.performAll front).GivesLine type origin → type.isBuiltin = false →
        ∀ address, Eligibility.address origin = some address →
          Source.isBare config.pathStyle address = false) := by
  intro new
  refine ⟨?_, ?_, ?_⟩
  · intro type entry hmem huser
    obtain ⟨front, operation, back, -, hhappening⟩ := mem_collect_iff.1 hmem
    obtain ⟨origin, rfl, hline, rfl⟩ := happeningIn_eq_recorded_iff.1 hhappening
    obtain ⟨address, source, -, -, -, hsource⟩ := source_of_givesLine hline huser
    exact ⟨source, hsource⟩
  · intro hnonempty front type origin back hsplit hline huser address haddress
    obtain ⟨address', source, haddress', -, hstrip, hsource⟩ := source_of_givesLine hline huser
    obtain rfl : address = address' := Option.some.inj (haddress.symm.trans haddress')
    have hmem : .recorded type ((new.performAll front).entryOf type origin) ∈
        new.annals operations :=
      mem_collect_iff.2 ⟨front, _, back, hsplit,
        happeningIn_eq_recorded_iff.2 ⟨origin, rfl, hline, rfl⟩⟩
    have hne : source ≠ "" := by
      rintro rfl
      exact hnonempty type _ hmem huser hsource
    rw [config_performAll] at hstrip
    rwa [← Bool.not_eq_true, ← Source.eq_empty_iff_of_strip hstrip]
  · intro hbare type entry hmem huser hempty
    obtain ⟨front, operation, back, hsplit, hhappening⟩ := mem_collect_iff.1 hmem
    obtain ⟨origin, rfl, hline, rfl⟩ := happeningIn_eq_recorded_iff.1 hhappening
    obtain ⟨address, source, haddress, -, hstrip, hsource⟩ := source_of_givesLine hline huser
    obtain rfl : source = "" := Option.some.inj (hsource.symm.trans hempty)
    rw [config_performAll] at hstrip
    have hisBare := (Source.eq_empty_iff_of_strip hstrip).1 rfl
    rw [hbare front type origin back hsplit hline huser address haddress] at hisBare
    simp at hisBare

/-- Of an address that is the scheme alone, and of one that has one character more where the cut takes
one byte more, the empty source is recorded. -/
theorem empty_source_of_bare_address :
    let object := LoadedType.plain ⟨1⟩ "java/lang/Object" .builtin
    let type := (LoadedType.plain ⟨2⟩ "app/Foo" .userDefined).withSuper ⟨1⟩
    let annals := fun pathStyle address =>
      ({ config := { output := some (.ofString "m.lst"), pathStyle }, catalog := {} } :
        Writer NameCatalog).annals
        [.init default {}, .call (.load object none),
          .call (.load type (some { source := some address }))]
    let entry : Entry := { name := "app/Foo", id := 1, superId := some 0, source := some "" }
    annals .posix "file:" =
      [.recorded object { name := "java/lang/Object", id := 0 }, .recorded type entry] ∧
    annals .driveLetter "file:/" =
      [.recorded object { name := "java/lang/Object", id := 0 }, .recorded type entry] ∧
    entry.line = "app/Foo id: 1 super: 0 source: " := by
  decide +kernel

end Writer

end LoadOrder
