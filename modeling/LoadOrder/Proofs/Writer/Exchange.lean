/-
# Independent events in either order

Types finish loading in an order that nobody chose. Over an output without limits that order decides
which ids the types get and nothing else, as long as it lets every type come after those it depends
on: two loads of independent types can be exchanged, and then their ids are exchanged in every answer
and every entry from there on.

Of two independent loads either one records nothing, and then it goes in the same way before and after
the other, or both record their types, and then each gets the entry that it would have got first,
under one of the two next ids. What the two orders leave is alike, so everything that is called later
goes alike.

Main statements:
- `loads_commute_of_quiet`, `loads_commute_of_eligible`: two loads, of which the first records nothing,
  or which both record their types;
- `loads_commute`: two loads in either order;
- `independent_events_commute`: independent events in every run of a writer.
-/
import LoadOrder.Proofs.Writer.Independence
import LoadOrder.Proofs.Writer.Renaming

namespace LoadOrder.Writer

variable {σ : Type} {first second : LoadedType}

/-! ## Loads that record nothing -/

/-- A load of a ready writer without limits, with another catalog in which the name of its type has
the same owner. -/
theorem load_withCatalog {writer : Writer NameCatalog} {sink : Sink} (hready : writer.Ready sink)
    (h : sink.Unlimited) {type : LoadedType} (origin : Option Origin) {catalog : NameCatalog}
    (howner : type.isBuiltin = false →
      catalog.ownerOf type.name = writer.catalog.ownerOf type.name) :
    let after := (writer.load type origin).state
    let e := (writer.withCatalog catalog).load type origin
    e.result = (writer.load type origin).result ∧
      ((after.catalog = writer.catalog ∧ e.state = after.withCatalog catalog) ∨
        (after.catalog =
            Eligibility.catalogAfter writer.config.pathStyle type origin writer.catalog ∧
          e.state = after.withCatalog
            (Eligibility.catalogAfter writer.config.pathStyle type origin catalog))) := by
  have hready' := hready.withCatalog catalog
  have hjudged' : ∀ decision before, writer.Judged type origin decision before →
      (writer.withCatalog catalog).Judged type origin decision
        (Eligibility.catalogAfter writer.config.pathStyle type origin catalog) :=
    fun decision before hjudged => hjudged.congr rfl rfl (fun _ _ => rfl) howner
  have hsettles := settles_load NameCatalog.answers hready h type origin
  generalize (writer.load type origin).result = outcome at hsettles ⊢
  generalize (writer.load type origin).state = after at hsettles ⊢
  cases hsettles with
  | known id hid =>
    rw [load_of_known hready' hid]
    exact ⟨rfl, .inl ⟨rfl, rfl⟩⟩
  | rejected reason before hjudged =>
    have hjudged' := hjudged' _ _ hjudged
    rw [load_of_ready hready' hjudged'.1 origin hjudged'.2]
    exact ⟨rfl, .inr ⟨hjudged.catalog_eq, rfl⟩⟩
  | recorded before hjudged =>
    have hjudged' := hjudged' _ _ hjudged
    have hwritten := (Sink.writeLine_of_unlimited h
      ((writer.withCatalog catalog).entryOf type origin).line).1
    rw [load_of_ready hready' hjudged'.1 origin hjudged'.2, settle, record_of_ok hwritten]
    exact ⟨rfl, .inr ⟨hjudged.catalog_eq, rfl⟩⟩

/-- The answers to two loads. -/
theorem replies_pair [Catalog σ] (writer : Writer σ) (origin origin' : Option Origin) :
    writer.replies [.load first origin, .load second origin'] =
      [.outcome (writer.load first origin).result,
        .outcome ((writer.load first origin).state.load second origin').result] := rfl

/-- The entries of two loads. -/
theorem ledger_pair [Catalog σ] (writer : Writer σ) (origin origin' : Option Origin) :
    writer.ledger [.load first origin, .load second origin'] =
      let next := (writer.load first origin).state
      entriesIn (writer.told first origin (writer.load first origin).result).toList ++
        entriesIn (next.told second origin' (next.load second origin').result).toList := by
  simp only [ledger, chronicle, happening, Writer.call, entriesIn_append, List.append_nil]

/-- A load tells of one entry at most. -/
theorem length_told_le (writer : Writer σ) (type : LoadedType) (origin : Option Origin)
    (outcome : Outcome) : (entriesIn (writer.told type origin outcome).toList).length ≤ 1 :=
  Nat.le_trans (List.length_filterMap_le _ _) Option.length_toList_le

/-- A load that records nothing goes in the same way after a load of an independent type, and makes no
difference to that one. -/
theorem load_of_quiet {writer : Writer NameCatalog} {sink : Sink} (hready : writer.Ready sink)
    (h : sink.Unlimited) (hindependent : Independent first second) (origin origin' : Option Origin)
    (hquiet : writer.told first origin (writer.load first origin).result = none) :
    let quiet := (writer.load first origin).state
    let after := (writer.load second origin').state
    (after.load first origin).result = (writer.load first origin).result ∧
      after.told first origin (writer.load first origin).result = none ∧
      (quiet.load second origin').result = (writer.load second origin').result ∧
      (∀ outcome, quiet.told second origin' outcome = writer.told second origin' outcome) ∧
      (after.load first origin).state = (quiet.load second origin').state := by
  intro quiet after
  obtain ⟨next, hnext, -, -⟩ :=
    (settles_load NameCatalog.answers hready h second origin').ready hready h
  have hquietLoad : quiet = (writer.load first origin).state := rfl
  have hfirst := settles_load NameCatalog.answers hready h first origin
  rw [← hquietLoad] at hfirst
  clear_value quiet
  generalize (writer.load first origin).result = outcome at hfirst hquiet ⊢
  cases hfirst with
  | known id hid =>
    have hid' : after.registry.idOf first.identity = some id := by
      rw [← hid]
      exact idOf_load_of_ne hindependent.ne origin' writer
    rw [load_of_known hnext hid']
    exact ⟨rfl, told_of_known hnext hid' _ _, rfl, fun _ => rfl, rfl⟩
  | rejected reason catalog hjudged =>
    have hjudged' := hjudged.load hindependent origin'
    have howner : second.isBuiltin = false →
        catalog.ownerOf second.name = writer.catalog.ownerOf second.name := by
      intro huser
      rw [hjudged.catalog_eq]
      exact Eligibility.ownerOf_catalogAfter_of_ne
        (fun hother => hindependent.name_ne hother huser) _ _ _
    obtain ⟨hresult, hstate⟩ := load_withCatalog hready h origin' howner
    rw [load_of_ready hnext hjudged'.1 origin hjudged'.2]
    refine ⟨rfl, rfl, hresult, fun _ => rfl, ?_⟩
    show after.withCatalog _ = _
    -- the rules have looked at the second type, or it was known to the writer
    rcases hstate with ⟨hsame, hstate⟩ | ⟨hafter, hstate⟩
    · rw [hstate, hjudged.catalog_eq, hsame]
    · rw [hstate, hjudged.catalog_eq, hafter, Eligibility.catalogAfter_comm hindependent]
  | recorded catalog hjudged => simp [told_of_judged hready hjudged] at hquiet

/-- Two loads, the first of which records nothing, can be exchanged. -/
theorem loads_commute_of_quiet {writer : Writer NameCatalog} {sink : Sink}
    (hready : writer.Ready sink) (h : sink.Unlimited) (hindependent : Independent first second)
    (origin origin' : Option Origin)
    (hquiet : writer.told first origin (writer.load first origin).result = none) :
    writer.Exchangeable (.load first origin) (.load second origin') ∧
      (writer.ledger [.load first origin, .load second origin']).length ≤ 1 := by
  obtain ⟨hfirst, htold, hsecond, htoldSecond, hstate⟩ :=
    load_of_quiet hready h hindependent origin origin' hquiet
  constructor
  · constructor
    case replies =>
      rw [replies_pair, replies_pair, hfirst, hsecond]
      rfl
    case ledger =>
      have hnil : entriesIn [] = [] := rfl
      rw [ledger_pair, ledger_pair]
      simp only [hfirst, hsecond, htold, hquiet, htoldSecond]
      rw [Option.toList_none, hnil, List.append_nil, List.nil_append]
    case after => exact hstate
  · rw [ledger_pair]
    simp only [hquiet, hsecond, htoldSecond]
    exact length_told_le _ _ _ _

/-- A writer that cannot record answers every load in the same way, and is no different after any
number of them than after the first. -/
theorem load_of_not_ready [Catalog σ] {writer : Writer σ} (hsound : writer.poisoned = false)
    (h : ∀ sink, ¬ writer.Ready sink) :
    ∃ off : Writer σ,
      (∀ type origin, (writer.load type origin).result = .disabled ∧
        (writer.load type origin).state = off) ∧
      ∀ type origin, off.load type origin = { result := .disabled, state := off } := by
  cases henabled : writer.enabled with
  | false =>
    refine ⟨writer, fun type origin => ?_, load_of_off henabled⟩
    rw [load_of_off henabled]
    exact ⟨rfl, rfl⟩
  | true =>
  cases hsink : writer.sink with
  | none =>
    refine ⟨writer, fun type origin => ?_, load_of_sinkless hsound hsink⟩
    rw [load_of_sinkless hsound hsink]
    exact ⟨rfl, rfl⟩
  | some sink =>
  cases himage : writer.config.hasRuntimeImage with
  | false =>
    refine ⟨writer.close.state, fun type origin => ?_, ?_⟩
    · rw [load_of_imageless henabled hsound hsink himage]
      exact ⟨rfl, rfl⟩
    · exact load_of_off (by simp)
  | true => exact absurd ⟨henabled, hsound, hsink, himage⟩ (h sink)

/-- Any two loads of a writer that cannot record can be exchanged. -/
theorem loads_commute_of_not_ready [Catalog σ] {writer : Writer σ} (hsound : writer.poisoned = false)
    (h : ∀ sink, ¬ writer.Ready sink) (origin origin' : Option Origin) :
    writer.Exchangeable (.load first origin) (.load second origin') ∧
      (writer.ledger [.load first origin, .load second origin']).length ≤ 1 := by
  obtain ⟨off, hload, hoff⟩ := load_of_not_ready hsound h
  have hpair : ∀ type origin other origin',
      writer.replies [.load type origin, .load other origin'] =
          [.outcome .disabled, .outcome .disabled] ∧
        writer.ledger [.load type origin, .load other origin'] = [] ∧
        writer.after [.load type origin, .load other origin'] = off := by
    intro type origin other origin'
    have hafter : writer.after [.load type origin, .load other origin'] =
        ((writer.load type origin).state.load other origin').state := rfl
    obtain ⟨hresult, hstate⟩ := hload type origin
    refine ⟨?_, ?_, ?_⟩
    · rw [replies_pair, hresult, hstate, hoff]
    · rw [ledger_pair]
      simp only [hresult, hstate, hoff other origin']
      rfl
    · rw [hafter, hstate, hoff]
  obtain ⟨hreplies, hledger, hafter⟩ := hpair first origin second origin'
  obtain ⟨hreplies', hledger', hafter'⟩ := hpair second origin' first origin
  refine ⟨⟨?_, hledger'.trans hledger.symm, hafter'.trans hafter.symm⟩, ?_⟩
  · rw [hreplies, hreplies']
    rfl
  · rw [hledger]
    exact Nat.zero_le 1

/-! ## Loads that record two types -/

/-- The entry of a type after another one has got an id: the two ids are exchanged. -/
theorem entryFor_assign {count : Nat} {registry : Registry} (hgiven : registry.Given count)
    (hfew : count + 1 < UInt32.size) (style : PathStyle) {type : LoadedType} (origin : Option Origin)
    {other : TypeIdentity} (hne : type.identity ≠ other) (hneeded : other ∉ type.dependencies)
    (hnew : registry.idOf type.identity = none) (hnewOther : registry.idOf other = none)
    (hdependencies : ∀ identity ∈ type.dependencies, registry.hasId identity = true) :
    (entryFor style (registry.assign other).2 type origin).1 =
      (entryFor style registry type origin).1.rename
        (Equiv.swap registry.nextId (registry.nextId + 1)) := by
  have hkept : ∀ identity ∈ type.dependencies,
      (registry.assign other).2.idOf identity =
        (registry.idOf identity).map (Equiv.swap registry.nextId (registry.nextId + 1)) := by
    intro identity hmem
    rw [hgiven.swap_idOf hfew]
    exact Registry.idOf_assign_of_ne registry fun heq => hneeded (heq ▸ hmem)
  have hnew' : (registry.assign other).2.idOf type.identity = none := by
    simp [hne, hnew]
  have hdependencies' : ∀ identity ∈ type.dependencies,
      (registry.assign other).2.hasId identity = true := by
    intro identity hmem
    rw [Registry.hasId, hkept identity hmem, Option.isSome_map]
    exact hdependencies identity hmem
  have hsuper : type.superType.bind (registry.assign other).2.idOf =
      (type.superType.bind registry.idOf).map
        (Equiv.swap registry.nextId (registry.nextId + 1)) := by
    cases hsome : type.superType with
    | none => rfl
    | some identity =>
      exact hkept identity (List.mem_append_left _ (Option.mem_toList.2 hsome))
  have hinterfaces : type.interfaces.filterMap (registry.assign other).2.idOf =
      (type.interfaces.filterMap registry.idOf).map
        (Equiv.swap registry.nextId (registry.nextId + 1)) := by
    rw [List.map_filterMap]
    exact List.filterMap_congr fun identity hmem =>
      hkept identity (List.mem_append_right _ hmem)
  rw [entryFor_of_hasId style origin hnew hdependencies,
    entryFor_of_hasId style origin hnew' hdependencies', hsuper, hinterfaces,
    (Registry.assign_of_idOf_none hnewOther).2]
  cases type.isBuiltin with
  | true => simp [Entry.rename]
  | false => simp [Entry.rename]

/-- A ready writer without limits records an eligible type. -/
theorem load_of_eligible [Catalog σ] {writer : Writer σ} {sink : Sink} (hready : writer.Ready sink)
    (h : sink.Unlimited) {type : LoadedType} {origin : Option Origin} {catalog : σ}
    (hjudged : writer.Judged type origin .eligible catalog) :
    (writer.load type origin).result = .recorded (writer.entryOf type origin).id ∧
      (writer.load type origin).state = writer.written type origin sink catalog := by
  rw [load_of_ready hready hjudged.1 origin hjudged.2, settle,
    record_of_ok (Sink.writeLine_of_unlimited h _).1]
  exact ⟨rfl, rfl⟩

/-- An eligible type gets the next id. -/
theorem id_entryOf [Catalog σ] {writer : Writer σ} {type : LoadedType} {origin : Option Origin}
    {catalog : σ} (h : writer.Judged type origin .eligible catalog) :
    (writer.entryOf type origin).id = writer.registry.nextId := by
  rw [entryOf, entryFor_of_hasId _ origin h.1 (Eligibility.hasId_of_eligible h.2)]
  cases type.isBuiltin <;> rfl

/-- What two loads do that both record their types: the second type gets the entry that it would have
got before the first one, with the two next ids exchanged. -/
structure RecordsBoth (first : LoadedType) (origin : Option Origin) (second : LoadedType)
    (origin' : Option Origin) (sink : Sink) (f : RecordId → RecordId)
    (writer : Writer NameCatalog) : Prop where
  replies : writer.replies [.load first origin, .load second origin'] =
    [.outcome (.recorded (writer.entryOf first origin).id),
      .outcome (.recorded (f (writer.entryOf second origin').id))]
  ledger : writer.ledger [.load first origin, .load second origin'] =
    [writer.entryOf first origin, (writer.entryOf second origin').rename f]
  after : ∃ last : Sink, last.Unlimited ∧ last.path = sink.path ∧
    writer.after [.load first origin, .load second origin'] =
      { writer with
        catalog := Eligibility.catalogAfter writer.config.pathStyle second origin'
          (Eligibility.catalogAfter writer.config.pathStyle first origin writer.catalog)
        registry := ((writer.registry.assign first.identity).2.assign second.identity).2
        sink := some last }

/-- Two loads of independent types that are eligible both record their types. -/
theorem recordsBoth_of_eligible {count : Nat} {writer : Writer NameCatalog} {sink : Sink}
    (hready : writer.Ready sink) (h : sink.Unlimited) (hindependent : Independent first second)
    (hgiven : writer.registry.Given count) (hfew : count + 1 < UInt32.size)
    {origin origin' : Option Origin} {catalog catalog' : NameCatalog}
    (hfirst : writer.Judged first origin .eligible catalog)
    (hsecond : writer.Judged second origin' .eligible catalog') :
    RecordsBoth first origin second origin' sink
      (Equiv.swap writer.registry.nextId (writer.registry.nextId + 1)) writer := by
  obtain ⟨hresult, hstate⟩ := load_of_eligible hready h hfirst
  -- the second type is as eligible after the first one as before, and gets its entry there
  have hlater := hsecond.load hindependent.symm origin
  obtain ⟨next, hnext, hunlimited, hpath⟩ :=
    (settles_load NameCatalog.answers hready h first origin).ready hready h
  obtain ⟨hlast, hafter⟩ := load_of_eligible hnext hunlimited hlater
  have hregistry := registry_written hlater next
  have htold := told_of_judged hnext hlater
  rw [hstate] at hlast hafter hregistry htold hlater
  have hentry : (writer.written first origin sink catalog).entryOf second origin' =
      (writer.entryOf second origin').rename
        (Equiv.swap writer.registry.nextId (writer.registry.nextId + 1)) := by
    rw [entryOf, registry_written hfirst]
    exact entryFor_assign hgiven hfew _ origin' hindependent.ne.symm hindependent.not_needed'
      hsecond.1 hfirst.1 (Eligibility.hasId_of_eligible hsecond.2)
  rw [registry_written hfirst] at hregistry
  obtain ⟨-, hlimits, -⟩ := Sink.writeLine_of_unlimited hunlimited
    ((writer.written first origin sink catalog).entryOf second origin').line
  constructor
  case replies =>
    rw [replies_pair, hstate, hresult, hlast, hentry]
    rfl
  case ledger =>
    rw [ledger_pair]
    simp only [hstate, hresult, hlast]
    rw [told_of_judged hready hfirst, htold, hentry]
    rfl
  case after =>
    refine ⟨_, hlimits, (Sink.path_writeLine next _).1.trans hpath, ?_⟩
    show ((writer.load first origin).state.load second origin').state = _
    rw [hstate, hafter, ← hregistry, ← hfirst.catalog_eq]
    rfl

/-- Two loads that both record their types can be exchanged, and then the two ids are exchanged. -/
theorem loads_commute_of_eligible {count : Nat} {writer : Writer NameCatalog} {sink : Sink}
    (hready : writer.Ready sink) (h : sink.Unlimited) (hindependent : Independent first second)
    (hgiven : writer.registry.Given count) (hfew : count + 1 < UInt32.size)
    {origin origin' : Option Origin} {catalog catalog' : NameCatalog}
    (hfirst : writer.Judged first origin .eligible catalog)
    (hsecond : writer.Judged second origin' .eligible catalog') :
    let forth : List Call := [.load first origin, .load second origin']
    let back : List Call := [.load second origin', .load first origin]
    let f := Equiv.swap writer.registry.nextId (writer.registry.nextId + 1)
    writer.replies back = ((writer.replies forth).map (Reply.rename f)).reverse ∧
      writer.ledger back = ((writer.ledger forth).map (Entry.rename f)).reverse ∧
      (∃ entry other, writer.ledger forth = [entry, other] ∧
        entry.id = writer.registry.nextId ∧ other.id = writer.registry.nextId + 1) ∧
      Alike f (writer.after forth) (writer.after back) := by
  intro forth back f
  have hforth := recordsBoth_of_eligible hready h hindependent hgiven hfew hfirst hsecond
  have hback := recordsBoth_of_eligible hready h hindependent.symm hgiven hfew hsecond hfirst
  refine ⟨?_, ?_, ⟨_, _, hforth.ledger, id_entryOf hfirst, ?_⟩, ?_⟩
  · have htwice : f (f (writer.entryOf second origin').id) = (writer.entryOf second origin').id :=
      Equiv.swap_apply_self _ _ _
    rw [hback.replies, hforth.replies]
    show _ = [Reply.outcome (.recorded (f (f (writer.entryOf second origin').id))),
      .outcome (.recorded (f (writer.entryOf first origin).id))]
    rw [htwice]
  · have htwice := rename_rename_swap (writer.entryOf second origin') writer.registry.nextId
      (writer.registry.nextId + 1)
    rw [hback.ledger, hforth.ledger]
    show _ = [((writer.entryOf second origin').rename f).rename f,
      (writer.entryOf first origin).rename f]
    rw [htwice]
  · show f (writer.entryOf second origin').id = _
    rw [id_entryOf hsecond]
    exact Equiv.swap_apply_left _ _
  · obtain ⟨last, hlimits, hpath, hafter⟩ := hforth.after
    obtain ⟨last', hlimits', hpath', hafter'⟩ := hback.after
    rw [hafter, hafter']
    constructor
    case config | enabled | poisoned => rfl
    case catalog => exact (Eligibility.catalogAfter_comm hindependent _ _ _ _).symm
    case registry =>
      exact Registry.assign_assign_comm hgiven hfew hindependent.ne hfirst.1 hsecond.1
    case path => exact congrArg some (hpath'.trans hpath.symm)
    case unlimitedLeft => exact unlimited_of_sink rfl hlimits
    case unlimitedRight => exact unlimited_of_sink rfl hlimits'

/-- Two loads that both record their types give two ids. -/
theorem idsGiven_of_eligible {writer : Writer NameCatalog} {sink : Sink}
    (hready : writer.Ready sink) (h : sink.Unlimited) (hindependent : Independent first second)
    {origin origin' : Option Origin} {catalog catalog' : NameCatalog}
    (hfirst : writer.Judged first origin .eligible catalog)
    (hsecond : writer.Judged second origin' .eligible catalog') :
    writer.idsGiven [.call (.load first origin), .call (.load second origin')] = 2 := by
  obtain ⟨-, hstate⟩ := load_of_eligible hready h hfirst
  have hlater := hsecond.load hindependent.symm origin
  obtain ⟨next, hnext, hunlimited, -⟩ :=
    (settles_load NameCatalog.answers hready h first origin).ready hready h
  obtain ⟨-, hafter⟩ := load_of_eligible hnext hunlimited hlater
  have hregistry : (writer.perform (.call (.load first origin))).registry =
      (writer.registry.assign first.identity).2 := by
    show (writer.load first origin).state.registry = _
    rw [hstate, registry_written hfirst]
  have hregistry' : ((writer.perform (.call (.load first origin))).perform
      (.call (.load second origin'))).registry =
        ((writer.perform (.call (.load first origin))).registry.assign second.identity).2 := by
    show ((writer.load first origin).state.load second origin').state.registry = _
    rw [hafter, registry_written hlater]
    rfl
  have hnew : (writer.perform (.call (.load first origin))).registry.idOf second.identity = none :=
    hlater.1
  rw [idsGiven_cons_of_assign hfirst.1 hregistry, idsGiven_cons_of_assign hnew hregistry']
  rfl

/-! ## Two loads in either order -/

/-- The exchange of the ids of two entries, if there are two. -/
def exchange : List Entry → RecordId → RecordId
  | [first, second] => Equiv.swap first.id second.id
  | _ => id

/-- Where there are no two entries, nothing is exchanged. -/
theorem exchange_of_length_le_one {entries : List Entry} (h : entries.length ≤ 1) :
    exchange entries = id ∧ entries.reverse = entries := by
  match entries with
  | [] => exact ⟨rfl, rfl⟩
  | [_] => exact ⟨rfl, rfl⟩
  | first :: second :: rest =>
    rw [List.length_cons, List.length_cons] at h
    omega

/-- A load of a ready writer without limits that tells of an entry has recorded an eligible type. -/
theorem judged_of_told {writer : Writer NameCatalog} {sink : Sink} (hready : writer.Ready sink)
    (h : sink.Unlimited) {type : LoadedType} {origin : Option Origin}
    (htold : writer.told type origin (writer.load type origin).result ≠ none) :
    ∃ catalog, writer.Judged type origin .eligible catalog := by
  have hsettles := settles_load NameCatalog.answers hready h type origin
  generalize (writer.load type origin).state = after at hsettles
  generalize (writer.load type origin).result = outcome at hsettles htold
  cases hsettles with
  | known id hid => exact absurd (told_of_known hready hid origin _) htold
  | rejected => exact absurd rfl htold
  | recorded catalog hjudged => exact ⟨catalog, hjudged⟩

/-- Two loads of independent types can be exchanged as they are, or both record their types. -/
theorem loads_commute_or_eligible {writer : Writer NameCatalog} (hsound : writer.poisoned = false)
    (hunlimited : writer.Unlimited) (hindependent : Independent first second)
    (origin origin' : Option Origin) :
    (writer.Exchangeable (.load first origin) (.load second origin') ∧
      (writer.ledger [.load first origin, .load second origin']).length ≤ 1) ∨
    ∃ sink catalog catalog', writer.Ready sink ∧ sink.Unlimited ∧
      writer.Judged first origin .eligible catalog ∧
      writer.Judged second origin' .eligible catalog' := by
  by_cases hready : ∃ sink, writer.Ready sink
  · obtain ⟨sink, hready⟩ := hready
    have hsink := hunlimited sink hready.sink_eq
    by_cases hquiet : writer.told first origin (writer.load first origin).result = none
    · exact .inl (loads_commute_of_quiet hready hsink hindependent origin origin' hquiet)
    by_cases hquiet' : writer.told second origin' (writer.load second origin').result = none
    · left
      obtain ⟨hexchange, hlength⟩ :=
        loads_commute_of_quiet hready hsink hindependent.symm origin' origin hquiet'
      refine ⟨hexchange.symm, ?_⟩
      rwa [hexchange.ledger]
    · right
      obtain ⟨catalog, hfirst⟩ := judged_of_told hready hsink hquiet
      obtain ⟨catalog', hsecond⟩ := judged_of_told hready hsink hquiet'
      exact ⟨sink, catalog, catalog', hready, hsink, hfirst, hsecond⟩
  · exact .inl (loads_commute_of_not_ready hsound (not_exists.1 hready) origin origin')

/-- What two loads exchange: nothing, or the two ids that they give. -/
theorem exchange_ledger {count : Nat} {writer : Writer NameCatalog}
    (hsound : writer.poisoned = false) (hunlimited : writer.Unlimited)
    (hgiven : writer.registry.Given count) (hindependent : Independent first second)
    (origin origin' : Option Origin)
    (hfew : count + writer.idsGiven [.call (.load first origin), .call (.load second origin')] <
      UInt32.size) :
    let f := exchange (writer.ledger [.load first origin, .load second origin'])
    f = id ∨ f = Equiv.swap writer.registry.nextId (writer.registry.nextId + 1) ∧
      writer.idsGiven [.call (.load first origin), .call (.load second origin')] = 2 := by
  intro f
  rcases loads_commute_or_eligible hsound hunlimited hindependent origin origin' with
    ⟨-, hlength⟩ | ⟨sink, catalog, catalog', hready, hsink, hfirst, hsecond⟩
  · exact .inl (exchange_of_length_le_one hlength).1
  · right
    have htwo := idsGiven_of_eligible hready hsink hindependent hfirst hsecond
    obtain ⟨-, -, ⟨entry, other, hledger, hid, hid'⟩, -⟩ := loads_commute_of_eligible hready hsink
      hindependent hgiven (by omega) hfirst hsecond
    refine ⟨?_, htwo⟩
    show exchange (writer.ledger _) = _
    rw [hledger, exchange, hid, hid']

/-- Two loads of independent types give the same answers and the same entries in either order and
leave alike writers, up to the exchange of the two ids that they give, if they give two. -/
theorem loads_commute {count : Nat} {writer : Writer NameCatalog} (hsound : writer.poisoned = false)
    (hunlimited : writer.Unlimited) (hgiven : writer.registry.Given count)
    (hindependent : Independent first second) (origin origin' : Option Origin)
    (hfew : count + writer.idsGiven [.call (.load first origin), .call (.load second origin')] <
      UInt32.size) :
    let forth : List Call := [.load first origin, .load second origin']
    let back : List Call := [.load second origin', .load first origin]
    let f := exchange (writer.ledger forth)
    writer.replies back = ((writer.replies forth).map (Reply.rename f)).reverse ∧
      writer.ledger back = ((writer.ledger forth).map (Entry.rename f)).reverse ∧
      Alike f (writer.after forth) (writer.after back) := by
  intro forth back f
  rcases loads_commute_or_eligible hsound hunlimited hindependent origin origin' with
    ⟨hsame, hlength⟩ | ⟨sink, catalog, catalog', hready, hsink, hfirst, hsecond⟩
  · obtain ⟨hid, hreverse⟩ : f = id ∧ _ := exchange_of_length_le_one hlength
    rw [hid, hsame.after, hsame.replies, hsame.ledger]
    refine ⟨?_, ?_, ?_⟩
    · rw [reply_rename_id, List.map_id]
    · rw [entry_rename_id, List.map_id, hreverse]
    · exact alike_refl ((hunlimited.call (.load first origin)).call (.load second origin'))
  · have htwo := idsGiven_of_eligible hready hsink hindependent hfirst hsecond
    obtain ⟨hreplies, hledger, ⟨entry, other, hentries, hid, hid'⟩, halike⟩ :=
      loads_commute_of_eligible hready hsink hindependent hgiven (by omega) hfirst hsecond
    have hf : f = Equiv.swap writer.registry.nextId (writer.registry.nextId + 1) := by
      show exchange (writer.ledger _) = _
      rw [hentries, exchange, hid, hid']
    rw [hf]
    exact ⟨hreplies, hledger, halike⟩

/-! ## What is called after them -/

/-- In a run, the next id keeps its name when two ids are exchanged that were given before. -/
theorem swap_nextId_after {count : Nat} {writer : Writer NameCatalog}
    (hgiven : writer.registry.Given count) {forth later front : List Call}
    (htwo : writer.idsGiven (forth.map .call) = 2)
    (hfew : count + writer.idsGiven ((forth ++ later).map .call) < UInt32.size)
    (hfront : front <+: later) :
    Equiv.swap writer.registry.nextId (writer.registry.nextId + 1)
        ((writer.after forth).after front).registry.nextId =
      ((writer.after forth).after front).registry.nextId := by
  obtain ⟨rest, rfl⟩ := hfront
  have hafter : ((writer.after forth).after front).registry.Given
      (count + writer.idsGiven ((forth ++ front).map .call)) := by
    rw [← after_append, ← performAll_map_call]
    exact given_performAll hgiven _
  have hcount : 2 ≤ writer.idsGiven ((forth ++ front).map .call) := by
    rw [List.map_append, idsGiven_append, htwo]
    exact Nat.le_add_right 2 _
  have hbound : writer.idsGiven ((forth ++ front).map .call) ≤
      writer.idsGiven ((forth ++ (front ++ rest)).map .call) := by
    have hsplit : (forth ++ (front ++ rest)).map Operation.call =
        (forth ++ front).map .call ++ rest.map .call := by
      rw [← List.append_assoc, List.map_append]
    rw [hsplit, idsGiven_append]
    exact Nat.le_add_right _ _
  rw [hafter.nextId, hgiven.nextId]
  exact Registry.swap_ofNat (by omega) (by omega) (.inr (by omega))

/-- What is called after two loads of independent types is answered in the same way in either order,
and the same is recorded, up to the exchange of the ids that the two give. -/
theorem calls_after_loads {count : Nat} {writer : Writer NameCatalog}
    (hsound : writer.poisoned = false) (hunlimited : writer.Unlimited)
    (hgiven : writer.registry.Given count) (hindependent : Independent first second)
    (origin origin' : Option Origin) (later : List Call)
    (hfew : count + writer.idsGiven
      (([Call.load first origin, .load second origin'] ++ later).map .call) < UInt32.size) :
    let forth : List Call := [.load first origin, .load second origin']
    let back : List Call := [.load second origin', .load first origin]
    let f := exchange (writer.ledger forth)
    let left := writer.after forth
    let right := writer.after back
    writer.replies back = ((writer.replies forth).map (Reply.rename f)).reverse ∧
      writer.ledger back = ((writer.ledger forth).map (Entry.rename f)).reverse ∧
      Alike f left right ∧
      right.replies later = (left.replies later).map (Reply.rename f) ∧
      right.ledger later = (left.ledger later).map (Entry.rename f) := by
  intro forth back f left right
  have hpair : count + writer.idsGiven (forth.map .call) < UInt32.size := by
    rw [List.map_append, idsGiven_append, ← Nat.add_assoc] at hfew
    exact Nat.lt_of_le_of_lt (Nat.le_add_right _ _) hfew
  obtain ⟨hreplies, hledger, halike⟩ :=
    loads_commute hsound hunlimited hgiven hindependent origin origin' hpair
  have hnext : ∀ front, front <+: later →
      f (left.after front).registry.nextId = (left.after front).registry.nextId := by
    intro front hfront
    rcases exchange_ledger hsound hunlimited hgiven hindependent origin origin' hpair with
      hid | ⟨hswap, htwo⟩
    · show exchange (writer.ledger forth) _ = _
      rw [hid]
      rfl
    · show exchange (writer.ledger forth) _ = _
      rw [hswap]
      exact swap_nextId_after hgiven htwo hfew hfront
  obtain ⟨hlaterReplies, hlaterLedger, -⟩ := halike.run later hnext
  exact ⟨hreplies, hledger, halike, hlaterReplies, hlaterLedger⟩

/-- **Independent events commute.** A new writer with a catalog of names does anything over outputs
without limits. Then two loads of independent types give the same answers in either order and record
the same entries, up to the exchange of the two ids if both types are recorded. The catalog, the types
that hold ids, the flag and the next id are the same after them, and all later calls are answered in
the same way and record the same entries, up to the same exchange, as long as there are ids left. An
unload and the load of a type that it does not concern can be exchanged as they are. In any case the
outputs get the lines of the entries that are recorded, and nothing else. -/
theorem independent_events_commute (config : Config) (catalog : NameCatalog)
    (operations : List Operation) (hunlimited : ∀ operation ∈ operations, operation.Unlimited) :
    let new : Writer NameCatalog := { config, catalog }
    let writer := new.performAll operations
    writer.poisoned = false ∧
    (∀ first second origin origin' later, Independent first second →
      let forth : List Call := [.load first origin, .load second origin']
      let back : List Call := [.load second origin', .load first origin]
      new.idsGiven (operations ++ (forth ++ later).map .call) < UInt32.size →
      let f := exchange (writer.ledger forth)
      let left := writer.after forth
      let right := writer.after back
      writer.replies back = ((writer.replies forth).map (Reply.rename f)).reverse ∧
      writer.ledger back = ((writer.ledger forth).map (Entry.rename f)).reverse ∧
      right.catalog = left.catalog ∧ right.registry.hasId = left.registry.hasId ∧
      right.enabled = left.enabled ∧ right.registry.nextId = left.registry.nextId ∧
      right.replies later = (left.replies later).map (Reply.rename f) ∧
      right.ledger later = (left.ledger later).map (Entry.rename f)) ∧
    (∀ type origin identity, type.identity ≠ identity → identity ∉ type.dependencies →
      let forth : List Call := [.load type origin, .unload identity]
      let back : List Call := [.unload identity, .load type origin]
      writer.replies back = (writer.replies forth).reverse ∧
      writer.ledger back = writer.ledger forth ∧ writer.after back = writer.after forth) ∧
    ∀ calls, (writer.after calls).contents.flatten =
      writer.contents.flatten ++ lineBytes (writer.ledger calls) := by
  intro new writer
  have hsound : writer.poisoned = false :=
    poisoned_performAll NameCatalog.answers config catalog operations
  have hwriter : writer.Unlimited := unlimited_performAll config catalog operations hunlimited
  have hgiven : writer.registry.Given (0 + new.idsGiven operations) :=
    given_performAll Registry.given_new operations
  refine ⟨hsound, ?_, ?_, flatten_contents_after hwriter⟩
  · intro first second origin origin' later hindependent forth back hfew f left right
    have hfew' : 0 + new.idsGiven operations + writer.idsGiven ((forth ++ later).map .call) <
        UInt32.size := by
      rw [Nat.zero_add]
      rwa [idsGiven_append] at hfew
    obtain ⟨hreplies, hledger, halike, hlaterReplies, hlaterLedger⟩ :=
      calls_after_loads hsound hwriter hgiven hindependent origin origin' later hfew'
    refine ⟨hreplies, hledger, halike.catalog, ?_, halike.enabled, ?_, hlaterReplies,
      hlaterLedger⟩
    · rw [halike.registry, Registry.hasId_rename]
    · rw [halike.registry, Registry.nextId_rename]
  · intro type origin identity hne hneeded forth back
    have hsame := unload_and_load_commute hne hneeded origin writer
    exact ⟨hsame.replies, hsame.ledger, hsame.after⟩

/-- Two new types exchange their ids when they come in the other order, and a type that comes later
refers to its super type under the id that this one got. -/
theorem independent_events_commute_of_new_types :
    let sink := (Sink.start ⟨[]⟩ { medium := {} } none).state
    let object := LoadedType.plain ⟨1⟩ "Object" .builtin
    let string := LoadedType.plain ⟨2⟩ "String" .builtin
    let main := (LoadedType.plain ⟨3⟩ "Main" .userDefined).withSuper ⟨1⟩
    let new : Writer NameCatalog := { config := {}, catalog := {} }
    let forth : List Call := [.load object none, .load string none]
    let back : List Call := [.load string none, .load object none]
    let later : List Call := [.load main (some { source := some "file:/app.jar" })]
    ∃ hopen : sink.isOpen = true,
      let writer := new.performAll [.attach sink hopen]
      Independent object string ∧
      new.idsGiven ([.attach sink hopen] ++ (forth ++ later).map .call) < UInt32.size ∧
      (writer.ledger forth).map (·.id) = [0, 1] ∧
      ((writer.after forth).ledger later).map (·.dependencies) = [[0]] ∧
      ((writer.after back).ledger later).map (·.dependencies) = [[1]] := by
  intro sink object string main new forth back later
  have hindependent : Independent object string := by
    constructor <;> decide
  have hrun : ∃ hopen : sink.isOpen = true,
      let writer := new.performAll [.attach sink hopen]
      new.idsGiven ([.attach sink hopen] ++ (forth ++ later).map .call) < UInt32.size ∧
      (writer.ledger forth).map (·.id) = [0, 1] ∧
      ((writer.after forth).ledger later).map (·.dependencies) = [[0]] ∧
      (((writer.after forth).ledger later).map (Entry.rename (exchange (writer.ledger forth)))).map
        (·.dependencies) = [[1]] := by
    decide +kernel
  obtain ⟨hopen, hfew, hids, hleft, hrenamed⟩ := hrun
  have hunlimited : ∀ operation ∈ [Operation.attach sink hopen], operation.Unlimited := by
    intro operation hmem
    obtain rfl := List.mem_singleton.1 hmem
    show sink.output.medium.Unlimited
    rw [(Sink.path_start ⟨[]⟩ _ none).2]
    exact ⟨rfl, by decide, rfl⟩
  obtain ⟨-, hpairs, -⟩ := independent_events_commute {} ({} : NameCatalog) _ hunlimited
  obtain ⟨-, -, -, -, -, -, -, hledger⟩ :=
    hpairs object string none none later hindependent hfew
  refine ⟨hopen, hindependent, hfew, hids, hleft, ?_⟩
  rw [hledger]
  exact hrenamed

end LoadOrder.Writer
