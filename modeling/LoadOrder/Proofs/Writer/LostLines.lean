/-
# Ids without lines

A type gets its id before its line is written, and keeps it when the writing fails. The writer gives
up then, so this happens to one type at most, and until that type is unloaded the registry knows of an
id under which there is no line.

Main statements:
- `LosesLine.lost`: what a load does that loses its line;
- `Accounts.call`: the registry and the chronicle differ in one type at most, call by call;
- `ids_have_lines_iff`: when every id has its line.
-/
import LoadOrder.Proofs.Writer.References
import Mathlib.Data.List.Induction

namespace LoadOrder.Writer

variable {σ : Type}

/-! ## Loads that lose a line -/

/-- The load of an eligible type fails when its line is written. -/
def LosesLine [Catalog σ] (writer : Writer σ) (type : LoadedType) (origin : Option Origin) : Prop :=
  ∃ sink catalog error, writer.Ready sink ∧ writer.Judged type origin .eligible catalog ∧
    (sink.writeLine (writer.entryOf type origin).line).result = .error error

/-- The registry after an eligible type was given its id and its line was handed to the sink. -/
theorem registry_written [Catalog σ] {writer : Writer σ} {type : LoadedType}
    {origin : Option Origin} {catalog : σ} (h : writer.Judged type origin .eligible catalog)
    (sink : Sink) :
    (writer.written type origin sink catalog).registry =
      (writer.registry.assign type.identity).2 :=
  congrArg Prod.snd (entryFor_of_hasId writer.config.pathStyle origin h.1
    (Eligibility.hasId_of_eligible h.2))

/-- A load that loses its line: the type, which held no id, has got one, and the writer is closed. -/
structure Lost (type : LoadedType) (writer : Writer σ) (e : Effect (Writer σ) Outcome) : Prop where
  wasReady : ∃ sink, writer.Ready sink
  result : e.result = .disabled
  isNew : writer.registry.idOf type.identity = none
  registry : e.state.registry = (writer.registry.assign type.identity).2
  sink : e.state.sink = none
  enabled : e.state.enabled = false
  poisoned : e.state.poisoned = false

/-- What a load does that loses its line. -/
theorem LosesLine.lost [Catalog σ] {writer : Writer σ} {type : LoadedType} {origin : Option Origin}
    (h : writer.LosesLine type origin) : Lost type writer (writer.load type origin) := by
  obtain ⟨sink, catalog, error, hready, hjudged, hwritten⟩ := h
  have hload : writer.load type origin = (writer.withCatalog catalog).record type origin sink :=
    load_of_ready hready hjudged.1 origin hjudged.2
  rw [record_of_error hwritten] at hload
  have hresult : (writer.load type origin).result = .disabled := by rw [hload]
  have hstate : (writer.load type origin).state =
      (writer.written type origin sink catalog).close.state := by rw [hload]
  rw [state_close] at hstate
  constructor
  case wasReady => exact ⟨sink, hready⟩
  case result => exact hresult
  case isNew => exact hjudged.1
  case registry =>
    rw [hstate]
    exact registry_written hjudged sink
  case poisoned =>
    rw [hstate]
    exact hready.poisoned
  case sink | enabled => rw [hstate]

/-- The type that lost its line held no id before. -/
theorem Lost.idOf_before {type : LoadedType} {writer : Writer σ} {e : Effect (Writer σ) Outcome}
    (h : Lost type writer e) : writer.idOf type.identity = none := by
  obtain ⟨sink, hready⟩ := h.wasReady
  rw [idOf, hready.poisoned]
  exact h.isNew

/-- The type that lost its line holds the next id, and the others hold what they held. -/
theorem Lost.idOf {type : LoadedType} {writer : Writer σ} {e : Effect (Writer σ) Outcome}
    (h : Lost type writer e) (identity : TypeIdentity) :
    e.state.idOf identity =
      if identity = type.identity then some writer.registry.nextId else writer.idOf identity := by
  obtain ⟨sink, hready⟩ := h.wasReady
  rw [Writer.idOf, Writer.idOf, h.poisoned, hready.poisoned, h.registry]
  by_cases heq : identity = type.identity
  · simp [heq, (Registry.assign_of_idOf_none h.isNew).1]
  · simp [heq]

/-- The type that lost its line is counted. -/
theorem Lost.live {type : LoadedType} {writer : Writer σ} {e : Effect (Writer σ) Outcome}
    (h : Lost type writer e) : e.state.live = writer.live + 1 := by
  obtain ⟨sink, hready⟩ := h.wasReady
  rw [Writer.live, Writer.live, h.poisoned, hready.poisoned, h.registry]
  exact Registry.size_assign_of_idOf_none h.isNew

/-- A writer that can record answers a load as disabled only if it loses the line. -/
theorem losesLine_of_disabled [Catalog σ] {writer : Writer σ} {sink : Sink}
    (hready : writer.Ready sink) {type : LoadedType} {origin : Option Origin}
    (h : (writer.load type origin).result = .disabled) : writer.LosesLine type origin := by
  have hloads := loads_load type origin writer
  rw [h] at hloads
  generalize (writer.load type origin).state = after at hloads
  cases hloads with
  | off h => simp [hready.enabled] at h
  | refused _ h => simp [hready.poisoned] at h
  | sinkless h => simp [hready.sink_eq] at h
  | imageless _ _ h => simp [hready.hasRuntimeImage] at h
  | failed sink hready catalog hjudged error hwritten =>
    exact ⟨sink, catalog, error, hready, hjudged, hwritten⟩

/-- A type that is left without a line during calls: its line was lost, and it was not unloaded after
that. -/
def Unwritten [Catalog σ] (writer : Writer σ) (calls : List Call) (identity : TypeIdentity) : Prop :=
  ∃ front type origin back, calls = front ++ .load type origin :: back ∧
    type.identity = identity ∧ (writer.after front).LosesLine type origin ∧
    .unload identity ∉ back

/-- Without calls no line is lost. -/
@[simp] theorem not_unwritten_nil [Catalog σ] (writer : Writer σ) (identity : TypeIdentity) :
    ¬ writer.Unwritten [] identity := by
  rintro ⟨front, type, origin, back, heq, -⟩
  simp at heq

/-- The line of a type is lost in the last call, or it was lost before and the last call does not
unload the type. -/
theorem unwritten_concat_iff [Catalog σ] (writer : Writer σ) (calls : List Call) (call : Call)
    (identity : TypeIdentity) :
    writer.Unwritten (calls ++ [call]) identity ↔
      (∃ type origin, call = .load type origin ∧ type.identity = identity ∧
        (writer.after calls).LosesLine type origin) ∨
      writer.Unwritten calls identity ∧ call ≠ .unload identity := by
  constructor
  · rintro ⟨front, type, origin, back, heq, hidentity, hloses, hback⟩
    rcases concat_eq_append_cons_iff.1 heq with ⟨rfl, rfl, rfl⟩ | ⟨rest, rfl, rfl⟩
    · exact .inl ⟨type, origin, rfl, hidentity, hloses⟩
    · right
      rw [List.mem_append, not_or, List.mem_singleton] at hback
      exact ⟨⟨front, type, origin, rest, rfl, hidentity, hloses, hback.1⟩, Ne.symm hback.2⟩
  · rintro (⟨type, origin, rfl, hidentity, hloses⟩ |
      ⟨⟨front, type, origin, back, rfl, hidentity, hloses, hback⟩, hcall⟩)
    · exact ⟨calls, type, origin, [], rfl, hidentity, hloses, List.not_mem_nil⟩
    · refine ⟨front, type, origin, back ++ [call], by simp, hidentity, hloses, ?_⟩
      rw [List.mem_append, not_or, List.mem_singleton]
      exact ⟨hback, Ne.symm hcall⟩

/-! ## One step of a run -/

/-- A registry that knows what the chronicle tells, but for the type whose line was lost, if there is
one. That type holds the id that its line would have had, and the writer has given up. -/
structure Accounts (chronicle : List Happening) (lost : Option TypeIdentity) (writer : Writer σ) :
    Prop where
  idOf : ∀ identity, writer.registry.idOf identity =
    if lost = some identity then some (UInt32.ofNat (entriesIn chronicle).length)
    else currentId chronicle identity
  unlisted : ∀ identity, lost = some identity → currentId chronicle identity = none
  size : writer.registry.size ≤ (entriesIn chronicle).length + lost.toList.length
  stopped : lost.isSome = true → writer.enabled = false ∧ writer.poisoned = false

/-- Nothing but the registry counts while the writer has not given up. -/
theorem Accounts.congr {chronicle : List Happening} {writer other : Writer σ}
    (h : Accounts chronicle none writer) (hregistry : other.registry = writer.registry) :
    Accounts chronicle none other := by
  refine ⟨?_, h.unlisted, ?_, by simp⟩
  · rw [hregistry]
    exact h.idOf
  · rw [hregistry]
    exact h.size

/-- A writer that can still record has lost no line. -/
theorem Accounts.eq_none {chronicle : List Happening} {lost : Option TypeIdentity}
    {writer : Writer σ} (h : Accounts chronicle lost writer) (henabled : writer.enabled = true) :
    lost = none := by
  cases lost with
  | none => rfl
  | some identity =>
    have hstopped := (h.stopped rfl).1
    rw [henabled] at hstopped
    simp at hstopped

/-- Closing changes no id. -/
theorem Accounts.close {chronicle : List Happening} {lost : Option TypeIdentity}
    {writer : Writer σ} (h : Accounts chronicle lost writer) :
    Accounts chronicle lost writer.close.state := by
  rw [state_close]
  exact ⟨h.idOf, h.unlisted, h.size, fun hlost => ⟨rfl, (h.stopped hlost).2⟩⟩

/-- Once the type whose line was lost is unloaded, the registry and the chronicle agree again. -/
theorem Accounts.unload_lost {chronicle : List Happening} {identity : TypeIdentity}
    {writer : Writer σ} (h : Accounts chronicle (some identity) writer) :
    Accounts (chronicle ++ [.unloaded identity]) none (writer.unload identity).state := by
  have hid := h.idOf identity
  rw [if_pos rfl] at hid
  refine ⟨?_, by simp, ?_, by simp⟩
  · intro other
    show (writer.registry.forget identity).idOf other = currentId _ other
    by_cases heq : other = identity
    · simp [heq]
    · simp [heq, Ne.symm heq, h.idOf]
  · show (writer.registry.forget identity).size ≤ _
    rw [Registry.size_forget_of_idOf hid, entriesIn_concat_unloaded]
    have hsize := h.size
    rw [Option.toList_some, List.length_singleton] at hsize
    exact Nat.sub_le_of_le_add hsize

/-- Unloading any other type changes nothing about the one whose line was lost. -/
theorem Accounts.unload_of_ne {chronicle : List Happening} {lost : Option TypeIdentity}
    {writer : Writer σ} (h : Accounts chronicle lost writer) {identity : TypeIdentity}
    (hne : lost ≠ some identity) :
    Accounts (chronicle ++ [.unloaded identity]) lost (writer.unload identity).state := by
  constructor
  case idOf =>
    intro other
    show (writer.registry.forget identity).idOf other = _
    by_cases heq : other = identity
    · simp [heq, hne]
    · simp [heq, h.idOf]
  case unlisted =>
    intro other hother
    simp [h.unlisted other hother]
  case size =>
    rw [entriesIn_concat_unloaded]
    exact Nat.le_trans (Registry.size_forget_le writer.registry identity) h.size
  case stopped => exact h.stopped

/-- A type that is recorded holds the id of its line. -/
theorem Accounts.recorded [Catalog σ] {chronicle : List Happening} {writer : Writer σ} {sink : Sink}
    {type : LoadedType} {origin : Option Origin} {catalog : σ}
    (h : Accounts chronicle none writer) (hfollows : Follows chronicle writer.registry)
    (hjudged : writer.Judged type origin .eligible catalog) :
    Accounts (chronicle ++ [.recorded type (writer.entryOf type origin)]) none
      (writer.written type origin sink catalog) := by
  have hrefers := (refers_entryOf hfollows hjudged).1
  have hrecord := hfollows.record hjudged.1 (hrefers.id.trans hfollows.nextId.symm)
  refine ⟨?_, by simp, ?_, by simp⟩
  · intro identity
    rw [registry_written hjudged, hrecord.idOf]
    rfl
  · rw [registry_written hjudged, Registry.size_assign_of_idOf_none hjudged.1, entriesIn_concat_recorded,
      List.length_append]
    exact Nat.add_le_add_right h.size 1

/-- A type whose line is lost holds the next id without one. -/
theorem Accounts.lost {chronicle : List Happening} {writer : Writer σ} {type : LoadedType}
    {e : Effect (Writer σ) Outcome} (h : Accounts chronicle none writer)
    (hfollows : Follows chronicle writer.registry) (hlost : Lost type writer e) :
    Accounts chronicle (some type.identity) e.state := by
  constructor
  case idOf =>
    intro identity
    rw [hlost.registry]
    by_cases heq : type.identity = identity
    · simp [heq, ← hfollows.nextId, (Registry.assign_of_idOf_none (heq ▸ hlost.isNew)).1]
    · simp [heq, Ne.symm heq, hfollows.idOf]
  case unlisted =>
    intro identity hidentity
    rw [← Option.some.inj hidentity, ← hfollows.idOf]
    exact hlost.isNew
  case size =>
    rw [hlost.registry, Registry.size_assign_of_idOf_none hlost.isNew]
    exact Nat.add_le_add_right h.size 1
  case stopped => exact fun _ => ⟨hlost.enabled, hlost.poisoned⟩

/-- Every load leaves the registry and the chronicle in agreement but for a line that it loses. -/
theorem Accounts.load [Catalog σ] {chronicle : List Happening} {lost : Option TypeIdentity}
    {writer : Writer σ} (h : Accounts chronicle lost writer) (horderly : Orderly chronicle writer)
    (type : LoadedType) (origin : Option Origin) (hkeeps : ¬ writer.LosesLine type origin) :
    Accounts (chronicle ++ (writer.happening (.load type origin)).toList) lost
      (writer.load type origin).state := by
  have hloads := loads_load type origin writer
  rw [happening]
  generalize (writer.load type origin).state = after at hloads ⊢
  generalize (writer.load type origin).result = outcome at hloads ⊢
  cases hloads with
  | off | sinkless => simpa using h
  | refused henabled =>
    obtain rfl := h.eq_none henabled
    simp only [told, Option.toList_none, List.append_nil]
    exact h.congr rfl
  | rejected sink hready | interrupted sink hready =>
    obtain rfl := h.eq_none hready.enabled
    simp only [told, Option.toList_none, List.append_nil]
    exact h.congr rfl
  | imageless => simpa using h.close
  | known sink hready id hid => simpa [told_of_known hready hid] using h
  | recorded sink hready catalog hjudged hwritten =>
    obtain rfl := h.eq_none hready.enabled
    rw [told_of_judged hready hjudged, Option.toList_some]
    exact h.recorded (horderly.follows sink hready.sink_eq) hjudged
  | failed sink hready catalog hjudged error hwritten =>
    exact absurd ⟨sink, catalog, error, hready, hjudged, hwritten⟩ hkeeps

/-- After any call there is again at most one type without its line: the one that has just lost it,
or the one from before if it was not unloaded. -/
theorem Accounts.call [Catalog σ] {chronicle : List Happening} {lost : Option TypeIdentity}
    {writer : Writer σ} (h : Accounts chronicle lost writer) (horderly : Orderly chronicle writer)
    (call : Call) :
    ∃ lost', (∀ identity, lost' = some identity ↔
        (∃ type origin, call = .load type origin ∧ type.identity = identity ∧
          writer.LosesLine type origin) ∨ lost = some identity ∧ call ≠ .unload identity) ∧
      Accounts (chronicle ++ (writer.happening call).toList) lost' (writer.call call).state := by
  cases call with
  | load type origin =>
    by_cases hloses : writer.LosesLine type origin
    · have hlost := hloses.lost
      obtain ⟨sink, hready⟩ := hlost.wasReady
      obtain rfl := h.eq_none hready.enabled
      refine ⟨some type.identity, ?_, ?_⟩
      · intro identity
        constructor
        · intro heq
          exact .inl ⟨type, origin, rfl, Option.some.inj heq, hloses⟩
        · rintro (⟨type, origin, heq, hidentity, -⟩ | ⟨heq, -⟩)
          · obtain ⟨rfl, -⟩ := Call.load.inj heq
            rw [hidentity]
          · simp at heq
      · rw [happening, hlost.result, show writer.told type origin .disabled = none from rfl,
          Option.toList_none, List.append_nil]
        exact h.lost (horderly.follows sink hready.sink_eq) hlost
    · refine ⟨lost, ?_, h.load horderly type origin hloses⟩
      intro identity
      constructor
      · intro heq
        exact .inr ⟨heq, by simp⟩
      · rintro (⟨type, origin, heq, -, hloses'⟩ | ⟨heq, -⟩)
        · obtain ⟨rfl, rfl⟩ := Call.load.inj heq
          exact absurd hloses' hloses
        · exact heq
  | unload identity =>
    by_cases heq : lost = some identity
    · subst heq
      exact ⟨none, by simp, h.unload_lost⟩
    · refine ⟨lost, ?_, h.unload_of_ne heq⟩
      intro other
      constructor
      · intro hother
        refine .inr ⟨hother, ?_⟩
        rintro hsame
        rw [hother, Call.unload.inj hsame] at heq
        exact heq rfl
      · rintro (⟨type, origin, hcall, -⟩ | ⟨hother, -⟩)
        · simp at hcall
        · exact hother
  | close =>
    refine ⟨lost, by simp, ?_⟩
    simpa [happening, Writer.call] using h.close
  | idOf | live | outputPath | isEnabled =>
    refine ⟨lost, by simp, ?_⟩
    simpa [happening, Writer.call] using h

/-! ## Runs -/

/-- Throughout a run of a new writer, the registry and the chronicle differ in the type that is left
without its line, if there is one, and in no other. -/
theorem accounts_after [Catalog σ] (config : Config) (catalog : σ) (path : FilePath)
    (medium : Medium) (place : Option Location) (calls : List Call) :
    let writer := begun config catalog path medium place
    ∃ lost, (∀ identity, writer.Unwritten calls identity ↔ lost = some identity) ∧
      Accounts (writer.chronicle calls) lost (writer.after calls) := by
  intro writer
  induction calls using List.reverseRecOn with
  | nil =>
    refine ⟨none, by simp, ?_⟩
    have hfollows := (orderly_begun config catalog path medium place).follows _ rfl
    exact ⟨hfollows.idOf, by simp, Nat.le_refl 0, by simp⟩
  | append_singleton calls call ih =>
    obtain ⟨lost, hlost, haccounts⟩ := ih
    obtain ⟨lost', hlost', haccounts'⟩ :=
      haccounts.call (orderly_after config catalog path medium place calls) call
    refine ⟨lost', ?_, ?_⟩
    · intro identity
      rw [unwritten_concat_iff, hlost, hlost']
    · rw [chronicle_append, after_append]
      simpa [Writer.chronicle, after] using haccounts'

/-- If no type is left without its line, every id has its line and there are as many lines as ids at
least. -/
theorem Accounts.ids_have_lines {chronicle : List Happening} {writer : Writer σ}
    (h : Accounts chronicle none writer) :
    (∀ identity id, writer.idOf identity = some id →
      ∃ type entry, .recorded type entry ∈ chronicle ∧ type.identity = identity ∧ entry.id = id ∧
        currentEntry chronicle identity = some entry) ∧
    writer.live ≤ (entriesIn chronicle).length := by
  constructor
  · intro identity id hid
    rw [Writer.idOf, Option.ite_none_left_eq_some, h.idOf, if_neg (by simp)] at hid
    obtain ⟨entry, hentry, hentryId⟩ := Option.map_eq_some_iff.1 hid.2
    obtain ⟨type, hmem, hidentity⟩ := recorded_of_currentEntry hentry
    exact ⟨type, entry, hmem, hidentity, hentryId, hentry⟩
  · rw [live]
    split
    · exact Nat.zero_le _
    · exact h.size

/-- A type that is left without its line holds an id. -/
theorem Accounts.id_without_line {chronicle : List Happening} {identity : TypeIdentity}
    {writer : Writer σ} (h : Accounts chronicle (some identity) writer) :
    (∃ id, writer.idOf identity = some id) ∧ currentEntry chronicle identity = none := by
  constructor
  · refine ⟨UInt32.ofNat (entriesIn chronicle).length, ?_⟩
    rw [Writer.idOf, (h.stopped rfl).2]
    exact (h.idOf identity).trans (if_pos rfl)
  · exact Option.map_eq_none_iff.1 (h.unlisted identity rfl)

/-- **Ids and lines.** In a run of a new writer with one sink, over an output that may fail at any
byte or flush, every type that holds an id got its last line under that id, and the writer counts no
more types than there are lines, exactly if no type is left without its line: there was no load whose
line was lost, or its type was unloaded since. A load that loses its line is answered as disabled and
gives its type, and no other, the id that the line would have had. -/
theorem ids_have_lines_iff [Catalog σ] (config : Config) (catalog : σ) (path : FilePath)
    (medium : Medium) (place : Option Location) (calls : List Call) :
    let writer := begun config catalog path medium place
    let reached := writer.after calls
    ((∀ identity id, reached.idOf identity = some id →
        ∃ type entry, .recorded type entry ∈ writer.chronicle calls ∧ type.identity = identity ∧
          entry.id = id ∧ currentEntry (writer.chronicle calls) identity = some entry) ∧
      reached.live ≤ (writer.ledger calls).length ↔
        ∀ identity, ¬ writer.Unwritten calls identity) ∧
    ∀ type origin, reached.LosesLine type origin →
      let e := reached.load type origin
      e.result = .disabled ∧ e.state.live = reached.live + 1 ∧
        reached.idOf type.identity = none ∧
        ∀ identity, e.state.idOf identity =
          if identity = type.identity then some (UInt32.ofNat (writer.ledger calls).length)
          else reached.idOf identity := by
  intro writer reached
  obtain ⟨lost, hlost, haccounts⟩ := accounts_after config catalog path medium place calls
  have horderly : Orderly (writer.chronicle calls) reached :=
    orderly_after config catalog path medium place calls
  refine ⟨⟨?_, ?_⟩, ?_⟩
  · rintro ⟨hids, -⟩ identity hunwritten
    obtain rfl : lost = some identity := (hlost identity).1 hunwritten
    obtain ⟨⟨id, hid⟩, hnone⟩ := haccounts.id_without_line
    obtain ⟨type, entry, -, -, -, hentry⟩ := hids identity id hid
    rw [hnone] at hentry
    simp at hentry
  · intro hnone
    obtain rfl : lost = none := by
      cases lost with
      | none => rfl
      | some identity => exact absurd ((hlost identity).2 rfl) (hnone identity)
    exact haccounts.ids_have_lines
  · intro type origin hloses
    have hlost := hloses.lost
    obtain ⟨sink, hready⟩ := hlost.wasReady
    have hnext := (horderly.follows sink hready.sink_eq).nextId
    refine ⟨hlost.result, hlost.live, hlost.idOf_before, ?_⟩
    intro identity
    rw [hlost.idOf, hnext]
    rfl

/-- The second line does not fit into the output any more, and its type has an id all the same. -/
theorem id_remains_of_lost_line :
    let first := LoadedType.plain ⟨1⟩ "A" .builtin
    let second := LoadedType.plain ⟨2⟩ "SomeLongerName" .builtin
    let room := (Utf8.encode Manifest.headerText).length + 12
    let writer := begun {} ({} : NameCatalog) ⟨[]⟩ { capacity := some room } none
    let before := writer.after [.load first none]
    let e := before.load second none
    before.idOf ⟨2⟩ = none ∧ before.live = 1 ∧ e.result = .disabled ∧
    e.state.idOf ⟨2⟩ = some 1 ∧ e.state.live = 2 ∧
    writer.ledger [.load first none, .load second none] = [{ name := "A", id := 0 }] := by
  decide +kernel

end LoadOrder.Writer
