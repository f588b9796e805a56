/-
# Ids and references

Ids are handed out one after the other, and only to types that get a line. A line refers to the
lines of the super type and the interfaces of its type, each under the id that it was given last.
Types may be unloaded and come back in between, under another id.

Main statements:
- `entryFor_of_hasId`: making an entry gives an id to its own type alone;
- `Follows.unload`, `Follows.record`: the registry knows what the chronicle tells;
- `ids_and_references_are_sound`: ids, references and order of the lines after any calls.
-/
import LoadOrder.Proofs.Eligibility
import LoadOrder.Proofs.Manifest.Order
import LoadOrder.Proofs.Registry
import LoadOrder.Proofs.Writer.Calls

namespace LoadOrder

namespace Writer

variable {σ : Type}

/-- The entry of a new type whose dependencies hold ids. Making it gives an id to the type itself
and to no other. -/
theorem entryFor_of_hasId (style : PathStyle) {registry : Registry} {type : LoadedType}
    (origin : Option Origin) (hnew : registry.idOf type.identity = none)
    (hdependencies : ∀ identity ∈ type.dependencies, registry.hasId identity = true) :
    entryFor style registry type origin =
      (if type.isBuiltin then { name := type.name, id := registry.nextId }
        else
          { name := type.name
            id := registry.nextId
            superId := type.superType.bind registry.idOf
            interfaces := type.interfaces.filterMap registry.idOf
            source := ((Eligibility.address origin).filter Source.hasFileScheme).bind
              (Source.strip style) },
        (registry.assign type.identity).2) := by
  have hsuper : (type.superType.toList.filterMap registry.idOf).head? =
      type.superType.bind registry.idOf := by
    cases type.superType with
    | none => rfl
    | some identity =>
      rw [Option.toList_some, List.filterMap_cons, Option.bind_some]
      cases registry.idOf identity <;> rfl
  have hsuperIds := Registry.assignAll_assign
    (fun other hother => hdependencies other (List.mem_append_left _ hother)) type.identity
  have hinterfaces := Registry.assignAll_assign
    (fun other hother => hdependencies other (List.mem_append_right _ hother)) type.identity
  have hid := (Registry.assign_of_idOf_none hnew).1
  cases hbuiltin : type.isBuiltin with
  | true => simp [entryFor, hbuiltin, hid]
  | false => simp [entryFor, hbuiltin, hid, hsuperIds, hinterfaces, hsuper]

/-! ## What a chronicle says of a type -/

/-- The entry that a chronicle leaves a type with: the last thing that happened to the type was that
it got this entry. -/
def currentEntry (chronicle : List Happening) (identity : TypeIdentity) : Option Entry :=
  (chronicle.reverse.find? fun happening => happening.identity = identity).bind Happening.entry?

/-- The id that a chronicle leaves a type with. -/
def currentId (chronicle : List Happening) (identity : TypeIdentity) : Option RecordId :=
  (currentEntry chronicle identity).map Entry.id

/-- What happens to a type settles its entry, and leaves the other types theirs. -/
@[simp] theorem currentEntry_concat (chronicle : List Happening) (happening : Happening)
    (identity : TypeIdentity) :
    currentEntry (chronicle ++ [happening]) identity =
      if happening.identity = identity then happening.entry?
      else currentEntry chronicle identity := by
  rw [currentEntry, List.reverse_append, List.reverse_singleton, List.singleton_append,
    List.find?_cons]
  by_cases h : happening.identity = identity
  · simp [h]
  · simp [h, currentEntry]

/-- A type that is unloaded has no id any more, and the others keep theirs. -/
@[simp]
theorem currentId_concat_unloaded (chronicle : List Happening) (identity other : TypeIdentity) :
    currentId (chronicle ++ [.unloaded identity]) other =
      if other = identity then none else currentId chronicle other := by
  by_cases heq : other = identity
  · simp [currentId, heq, Happening.identity, Happening.entry?]
  · simp [currentId, heq, Ne.symm heq, Happening.identity]

/-- The entry of a type is one that the type got. -/
theorem recorded_of_currentEntry {chronicle : List Happening} {identity : TypeIdentity}
    {entry : Entry} (h : currentEntry chronicle identity = some entry) :
    ∃ type, .recorded type entry ∈ chronicle ∧ type.identity = identity := by
  obtain ⟨happening, hfind, hentry⟩ := Option.bind_eq_some_iff.1 h
  have hmem := List.mem_reverse.1 (List.mem_of_find?_eq_some hfind)
  have hidentity : happening.identity = identity := by simpa using List.find?_some hfind
  cases happening with
  | unloaded other => simp [Happening.entry?] at hentry
  | recorded type other =>
    obtain rfl : other = entry := Option.some.inj hentry
    exact ⟨type, hmem, hidentity⟩

/-- The entry of a type is one of those in the chronicle. -/
theorem mem_entriesIn_of_currentEntry {chronicle : List Happening} {identity : TypeIdentity}
    {entry : Entry} (h : currentEntry chronicle identity = some entry) :
    entry ∈ entriesIn chronicle := by
  obtain ⟨type, hmem, -⟩ := recorded_of_currentEntry h
  exact List.mem_filterMap.2 ⟨_, hmem, rfl⟩

/-- A registry that knows what a chronicle tells: the types' ids, and how many were given. -/
structure Follows (chronicle : List Happening) (registry : Registry) : Prop where
  nextId : registry.nextId = UInt32.ofNat (entriesIn chronicle).length
  idOf : ∀ identity, registry.idOf identity = currentId chronicle identity

/-- A type that is unloaded is forgotten, and the next id stays as it is. -/
theorem Follows.unload {chronicle : List Happening} {registry : Registry}
    (h : Follows chronicle registry) (identity : TypeIdentity) :
    Follows (chronicle ++ [.unloaded identity]) (registry.forget identity) := by
  constructor
  · simpa using h.nextId
  · intro other
    simp [h.idOf other]

/-- A type that gets its line under the next id is known from then on. -/
theorem Follows.record {chronicle : List Happening} {registry : Registry}
    (h : Follows chronicle registry) {type : LoadedType} {entry : Entry}
    (hnew : registry.idOf type.identity = none) (hid : entry.id = registry.nextId) :
    Follows (chronicle ++ [.recorded type entry]) (registry.assign type.identity).2 := by
  obtain ⟨hassigned, hnext⟩ := Registry.assign_of_idOf_none hnew
  constructor
  · rw [hnext, h.nextId, entriesIn_concat_recorded, List.length_append, List.length_singleton,
      UInt32.ofNat_add]
    rfl
  · intro other
    by_cases heq : other = type.identity
    · simp [currentId, heq, Happening.identity, Happening.entry?, hassigned, hid]
    · simp [currentId, heq, Ne.symm heq, Happening.identity, h.idOf other]

/-! ## References -/

/-- An entry that is made for a type after a chronicle: it has the next id, every type that its type
depends on has an entry then, and unless a builtin loader defined the type it refers to exactly
those entries, in order. -/
structure Refers (chronicle : List Happening) (type : LoadedType) (entry : Entry) : Prop where
  name : entry.name = type.name
  id : entry.id = UInt32.ofNat (entriesIn chronicle).length
  written : ∀ identity ∈ type.dependencies,
    ∃ earlier ∈ entriesIn chronicle, currentEntry chronicle identity = some earlier
  builtin : type.isBuiltin = true → entry = { name := type.name, id := entry.id }
  superId : type.isBuiltin = false →
    entry.superId.map some = type.superType.map (currentId chronicle)
  interfaces : type.isBuiltin = false →
    entry.interfaces.map some = type.interfaces.map (currentId chronicle)

/-- The entry of an eligible new type refers to what the chronicle tells, and making it gives an id
to the type itself and to no other. -/
theorem refers_entryOf [Catalog σ] {chronicle : List Happening} {writer : Writer σ}
    {type : LoadedType} {origin : Option Origin} {catalog : σ}
    (h : Follows chronicle writer.registry)
    (hjudged : writer.Judged type origin .eligible catalog) :
    Refers chronicle type (writer.entryOf type origin) ∧
      (entryFor writer.config.pathStyle writer.registry type origin).2 =
        (writer.registry.assign type.identity).2 := by
  obtain ⟨hnew, hcheck⟩ := hjudged
  have hdependencies := Eligibility.hasId_of_eligible hcheck
  have hentry := entryFor_of_hasId writer.config.pathStyle origin hnew hdependencies
  have hidOf : writer.registry.idOf = currentId chronicle := funext h.idOf
  refine ⟨?_, congrArg Prod.snd hentry⟩
  rw [entryOf, hentry]
  constructor
  case name => cases type.isBuiltin <;> rfl
  case id =>
    rw [← h.nextId]
    cases type.isBuiltin <;> rfl
  case written =>
    intro identity hmem
    have hheld := hdependencies identity hmem
    rw [Registry.hasId, h.idOf, currentId, Option.isSome_map] at hheld
    obtain ⟨earlier, hearlier⟩ := Option.isSome_iff_exists.1 hheld
    exact ⟨earlier, mem_entriesIn_of_currentEntry hearlier, hearlier⟩
  case builtin =>
    intro hbuiltin
    rw [if_pos hbuiltin]
  case superId =>
    intro huser
    rw [huser, ← hidOf]
    cases hsuper : type.superType with
    | none => rfl
    | some identity =>
      have hmem : identity ∈ type.dependencies := by
        apply List.mem_append_left
        rw [hsuper]
        exact List.mem_singleton_self identity
      obtain ⟨id, hid⟩ := Option.isSome_iff_exists.1 (hdependencies identity hmem)
      show Option.map some (writer.registry.idOf identity) = some (writer.registry.idOf identity)
      rw [hid]
      rfl
  case interfaces =>
    intro huser
    rw [huser, ← hidOf]
    apply Registry.map_some_filterMap_idOf
    intro identity hmem
    exact hdependencies identity (List.mem_append_right _ hmem)

/-- Whatever an entry refers to is the id of an earlier entry. -/
theorem Refers.mem_ids {chronicle : List Happening} {type : LoadedType} {entry : Entry}
    (h : Refers chronicle type entry) {id : RecordId} (hid : id ∈ entry.dependencies) :
    id ∈ (entriesIn chronicle).map Entry.id := by
  have hcurrent : ∃ identity, currentId chronicle identity = some id := by
    cases hbuiltin : type.isBuiltin with
    | true =>
      rw [h.builtin hbuiltin] at hid
      simp [Entry.dependencies] at hid
    | false =>
      rcases List.mem_append.1 hid with hsuper | hinterface
      · have hmap := h.superId hbuiltin
        rw [Option.mem_toList.1 hsuper, Option.map_some, eq_comm, Option.map_eq_some_iff] at hmap
        obtain ⟨identity, -, hidentity⟩ := hmap
        exact ⟨identity, hidentity⟩
      · have hmem : some id ∈ entry.interfaces.map some := List.mem_map_of_mem hinterface
        rw [h.interfaces hbuiltin, List.mem_map] at hmem
        obtain ⟨identity, -, hidentity⟩ := hmem
        exact ⟨identity, hidentity⟩
  obtain ⟨identity, hidentity⟩ := hcurrent
  obtain ⟨earlier, hearlier, rfl⟩ := Option.map_eq_some_iff.1 hidentity
  exact List.mem_map_of_mem (mem_entriesIn_of_currentEntry hearlier)

/-! ## One step of a run -/

/-- A writer whose entries have the ids from zero on and are in order, and whose registry knows what
the chronicle tells for as long as there is a sink. -/
structure Orderly (chronicle : List Happening) (writer : Writer σ) : Prop where
  ids : (entriesIn chronicle).map Entry.id =
    (List.range (entriesIn chronicle).length).map UInt32.ofNat
  order : (entriesIn chronicle).length < UInt32.size →
    Manifest.checkOrder (entriesIn chronicle) = .ok ()
  follows : ∀ sink, writer.sink = some sink → Follows chronicle writer.registry

/-- Without a sink nothing is asked of the registry. -/
theorem Orderly.of_sinkless {chronicle : List Happening} {writer other : Writer σ}
    (h : Orderly chronicle writer) (hsink : other.sink = none) : Orderly chronicle other := by
  refine ⟨h.ids, h.order, ?_⟩
  intro sink hsome
  rw [hsink] at hsome
  exact absurd hsome (by simp)

/-- Nothing but sink and registry counts. -/
theorem Orderly.congr {chronicle : List Happening} {writer other : Writer σ}
    (h : Orderly chronicle writer) (hsink : other.sink = writer.sink)
    (hregistry : other.registry = writer.registry) : Orderly chronicle other := by
  refine ⟨h.ids, h.order, ?_⟩
  rw [hsink, hregistry]
  exact h.follows

/-- A type that is unloaded takes no line away. -/
theorem Orderly.unload {chronicle : List Happening} {writer : Writer σ}
    (h : Orderly chronicle writer) (identity : TypeIdentity) :
    Orderly (chronicle ++ [.unloaded identity]) (writer.unload identity).state := by
  constructor
  case ids => simpa using h.ids
  case order => simpa using h.order
  case follows =>
    intro sink hsink
    exact (h.follows sink hsink).unload identity

/-- An entry that refers to earlier ones keeps the order. -/
theorem Refers.checkOrder {chronicle : List Happening} {type : LoadedType} {entry : Entry}
    (h : Refers chronicle type entry)
    (hids : (entriesIn chronicle).map Entry.id =
      (List.range (entriesIn chronicle).length).map UInt32.ofNat)
    (horder : Manifest.checkOrder (entriesIn chronicle) = .ok ())
    (hfew : (entriesIn chronicle).length + 1 < UInt32.size) :
    Manifest.checkOrder (entriesIn chronicle ++ [entry]) = .ok () := by
  refine Manifest.checkOrder_concat horder (Manifest.orderFault_eq_none ?_ ?_)
  · -- as long as there are ids left, a larger number is a larger id
    intro previous hprevious
    have hmem := List.mem_reverse.1 (List.mem_of_mem_head? hprevious)
    rw [hids, List.mem_map] at hmem
    obtain ⟨n, hn, rfl⟩ := hmem
    have hlt := List.mem_range.1 hn
    rw [h.id, UInt32.lt_iff_toNat_lt, UInt32.toNat_ofNat_of_lt' (by omega),
      UInt32.toNat_ofNat_of_lt' (by omega)]
    exact hlt
  · intro id hid
    exact List.mem_reverse.2 (h.mem_ids hid)

/-- A type that is recorded gets the next id, and its line keeps the order. -/
theorem Orderly.recorded [Catalog σ] {chronicle : List Happening} {writer : Writer σ} {sink : Sink}
    {type : LoadedType} {origin : Option Origin} {catalog : σ} (h : Orderly chronicle writer)
    (hready : writer.Ready sink) (hjudged : writer.Judged type origin .eligible catalog) :
    Orderly (chronicle ++ [.recorded type (writer.entryOf type origin)])
      (writer.written type origin sink catalog) := by
  have hfollows := h.follows sink hready.sink_eq
  obtain ⟨hrefers, hregistry⟩ := refers_entryOf hfollows hjudged
  constructor
  case ids =>
    rw [entriesIn_concat_recorded, List.map_append, List.length_append, List.length_singleton,
      List.range_succ, List.map_append, h.ids]
    exact congrArg _ (congrArg (fun id => [id]) hrefers.id)
  case order =>
    rw [entriesIn_concat_recorded, List.length_append, List.length_singleton]
    intro hfew
    exact hrefers.checkOrder h.ids (h.order (by omega)) hfew
  case follows =>
    -- making the entry has given an id to its own type alone
    intro sink' _
    show Follows _ (entryFor writer.config.pathStyle writer.registry type origin).2
    rw [hregistry]
    exact hfollows.record hjudged.1 (hrefers.id.trans hfollows.nextId.symm)

/-- However a load goes, the ids stay in order. -/
theorem Orderly.load [Catalog σ] {chronicle : List Happening} {writer after : Writer σ}
    {type : LoadedType} {origin : Option Origin} {outcome : Outcome}
    (h : Orderly chronicle writer) (hloads : Loads type origin writer outcome after) :
    Orderly (chronicle ++ (writer.told type origin outcome).toList) after := by
  cases hloads with
  | off | sinkless => simpa using h
  | refused | rejected | interrupted =>
    simp only [told, Option.toList_none, List.append_nil]
    exact h.congr rfl rfl
  | imageless =>
    simp only [told, Option.toList_none, List.append_nil]
    exact h.of_sinkless (by simp)
  | known sink hready id hid => simpa [told_of_known hready hid] using h
  | recorded sink hready catalog hjudged hwritten =>
    rw [told_of_judged hready hjudged, Option.toList_some]
    exact h.recorded hready hjudged
  | failed =>
    -- the registry holds an id without a line now, but the sink is gone for good
    simp only [told, Option.toList_none, List.append_nil]
    exact h.of_sinkless (by simp)

/-- Closing takes no line away. -/
theorem Orderly.close {chronicle : List Happening} {writer : Writer σ}
    (h : Orderly chronicle writer) : Orderly chronicle writer.close.state :=
  h.of_sinkless (by simp)

/-! ## Runs -/

/-- A new writer is in order. -/
theorem orderly_begun (config : Config) (catalog : σ) (path : FilePath) (medium : Medium)
    (place : Option Location) : Orderly [] (begun config catalog path medium place) := by
  rw [begun_eq]
  refine ⟨rfl, fun _ => rfl, ?_⟩
  intro sink _
  refine ⟨rfl, ?_⟩
  intro identity
  exact Std.ExtTreeMap.getElem?_empty

/-- A new writer stays in order throughout a run. -/
theorem orderly_after [Catalog σ] (config : Config) (catalog : σ) (path : FilePath)
    (medium : Medium) (place : Option Location) (calls : List Call) :
    let writer := begun config catalog path medium place
    Orderly (writer.chronicle calls) (writer.after calls) := by
  refine run_induction Orderly ?_ ?_ ?_ (orderly_begun config catalog path medium place) calls
  · intro chronicle writer type origin outcome after h hloads
    exact h.load hloads
  · intro chronicle writer identity h
    exact h.unload identity
  · intro chronicle writer h
    exact h.close

/-- What holds of a new writer, and is kept by every load, unload and closing of a writer that is in
order, holds after any calls. -/
theorem orderly_induction [Catalog σ] (Inv : List Happening → Writer σ → Prop)
    (hload : ∀ chronicle writer type origin outcome after, Orderly chronicle writer →
      Inv chronicle writer → Loads type origin writer outcome after →
        Inv (chronicle ++ (writer.told type origin outcome).toList) after)
    (hunload : ∀ chronicle writer identity, Inv chronicle writer →
      Inv (chronicle ++ [.unloaded identity]) (writer.unload identity).state)
    (hclose : ∀ chronicle writer, Inv chronicle writer → Inv chronicle writer.close.state)
    {config : Config} {catalog : σ} {path : FilePath} {medium : Medium} {place : Option Location}
    (hstart : Inv [] (begun config catalog path medium place)) (calls : List Call) :
    let writer := begun config catalog path medium place
    Inv (writer.chronicle calls) (writer.after calls) := by
  have hboth := run_induction (fun chronicle writer => Orderly chronicle writer ∧ Inv chronicle writer)
    ?_ ?_ ?_ ⟨orderly_begun config catalog path medium place, hstart⟩ calls
  · exact hboth.2
  · intro chronicle writer type origin outcome after h hloads
    exact ⟨h.1.load hloads, hload _ _ _ _ _ _ h.1 h.2 hloads⟩
  · intro chronicle writer identity h
    exact ⟨h.1.unload identity, hunload _ _ _ h.2⟩
  · intro chronicle writer h
    exact ⟨h.1.close, hclose _ _ h.2⟩

/-- **Ids and references are sound.** In a run of a new writer with one sink, in which fewer types
get lines than there are ids, the lines are numbered from zero on and in order. A load that is
answered with a new id adds one entry, which has that id and refers to the entries of the types that
its type depends on, as they stand at that moment; and it gives no id to any other type. -/
theorem ids_and_references_are_sound [Catalog σ] (config : Config) (catalog : σ) (path : FilePath)
    (medium : Medium) (place : Option Location) (calls : List Call)
    (hfew : ((begun config catalog path medium place).ledger calls).length < UInt32.size) :
    let writer := begun config catalog path medium place
    (writer.ledger calls).map (fun entry => entry.id.toNat) =
      List.range (writer.ledger calls).length ∧
    Manifest.checkOrder (writer.ledger calls) = .ok () ∧
    ∀ front type origin back id, calls = front ++ .load type origin :: back →
      ((writer.after front).load type origin).result = .recorded id →
      (writer.after front).idOf type.identity = none →
      id.toNat = (writer.ledger front).length ∧
      ∃ entry, entry.id = id ∧
        writer.ledger (front ++ [.load type origin]) = writer.ledger front ++ [entry] ∧
        Refers (writer.chronicle front) type entry ∧
        ((writer.after front).load type origin).state.registry =
          ((writer.after front).registry.assign type.identity).2 := by
  have hcalls := orderly_after config catalog path medium place calls
  have hids := Registry.map_toNat_ids hcalls.ids hfew
  rw [List.map_map] at hids
  refine ⟨hids, hcalls.order hfew, ?_⟩
  intro front type origin back id heq hresult hnew
  have hfront := orderly_after config catalog path medium place front
  generalize begun config catalog path medium place = writer at *
  obtain ⟨sink, catalog', hready, hjudged, -, rfl, hstate⟩ := recorded_of_new hresult hnew
  have hfollows := hfront.follows sink hready.sink_eq
  obtain ⟨hrefers, hregistry⟩ := refers_entryOf hfollows hjudged
  refine ⟨?_, (writer.after front).entryOf type origin, rfl, ?_, hrefers, ?_⟩
  · have hle : (writer.ledger front).length ≤ (writer.ledger calls).length := by
      rw [heq, ledger_append, List.length_append]
      exact Nat.le_add_right _ _
    rw [hrefers.id]
    exact UInt32.toNat_ofNat_of_lt' (by rw [← ledger]; omega)
  · rw [ledger_append]
    refine congrArg (writer.ledger front ++ ·) ?_
    rw [ledger, chronicle, chronicle, happening, hresult, told_of_judged hready hjudged]
    rfl
  · rw [hstate]
    exact hregistry

/-- A type that was unloaded and loaded again is referred to under its second id. -/
theorem ids_and_references_are_sound_of_reload :
    let object := LoadedType.plain ⟨1⟩ "Object" .builtin
    let main := (LoadedType.plain ⟨2⟩ "Main" .userDefined).withSuper ⟨1⟩
    let origin : Origin := { source := some "file:/app.jar" }
    let front : List Call := [.load object none, .unload ⟨1⟩, .load object none]
    let writer := begun {} ({} : NameCatalog) ⟨[]⟩ {} none
    (writer.ledger (front ++ [.load main origin])).length < UInt32.size ∧
    ((writer.after front).load main origin).result = .recorded 2 ∧
    (writer.after front).idOf ⟨2⟩ = none ∧
    currentId (writer.chronicle front) ⟨1⟩ = some 1 ∧
    ∃ entry, entry.id = 2 ∧ Refers (writer.chronicle front) main entry := by
  have hrun :
      let object := LoadedType.plain ⟨1⟩ "Object" .builtin
      let main := (LoadedType.plain ⟨2⟩ "Main" .userDefined).withSuper ⟨1⟩
      let origin : Origin := { source := some "file:/app.jar" }
      let front : List Call := [.load object none, .unload ⟨1⟩, .load object none]
      let writer := begun {} ({} : NameCatalog) ⟨[]⟩ {} none
      (writer.ledger (front ++ [.load main origin])).length < UInt32.size ∧
      ((writer.after front).load main origin).result = .recorded 2 ∧
      (writer.after front).idOf ⟨2⟩ = none ∧
      currentId (writer.chronicle front) ⟨1⟩ = some 1 := by
    decide +kernel
  obtain ⟨hfew, hresult, hnew, hcurrent⟩ := hrun
  obtain ⟨-, entry, hid, -, hrefers, -⟩ :=
    (ids_and_references_are_sound _ _ _ _ _ _ hfew).2.2 _ _ _ [] _ rfl hresult hnew
  exact ⟨hfew, hresult, hnew, hcurrent, entry, hid, hrefers⟩

end Writer

end LoadOrder
