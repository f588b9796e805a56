/-
# Names of user-defined types

A writer with a catalog of names gives a user-defined type its line only under a name that the type
holds, and a name stays with its type for good. So two lines of user-defined types have one name only
if it is one identity that got both. Between the two it was unloaded, and what came back under it was
taken for the type that holds the name.

Main statements:
- `unloaded_of_currentEntry`: a type that got a line and has none now was unloaded in between;
- `Named.load`: every load keeps names and identities together;
- `user_names_are_unique_iff`: when the names of all lines differ.
-/
import LoadOrder.Proofs.Eligibility.Independence
import LoadOrder.Proofs.Writer.References
import Mathlib.Data.List.Induction

open scoped List

namespace LoadOrder.Writer

/-! ## Names in a chronicle -/

/-- The name in the line that a user-defined type got. -/
def Happening.userName? : Happening → Option String
  | recorded type entry => if type.isBuiltin then none else some entry.name
  | unloaded _ => none

/-- The names in the lines that user-defined types got, in order. -/
def userNames (chronicle : List Happening) : List String :=
  chronicle.filterMap Happening.userName?

/-- A happening with a name is a user-defined type that got a line. -/
theorem userName?_eq_some_iff {happening : Happening} {name : String} :
    happening.userName? = some name ↔
      ∃ type entry, happening = .recorded type entry ∧ type.isBuiltin = false ∧
        entry.name = name := by
  cases happening with
  | unloaded identity => simp [Happening.userName?]
  | recorded type entry =>
    cases huser : type.isBuiltin with
    | true => simp [Happening.userName?, huser]
    | false => simp [Happening.userName?, huser]

/-! ## Lines of one type -/

/-- Of two elements of a longer list, both are old, or the second one is the new one. -/
theorem pair_sublist_concat {α : Type} {list : List α} {first second last : α}
    (h : [first, second] <+ list ++ [last]) :
    [first, second] <+ list ∨ first ∈ list ∧ second = last := by
  obtain ⟨front, back, heq, hfront, hback⟩ := List.sublist_append_iff.1 h
  rcases List.sublist_singleton.1 hback with rfl | rfl
  · left
    rwa [heq, List.append_nil]
  · right
    have heq : [first] ++ [second] = front ++ [last] := heq
    obtain ⟨hone, hlast⟩ := List.append_inj' heq rfl
    rw [← hone, List.singleton_sublist] at hfront
    exact ⟨hfront, List.singleton_inj.1 hlast⟩

/-- A type that got a line and has none now was unloaded in between. -/
theorem unloaded_of_currentEntry {chronicle : List Happening} {type : LoadedType} {entry : Entry}
    (hmem : .recorded type entry ∈ chronicle)
    (h : currentEntry chronicle type.identity = none) :
    [.recorded type entry, .unloaded type.identity] <+ chronicle := by
  -- the last thing that happened to the type is where it lost its line
  induction chronicle using List.reverseRecOn with
  | nil => simp at hmem
  | append_singleton chronicle last ih =>
    rw [currentEntry_concat] at h
    by_cases hlast : last.identity = type.identity
    · rw [if_pos hlast] at h
      cases last with
      | recorded other entry' => simp [Happening.entry?] at h
      | unloaded identity =>
        obtain rfl : identity = type.identity := hlast
        have hmem : .recorded type entry ∈ chronicle := by simpa using hmem
        exact (List.singleton_sublist.2 hmem).append (List.Sublist.refl _)
    · rw [if_neg hlast] at h
      have hmem : .recorded type entry ∈ chronicle := by
        rcases List.mem_append.1 hmem with hmem | hmem
        · exact hmem
        · rw [← List.mem_singleton.1 hmem] at hlast
          exact absurd rfl hlast
      exact (ih hmem h).trans (List.sublist_append_left _ _)

/-! ## One step of a run -/

/-- A chronicle and a catalog that fit: every line has the name of its type, user-defined types hold
the names in their lines, and a type got a second line only after it was unloaded. -/
structure Named (chronicle : List Happening) (writer : Writer NameCatalog) : Prop where
  name : ∀ type entry, .recorded type entry ∈ chronicle → entry.name = type.name
  owner : ∀ type entry, .recorded type entry ∈ chronicle → type.isBuiltin = false →
    writer.catalog.ownerOf type.name = some type.identity
  renewed : ∀ first entry second entry',
    [.recorded first entry, .recorded second entry'] <+ chronicle →
    second.identity = first.identity →
    [.recorded first entry, .unloaded first.identity, .recorded second entry'] <+ chronicle

/-- A catalog that keeps its names still fits. -/
theorem Named.of_catalog {chronicle : List Happening} {writer other : Writer NameCatalog}
    (h : Named chronicle writer)
    (hcatalog : ∀ name owner, writer.catalog.ownerOf name = some owner →
      other.catalog.ownerOf name = some owner) : Named chronicle other :=
  ⟨h.name, fun type entry hmem huser => hcatalog _ _ (h.owner type entry hmem huser), h.renewed⟩

/-- A type that is unloaded gets no line. -/
theorem Named.unload {chronicle : List Happening} {writer : Writer NameCatalog}
    (h : Named chronicle writer) (identity : TypeIdentity) :
    Named (chronicle ++ [.unloaded identity]) (writer.unload identity).state := by
  have hold : ∀ type entry, .recorded type entry ∈ chronicle ++ [.unloaded identity] →
      Happening.recorded type entry ∈ chronicle := by
    intro type entry hmem
    simpa using hmem
  constructor
  case name => exact fun type entry hmem => h.name type entry (hold type entry hmem)
  case owner => exact fun type entry hmem => h.owner type entry (hold type entry hmem)
  case renewed =>
    intro first entry second entry' hpair hidentity
    rcases pair_sublist_concat hpair with hpair | ⟨-, hlast⟩
    · exact (h.renewed _ _ _ _ hpair hidentity).trans (List.sublist_append_left _ _)
    · simp at hlast

/-- The rules of eligibility take no name away. -/
theorem ownerOf_check {style : PathStyle} {hasId : TypeIdentity → Bool} {type : LoadedType}
    {origin : Option Origin} {catalog after : NameCatalog} {decision : Decision}
    (h : Eligibility.check style hasId type origin catalog = (decision, after)) {name : String}
    {owner : TypeIdentity} (howner : catalog.ownerOf name = some owner) :
    after.ownerOf name = some owner := by
  have hafter : after = Eligibility.catalogAfter style type origin catalog := by
    rw [← Eligibility.snd_check style hasId, h]
  rw [hafter, Eligibility.ownerOf_catalogAfter, howner, if_neg (by simp)]

/-- A type that gets its line under its name holds the name, and has no line from before. -/
theorem Named.recorded {chronicle : List Happening} {writer : Writer NameCatalog} {sink : Sink}
    {type : LoadedType} {origin : Option Origin} {catalog : NameCatalog}
    (h : Named chronicle writer) (hfollows : Follows chronicle writer.registry)
    (hjudged : writer.Judged type origin .eligible catalog) :
    Named (chronicle ++ [.recorded type (writer.entryOf type origin)])
      (writer.written type origin sink catalog) := by
  have hname := (refers_entryOf hfollows hjudged).1.name
  obtain ⟨hnew, hcheck⟩ := hjudged
  constructor
  case name =>
    intro other entry hmem
    rcases List.mem_append.1 hmem with hmem | hmem
    · exact h.name other entry hmem
    · obtain ⟨rfl, rfl⟩ := Happening.recorded.inj (List.mem_singleton.1 hmem)
      exact hname
  case owner =>
    intro other entry hmem huser
    rcases List.mem_append.1 hmem with hmem | hmem
    · exact ownerOf_check hcheck (h.owner other entry hmem huser)
    · obtain ⟨rfl, rfl⟩ := Happening.recorded.inj (List.mem_singleton.1 hmem)
      exact NameCatalog.ownerOf_of_accepted (Eligibility.register_of_eligible hcheck huser)
  case renewed =>
    intro first entry second entry' hpair hidentity
    rcases pair_sublist_concat hpair with hpair | ⟨hfirst, hlast⟩
    · exact (h.renewed _ _ _ _ hpair hidentity).trans (List.sublist_append_left _ _)
    · obtain ⟨rfl, rfl⟩ := Happening.recorded.inj hlast
      -- the registry knew of no id, so the last that happened to the type was its unloading
      rw [hfollows.idOf, hidentity, currentId, Option.map_eq_none_iff] at hnew
      exact (unloaded_of_currentEntry hfirst hnew).append (List.Sublist.refl _)

/-- However a load goes, names and identities stay together. -/
theorem Named.load {chronicle : List Happening} {writer after : Writer NameCatalog}
    {type : LoadedType} {origin : Option Origin} {outcome : Outcome} (h : Named chronicle writer)
    (horderly : Orderly chronicle writer) (hloads : Loads type origin writer outcome after) :
    Named (chronicle ++ (writer.told type origin outcome).toList) after := by
  cases hloads with
  | off | sinkless => simpa using h
  | refused =>
    simp only [told, Option.toList_none, List.append_nil]
    exact h.of_catalog fun _ _ howner => howner
  | rejected sink hready reason catalog hjudged | interrupted sink hready catalog hjudged =>
    simp only [told, Option.toList_none, List.append_nil]
    exact h.of_catalog fun _ _ howner => ownerOf_check hjudged.2 howner
  | imageless =>
    simp only [told, Option.toList_none, List.append_nil]
    exact h.of_catalog fun _ _ howner => by simpa using howner
  | known sink hready id hid => simpa [told_of_known hready hid] using h
  | recorded sink hready catalog hjudged hwritten =>
    rw [told_of_judged hready hjudged, Option.toList_some]
    exact h.recorded (horderly.follows sink hready.sink_eq) hjudged
  | failed sink hready catalog hjudged error hwritten =>
    simp only [told, Option.toList_none, List.append_nil]
    exact h.of_catalog fun _ _ howner => by simpa using ownerOf_check hjudged.2 howner

/-- Two lines of user-defined types with one name are lines of one identity, unloaded in between. -/
theorem Named.unloaded_of_name {chronicle : List Happening} {writer : Writer NameCatalog}
    (h : Named chronicle writer) {first second : LoadedType} {entry entry' : Entry}
    (hpair : [.recorded first entry, .recorded second entry'] <+ chronicle)
    (hfirst : first.isBuiltin = false) (hsecond : second.isBuiltin = false)
    (hname : entry'.name = entry.name) :
    second.identity = first.identity ∧
      [.recorded first entry, .unloaded first.identity, .recorded second entry'] <+ chronicle := by
  have hmem := h.owner first entry (hpair.subset (by simp)) hfirst
  have hmem' := h.owner second entry' (hpair.subset (by simp)) hsecond
  have hnames : second.name = first.name := by
    rw [← h.name first entry (hpair.subset (by simp)),
      ← h.name second entry' (hpair.subset (by simp)), hname]
  rw [hnames, hmem] at hmem'
  have hidentity := (Option.some.inj hmem').symm
  exact ⟨hidentity, h.renewed _ _ _ _ hpair hidentity⟩

/-! ## Runs -/

/-- Names and identities stay together throughout a run of a new writer. -/
theorem named_after (config : Config) (catalog : NameCatalog) (path : FilePath) (medium : Medium)
    (place : Option Location) (calls : List Call) :
    let writer := begun config catalog path medium place
    Named (writer.chronicle calls) (writer.after calls) := by
  refine orderly_induction Named ?_ ?_ ?_ ⟨by simp, by simp, by simp⟩ calls
  · intro chronicle writer type origin outcome after horderly h hloads
    exact h.load horderly hloads
  · intro chronicle writer identity h
    exact h.unload identity
  · intro chronicle writer h
    exact h.of_catalog fun _ _ howner => by simpa using howner

/-- A user-defined type comes back if it got a line, was unloaded, and then its identity got a line
under the same name again. -/
def ComesBack (chronicle : List Happening) (type : LoadedType) : Prop :=
  ∃ entry again entry',
    [.recorded type entry, .unloaded type.identity, .recorded again entry'] <+ chronicle ∧
      type.isBuiltin = false ∧ again.isBuiltin = false ∧ again.identity = type.identity ∧
      entry'.name = entry.name

/-- **Names are given away once.** In a run of a new writer with one sink and a catalog of names, two
lines of user-defined types have one name only if they belong to one identity that was unloaded in
between. So the names of all such lines differ exactly if no user-defined type comes back. -/
theorem user_names_are_unique_iff (config : Config) (catalog : NameCatalog) (path : FilePath)
    (medium : Medium) (place : Option Location) (calls : List Call) :
    let chronicle := (begun config catalog path medium place).chronicle calls
    (∀ first entry second entry',
      [.recorded first entry, .recorded second entry'] <+ chronicle →
      first.isBuiltin = false → second.isBuiltin = false → entry'.name = entry.name →
      second.identity = first.identity ∧
        [.recorded first entry, .unloaded first.identity, .recorded second entry'] <+ chronicle) ∧
    ((userNames chronicle).Nodup ↔ ∀ type, ¬ ComesBack chronicle type) := by
  have hnamed : Named ((begun config catalog path medium place).chronicle calls) _ :=
    named_after config catalog path medium place calls
  generalize (begun config catalog path medium place).chronicle calls = chronicle at hnamed ⊢
  refine ⟨fun _ _ _ _ => hnamed.unloaded_of_name, ?_⟩
  rw [List.Nodup, userNames, List.pairwise_filterMap, List.pairwise_iff_forall_sublist]
  constructor
  · rintro hdistinct type ⟨entry, again, entry', htriple, hfirst, hsecond, -, hname⟩
    have hpair : [.recorded type entry, .recorded again entry'] <+ chronicle :=
      List.Sublist.trans (by simp) htriple
    exact hdistinct hpair _ (userName?_eq_some_iff.2 ⟨type, entry, rfl, hfirst, rfl⟩) _
      (userName?_eq_some_iff.2 ⟨again, entry', rfl, hsecond, rfl⟩) hname.symm
  · rintro hnone first second hpair name hname name' hname' rfl
    obtain ⟨type, entry, rfl, hfirst, hentry⟩ := userName?_eq_some_iff.1 hname
    obtain ⟨again, entry', rfl, hsecond, hentry'⟩ := userName?_eq_some_iff.1 hname'
    have hsame := hentry'.trans hentry.symm
    obtain ⟨hidentity, htriple⟩ := hnamed.unloaded_of_name hpair hfirst hsecond hsame
    exact hnone type ⟨entry, again, entry', htriple, hfirst, hsecond, hidentity, hsame⟩

/-- A type from one file is unloaded, and a type of the same name from another file comes back under
its identity: both get a line. -/
theorem user_names_repeat_of_reload :
    let object := LoadedType.plain ⟨1⟩ "java/lang/Object" .builtin
    let type := (LoadedType.plain ⟨2⟩ "app/Dup" .userDefined).withSuper ⟨1⟩
    let chronicle := (begun {} ({} : NameCatalog) ⟨[]⟩ {} none).chronicle
      [.load object none, .load type (some { source := some "file:/tmp/a.jar" }), .unload ⟨2⟩,
        .load type (some { source := some "file:/tmp/b.jar" })]
    userNames chronicle = ["app/Dup", "app/Dup"] ∧ ¬ (userNames chronicle).Nodup := by
  intro object type chronicle
  have hnames : userNames chronicle = ["app/Dup", "app/Dup"] := by decide +kernel
  refine ⟨hnames, ?_⟩
  rw [hnames]
  simp

end LoadOrder.Writer
