/-
# Paths in a growing tree

Making folders adds to a tree and takes nothing away, and an empty file takes the place of a file at
most. So paths lead where they led before, and a path to a file that was just made leads to that file.

Main statements:
- `extends_makeFolders`: making folders leaves what stands as it is;
- `Keeps.locate`: paths lead where they led before;
- `locate_of_create`: the path of a new file leads to it.
-/
import LoadOrder.Directory
import LoadOrder.Error
import Mathlib.Data.List.Basic
import Mathlib.Tactic.ByContra

namespace LoadOrder.Directory

variable {before after directory : Directory} {place : Location} {path : FilePath}

/-! ## What stands at a place -/

/-- A node that is put at a place stands there. -/
@[simp] theorem node?_put_self (h : place ≠ []) (node : Node) :
    (directory.put place node).node? place = some node := by
  simp [node?, put, h]

/-- A node that is put at a place leaves the other places as they are. -/
@[simp] theorem node?_put_of_ne {other : Location} (h : other ≠ place) (node : Node) :
    (directory.put place node).node? other = directory.node? other := by
  have hcompare : compare place other ≠ .eq := fun heq => h (Std.LawfulEqOrd.eq_of_compare heq).symm
  simp [node?, put, Std.ExtTreeMap.getElem?_insert, hcompare]

/-- The last node that is put at a place counts. -/
@[simp] theorem put_put (node other : Node) :
    (directory.put place node).put place other = directory.put place other := by
  have hnodes : (directory.nodes.insert place node).insert place other =
      directory.nodes.insert place other := by
    refine Std.ExtTreeMap.ext_getElem? fun key => ?_
    simp only [Std.ExtTreeMap.getElem?_insert]
    split <;> rfl
  simp only [put, hnodes]

/-- Whatever does not stand at the root is no folder. -/
theorem ne_nil_of_node? (h : directory.node? place ≠ some .folder) : place ≠ [] := by
  rintro rfl
  exact h (by simp [node?])

/-! ## Trees that keep what there is -/

/-- A tree with everything that stands in another one, and perhaps more. -/
structure Extends (before after : Directory) : Prop where
  workingFolder : after.workingFolder = before.workingFolder
  node? : ∀ {place node}, before.node? place = some node → after.node? place = some node

/-- A tree with all folders of another one, and with something wherever something stands there. -/
structure Keeps (before after : Directory) : Prop where
  workingFolder : after.workingFolder = before.workingFolder
  folder : ∀ {place}, before.node? place = some .folder → after.node? place = some .folder
  isSome : ∀ {place}, (before.node? place).isSome = true → (after.node? place).isSome = true

/-- A tree has what stands in it. -/
theorem Extends.refl (directory : Directory) : directory.Extends directory :=
  ⟨rfl, id⟩

/-- What is added step by step is added. -/
theorem Extends.trans {middle : Directory} (h : before.Extends middle) (h' : middle.Extends after) :
    before.Extends after :=
  ⟨h'.workingFolder.trans h.workingFolder, fun hnode => h'.node? (h.node? hnode)⟩

/-- What is only added to, is kept. -/
theorem Extends.keeps (h : before.Extends after) : before.Keeps after where
  workingFolder := h.workingFolder
  folder := h.node?
  isSome := by
    intro place hsome
    obtain ⟨node, hnode⟩ := Option.isSome_iff_exists.1 hsome
    rw [h.node? hnode]
    rfl

/-- What is kept step by step is kept. -/
theorem Keeps.trans {middle : Directory} (h : before.Keeps middle) (h' : middle.Keeps after) :
    before.Keeps after :=
  ⟨h'.workingFolder.trans h.workingFolder, fun hnode => h'.folder (h.folder hnode),
    fun hsome => h'.isSome (h.isSome hsome)⟩

/-- Where nothing stands, a node is added. -/
theorem extends_put (h : directory.node? place = none) (node : Node) :
    directory.Extends (directory.put place node) where
  workingFolder := rfl
  node? := by
    intro other node hnode
    have hne : other ≠ place := by
      rintro rfl
      simp [h] at hnode
    simpa [hne] using hnode

/-- A file that takes the place of no folder keeps what there is. -/
theorem keeps_put_file (h : directory.node? place ≠ some .folder) (bytes : List UInt8) :
    directory.Keeps (directory.put place (.file bytes)) where
  workingFolder := rfl
  folder := by
    intro other hfolder
    have hne : other ≠ place := by
      rintro rfl
      exact h hfolder
    simpa [hne] using hfolder
  isSome := by
    intro other hsome
    by_cases hplace : other = place
    · simp [hplace, ne_nil_of_node? h]
    · simpa [hplace] using hsome

/-! ## Following paths -/

/-- A path starts where it started before. -/
theorem Keeps.start (h : before.Keeps after) (path : FilePath) :
    after.start path = before.start path := by
  rw [Directory.start, Directory.start, h.workingFolder]

/-- The place of a name is where it was before. -/
theorem Keeps.step (h : before.Keeps after) {name : List UInt8} {next : Location}
    (hstep : before.step place name = .ok next) : after.step place name = .ok next := by
  have hfolder : before.node? place = some .folder := by
    by_contra hne
    simp [Directory.step, hne] at hstep
  rw [Directory.step, if_neg (by simp [hfolder])] at hstep
  rwa [Directory.step, if_neg (by simp [h.folder hfolder])]

/-- A name leads where it led before. -/
theorem Keeps.enter (h : before.Keeps after) {name : List UInt8} {next : Location}
    (henter : before.enter place name = .ok next) : after.enter place name = .ok next := by
  obtain ⟨other, hstep, hnext⟩ := bind_eq_ok_iff.1 henter
  split at hnext
  · next hsome =>
    obtain rfl : other = next := Except.ok.inj hnext
    rw [Directory.enter, h.step hstep]
    exact if_pos (h.isSome hsome)
  · cases hnext

/-- Names lead where they led before. -/
theorem Keeps.foldlM_enter (h : before.Keeps after) {names : List (List UInt8)}
    {next : Location} (hnames : names.foldlM before.enter place = .ok next) :
    names.foldlM after.enter place = .ok next := by
  induction names generalizing place with
  | nil => exact hnames
  | cons name rest ih =>
    rw [List.foldlM_cons] at hnames ⊢
    obtain ⟨other, henter, hrest⟩ := bind_eq_ok_iff.1 hnames
    rw [h.enter henter]
    exact ih hrest

/-- **Paths lead where they led before.** -/
theorem Keeps.locate (h : before.Keeps after) (hlocate : before.locate path = .ok place) :
    after.locate path = .ok place := by
  obtain ⟨start, hstart, hrest⟩ := bind_eq_ok_iff.1 hlocate
  obtain ⟨other, hsteps, hplace⟩ := bind_eq_ok_iff.1 hrest
  split at hplace
  · cases hplace
  · next hmeans =>
    obtain rfl : other = place := Except.ok.inj hplace
    have hafter : ¬ (meansFolder path = true ∧ after.node? other ≠ some .folder) := by
      rintro ⟨hfolder, hother⟩
      exact hmeans ⟨hfolder, fun hbefore => hother (h.folder hbefore)⟩
    rw [Directory.locate, h.start, hstart]
    show ((steps path).foldlM after.enter start >>= _) = _
    rw [h.foldlM_enter hsteps]
    exact if_neg hafter

/-! ## New files -/

/-- A new file stands at the place of a name in a folder, where no folder stands. -/
theorem exists_of_create (h : directory.create path = some (place, after)) :
    ∃ start parent name, directory.start path = .ok start ∧
      (steps path).dropLast.foldlM directory.enter start = .ok parent ∧
      (steps path).getLast? = some name ∧ directory.step parent name = .ok place ∧
      meansFolder path = false ∧ directory.node? place ≠ some .folder ∧
      after = directory.put place (.file []) := by
  rw [create] at h
  cases hparent : directory.locateParent path with
  | error obstacle => simp [hparent] at h
  | ok found =>
    obtain ⟨parent, name⟩ := found
    cases hstep : directory.step parent name with
    | error obstacle => simp [hparent, hstep] at h
    | ok other =>
      simp only [hparent, hstep, Option.ite_none_left_eq_some, not_or, Option.some.injEq,
        Prod.mk.injEq, Bool.not_eq_true] at h
      obtain ⟨⟨hmeans, hfolder⟩, rfl, rfl⟩ := h
      obtain ⟨start, hstart, hrest⟩ := bind_eq_ok_iff.1 hparent
      obtain ⟨folder, hnames, hfound⟩ := bind_eq_ok_iff.1 hrest
      cases hlast : (steps path).getLast? with
      | none =>
        -- without a name the place is the folder itself
        rw [hlast] at hfound
        obtain ⟨rfl, rfl⟩ := Prod.mk.inj (Except.ok.inj hfound)
        rw [Directory.step] at hstep
        split at hstep
        · cases hstep
        · next hroom =>
          rw [if_pos rfl] at hstep
          rw [← Except.ok.inj hstep] at hfolder
          exact absurd hfolder hroom
      | some last =>
        rw [hlast] at hfound
        obtain ⟨rfl, rfl⟩ := Prod.mk.inj (Except.ok.inj hfound)
        exact ⟨start, folder, last, hstart, hnames, rfl, hstep, hmeans, hfolder, rfl⟩

/-- **The path of a new file leads to it**, and goes on to do so while the tree is kept. -/
theorem locate_of_create (h : directory.create path = some (place, before))
    (hkeeps : before.Keeps after) : after.locate path = .ok place := by
  obtain ⟨start, parent, name, hstart, hnames, hlast, hstep, hmeans, hfolder, rfl⟩ :=
    exists_of_create h
  have hall : directory.Keeps after := (keeps_put_file hfolder []).trans hkeeps
  have hsome : (after.node? place).isSome = true := by
    apply hkeeps.isSome
    simp [ne_nil_of_node? hfolder]
  have hsteps : (steps path).foldlM after.enter start = .ok place := by
    have henter : after.enter parent name = .ok place := by
      rw [enter, hall.step hstep]
      exact if_pos hsome
    rw [← List.dropLast_append_getLast? name (Option.mem_def.2 hlast), List.foldlM_append,
      hall.foldlM_enter hnames]
    show (after.enter parent name >>= _) = _
    rw [henter]
    rfl
  rw [locate, hall.start, hstart]
  show ((steps path).foldlM after.enter start >>= _) = _
  rw [hsteps]
  exact if_neg (by simp [hmeans])

/-! ## New folders -/

/-- A new folder is added to what there is. -/
theorem extends_makeFolder (h : directory.makeFolder path = .ok after) :
    directory.Extends after := by
  rw [makeFolder] at h
  split at h
  · cases h
  split at h
  · cases h
  split at h
  · cases h
  · next hfree =>
    obtain rfl := Except.ok.inj h
    exact extends_put (by simpa using hfree) .folder

/-- Making folders along a path adds to what there is. -/
theorem extends_makeFoldersAlong (paths : List FilePath) (directory : Directory) :
    directory.Extends (directory.makeFoldersAlong paths).2 := by
  induction paths with
  | nil => exact .refl directory
  | cons path above ih =>
    rw [makeFoldersAlong]
    cases hfirst : directory.makeFolder path with
    | ok made => exact extends_makeFolder hfirst
    | error obstacle =>
      match obstacle with
      | none | some .illegal => exact .refl directory
      | some .missing =>
        rcases habove : directory.makeFoldersAlong above with ⟨_ | _, grown⟩
        · rw [habove] at ih
          exact ih
        · rw [habove] at ih
          dsimp only
          cases hsecond : grown.makeFolder path with
          | ok made => exact ih.trans (extends_makeFolder hsecond)
          | error obstacle => exact ih

/-- **Making folders leaves what stands as it is.** -/
theorem extends_makeFolders (path : FilePath) (directory : Directory) :
    directory.Extends (directory.makeFolders path).2 :=
  extends_makeFoldersAlong _ directory

end LoadOrder.Directory
