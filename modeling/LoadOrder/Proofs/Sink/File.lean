/-
# Sinks over files

A sink that is opened at a path fills a new file there, and whatever it is asked to do, it stays with
that file. Opening it adds folders and the file to the directory and takes nothing away but what stood
in the file.

Main statements:
- `place_writeLine`, `place_close`: a sink stays with its file;
- `fills_of_openFile`, `exists_openFile_of_create`: what opening a sink does to the directory, and when
  it succeeds;
- `Fills.read`, `Fills.node?_of_ne`, `locate_openFile`: what is read at its path, and what is left as it
  was.
-/
import LoadOrder.Proofs.Directory
import LoadOrder.Proofs.Sink

namespace LoadOrder.Sink

/-! ## The file of a sink -/

/-- An append keeps the file of the sink. -/
@[simp]
theorem place_append (sink : Sink) (text : String) : (sink.append text).state.place = sink.place := by
  cases hopen : sink.isOpen with
  | false => simp [hopen]
  | true =>
    rcases hcommit : sink.output.commit (Utf8.encode text) with ⟨fault | _, output⟩
    · rw [(append_of_commit_error hopen hcommit).2]
    · rw [append_of_commit_ok hopen hcommit]

/-- Writing a line keeps the file of the sink. -/
@[simp] theorem place_writeLine (sink : Sink) (line : String) :
    (sink.writeLine line).state.place = sink.place := by
  cases hresult : (sink.append (line ++ "\n")).result with
  | ok _ => simp [(writeLine_of_append_ok hresult).2]
  | error error => simp [writeLine_of_append_error hresult]

/-- Closing keeps the file of the sink. -/
@[simp] theorem place_close (sink : Sink) : sink.close.state.place = sink.place := by
  unfold close
  split
  · simp only [Output.flush]
    split <;> rfl
  · rfl

/-- A new sink has the file that it was given. -/
@[simp] theorem place_start (path : FilePath) (output : Output) (place : Option Location) :
    (start path output place).state.place = place := by
  simp [start]

/-! ## Opening a file -/

/-- After an attempt to open a file the directory has what the sink has written. -/
theorem state_opened (path : FilePath) (started : Effect Sink (Except Error Unit))
    (directory : Directory) :
    (opened path started directory).state = started.state.saveTo directory := by
  unfold opened
  cases started.result <;> rfl

/-- Making the folders above a path adds to the directory. -/
theorem extends_prepareFolder (path : FilePath) (directory : Directory) :
    directory.Extends (prepareFolder path directory).2 := by
  unfold prepareFolder
  split
  · exact .refl directory
  · next parent hparent =>
    split
    · exact .refl directory
    · have hmade := Directory.extends_makeFolders parent directory
      split
      · next made heq =>
        rw [heq] at hmade
        exact hmade
      · next made heq =>
        rw [heq] at hmade
        exact hmade

/-- A sink fills a new file at the place to which its path leads, in a directory to which no more than
folders have been added. -/
structure Fills (path : FilePath) (directory : Directory) (sink : Sink) (place : Location)
    (prepared : Directory) : Prop where
  extends_prepared : directory.Extends prepared
  create : prepared.create path = some (place, prepared.put place (.file []))
  result : (start path { medium := .file } (some place)).result = .ok ()
  state : (start path { medium := .file } (some place)).state = sink
  place_eq : sink.place = some place

/-- A sink that could be opened fills a new file, and what it has written stands in the directory. -/
theorem fills_of_openFile {path : FilePath} {directory : Directory} {sink : Sink}
    (h : (openFile path directory).result = .ok sink) :
    ∃ place prepared, Fills path directory sink place prepared ∧
      (openFile path directory).state = prepared.put place (.file sink.output.contents) := by
  have hextends := extends_prepareFolder path directory
  have hsaved : ∀ started place created, openFile path directory = opened path started created →
      started.state.place = some place → started.state = sink →
        (openFile path directory).state = created.put place (.file sink.output.contents) := by
    rintro started place created hopened hplace rfl
    rw [hopened, state_opened, saveTo, hplace]
  unfold openFile at h
  rcases hprepared : prepareFolder path directory with ⟨_ | _, prepared⟩
  · simp [hprepared] at h
  rw [hprepared] at hextends h
  cases hcreate : prepared.create path with
  | none => simp [hcreate] at h
  | some found =>
    obtain ⟨place, created⟩ := found
    simp only [hcreate] at h
    obtain ⟨hresult, hstate⟩ := opened_eq_ok h
    have hplace := place_start path { medium := .file } (some place)
    have hopened : openFile path directory =
        opened path (start path { medium := .file } (some place)) created := by
      simp only [openFile, hprepared, hcreate]
    have hfinal := hsaved _ place created hopened hplace hstate
    rw [hstate] at hplace
    obtain ⟨-, -, -, -, -, -, -, -, -, rfl⟩ := Directory.exists_of_create hcreate
    exact ⟨place, prepared, ⟨hextends, hcreate, hresult, hstate, hplace⟩, by simpa using hfinal⟩

/-- Where a new file can be made, a sink over it can be opened. -/
theorem exists_openFile_of_create {path : FilePath} {directory prepared created : Directory}
    {place : Location} (hprepared : prepareFolder path directory = (.ok (), prepared))
    (hcreate : prepared.create path = some (place, created)) :
    ∃ sink, (openFile path directory).result = .ok sink ∧ sink.place = some place := by
  have hstart : (start path { medium := .file } (some place)).result = .ok () :=
    start_of_room path .file (some place) (by simp [Medium.file]) (by decide) (by decide)
  refine ⟨_, ?_, place_start path { medium := .file } (some place)⟩
  simp only [openFile, hprepared, hcreate, opened, hstart]

section Fills

variable {path : FilePath} {directory prepared : Directory} {sink : Sink} {place : Location}

/-- No folder stands where the sink has its file. -/
theorem Fills.node?_ne_folder (h : Fills path directory sink place prepared) :
    prepared.node? place ≠ some .folder := by
  obtain ⟨-, -, -, -, -, -, -, -, hfolder, -⟩ := Directory.exists_of_create h.create
  exact hfolder

/-- Whatever stands in the file of the sink is read at its path. -/
theorem Fills.read (h : Fills path directory sink place prepared) (bytes : List UInt8) :
    (prepared.put place (.file bytes)).read path = .bytes bytes := by
  have hroot : place ≠ [] := Directory.ne_nil_of_node? h.node?_ne_folder
  have hkeeps : (prepared.put place (.file [])).Keeps (prepared.put place (.file bytes)) := by
    have hfile : (prepared.put place (.file [])).node? place ≠ some .folder := by simp [hroot]
    simpa using Directory.keeps_put_file hfile bytes
  have hlocate := Directory.locate_of_create h.create hkeeps
  simp [Directory.read, hlocate, hroot]

/-- Whatever stands in the file of the sink, other places are left as they are. -/
theorem Fills.node?_of_ne (h : Fills path directory sink place prepared) (bytes : List UInt8)
    {other : Location} {node : Node} (hnode : directory.node? other = some node)
    (hne : other ≠ place) : (prepared.put place (.file bytes)).node? other = some node := by
  simp [hne, h.extends_prepared.node? hnode]

/-- Whatever stands in the file of the sink, paths lead where they led before. -/
theorem Fills.locate (h : Fills path directory sink place prepared) (bytes : List UInt8)
    {other : FilePath} {target : Location} (hlocate : directory.locate other = .ok target) :
    (prepared.put place (.file bytes)).locate other = .ok target :=
  (h.extends_prepared.keeps.trans
    (Directory.keeps_put_file h.node?_ne_folder bytes)).locate hlocate

end Fills

/-- A path leads where it led before a sink was opened. -/
theorem locate_openFile {path : FilePath} {directory : Directory} {sink : Sink}
    (h : (openFile path directory).result = .ok sink) {other : FilePath} {target : Location}
    (hlocate : directory.locate other = .ok target) :
    (openFile path directory).state.locate other = .ok target := by
  obtain ⟨place, prepared, hfills, hdirectory⟩ := fills_of_openFile h
  rw [hdirectory]
  exact hfills.locate _ hlocate

end LoadOrder.Sink
