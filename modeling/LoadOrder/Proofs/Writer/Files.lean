/-
# Writers over files

A new writer that opens its manifest in a directory has a sink over a new file there. However the
writer is called, that sink stays its only one and stays with the file, so what it has written can be
read at the path of the manifest.

Main statements:
- `init_of_openFile`: what opening the manifest gives;
- `placed_after`: the sinks of a writer stay with their files;
- `saveTo_close_after`: the file after any calls and the closing of the writer.
-/
import LoadOrder.Proofs.Sink.File
import LoadOrder.Proofs.Writer.Contents

namespace LoadOrder.Writer

variable {σ : Type}

/-! ## Opening the manifest -/

/-- A directory has what the sinks of a writer have written, one after the other. -/
theorem saveTo_eq (writer : Writer σ) (directory : Directory) :
    writer.saveTo directory =
      writer.sinks.foldl (fun directory sink => sink.saveTo directory) directory := rfl

/-- A new writer whose manifest can be opened has its sink and is enabled. -/
theorem init_of_openFile {config : Config} (catalog : σ) {launch : Launch} {directory : Directory}
    {path : FilePath} (hpath : config.resolvedOutput launch = some path) {sink : Sink}
    (h : (Sink.openFile path directory).result = .ok sink) {place : Location}
    {prepared : Directory} (hfills : Sink.Fills path directory sink place prepared) :
    (({ config, catalog } : Writer σ).init launch directory).result = .ok () ∧
      (({ config, catalog } : Writer σ).init launch directory).state =
        (begun config catalog path .file (some place), (Sink.openFile path directory).state) := by
  have hnew : ({ config, catalog } : Writer σ).saveTo directory = directory := rfl
  rw [begun_eq, hfills.state]
  simp [init, hpath, hnew, h]

/-- A directory in which a manifest was opened has what the new writer has written. -/
theorem saveTo_begun (config : Config) (catalog : σ) {path : FilePath}
    {directory prepared : Directory} {sink : Sink} {place : Location}
    (hfills : Sink.Fills path directory sink place prepared) :
    (begun config catalog path .file (some place)).saveTo
        (prepared.put place (.file sink.output.contents)) =
      prepared.put place (.file sink.output.contents) := by
  have hsinks : (begun config catalog path .file (some place)).sinks = [sink] := by
    rw [begun_eq, hfills.state]
    rfl
  simp [saveTo_eq, hsinks, Sink.saveTo, hfills.place_eq]

/-! ## The files of the sinks -/

/-- A writer all of whose sinks stay with one file. -/
def Placed (place : Option Location) (writer : Writer σ) : Prop :=
  ∀ sink ∈ writer.sinks, sink.place = place

/-- A new writer has a sink over the file that it was given. -/
theorem placed_begun (config : Config) (catalog : σ) (path : FilePath) (medium : Medium)
    (place : Option Location) : (begun config catalog path medium place).Placed place := by
  rw [begun_eq]
  intro sink hmem
  rw [List.mem_singleton.1 hmem]
  simp

/-- Closing a writer leaves its sinks with their file. -/
theorem Placed.close {place : Option Location} {writer : Writer σ} (h : writer.Placed place) :
    writer.close.state.Placed place := by
  have hsinks : writer.close.state.sinks =
      writer.retired ++ (writer.sink.map fun sink => sink.close.state).toList := by
    simp [sinks]
  intro sink hmem
  rw [hsinks, List.mem_append, Option.mem_toList, Option.map_eq_some_iff] at hmem
  obtain hmem | ⟨other, hother, rfl⟩ := hmem
  · exact h sink (List.mem_append_left _ hmem)
  · simpa using h other (List.mem_append_right _ (Option.mem_toList.2 hother))

/-- A line leaves the sink with its file. -/
theorem Placed.written {place : Option Location} {writer : Writer σ} {sink : Sink}
    (h : writer.Placed place) (hready : writer.Ready sink) (type : LoadedType)
    (origin : Option Origin) (catalog : σ) :
    (writer.written type origin sink catalog).Placed place := by
  intro other hmem
  rcases List.mem_append.1 hmem with hmem | hmem
  · exact h other (List.mem_append_left _ hmem)
  · obtain rfl := Option.some.inj (Option.mem_toList.1 hmem)
    simpa using h sink (List.mem_append_right _ (Option.mem_toList.2 hready.sink_eq))

/-- However a load goes, it leaves the sinks with their file. -/
theorem Placed.load [Catalog σ] {place : Option Location} {writer after : Writer σ}
    {type : LoadedType} {origin : Option Origin} {outcome : Outcome} (h : writer.Placed place)
    (hloads : Loads type origin writer outcome after) : after.Placed place := by
  cases hloads with
  | off | refused | sinkless | known | rejected | interrupted => exact h
  | imageless => exact h.close
  | recorded sink hready catalog => exact h.written hready type origin catalog
  | failed sink hready catalog => exact (h.written hready type origin catalog).close

/-- Calls leave the sinks of a writer with their file. -/
theorem placed_after [Catalog σ] {place : Option Location} {writer : Writer σ}
    (h : writer.Placed place) (calls : List Call) : (writer.after calls).Placed place :=
  run_induction (fun _ writer => writer.Placed place) (fun _ _ _ _ _ _ h hloads => h.load hloads)
    (fun _ _ _ h => h) (fun _ _ h => h.close) h calls

/-! ## The file of the manifest -/

/-- **The file of the manifest.** After any calls and the closing of a new writer, its file holds the
header and the lines of the ledger. -/
theorem saveTo_close_after [Catalog σ] (config : Config) (catalog : σ) {path : FilePath}
    {place : Location} (hstart : (Sink.start path { medium := .file } (some place)).result = .ok ())
    (calls : List Call) (directory : Directory) :
    let writer := begun config catalog path .file (some place)
    (writer.after calls).close.state.saveTo directory =
      directory.put place (.file (Utf8.encode (Manifest.render (writer.ledger calls)))) := by
  intro writer
  have hplaced : (writer.after calls).close.state.Placed (some place) :=
    (placed_after (placed_begun config catalog path .file (some place)) calls).close
  have hcontents := (holds_after config catalog hstart rfl calls).close.contents
  obtain ⟨sink, hsinks, hsink⟩ := List.map_eq_singleton_iff.1 hcontents
  have hplace : sink.place = some place := by
    apply hplaced
    rw [hsinks]
    exact List.mem_singleton_self sink
  rw [saveTo_eq, hsinks, List.foldl_cons, List.foldl_nil, Sink.saveTo, hplace, hsink]

end LoadOrder.Writer
