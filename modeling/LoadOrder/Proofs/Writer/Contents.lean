/-
# What the manifest holds during a run

A writer is given one sink, over an output that can be cut back. Whatever is asked of it, and
however its loads end, the output holds the header and one line for each type that got one, in the
order of the loads, and nothing else. Which line that is, and under which id, is what the load tells
(`told_load_eq_some_iff`).

Main statements:
- `Holds.close`, `Holds.load`: closing adds nothing, and a load adds the line that the chronicle
  tells of;
- `holds_after`, `manifest_is_exact`: the bytes of the output after any calls.
-/
import LoadOrder.Proofs.Sink
import LoadOrder.Proofs.Writer.Calls

namespace LoadOrder

/-- The bytes of a manifest are those of its lines. -/
theorem Manifest.bytes_map_line (entries : List Entry) :
    bytes (entries.map Entry.line) = Utf8.encode (render entries) := by
  rw [bytes, Utf8.encode, render, String.toList_ofList]

namespace Writer

variable {σ : Type}

/-! ## The manifest of the only sink -/

/-- A writer whose only sink has written the manifest of some entries: the sink is still in use and
can cut its output back, or it was put away. -/
inductive Holds (entries : List Entry) (writer : Writer σ) : Prop where
  | inUse (sink : Sink) (hretired : writer.retired = []) (hsink : writer.sink = some sink)
      (htracks : sink.Tracks (entries.map Entry.line))
      (hcut : sink.output.medium.truncateFails = false)
  | putAway (sink : Sink) (hretired : writer.retired = [sink]) (hsink : writer.sink = none)
      (hcontents : sink.output.contents = Manifest.bytes (entries.map Entry.line))

/-- The only output of such a writer holds the header and the lines of the entries. -/
theorem Holds.contents {entries : List Entry} {writer : Writer σ} (h : writer.Holds entries) :
    writer.sinks.map (fun sink => sink.output.contents) =
      [Utf8.encode (Manifest.render entries)] := by
  rw [← Manifest.bytes_map_line]
  cases h with
  | inUse sink hretired hsink htracks hcut => simp [sinks, hretired, hsink, htracks.contents]
  | putAway sink hretired hsink hcontents => simp [sinks, hretired, hsink, hcontents]

/-- Nothing but its sinks counts. -/
theorem Holds.congr {entries : List Entry} {writer other : Writer σ} (h : writer.Holds entries)
    (hretired : other.retired = writer.retired) (hsink : other.sink = writer.sink) :
    other.Holds entries := by
  cases h with
  | inUse sink hr hs htracks hcut =>
    exact .inUse sink (hretired.trans hr) (hsink.trans hs) htracks hcut
  | putAway sink hr hs hcontents =>
    exact .putAway sink (hretired.trans hr) (hsink.trans hs) hcontents

/-- Closing adds nothing to the manifest, whether or not the last flush succeeds. -/
theorem Holds.close {entries : List Entry} {writer : Writer σ} (h : writer.Holds entries) :
    writer.close.state.Holds entries := by
  cases h with
  | inUse sink hretired hsink htracks hcut =>
    refine .putAway sink.close.state ?_ ?_ ?_
    · simp [hretired, hsink]
    · simp
    · simp [htracks.contents]
  | putAway sink hretired hsink hcontents =>
    refine .putAway sink ?_ ?_ hcontents
    · simp [hretired, hsink]
    · simp

/-- A type that is recorded adds its line. -/
theorem Holds.recorded {entries : List Entry} {writer : Writer σ} {sink : Sink}
    {type : LoadedType} {origin : Option Origin} {catalog : σ} (h : writer.Holds entries)
    (hready : writer.Ready sink)
    (hwritten : (sink.writeLine (writer.entryOf type origin).line).result = .ok ()) :
    (writer.written type origin sink catalog).Holds
      (entries ++ [writer.entryOf type origin]) := by
  cases h with
  | inUse other hretired hsink htracks hcut =>
    obtain rfl : sink = other := Option.some.inj (hready.sink_eq.symm.trans hsink)
    refine .inUse _ hretired rfl ?_ ?_
    · rw [List.map_append]
      exact Sink.tracks_writeLine htracks hwritten
    · simpa using hcut
  | putAway other hretired hsink hcontents =>
    rw [hready.sink_eq] at hsink
    simp at hsink

/-- A type whose line cannot be written adds nothing: what was written of the line is cut off. -/
theorem Holds.failed {entries : List Entry} {writer : Writer σ} {sink : Sink}
    {type : LoadedType} {origin : Option Origin} {catalog : σ} {error : Error}
    (h : writer.Holds entries) (hready : writer.Ready sink)
    (hwritten : (sink.writeLine (writer.entryOf type origin).line).result = .error error) :
    (writer.written type origin sink catalog).close.state.Holds entries := by
  cases h with
  | inUse other hretired hsink htracks hcut =>
    obtain rfl : sink = other := Option.some.inj (hready.sink_eq.symm.trans hsink)
    -- the failed write has released the sink, so closing the writer only puts it away
    have habandoned := (Sink.abandoned_writeLine htracks hwritten).2
    refine .putAway (sink.writeLine (writer.entryOf type origin).line).state ?_ ?_ ?_
    · simp [written, hretired, habandoned.isOpen]
    · simp
    · exact habandoned.contents_of_cut (by simpa using hcut)
  | putAway other hretired hsink hcontents =>
    rw [hready.sink_eq] at hsink
    simp at hsink

/-- However a load goes, it adds the line of the entry that the chronicle tells of, if any. -/
theorem Holds.load [Catalog σ] {chronicle : List Happening} {writer after : Writer σ}
    {type : LoadedType} {origin : Option Origin} {outcome : Outcome}
    (h : writer.Holds (entriesIn chronicle))
    (hloads : Loads type origin writer outcome after) :
    after.Holds (entriesIn (chronicle ++ (writer.told type origin outcome).toList)) := by
  cases hloads with
  | off | sinkless => simpa using h
  | refused | rejected | interrupted =>
    simp only [told, Option.toList_none, List.append_nil]
    exact h.congr rfl rfl
  | imageless => simpa using h.close
  | known sink hready id hid => simpa [told_of_known hready hid] using h
  | recorded sink hready catalog hjudged hwritten =>
    simpa [told_of_judged hready hjudged] using h.recorded hready hwritten
  | failed sink hready catalog hjudged error hwritten =>
    simpa using h.failed hready hwritten

/-! ## Runs -/

/-- A new writer over an output that can be cut back has written the manifest of its ledger, after
any calls. -/
theorem holds_after [Catalog σ] (config : Config) (catalog : σ) {path : FilePath}
    {medium : Medium} {place : Option Location}
    (hstart : (Sink.start path { medium } place).result = .ok ())
    (hcut : medium.truncateFails = false) (calls : List Call) :
    let writer := begun config catalog path medium place
    (writer.after calls).Holds (writer.ledger calls) := by
  have hbegun : (begun config catalog path medium place).Holds [] := by
    rw [begun_eq]
    exact .inUse _ rfl rfl (Sink.tracks_start path medium place hstart) (by simpa using hcut)
  -- the invariant ties the sinks to the entries in the chronicle so far
  refine run_induction (fun chronicle writer => writer.Holds (entriesIn chronicle))
    ?_ ?_ ?_ hbegun calls
  · intro chronicle writer type origin outcome after h hloads
    exact h.load hloads
  · intro chronicle writer identity h
    rw [entriesIn_concat_unloaded]
    exact h.congr rfl rfl
  · intro chronicle writer h
    exact h.close

/-- **The manifest is exact.** A new writer is given a new sink over an empty output of any medium
that can cut it back. After any calls, the output holds the header and one line for each load so far
that was answered with a new id, in the order of the loads. -/
theorem manifest_is_exact [Catalog σ] (config : Config) (catalog : σ) (path : FilePath)
    (medium : Medium) (place : Option Location) (calls : List Call)
    (hstart : (Sink.start path { medium } place).result = .ok ())
    (hcut : medium.truncateFails = false) :
    let writer := begun config catalog path medium place
    (writer.after calls).sinks.map (fun sink => sink.output.contents) =
      [Utf8.encode (Manifest.render (writer.ledger calls))] :=
  (holds_after config catalog hstart hcut calls).contents

/-- Over a medium whose third flush fails, the first type that is loaded keeps its line and the
second one leaves none. -/
theorem manifest_is_exact_of_failing_flush :
    (Sink.start ⟨[]⟩ { medium := { chunk := some 7, failingFlush := 3 } } none).result = .ok () ∧
    ((begun {} ({} : NameCatalog) ⟨[]⟩ { chunk := some 7, failingFlush := 3 } none).after
      [.load (.plain ⟨1⟩ "Object" .builtin) none, .load (.plain ⟨1⟩ "Object" .builtin) none,
        .unload ⟨1⟩, .load (.plain ⟨2⟩ "String" .builtin) none, .close]).sinks.map
        (fun sink => sink.output.contents) =
      [Utf8.encode (Manifest.render [{ name := "Object", id := 0 }])] := by
  have hstart := Sink.start_of_room ⟨[]⟩ { chunk := some 7, failingFlush := 3 } none
    (by decide) (by decide) (by decide)
  refine ⟨hstart, (manifest_is_exact _ _ _ _ _ _ hstart rfl).trans ?_⟩
  exact congrArg (fun entries => [Utf8.encode (Manifest.render entries)]) (by decide +kernel)

end Writer

end LoadOrder
