/-
# Replays that pass the check

A replay writes names and sources as they are. The manifest that it leaves is read back entry by
entry only if no name and no source can be taken for something else: a name that is not a single word
or begins with a number sign breaks its record, and so does a source with a line feed. Ids and
references are in order in any case.

Main statements:
- `read_render_kept_iff`: when every entry is read as a record of its own;
- `runCheck_of_readable`: such a manifest passes the check;
- `replayed_manifest_is_read_iff`: what the check makes of the manifest of a replay.
-/
import LoadOrder.Command
import LoadOrder.Proofs.Manifest.RoundTrip
import LoadOrder.Proofs.Replay
import LoadOrder.Proofs.Writer.Contents
import LoadOrder.Proofs.Writer.References

namespace LoadOrder

/-! ## Entries that are records of their own -/

/-- Losing a carriage return takes no other character away. -/
theorem Text.mem_withoutCarriage_of_ne {α : Type} [DecidableEq α] {c carriage : α}
    (h : c ≠ carriage) (line : List α) : c ∈ withoutCarriage carriage line ↔ c ∈ line := by
  unfold withoutCarriage
  split
  · next hlast =>
    have hline : line.dropLast ++ [carriage] = line := List.dropLast_append_getLast? carriage hlast
    constructor
    · exact fun hmem => List.dropLast_subset line hmem
    · intro hmem
      rw [← hline, List.mem_append, List.mem_singleton] at hmem
      exact hmem.resolve_right h
  · exact Iff.rfl

/-- An entry whose line is read as one record: it fits on the line and does not look like a comment.
-/
structure Entry.Readable (entry : Entry) : Prop where
  legible : entry.Legible
  noComment : entry.isComment = false

/-- What a line keeps of an entry fits on a line exactly if the entry does. -/
theorem Entry.legible_kept_iff (entry : Entry) : entry.kept.Legible ↔ entry.Legible := by
  have hsource : (∀ source, entry.kept.source = some source → '\n' ∉ source.toList) ↔
      ∀ source, entry.source = some source → '\n' ∉ source.toList := by
    rw [kept]
    cases entry.source with
    | none => simp
    | some source =>
      have hne : '\n' ≠ '\r' := by decide
      have hmem := Text.mem_withoutCarriage_of_ne hne source.toList
      simp [hmem]
  constructor
  · intro h
    exact ⟨h.name, hsource.1 h.source⟩
  · intro h
    exact ⟨h.name, hsource.2 h.source⟩

namespace Manifest

/-- Each entry is read as a record of its own exactly if all entries are readable. -/
theorem read_render_kept_iff (entries : List Entry) :
    read (render entries) = .ok (entries.map Entry.kept) ↔ ∀ entry ∈ entries, entry.Readable := by
  constructor
  · intro h
    have hlegible : ∀ entry ∈ entries, entry.Legible := by
      intro entry hmem
      exact entry.legible_kept_iff.1 (legible_of_read h entry.kept (List.mem_map_of_mem hmem))
    rw [read_render hlegible] at h
    have hlength : (entries.filter (! ·.isComment)).length = entries.length := by
      have hboth := congrArg List.length (Except.ok.inj h)
      rwa [List.length_map, List.length_map] at hboth
    -- an entry that looks like a comment would make the list shorter
    have hall := List.length_filter_eq_length_iff.1 hlength
    intro entry hmem
    exact ⟨hlegible entry hmem, by simpa using hall entry hmem⟩
  · intro h
    have hlegible : ∀ entry ∈ entries, entry.Legible := fun entry hmem => (h entry hmem).legible
    have hall : ∀ entry ∈ entries, (! entry.isComment) = true := by
      intro entry hmem
      rw [(h entry hmem).noComment]
      rfl
    rw [read_render hlegible, List.filter_eq_self.2 hall]

/-- What is lost with a carriage return has no part in the order. -/
theorem checkOrderFrom_map_kept (record : Nat) (written : List RecordId) (entries : List Entry) :
    checkOrderFrom record written (entries.map Entry.kept) =
      checkOrderFrom record written entries := by
  induction entries generalizing record written with
  | nil => rfl
  | cons entry rest ih =>
    have hfault : orderFault written entry.kept = orderFault written entry := rfl
    rw [List.map_cons, checkOrderFrom, checkOrderFrom, hfault]
    cases orderFault written entry with
    | some fault => rfl
    | none => exact ih _ _

end Manifest

/-! ## The check -/

namespace Command

/-- A manifest of readable entries in order has as many records as entries. -/
theorem countRecords_of_readable {entries : List Entry}
    (horder : Manifest.checkOrder entries = .ok ())
    (h : ∀ entry ∈ entries, entry.Readable) :
    countRecords (Manifest.render entries) = .ok entries.length := by
  have hread := (Manifest.read_render_kept_iff entries).2 h
  have hkept : Manifest.checkOrder (entries.map Entry.kept) = .ok () :=
    (Manifest.checkOrderFrom_map_kept 1 [] entries).trans horder
  simp [countRecords, hread, hkept, bind, Except.bind]

/-- A manifest of readable entries in order passes the check, wherever it is kept. -/
theorem runCheck_of_readable {entries : List Entry}
    (horder : Manifest.checkOrder entries = .ok ())
    (h : ∀ entry ∈ entries, entry.Readable) {directory : Directory} {manifest : FilePath}
    (hfile : directory.read manifest = .bytes (Utf8.encode (Manifest.render entries))) :
    runCheck directory manifest =
      { result := .ok (), state := directory, notices := [.inOrder manifest entries.length] } := by
  have htext : readText directory manifest = some (Manifest.render entries) := by
    simp [readText, hfile, Utf8.encode]
  simp [runCheck, htext, countRecords_of_readable horder h]

end Command

/-! ## Replays -/

namespace Replay

/-- **A replay passes the check if its entries are readable.** A new writer is given a new sink over
an empty output that can be cut back, and a stream is replayed in which fewer types get lines than
there are ids. Then the output holds the header and a line for each of the entries, ids and references
in them are in order, and every entry is read as a record of its own exactly if all of them are
readable. In that case the check counts them all, in whatever file they are. -/
theorem replayed_manifest_is_read_iff (config : Config) (path : FilePath) (medium : Medium)
    (place : Option Location) (stream : List UInt8)
    (hstart : (Sink.start path { medium } place).result = .ok ())
    (hcut : medium.truncateFails = false)
    (hfew : ((Writer.begun config ({} : NameCatalog) path medium place).ledger
      (calls stream)).length < UInt32.size) :
    let writer := Writer.begun config ({} : NameCatalog) path medium place
    let written := writer.ledger (calls stream)
    let text := Manifest.render written
    (run stream writer).state.close.state.sinks.map (fun sink => sink.output.contents) =
      [Utf8.encode text] ∧
    Manifest.checkOrder (written.map Entry.kept) = .ok () ∧
    (Manifest.read text = .ok (written.map Entry.kept) ↔ ∀ entry ∈ written, entry.Readable) ∧
    ((∀ entry ∈ written, entry.Readable) →
      Command.countRecords text = .ok written.length ∧
      ∀ directory manifest, directory.read manifest = .bytes (Utf8.encode text) →
        Command.runCheck directory manifest =
          { result := .ok (), state := directory,
            notices := [.inOrder manifest written.length] }) := by
  intro writer written text
  have hholds : (writer.after (calls stream)).Holds written :=
    Writer.holds_after config ({} : NameCatalog) hstart hcut (calls stream)
  have horder : Manifest.checkOrder written = .ok () :=
    (Writer.orderly_after config ({} : NameCatalog) path medium place (calls stream)).order hfew
  refine ⟨?_, ?_, Manifest.read_render_kept_iff written, ?_⟩
  · rw [state_run NameCatalog.answers]
    exact hholds.close.contents
  · exact (Manifest.checkOrderFrom_map_kept 1 [] written).trans horder
  · intro hreadable
    exact ⟨Command.countRecords_of_readable horder hreadable,
      fun directory manifest => Command.runCheck_of_readable horder hreadable⟩

/-- Of two types that are loaded, the second with a source, both are read and counted. -/
theorem replayed_manifest_is_read_of_two :
    let stream := Utf8.encode (
      "\x7b\"event\":\"load\",\"type\":" ++
        "\x7b\"identity\":1,\"name\":\"A\",\"loader\":\"builtin\"\x7d\x7d\r\n\n" ++
      "\x7b\"event\":\"load\",\"type\":\x7b\"identity\":2,\"name\":\"app/Main\"," ++
        "\"loader\":\"user_defined\",\"super_type\":1\x7d," ++
        "\"origin\":\x7b\"source\":\"file:/app.jar\"\x7d\x7d\n" ++
      "\x7b\"event\":\"unload\",\"identity\":2\x7d")
    let writer := Writer.begun {} ({} : NameCatalog) ⟨[]⟩ {} none
    (Sink.start ⟨[]⟩ { medium := {} } none).result = .ok () ∧
    (writer.ledger (calls stream)).length < UInt32.size ∧
    Command.countRecords (Manifest.render (writer.ledger (calls stream))) = .ok 2 := by
  intro stream writer
  have hstart := Sink.start_of_room ⟨[]⟩ {} none (by decide) (by decide) (by decide)
  have hledger : writer.ledger (calls stream) = [{ name := "A", id := 0 },
      { name := "app/Main", id := 1, superId := some 0, source := some "/app.jar" }] := by
    -- piece by piece the text of the stream is soon taken apart
    simp only [stream, writer, Utf8.encode, String.toList_append]
    rw [Writer.begun_eq, Sink.state_start hstart]
    decide +kernel
  have hfew : (writer.ledger (calls stream)).length < UInt32.size := by
    rw [hledger]
    decide
  have hreadable : ∀ entry ∈ writer.ledger (calls stream), entry.Readable := by
    rw [hledger]
    intro entry hmem
    rcases List.mem_pair.1 hmem with rfl | rfl
    · exact ⟨⟨by decide +kernel, by simp⟩, by decide +kernel⟩
    · exact ⟨⟨by decide +kernel, by simp⟩, by decide +kernel⟩
  have hmain := replayed_manifest_is_read_iff {} ⟨[]⟩ {} none stream hstart rfl hfew
  have hcount := (hmain.2.2.2 hreadable).1
  refine ⟨hstart, hfew, hcount.trans ?_⟩
  rw [hledger]
  rfl

/-- A type whose name is two words is recorded, and the manifest is refused for its line. -/
theorem replayed_name_of_two_words_is_refused :
    let stream := Utf8.encode ("\x7b\"event\":\"load\",\"type\":" ++
      "\x7b\"identity\":1,\"name\":\"a b\",\"loader\":\"builtin\"\x7d\x7d\n")
    let writer := Writer.begun {} ({} : NameCatalog) ⟨[]⟩ {} none
    let replayed := run stream writer
    let text := Manifest.render [{ name := "a b", id := 0 }]
    replayed.result = .ok { recorded := 1 } ∧
    replayed.state.close.state.sinks.map (fun sink => sink.output.contents) = [Utf8.encode text] ∧
    Command.countRecords text = .error (.malformedLine 4 LineFault.idExpected.text) := by
  intro stream writer replayed text
  have hstart := Sink.start_of_room ⟨[]⟩ {} none (by decide) (by decide) (by decide)
  obtain ⟨hresult, hledger⟩ : replayed.result = .ok { recorded := 1 } ∧
      writer.ledger (calls stream) = [{ name := "a b", id := 0 }] := by
    simp only [replayed, stream, writer, Utf8.encode, String.toList_append]
    rw [Writer.begun_eq, Sink.state_start hstart]
    decide +kernel
  have hcontents :=
    (Writer.holds_after {} ({} : NameCatalog) hstart rfl (calls stream)).close.contents
  refine ⟨hresult, ?_, by decide +kernel⟩
  simp only [replayed, writer]
  rw [state_run NameCatalog.answers, hcontents]
  exact congrArg (fun entries => [Utf8.encode (Manifest.render entries)]) hledger

end Replay

end LoadOrder
