/-
# Runs from the command line

Whatever a run tells its log is shown in its own words, but for the control characters that a terminal
takes for commands: none of these gets into the log.

A replay that can create its manifest and find its events file looks at each line of that file in
turn. Three things can make it fail: a line that is not text, a line that is no event, and a load that
finds the writer disabled. However it ends, the writer is closed, so the manifest holds the header and
the lines of the types that were recorded before the first bad line.

Main statements:
- `log_conclude_of_not_isCommand`, `not_isCommand_of_mem_log`: what the log of a run shows;
- `runReplay_of_init`, `runReplay_of_openFile`: a replay put together from its writer and its events;
- `replay_succeeds_iff_and_writes_ledger`: the exit code and the manifest that is left.
-/
import LoadOrder.Program
import LoadOrder.Proofs.Catalog
import LoadOrder.Proofs.Replay
import LoadOrder.Proofs.Writer.Files

namespace LoadOrder

namespace Command

/-- A replay that has opened its manifest and its events feeds them to the writer, closes it, and has
its last word. -/
theorem runReplay_of_init {config : Config} {launch : Launch} {directory opened : Directory}
    {writer : Writer NameCatalog} {events : FilePath} {stream : List UInt8}
    (hresult : (({ config, catalog := {} } : Writer NameCatalog).init launch directory).result =
      .ok ())
    (hstate : (({ config, catalog := {} } : Writer NameCatalog).init launch directory).state =
      (writer, opened))
    (hread : (writer.saveTo opened).read events = .bytes stream) :
    (runReplay launch directory events config).result =
        ((Replay.run stream writer).result.mapError ReplayFault.text).bind conclude ∧
      (runReplay launch directory events config).state =
        (Replay.run stream writer).state.close.state.saveTo opened := by
  cases hreplayed : (Replay.run stream writer).result with
  | error fault =>
    simp [runReplay, hresult, hstate, hread, replayReading, hreplayed, Except.mapError, Except.bind]
  | ok tally =>
    simp [runReplay, hresult, hstate, hread, replayReading, hreplayed, Except.mapError, Except.bind]

/-- A replay succeeds if its events come to a tally without a load of a disabled writer. -/
theorem bind_conclude_eq_ok_iff (replayed : Except ReplayFault Tally) :
    (replayed.mapError ReplayFault.text).bind conclude = .ok () ↔
      ∃ tally, replayed = .ok tally ∧ tally.disabled = 0 := by
  cases replayed with
  | error fault => simp [Except.mapError, Except.bind]
  | ok tally =>
    by_cases hdisabled : tally.disabled = 0 <;>
      simp [Except.mapError, Except.bind, conclude, hdisabled]

/-- A replay whose manifest can be opened, and whose events are in another file, comes to the first
bad line or to the answers of the writer, and leaves the manifest with the ledger of the calls. -/
theorem runReplay_of_openFile {config : Config} {launch : Launch} {path : FilePath}
    (hpath : config.resolvedOutput launch = some path) {directory : Directory} {sink : Sink}
    (hopened : (Sink.openFile path directory).result = .ok sink) {events : FilePath}
    {place : Location} (hevents : (Sink.openFile path directory).state.locate events = .ok place)
    (hother : sink.place ≠ some place) {stream : List UInt8}
    (hstream : directory.node? place = some (.file stream)) :
    let writer := Writer.begun config ({} : NameCatalog) path .file sink.place
    (runReplay launch directory events config).result =
        ((Replay.run stream writer).result.mapError ReplayFault.text).bind conclude ∧
      (runReplay launch directory events config).state.read path =
        .bytes (Utf8.encode (Manifest.render (writer.ledger (Replay.calls stream)))) := by
  intro writer
  obtain ⟨target, prepared, hfills, hdirectory⟩ := Sink.fills_of_openFile hopened
  have hplace : sink.place = some target := hfills.place_eq
  have hwriter : writer = .begun config {} path .file (some target) := by
    simp only [writer, hplace]
  obtain ⟨hresult, hstate⟩ := Writer.init_of_openFile ({} : NameCatalog) hpath hopened hfills
  rw [← hwriter, hdirectory] at hstate
  have hread : (writer.saveTo (prepared.put target (.file sink.output.contents))).read events =
      .bytes stream := by
    have hne : place ≠ target := by
      rintro rfl
      exact hother hplace
    rw [hdirectory] at hevents
    rw [hwriter, Writer.saveTo_begun config ({} : NameCatalog) hfills, Directory.read, hevents]
    simp only [hfills.node?_of_ne _ hstream hne]
  obtain ⟨hreport, hleft⟩ := runReplay_of_init hresult hstate hread
  refine ⟨hreport, ?_⟩
  have hclosed := Writer.saveTo_close_after config ({} : NameCatalog) hfills.result
    (Replay.calls stream) (prepared.put target (.file sink.output.contents))
  rw [hleft, Replay.state_run NameCatalog.answers, hwriter, hclosed]
  simpa using hfills.read _

end Command

namespace LogLine

/-- A notice without commands is shown in its own words. -/
theorem ofNotice_of_not_isCommand {notice : Notice}
    (h : ∀ c ∈ notice.text.toList, Text.isCommand c = false) :
    ofNotice notice = { level := notice.level, text := notice.text } := by
  rw [ofNotice, Text.guarded_of_not_isCommand h, String.ofList_toList]

/-- No notice is shown with a command. -/
theorem not_isCommand_of_mem_text {notice : Notice} {c : Char}
    (h : c ∈ (ofNotice notice).text.toList) : Text.isCommand c = false := by
  rw [ofNotice, String.toList_ofList] at h
  exact Text.not_isCommand_of_mem_guarded h

end LogLine

namespace Program

/-! ## The log -/

/-- The log shows the notices that matter enough, in order. -/
theorem log_conclude (debug : Bool) (report : Command.Report) :
    (conclude debug report).log =
      (report.notices.filter fun notice => shows debug notice.level).map LogLine.ofNotice := by
  unfold conclude
  cases report.result <;> rfl

/-- Notices without commands are logged in their own words. -/
theorem log_conclude_of_not_isCommand (debug : Bool) {report : Command.Report}
    (h : ∀ notice ∈ report.notices, ∀ c ∈ notice.text.toList, Text.isCommand c = false) :
    (conclude debug report).log =
      (report.notices.filter fun notice => shows debug notice.level).map
        fun notice => { level := notice.level, text := notice.text } := by
  rw [log_conclude]
  apply List.map_congr_left
  intro notice hmem
  exact LogLine.ofNotice_of_not_isCommand (h notice (List.mem_filter.1 hmem).1)

/-- **The log commands no terminal.** Whatever names the paths, the events and the manifests bring into
a run, no character of its log is one that a terminal takes for a command. -/
theorem not_isCommand_of_mem_log {launch : Launch} {directory : Directory}
    {arguments : List String} {line : LogLine} (hline : line ∈ (run launch directory arguments).log)
    {c : Char} (hc : c ∈ line.text.toList) : Text.isCommand c = false := by
  unfold run at hline
  split at hline
  · exact absurd hline List.not_mem_nil
  · exact absurd hline List.not_mem_nil
  · rw [log_conclude, List.mem_map] at hline
    obtain ⟨notice, -, rfl⟩ := hline
    exact LogLine.not_isCommand_of_mem_text hc

/-! ## The exit code and the manifest -/

/-- The exit code tells whether the command succeeded. -/
theorem exitCode_conclude (debug : Bool) (report : Command.Report) :
    ((conclude debug report).exitCode = 0 ↔ report.result = .ok ()) ∧
      ((conclude debug report).exitCode = 0 ∨ (conclude debug report).exitCode = 1) := by
  unfold conclude
  cases report.result <;> simp

/-- The directory that is left is that of the report. -/
@[simp] theorem directory_conclude (debug : Bool) (report : Command.Report) :
    (conclude debug report).directory = report.state := by
  unfold conclude
  cases report.result <;> rfl

/-- **A replay from the command line.** The manifest can be created, and the path of the events leads to
another file, of whatever content. The exit code is 0 if each line of that content is text, and blank or
an event, and if no load finds the writer disabled; otherwise it is 1. Either way the manifest holds the
header and one line for each type that was recorded before the first bad line. -/
theorem replay_succeeds_iff_and_writes_ledger {arguments : List String} {debug : Bool}
    {events output : FilePath} {pathStyle : PathStyle} {hasRuntimeImage : Bool}
    (harguments : Arguments.read arguments =
      .run debug (.replay events output pathStyle hasRuntimeImage))
    {launch : Launch} {directory : Directory} {sink : Sink}
    (hopened : (Sink.openFile (LogName.expand launch output) directory).result = .ok sink)
    {place : Location}
    (hevents : (Sink.openFile (LogName.expand launch output) directory).state.locate events =
      .ok place)
    (hother : sink.place ≠ some place) {stream : List UInt8}
    (hstream : directory.node? place = some (.file stream)) :
    let config : Config := { output := some output, pathStyle, hasRuntimeImage }
    let manifest := LogName.expand launch output
    let writer := Writer.begun config ({} : NameCatalog) manifest .file sink.place
    let conclusion := run launch directory arguments
    (conclusion.exitCode = 0 ↔ (∀ line ∈ Replay.lines stream, Replay.Legible line) ∧
        .outcome .disabled ∉ writer.replies (Replay.calls stream)) ∧
      (conclusion.exitCode = 0 ∨ conclusion.exitCode = 1) ∧
      conclusion.directory.read manifest =
        .bytes (Utf8.encode (Manifest.render (writer.ledger (Replay.calls stream)))) := by
  intro config manifest writer conclusion
  have hpath : config.resolvedOutput launch = some manifest := rfl
  obtain ⟨hreport, hmanifest⟩ :=
    Command.runReplay_of_openFile hpath hopened hevents hother hstream
  have hconclusion : conclusion =
      conclude debug (Command.runReplay launch directory events config) := by
    simp only [conclusion, run, harguments, Command.run, config]
  rw [hconclusion, directory_conclude]
  refine ⟨?_, (exitCode_conclude debug _).2, hmanifest⟩
  rw [(exitCode_conclude debug _).1, hreport, Command.bind_conclude_eq_ok_iff,
    Replay.result_run NameCatalog.answers, ← Replay.firstFault_eq_none_iff 1]
  cases Replay.firstFault 1 (Replay.lines stream) with
  | some fault => simp
  | none => simp [Replay.disabled_foldl_count, List.count_eq_zero, writer, manifest]

/-- The third line of four is no event: the type of the first line keeps its line in the manifest, and
the type of the last one gets none. -/
theorem replay_fails_at_third_line :
    let stream := Utf8.encode (
      "\x7b\"event\":\"load\",\"type\":" ++
        "\x7b\"identity\":1,\"name\":\"A\",\"loader\":\"builtin\"\x7d\x7d\n\r\n" ++
      "\x7b\"event\":\"load\"\x7d\n" ++
      "\x7b\"event\":\"load\",\"type\":" ++
        "\x7b\"identity\":2,\"name\":\"B\",\"loader\":\"builtin\"\x7d\x7d\n")
    let directory := ({} : Directory).put ["events".toUTF8.toList] (.file stream)
    (run ⟨1, .ofSeconds 0⟩ directory ["replay", "--output=list", "--events", "events"]).exitCode = 1 ∧
      (run ⟨1, .ofSeconds 0⟩ directory
          ["replay", "--output=list", "--events", "events"]).directory.read (.ofString "list") =
        .bytes (Utf8.encode (Manifest.render [{ name := "A", id := 0 }])) := by
  intro stream directory
  have harguments : Arguments.read ["replay", "--output=list", "--events", "events"] =
      .run false (.replay (.ofString "events") (.ofString "list") .posix true) := by decide +kernel
  have hexpand : LogName.expand ⟨1, .ofSeconds 0⟩ (.ofString "list") = .ofString "list" := by
    decide +kernel
  have hprepared : Sink.prepareFolder (.ofString "list") directory = (.ok (), directory) := rfl
  obtain ⟨⟨target, created⟩, hcreate, rfl⟩ : ∃ found,
      directory.create (.ofString "list") = some found ∧ found.1 = ["list".toUTF8.toList] := by
    have hfirst : (directory.create (.ofString "list")).map Prod.fst =
        some ["list".toUTF8.toList] := by decide +kernel
    exact Option.map_eq_some_iff.1 hfirst
  obtain ⟨sink, hopened, hplace⟩ := Sink.exists_openFile_of_create hprepared hcreate
  have hevents : directory.locate (.ofString "events") = .ok ["events".toUTF8.toList] := by
    decide +kernel
  have hother : sink.place ≠ some ["events".toUTF8.toList] := by
    rw [hplace]
    decide +kernel
  have hstream : directory.node? ["events".toUTF8.toList] = some (.file stream) :=
    Directory.node?_put_self (by decide) _
  have hfault : Replay.firstFault 1 (Replay.lines stream) = some (.invalid 3) := by
    simp only [stream, Utf8.encode, String.toList_append]
    decide +kernel
  rw [← hexpand] at hopened
  have hledger : (Writer.begun { output := some (.ofString "list"), pathStyle := .posix }
      ({} : NameCatalog) (.ofString "list") .file (some ["list".toUTF8.toList])).ledger
        (Replay.calls stream) = [{ name := "A", id := 0 }] := by
    have hstart : (Sink.start (.ofString "list") { medium := .file }
        (some ["list".toUTF8.toList])).result = .ok () :=
      Sink.start_of_room _ _ _ (by simp [Medium.file]) (by decide) (by decide)
    simp only [stream, Utf8.encode, String.toList_append]
    rw [Writer.begun_eq, Sink.state_start hstart]
    decide +kernel
  obtain ⟨hexit, hcodes, hmanifest⟩ := replay_succeeds_iff_and_writes_ledger harguments hopened
    (Sink.locate_openFile hopened hevents) hother hstream
  rw [hexpand, hplace, hledger] at hmanifest
  refine ⟨hcodes.resolve_left ?_, hmanifest⟩
  rw [hexit, ← Replay.firstFault_eq_none_iff 1, hfault]
  simp

end Program

end LoadOrder
