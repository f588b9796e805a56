/-
# Manifests are read back

A reader of a manifest takes a carriage return at the end of a source for a part of the line's
ending, and a name that begins with a number sign for the beginning of a comment. Everything else
that was written comes back, unless a name is not a single word or a source breaks the line.

Main statements:
- `read_render`: what is read of a manifest whose entries do not break their lines;
- `legible_of_read`: only such entries are ever read;
- `read_render_iff`: the entries that were written are read exactly if all are representable.
-/
import LoadOrder.Manifest
import LoadOrder.Proofs.Entry.Line
import LoadOrder.Proofs.Text.Lines

namespace LoadOrder

open Text

/-! ## Entries on their lines -/

/-- An entry that fits on a line of its own: its name is a word and its source does not break the
line. -/
structure Entry.Legible (entry : Entry) : Prop where
  name : IsWord entry.name.toList
  source : ∀ source, entry.source = some source → '\n' ∉ source.toList

/-- An entry that can be read back from its line. -/
structure Entry.Representable (entry : Entry) : Prop where
  legible : entry.Legible
  noComment : entry.name.toList.head? ≠ some '#'
  source : ∀ source, entry.source = some source → source.toList.getLast? ≠ some '\r'

namespace Entry

/-- An entry as its line keeps it: a carriage return at the end of the source is lost. -/
def kept (entry : Entry) : Entry :=
  { entry with source := entry.source.map fun source =>
      String.ofList (withoutCarriage '\r' source.toList) }

/-- Whether a line with this entry looks like a comment. -/
def isComment (entry : Entry) : Bool :=
  entry.name.toList.head? = some '#'

/-- Before its source, a line has no blank characters but spaces. -/
theorem eq_space_of_blank {entry : Entry} (hname : IsWord entry.name.toList) {c : Char}
    (hmem : c ∈ entry.name.toList ++ joined entry.fieldWords.tail) (hblank : isBlank c = true) :
    c = ' ' := by
  rcases List.mem_append.1 hmem with hmem | hmem
  · rw [hname.notBlank c hmem] at hblank
    exact absurd hblank Bool.false_ne_true
  · obtain ⟨word, hword, hc⟩ := List.mem_flatMap.1 hmem
    rcases List.mem_cons.1 hc with hc | hc
    · exact hc
    · rw [(isWord_of_mem_tail hword).1.notBlank c hc] at hblank
      exact absurd hblank Bool.false_ne_true

/-- The line of an entry that fits on it does not break. -/
theorem feed_not_mem_lineChars {entry : Entry} (h : entry.Legible) : '\n' ∉ entry.lineChars := by
  have hfront : '\n' ∉ entry.name.toList ++ joined entry.fieldWords.tail := by
    intro hmem
    exact absurd (eq_space_of_blank h.name hmem (by decide)) (by decide)
  rw [lineChars_eq, ← List.append_assoc, List.mem_append]
  rintro (hmem | hmem)
  · exact hfront hmem
  · cases hsource : entry.source with
    | none => simp [hsource] at hmem
    | some source =>
      simp only [hsource] at hmem
      rcases List.mem_append.1 hmem with hmem | hmem
      · exact absurd hmem (by decide +kernel)
      · exact h.source source hsource hmem

/-- Taking the carriage return from the end of a line takes it from the source. -/
theorem withoutCarriage_lineChars {entry : Entry} (hname : IsWord entry.name.toList) :
    withoutCarriage '\r' entry.lineChars = entry.kept.lineChars := by
  rw [lineChars_eq entry, lineChars_eq entry.kept, kept]
  cases entry.source with
  | none =>
    refine withoutCarriage_of_ne ?_
    intro hlast
    rw [List.append_nil] at hlast
    have hmem := List.mem_of_getLast? hlast
    exact absurd (eq_space_of_blank hname hmem (by decide)) (by decide)
  | some source =>
    dsimp only [Option.map_some]
    rw [String.toList_ofList, ← List.append_assoc, ← List.append_assoc, ← List.append_assoc,
      ← List.append_assoc]
    refine withoutCarriage_append ?_ source.toList
    have hmark : sourceMark.getLast? = some ' ' := by decide +kernel
    rw [List.getLast?_append, hmark]
    exact fun hlast => absurd (Option.some.inj hlast) (by decide)

/-- The line of an entry is skipped exactly if it looks like a comment. -/
theorem isSkipped_lineChars {entry : Entry} (hname : IsWord entry.name.toList) :
    Manifest.isSkipped entry.lineChars = entry.isComment := by
  have hhead : entry.lineChars.head? = entry.name.toList.head? := by
    obtain ⟨c, rest, hcons⟩ := List.exists_cons_of_ne_nil hname.ne_nil
    rw [lineChars_eq, hcons]
    rfl
  have hblank : allBlank entry.lineChars = false := by
    rw [lineChars_eq]
    exact not_allBlank_of_isWord hname _
  rw [Manifest.isSkipped, hblank, hhead, Bool.false_or, isComment]

/-- An entry is kept as it is exactly if no carriage return ends its source. -/
theorem kept_eq_self_iff (entry : Entry) :
    entry.kept = entry ↔
      ∀ source, entry.source = some source → source.toList.getLast? ≠ some '\r' := by
  have hsource : entry.kept = entry ↔ entry.kept.source = entry.source := by
    constructor
    · intro h
      rw [h]
    · intro h
      calc entry.kept = { entry with source := entry.kept.source } := rfl
        _ = entry := by rw [h]
  rw [hsource, kept]
  cases entry.source with
  | none => simp
  | some source =>
    have hline : String.ofList (withoutCarriage '\r' source.toList) = source ↔
        withoutCarriage '\r' source.toList = source.toList := by
      rw [← String.toList_inj, String.toList_ofList]
    simp [hline, withoutCarriage_eq_self_iff]

end Entry

namespace Manifest

/-! ## Reading lines -/

/-- Lines that are no records only count. -/
theorem readLines_of_skipped (number : Nat) {front : List (List Char)}
    (h : ∀ line ∈ front, isSkipped line = true) (back : List (List Char)) :
    readLines number (front ++ back) = readLines (number + front.length) back := by
  induction front generalizing number with
  | nil => rfl
  | cons line rest ih =>
    obtain ⟨hline, hrest⟩ := List.forall_mem_cons.1 h
    rw [List.cons_append, readLines, if_pos hline, ih _ hrest, List.length_cons]
    congr 1
    omega

/-- The lines of entries are read as what they keep of the entries that do not look like comments.
-/
theorem readLines_lineChars (number : Nat) {entries : List Entry}
    (h : ∀ entry ∈ entries, entry.Legible) :
    readLines number (entries.map fun entry => withoutCarriage '\r' entry.lineChars) =
      .ok ((entries.filter (! ·.isComment)).map Entry.kept) := by
  induction entries generalizing number with
  | nil => rfl
  | cons entry rest ih =>
    obtain ⟨hentry, hrest⟩ := List.forall_mem_cons.1 h
    have hkept : IsWord entry.kept.name.toList := hentry.name
    have hskipped : isSkipped entry.kept.lineChars = entry.isComment :=
      Entry.isSkipped_lineChars hkept
    rw [List.map_cons, readLines, Entry.withoutCarriage_lineChars hentry.name, hskipped]
    cases hcomment : entry.isComment with
    | true =>
      rw [if_pos rfl, ih _ hrest, List.filter_cons_of_neg (by simp [hcomment])]
    | false =>
      have hparse := (Entry.parse_eq_ok_iff number).2 (Entry.ofChars_lineChars hkept)
      rw [if_neg Bool.false_ne_true, hparse, ih _ hrest,
        List.filter_cons_of_pos (by simp [hcomment])]
      rfl

/-- Every entry that is read stands on one of the lines. -/
theorem exists_line_of_readLines {number : Nat} {lines : List (List Char)} {entries : List Entry}
    (h : readLines number lines = .ok entries) :
    ∀ entry ∈ entries, ∃ line ∈ lines, Entry.ofChars line = .ok entry := by
  induction lines generalizing number entries with
  | nil =>
    obtain rfl := Except.ok.inj h
    simp
  | cons line rest ih =>
    rw [readLines] at h
    split at h
    · intro entry hmem
      obtain ⟨other, hother, hentry⟩ := ih h entry hmem
      exact ⟨other, List.mem_cons_of_mem line hother, hentry⟩
    · cases hfirst : Entry.parse (String.ofList line) number with
      | error error => simp [hfirst, bind, Except.bind] at h
      | ok first =>
        cases hmore : readLines (number + 1) rest with
        | error error => simp [hfirst, hmore, bind, Except.bind] at h
        | ok more =>
          simp only [hfirst, hmore, bind, Except.bind] at h
          obtain rfl := Except.ok.inj h
          intro entry hmem
          rcases List.mem_cons.1 hmem with rfl | hmem
          · exact ⟨line, List.mem_cons_self, (Entry.parse_eq_ok_iff number).1 hfirst⟩
          · obtain ⟨other, hother, hentry⟩ := ih hmore entry hmem
            exact ⟨other, List.mem_cons_of_mem line hother, hentry⟩

/-! ## Whole manifests -/

/-- The lines of a manifest are the header and the lines of its entries, if none of these breaks. -/
theorem lines_render {entries : List Entry} (h : ∀ entry ∈ entries, entry.Legible) :
    lines '\n' '\r' (render entries).toList =
      header.map String.toList ++
        entries.map fun entry => withoutCarriage '\r' entry.lineChars := by
  have htext : (render entries).toList =
      ((header ++ entries.map Entry.line).map String.toList).flatMap (· ++ ['\n']) := by
    rw [render, String.toList_ofList, linesChars, List.flatMap_map]
  have hheader : ∀ line ∈ header, '\n' ∉ line.toList ∧
      withoutCarriage '\r' line.toList = line.toList := by
    decide +kernel
  have hfeed : ∀ text ∈ (header ++ entries.map Entry.line).map String.toList, '\n' ∉ text := by
    intro text hmem
    rw [List.map_append, List.mem_append, List.mem_map, List.map_map, List.mem_map] at hmem
    rcases hmem with ⟨line, hline, rfl⟩ | ⟨entry, hentry, rfl⟩
    · exact (hheader line hline).1
    · rw [Function.comp_apply, Entry.line, String.toList_ofList]
      exact Entry.feed_not_mem_lineChars (h entry hentry)
  have hfront : header.map (withoutCarriage '\r' ∘ String.toList) = header.map String.toList :=
    List.map_congr_left fun line hline => (hheader line hline).2
  have hback : entries.map ((withoutCarriage '\r' ∘ String.toList) ∘ Entry.line) =
      entries.map fun entry => withoutCarriage '\r' entry.lineChars := by
    refine List.map_congr_left ?_
    intro entry _
    rw [Function.comp_apply, Function.comp_apply, Entry.line, String.toList_ofList]
  rw [htext, lines_flatMap hfeed, List.map_map, List.map_append, List.map_map, hfront, hback]

/-- What is read of a manifest whose entries do not break their lines: the entries that look like
comments are missing, and so are carriage returns at the ends of sources. -/
theorem read_render {entries : List Entry} (h : ∀ entry ∈ entries, entry.Legible) :
    read (render entries) = .ok ((entries.filter (! ·.isComment)).map Entry.kept) := by
  have hheader : ∀ line ∈ header.map String.toList, isSkipped line = true := by decide +kernel
  rw [read, lines_render h, readLines_of_skipped 1 hheader]
  exact readLines_lineChars _ h

/-- Only entries that do not break their lines are ever read. -/
theorem legible_of_read {text : String} {entries : List Entry} (h : read text = .ok entries) :
    ∀ entry ∈ entries, entry.Legible := by
  intro entry hmem
  obtain ⟨line, hline, hentry⟩ := exists_line_of_readLines h entry hmem
  refine ⟨Entry.isWord_name_of_ofChars hentry, ?_⟩
  intro source hsource hfeed
  have hsuffix := Entry.source_suffix_of_ofChars hentry hsource
  exact feed_not_mem_of_mem_lines hline (hsuffix.subset hfeed)

/-- **A manifest is read back** as the entries that it was written for exactly if every name is a
single word that does not begin with a number sign, and no source contains a line feed or ends with
a carriage return. -/
theorem read_render_iff (entries : List Entry) :
    read (render entries) = .ok entries ↔ ∀ entry ∈ entries, entry.Representable := by
  constructor
  · intro h
    have hlegible := legible_of_read h
    rw [read_render hlegible] at h
    have hsame := Except.ok.inj h
    have hlength : (entries.filter (! ·.isComment)).length = entries.length := by
      rw [← List.length_map (f := Entry.kept), hsame]
    -- an entry that looks like a comment would make the list shorter
    have hall := List.length_filter_eq_length_iff.1 hlength
    rw [List.filter_eq_self.2 hall] at hsame
    have hkept := List.map_inj_left.1 (hsame.trans (List.map_id entries).symm)
    intro entry hmem
    have hcomment := hall entry hmem
    exact ⟨hlegible entry hmem, by simpa [Entry.isComment] using hcomment,
      (Entry.kept_eq_self_iff entry).1 (hkept entry hmem)⟩
  · intro h
    have hlegible : ∀ entry ∈ entries, entry.Legible := fun entry hmem => (h entry hmem).legible
    have hall : ∀ entry ∈ entries, (! entry.isComment) = true := by
      intro entry hmem
      simpa [Entry.isComment] using (h entry hmem).noComment
    have hkept : ∀ entry ∈ entries, entry.kept = id entry :=
      fun entry hmem => (Entry.kept_eq_self_iff entry).2 (h entry hmem).source
    rw [read_render hlegible, List.filter_eq_self.2 hall, List.map_congr_left hkept, List.map_id]

end Manifest

end LoadOrder
