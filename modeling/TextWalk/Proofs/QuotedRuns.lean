import TextWalk.Proofs.Printing
import TextWalk.Proofs.QuotedSpan

namespace TextWalk.Scan

open Buffer

theorem endsAt_iff_closes {content : List Code} {quote : Code} {raw : Bool} {i : Nat} :
    endsAt content quote (!raw) i = true ↔ Closes content quote raw i := by
  cases raw <;> simp [endsAt, Closes]

section Step

variable {content : List Code} {quote : Code} {escaped : Bool} {n : Nat}

theorem quotedRuns_of_not_lt (h : ¬ firstPassing content (· == quote) n < content.length) :
    quotedRuns quote escaped (standingAt content n) = [] := by
  rw [quotedRuns, skipUntil_standingAt, isOnContent_standingAt_of_le (Nat.le_of_not_lt h)]

/-- With a quote ahead a run opens there, and the listing goes on behind its end. -/
theorem quotedRuns_of_lt {s e : Nat} (hs : firstPassing content (· == quote) n = s)
    (hlt : s < content.length) (he : firstEnding content quote escaped (s + 1) = e) :
    quotedRuns quote escaped (standingAt content n) =
      { start := { offset := s, line := lineAt content s, column := columnAt content s }
        codes := slice content s (e + 1)
        closed := (standingAt content e).isOnContent } ::
      quotedRuns quote escaped (standingAt content ((e + 1 : Nat) : Int)) := by
  have hon : (standingAt content s).isOnContent = true := (isOnContent_standingAt content s).mpr hlt
  rw [quotedRuns, skipUntil_standingAt, hs, hon]
  simp only [readUntil_standingAt quote escaped hlt, cursor_standingAt hlt, he,
    next_standingAt_natCast]

end Step

/-- The listing from an index on gives the runs of spans that the content alone determines. -/
theorem exists_quotedSpans (quote : Code) (raw : Bool) (content : List Code) (n : Nat) :
    ∃ spans, QuotedSpans content quote raw n spans ∧
      quotedRuns quote (!raw) (standingAt content n) = spans.map (Span.run content) := by
  have hopen (i : Nat) : passesAt content (· == quote) i = true ↔ content[i]? = some quote :=
    passesAt_beq_iff
  have hclose (i : Nat) : endsAt content quote (!raw) i = true ↔ Closes content quote raw i :=
    endsAt_iff_closes
  by_cases hlt : firstPassing content (· == quote) n < content.length
  case neg =>
    refine ⟨[], .done ?_, quotedRuns_of_not_lt hlt⟩
    exact not_of_size_le_firstIndex hopen (fun _ => lt_length_of_getElem?) (Nat.le_of_not_lt hlt)
  have hn : n ≤ firstPassing content (· == quote) n := le_firstIndex _ _ _
  have hleast := isLeast_firstIndex hopen hlt
  change IsLeast _ (firstPassing content (· == quote) n) at hleast
  generalize hs : firstPassing content (· == quote) n = s at hlt hn hleast
  have he : s + 1 ≤ firstEnding content quote (!raw) (s + 1) := le_firstIndex _ _ _
  obtain ⟨spans, hspans, hruns⟩ :=
    exists_quotedSpans quote raw content (firstEnding content quote (!raw) (s + 1) + 1)
  rw [quotedRuns_of_lt hs hlt rfl, hruns]
  by_cases hend : firstEnding content quote (!raw) (s + 1) < content.length
  · refine ⟨_ :: spans, .closed hleast (isLeast_firstIndex hclose hend) hspans, ?_⟩
    rw [(isOnContent_standingAt content _).mpr hend]
    rfl
  · -- No quote closes the run, so it takes the rest and nothing follows it.
    have hle := Nat.le_of_not_lt hend
    have hnone := not_of_size_le_firstIndex hclose (fun _ h => lt_length_of_getElem? h.1) hle
    refine ⟨_, .unclosed hleast hnone, ?_⟩
    rw [hspans.eq_nil_of_length_le (Nat.le_succ_of_le hle), isOnContent_standingAt_of_le hle,
      slice_eq_slice_length (Nat.le_succ_of_le hle)]
    rfl
termination_by content.length - n

/-- The listing of quoted runs gives the runs of the spans. -/
theorem quotedRuns_ofCodes (quote : Code) (raw : Bool) (content : List Code) :
    ∃ spans, QuotedSpans content quote raw 0 spans ∧
      quotedRuns quote (!raw) (ofCodes content) = spans.map (Span.run content) := by
  rw [ofCodes_eq_standingAt]
  exact exists_quotedSpans quote raw content 0

end TextWalk.Scan

namespace TextWalk.Command

open Scan Buffer

def spanWarnings (content : List Code) (spans : List Span) : List String :=
  (spans.filter fun s => !s.closed).map fun s =>
    "level=warning msg=\"unterminated quoted run\" cursor=\"[offset=" ++ toString s.start ++
      ";line=" ++ toString (lineAt content s.start) ++
      ";column=" ++ toString (columnAt content s.start) ++ "]\"\n"

/-- What the report on quoted runs prints and warns of, by their spans. -/
theorem report_quoted (q : Char) (raw : Bool) {content : List Code} {spans : List Span}
    (h : quotedRuns (Code.ofChar q) (!raw) (ofCodes content) = spans.map (Span.run content)) :
    (Task.quoted q raw).report (ofCodes content) =
      { output := String.join (spans.map fun s => sliceLine content s.start s.stop)
        records := (spans.filter fun s => !s.closed).map fun s => unterminated (s.run content) } := by
  simp only [Task.report, h, List.map_map, List.filter_map]
  rfl

/-- The line of a warning, with the cursor written out. -/
theorem line_unterminated (content : List Code) (s : Span) :
    (unterminated (s.run content)).line =
      "level=warning msg=\"unterminated quoted run\" cursor=\"[offset=" ++ toString s.start ++
        ";line=" ++ toString (lineAt content s.start) ++
        ";column=" ++ toString (columnAt content s.start) ++ "]\"\n" := by
  have hcursor : Log.value (Bytes.ascii (s.run content).start.text) =
      "\"" ++ ("[offset=" ++ toString s.start ++ ";line=" ++ toString (lineAt content s.start) ++
        ";column=" ++ toString (columnAt content s.start) ++ "]") ++ "\"" :=
    Log.value_cursor (s.run content).start
  rw [unterminated, Log.line_of_not_bare .warning (isPlain_of_all rfl) rfl]
  simp only [Log.Level.text, hcursor, List.map_cons, List.map_nil, String.join_cons,
    String.join_nil, String.append_assoc, String.append_empty]
  rfl

/-- The warnings show whatever the verbosity. -/
theorem render_unterminated (verbosity : Int) (content : List Code) (spans : List Span) :
    Log.render verbosity
        ((spans.filter fun s => !s.closed).map fun s => unterminated (s.run content)) =
      String.join (spanWarnings content spans) := by
  have hlevel : ∀ w ∈ (spans.filter fun s => !s.closed).map fun s => unterminated (s.run content),
      w.level = .warning := by
    intro w hw
    obtain ⟨s, -, rfl⟩ := List.mem_map.mp hw
    rfl
  rw [Log.render_warnings hlevel, List.map_map, spanWarnings]
  simp only [Function.comp_def, line_unterminated]

section Warnings

variable {content : List Code} {quote : Code} {raw : Bool} {n : Nat} {spans : List Span}

theorem length_spanWarnings (content : List Code) (spans : List Span) :
    (spanWarnings content spans).length = spans.countP fun s => !s.closed := by
  rw [spanWarnings, List.length_map, List.countP_eq_length_filter]

/-- There is at most one warning. -/
theorem length_spanWarnings_le_one (h : QuotedSpans content quote raw n spans) :
    (spanWarnings content spans).length ≤ 1 := by
  rw [spanWarnings, h.filter_not_closed, List.length_map]
  cases spans.getLast? with
  | none => exact Nat.zero_le 1
  | some s => exact List.length_filter_le _ _

/-- There is a warning exactly if the last span is not closed. -/
theorem spanWarnings_ne_nil_iff (h : QuotedSpans content quote raw n spans) :
    spanWarnings content spans ≠ [] ↔ ∃ s, spans.getLast? = some s ∧ s.closed = false := by
  rw [spanWarnings, h.filter_not_closed]
  cases spans.getLast? with
  | none => simp
  | some s => cases hs : s.closed <;> simp [hs]

end Warnings

/-- Listing the quoted runs of a source that can be read prints one line for each span that the
content determines, in order, and warns of those that are not closed, with the cursor they start at.
Every quote lies in exactly one span and the spans do not overlap. There is at most one warning,
about the last span, and raw quotes make half as many spans, rounded up, with a warning if their
number is odd. -/
theorem quoted_job_prints_spans (q : Char) (raw : Bool) (source : Source) (settings : Settings)
    (data : Bytes) :
    let j : Job := { task := .quoted q raw, source := source, settings := settings }
    let content := settings.codes data
    ∃ spans : List Span,
      j.buffer (.ok data) = .ok (ofCodes content) ∧
      (∀ spans', QuotedSpans content (Code.ofChar q) raw 0 spans' ↔ spans' = spans) ∧
      j.run (.ok data) =
        { failed := false
          stdout := String.join (spans.map fun s => sliceLine content s.start s.stop)
          stderr := loadedText source settings content ++
            String.join (spanWarnings content spans) } ∧
      (∀ i, content[i]? = some (Code.ofChar q) → spans.countP (Span.covers i) = 1) ∧
      spans.Pairwise (fun s t => s.start < t.start ∧ s.stop ≤ t.start) ∧
      (spanWarnings content spans).length ≤ 1 ∧
      (spanWarnings content spans ≠ [] ↔ ∃ s, spans.getLast? = some s ∧ s.closed = false) ∧
      (raw = true →
        spans.length = (content.count (Code.ofChar q) + 1) / 2 ∧
          (spanWarnings content spans ≠ [] ↔ content.count (Code.ofChar q) % 2 = 1)) := by
  intro j content
  obtain ⟨spans, hspans, hruns⟩ := quotedRuns_ofCodes (Code.ofChar q) raw content
  refine ⟨spans, buffer_eq_ofCodes j data, ?_, ?_, ?_, hspans.pairwise,
    length_spanWarnings_le_one hspans, spanWarnings_ne_nil_iff hspans, ?_⟩
  · intro spans'
    constructor
    · exact hspans.unique
    · rintro rfl
      exact hspans
  · rw [run_eq_report, report_quoted q raw hruns, render_unterminated]
  · intro i hi
    exact hspans.countP_covers (Nat.zero_le i) hi
  · rintro rfl
    have hcount := hspans.count_raw
    have hone := length_spanWarnings_le_one hspans
    rw [List.drop_zero, ← length_spanWarnings content spans] at hcount
    rw [← List.length_pos_iff]
    constructor
    · omega
    · constructor <;> intro <;> omega

/-- Three raw quotes, the second after a backslash, make two spans and a warning. -/
theorem quoted_job_prints_spans_of_three_quotes :
    let j : Job := { task := .quoted '"' true, source := .standardInput, settings := {} }
    let data := Bytes.ascii "\"a\\\" \"b"
    let content := j.settings.codes data
    let spans : List Span :=
      [{ start := 0, stop := 4, closed := true }, { start := 5, stop := 7, closed := false }]
    content[3]? = some (Code.ofChar '"') ∧ spans.countP (Span.covers 3) = 1 ∧
      content.count (Code.ofChar '"') = 3 ∧ spanWarnings content spans ≠ [] ∧
      j.run (.ok data) =
        { failed := false
          stdout := "1:0\t\"a\\\"\n1:5\t\"b\n"
          stderr := "level=warning msg=\"unterminated quoted run\" " ++
            "cursor=\"[offset=5;line=1;column=5]\"\n" } := by
  intro j data content spans
  have hcontent : content = [34, 97, 92, 34, 32, 34, 98] := by decide +kernel
  obtain ⟨spans', -, hunique, hrun, hcovers, -, -, -, hraw⟩ :=
    quoted_job_prints_spans '"' true .standardInput {} data
  change ∀ l, QuotedSpans content _ true 0 l ↔ l = spans' at hunique
  have hspans : QuotedSpans content (Code.ofChar '"') true 0 spans := by
    rw [hcontent]
    refine .closed (s := 0) (e := 3) ⟨⟨by decide, by decide⟩, ?_⟩
      ⟨⟨by decide, by decide, Or.inl rfl⟩, ?_⟩ (.unclosed (s := 5) ⟨⟨by decide, by decide⟩, ?_⟩ ?_)
    · intro i _
      exact Nat.zero_le i
    · -- Between the first quote and the second there is none.
      rintro i ⟨hi, hquote, -⟩
      by_contra hlt
      obtain rfl | rfl : i = 1 ∨ i = 2 := by omega
      · exact absurd hquote (by decide)
      · exact absurd hquote (by decide)
    · rintro i ⟨hi, hquote⟩
      by_contra hlt
      obtain rfl : i = 4 := by omega
      exact absurd hquote (by decide)
    · -- The content ends behind the third.
      rintro i hi ⟨hquote, -⟩
      have hlt := lt_length_of_getElem? hquote
      obtain rfl : i = 6 := by simp only [List.length_cons, List.length_nil] at hlt; omega
      exact absurd hquote (by decide)
  obtain rfl : spans = spans' := (hunique spans).mp hspans
  obtain ⟨hlength, hwarns⟩ := hraw rfl
  have hcount : content.count (Code.ofChar '"') = 3 := by rw [hcontent]; decide
  have hat : content[3]? = some (Code.ofChar '"') := by rw [hcontent]; rfl
  refine ⟨hat, hcovers 3 hat, hcount, hwarns.mpr ?_, hrun.trans ?_⟩
  · change content.count _ % 2 = 1
    rw [hcount]
  · change Outcome.mk false (String.join (spans.map fun s => sliceLine content s.start s.stop))
      (loadedText .standardInput {} content ++ String.join (spanWarnings content spans)) = _
    rw [hcontent]
    rfl

end TextWalk.Command
