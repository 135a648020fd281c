import TextWalk.Proofs.FieldExtent
import TextWalk.Proofs.Printing

namespace TextWalk.Scan

open Buffer

section Step

variable {content separators : List Code} {n s : Nat} {c : Code}

theorem fields_of_not_lt (h : ¬ firstPassing content (fun c => !c.isBlank) n < content.length) :
    fields separators (standingAt content n) = [] := by
  rw [fields, skipBlanks_standingAt, isOnContent_standingAt_of_le (Nat.le_of_not_lt h)]

/-- A separator behind the blanks is passed over. -/
theorem fields_of_separator (hs : firstPassing content (fun c => !c.isBlank) n = s)
    (hc : content[s]? = some c) (hsep : c ∈ separators) :
    fields separators (standingAt content n) =
      fields separators (standingAt content ((s + 1 : Nat) : Int)) := by
  have hon : (standingAt content s).isOnContent = true :=
    (isOnContent_standingAt content s).mpr (lt_length_of_getElem? hc)
  have hany : (standingAt content s).isOnAny separators = true := by
    simp [isOnAny, isAt, current?_standingAt, hc, hsep]
  rw [fields, skipBlanks_standingAt, hs, hon]
  simp only [hany, ↓reduceIte, next_standingAt_natCast]

/-- Any other code behind the blanks starts a field. -/
theorem fields_of_not_separator (hs : firstPassing content (fun c => !c.isBlank) n = s)
    (hc : content[s]? = some c) (hsep : c ∉ separators) :
    fields separators (standingAt content n) =
      Extent.stretch content ⟨s, firstPassing content (isStop separators) (s + 1)⟩ ::
        fields separators
          (standingAt content (firstPassing content (isStop separators) (s + 1))) := by
  have hlt := lt_length_of_getElem? hc
  have hon : (standingAt content s).isOnContent = true := (isOnContent_standingAt content s).mpr hlt
  have hany : (standingAt content s).isOnAny separators = false := by
    simp [isOnAny, isAt, current?_standingAt, hc, hsep]
  rw [fields, skipBlanks_standingAt, hs, hon]
  simp only [hany, Bool.false_eq_true, ↓reduceIte, readUntilBeforeBlankOr_standingAt separators hlt,
    cursor_standingAt hlt]
  rfl

end Step

/-- No field reaches across an index: none holds the index before it, or none holds it. -/
def StartsAfresh (content separators : List Code) (n : Nat) : Prop :=
  (n = 0 ∨ DividesAt content separators (n - 1)) ∨
    n = content.length ∨ DividesAt content separators n

/-- Where a listing starts afresh, the first field it meets has a divider or the front before it. -/
theorem StartsAfresh.before {content separators : List Code} {n s : Nat}
    (h : StartsAfresh content separators n) (hns : n ≤ s)
    (hskip : ∀ i, n ≤ i → i < s → DividesAt content separators i) (hlt : s < content.length)
    (hs : ¬ DividesAt content separators s) :
    s = 0 ∨ DividesAt content separators (s - 1) := by
  by_cases hsn : n = s
  · -- Nothing was skipped, so what was known of the index itself decides.
    subst hsn
    rcases h with hbefore | hend | hdiv
    · exact hbefore
    · omega
    · exact absurd hdiv hs
  · exact Or.inr (hskip (s - 1) (by omega) (by omega))

theorem dividesAt_of_lt_firstPassing (separators : List Code) {content : List Code} {n i : Nat}
    (hle : n ≤ content.length) (hn : n ≤ i)
    (hi : i < firstPassing content (fun c => !c.isBlank) n) : DividesAt content separators i := by
  have hlt : i < content.length := Nat.lt_of_lt_of_le hi (firstIndex_le hle)
  obtain ⟨c, hc, -⟩ := exists_current?_standingAt hlt
  have hblank := stop_eq_false_of_lt_firstIndex hn hi
  rw [passesAt_of_getElem? hc, Bool.not_eq_false'] at hblank
  exact ⟨c, hc, isDivider_of_isBlank hblank⟩

/-- The extent from a code that is no divider up to the next divider is a field. -/
theorem isField_of_not_dividesAt {content separators : List Code} {s : Nat}
    (hlt : s < content.length) (hs : ¬ DividesAt content separators s)
    (hbefore : s = 0 ∨ DividesAt content separators (s - 1)) :
    IsField content separators ⟨s, firstPassing content (isStop separators) (s + 1)⟩ where
  start_lt_stop := le_firstIndex _ _ _
  stop_le_length := firstIndex_le hlt
  inside i hi hstop := by
    by_cases h : i = s
    · rwa [h]
    · rw [← passesAt_isStop_iff, Bool.not_eq_true]
      exact stop_eq_false_of_lt_firstIndex (by simp only at hi; omega) hstop
  before := hbefore
  behind := by
    rcases Nat.lt_or_eq_of_le (firstIndex_le hlt) with h | h
    · exact Or.inr (passesAt_isStop_iff.mp (stop_firstIndex h))
    · exact Or.inl h

/-- The listing from an index that starts afresh gives the fields from there on. -/
theorem exists_fieldsFrom (separators content : List Code) (n : Nat) (hle : n ≤ content.length)
    (hn : StartsAfresh content separators n) :
    ∃ extents, FieldsFrom content separators n extents ∧
      fields separators (standingAt content n) = extents.map (Extent.stretch content) := by
  have hns : n ≤ firstPassing content (fun c => !c.isBlank) n := le_firstIndex _ _ _
  have hskip : ∀ i, n ≤ i → i < firstPassing content (fun c => !c.isBlank) n →
      DividesAt content separators i :=
    fun _ => dividesAt_of_lt_firstPassing separators hle
  by_cases hlt : firstPassing content (fun c => !c.isBlank) n < content.length
  case neg =>
    exact ⟨[], (FieldsFrom.nil (Nat.le_of_not_lt hlt)).skip hns hskip, fields_of_not_lt hlt⟩
  have hpass := stop_firstIndex hlt
  change passesAt content _ (firstPassing content (fun c => !c.isBlank) n) = true at hpass
  generalize hs : firstPassing content (fun c => !c.isBlank) n = s at *
  obtain ⟨c, hc, -⟩ := exists_current?_standingAt hlt
  rw [passesAt_of_getElem? hc, Bool.not_eq_true'] at hpass
  by_cases hsep : c ∈ separators
  · -- The separator joins the dividers that are skipped.
    have hdiv : DividesAt content separators s := ⟨c, hc, Or.inr hsep⟩
    obtain ⟨extents, hfields, hlist⟩ :=
      exists_fieldsFrom separators content (s + 1) hlt (Or.inl (Or.inr hdiv))
    refine ⟨extents, hfields.skip (Nat.le_succ_of_le hns) ?_, ?_⟩
    · intro i hi his
      rcases Nat.lt_succ_iff_lt_or_eq.mp his with his | rfl
      · exact hskip i hi his
      · exact hdiv
    · rw [fields_of_separator hs hc hsep, hlist]
  · have hplain : ¬ DividesAt content separators s :=
      mt (dividesAt_of_getElem? hc).mp (not_isDivider hpass hsep)
    have hfield := isField_of_not_dividesAt hlt hplain (hn.before hns hskip hlt hplain)
    have hafresh : StartsAfresh content separators
        (firstPassing content (isStop separators) (s + 1)) := Or.inr hfield.behind
    -- The field is not empty, so less of the content is left.
    have hget : s < firstPassing content (isStop separators) (s + 1) := hfield.start_lt_stop
    obtain ⟨extents, hfields, hlist⟩ :=
      exists_fieldsFrom separators content _ hfield.stop_le_length hafresh
    refine ⟨_ :: extents, (FieldsFrom.cons hfield hfields).skip hns hskip, ?_⟩
    rw [fields_of_not_separator hs hc hsep, hlist, List.map_cons]
termination_by content.length - n

/-- The listing of fields gives the fields of the content, by their extents. -/
theorem fields_ofCodes (separators content : List Code) :
    ∃ extents, FieldsFrom content separators 0 extents ∧
      fields separators (ofCodes content) = extents.map (Extent.stretch content) := by
  rw [ofCodes_eq_standingAt]
  exact exists_fieldsFrom separators content 0 (Nat.zero_le _) (Or.inl (Or.inl rfl))

end TextWalk.Scan

namespace TextWalk.Command

open Scan Buffer

section Listed

variable {content separators : List Code} {e : Extent}

/-- What the report on fields prints and logs, by the extents of the fields. -/
theorem report_fields (separators : List Char) {extents : List Extent}
    (h : fields (separators.map Code.ofChar) (ofCodes content) =
      extents.map (Extent.stretch content)) :
    (Task.fields separators).report (ofCodes content) =
      { output := String.join (extents.map fun e => sliceLine content e.start e.stop)
        records :=
          [{ level := .info
             message := "fields done"
             fields := [("count", countValue extents.length)] }] } := by
  simp only [Task.report, h, List.map_map, List.length_map]
  rfl

/-- The line that counts the fields. -/
theorem line_fieldCount (n : Nat) :
    Log.Record.line
        { level := .info, message := "fields done", fields := [("count", countValue n)] } =
      "level=info msg=\"fields done\" count=" ++ toString n ++ "\n" := by
  rw [Log.line_of_not_bare .info (isPlain_of_all rfl) rfl]
  simp only [Log.Level.text, countValue, Log.value_toString, List.map_cons, List.map_nil,
    String.join_cons, String.join_nil, String.append_assoc, String.append_empty]
  rfl

/-- A field holds no divider. -/
theorem not_isDivider_of_mem_codes (he : IsField content separators e) {c : Code}
    (hc : c ∈ e.codes content) : ¬ IsDivider separators c := by
  obtain ⟨i, hstart, hstop, hi⟩ := exists_of_mem_slice hc
  exact mt (dividesAt_of_getElem? hi).mpr (he.inside i hstart hstop)

theorem lineFeed_not_mem_codes (he : IsField content separators e) :
    Code.ofChar '\n' ∉ e.codes content := by
  intro hc
  exact not_isDivider_of_mem_codes he hc (Or.inl (by decide))

theorem tab_not_mem_codes (he : IsField content separators e) :
    Code.ofChar '\t' ∉ e.codes content := by
  intro hc
  exact not_isDivider_of_mem_codes he hc (Or.inl (by decide))

end Listed

/-- Listing the fields of a source that can be read prints one line for each extent of the content
that is a longest one without blanks and separators, in increasing order: line and column of its
first code, and its text. The printed texts joined are the text of the content without blanks and
separators, none of them holds a line feed or a tab, and the count that is logged is the number of
lines printed. -/
theorem fields_job_prints_fields (separators : List Char) (source : Source) (settings : Settings)
    (data : Bytes) :
    let j : Job := { task := .fields separators, source := source, settings := settings }
    let content := settings.codes data
    ∃ extents : List Extent,
      j.buffer (.ok data) = .ok (ofCodes content) ∧
      (∀ e, e ∈ extents ↔ IsField content (separators.map Code.ofChar) e) ∧
      extents.Pairwise (fun e f => e.stop < f.start) ∧
      j.run (.ok data) =
        { failed := false
          stdout := String.join (extents.map fun e => sliceLine content e.start e.stop)
          stderr := loadedText source settings content ++
            if settings.verbosity = 0 then ""
            else "level=info msg=\"fields done\" count=" ++ toString extents.length ++ "\n" } ∧
      String.join (extents.map fun e => Code.text (e.codes content)) =
        Code.text (content.filter fun c => ¬ IsDivider (separators.map Code.ofChar) c) ∧
      (∀ e ∈ extents, '\n' ∉ (Code.text (e.codes content)).toList ∧
        '\t' ∉ (Code.text (e.codes content)).toList) ∧
      (j.run (.ok data)).stdout.toList.count '\n' = extents.length := by
  intro j content
  obtain ⟨extents, hfields, hlist⟩ := fields_ofCodes (separators.map Code.ofChar) content
  have hmem (e : Extent) : e ∈ extents ↔ IsField content (separators.map Code.ofChar) e := by
    rw [hfields.mem_iff]
    exact and_iff_right (Nat.zero_le _)
  have hrun : j.run (.ok data) =
      { failed := false
        stdout := String.join (extents.map fun e => sliceLine content e.start e.stop)
        stderr := loadedText source settings content ++
          if settings.verbosity = 0 then ""
          else "level=info msg=\"fields done\" count=" ++ toString extents.length ++ "\n" } := by
    rw [run_eq_report, report_fields separators hlist, Log.render_info rfl, line_fieldCount]
  refine ⟨extents, buffer_eq_ofCodes j data, hmem, hfields.increasing, hrun, ?_, ?_, ?_⟩
  · rw [Code.join_map_text, hfields.codes_eq, List.drop_zero]
  · intro e he
    have hfield := (hmem e).mp he
    exact ⟨Code.not_mem_text (by decide) (lineFeed_not_mem_codes hfield),
      Code.not_mem_text (by decide) (tab_not_mem_codes hfield)⟩
  · -- No field holds a line feed, so each line has the one at its end.
    rw [hrun]
    apply count_lineFeed_join
    intro e he
    exact count_lineFeed_sliceLine (lineFeed_not_mem_codes ((hmem e).mp he))

/-- Blanks and a separator between three fields, of which the last is on the second line. -/
theorem fields_job_prints_fields_of_three :
    let j : Job :=
      { task := .fields [','], source := .standardInput, settings := { verbosity := 1 } }
    let data := Bytes.ascii "a,,b\n\tcd"
    let content := j.settings.codes data
    j.run (.ok data) =
        { failed := false
          stdout := "1:0\ta\n1:3\tb\n2:2\tcd\n"
          stderr := "level=info msg=\"fields done\" count=3\n" } ∧
      ∃ extents : List Extent,
        String.join (extents.map fun e => sliceLine content e.start e.stop) =
          "1:0\ta\n1:3\tb\n2:2\tcd\n" ∧
        extents.length = 3 ∧ (⟨6, 8⟩ : Extent) ∈ extents ∧ slice content 6 8 = [99, 100] ∧
        '\n' ∉ (Code.text ((⟨6, 8⟩ : Extent).codes content)).toList := by
  intro j data content
  obtain ⟨hprinted, hcontent⟩ : j.run (.ok data) =
        { failed := false
          stdout := "1:0\ta\n1:3\tb\n2:2\tcd\n"
          stderr := "level=info msg=\"fields done\" count=3\n" } ∧
      content = [97, 44, 44, 98, 10, 9, 99, 100] := by decide +kernel
  obtain ⟨extents, -, hmem, -, hrun, -, htexts, hlines⟩ :=
    fields_job_prints_fields [','] .standardInput { verbosity := 1 } data
  have hinside : ∀ i, 6 ≤ i → i < 8 →
      ¬ DividesAt [97, 44, 44, 98, 10, 9, 99, 100] ([','].map Code.ofChar) i := by
    intro i hi hlt
    obtain rfl | rfl : i = 6 ∨ i = 7 := by omega
    · exact mt (dividesAt_of_getElem? rfl).mp (by decide)
    · exact mt (dividesAt_of_getElem? rfl).mp (by decide)
  have hfield : IsField [97, 44, 44, 98, 10, 9, 99, 100] ([','].map Code.ofChar) ⟨6, 8⟩ :=
    { start_lt_stop := by decide
      stop_le_length := by decide
      inside := hinside
      before := Or.inr ⟨9, rfl, by decide⟩
      behind := Or.inl rfl }
  rw [← hcontent] at hfield
  have hin : (⟨6, 8⟩ : Extent) ∈ extents := (hmem _).mpr hfield
  refine ⟨hprinted, extents, ?_, ?_, hin, ?_, (htexts _ hin).1⟩
  · exact congrArg Outcome.stdout (hrun.symm.trans hprinted)
  · change (j.run (.ok data)).stdout.toList.count '\n' = extents.length at hlines
    rw [hprinted] at hlines
    exact hlines.symm
  · rw [hcontent]
    rfl

end TextWalk.Command
