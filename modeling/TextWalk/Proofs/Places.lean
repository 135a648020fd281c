import Mathlib.Data.List.Basic
import TextWalk.Proofs.Fields
import TextWalk.Proofs.Occurrences
import TextWalk.Proofs.QuotedRuns

namespace TextWalk

section Written

/-- The number that a cursor writes holds no colon. -/
theorem colon_not_mem_toString (n : Int) : ':' ∉ (toString n).toList :=
  not_mem_toString (by decide) (by decide) n

/-- What is written for a cursor tells its line and its column. -/
theorem Cursor.position_eq_iff {c d : Cursor} :
    c.position = d.position ↔ c.line = d.line ∧ c.column = d.column := by
  constructor
  · intro h
    have hchars := congrArg String.toList h
    simp only [Cursor.position, String.toList_append, List.append_assoc] at hchars
    -- No number holds a colon, so both texts are divided at the same one.
    obtain ⟨hline, -, hcolumn⟩ := (List.append_cons_inj_of_notMem (colon_not_mem_toString c.line)
      (colon_not_mem_toString c.column)).mp hchars
    exact ⟨toString_inj.mp (String.toList_inj.mp hline),
      toString_inj.mp (String.toList_inj.mp hcolumn)⟩
  · rintro ⟨hline, hcolumn⟩
    rw [Cursor.position, hline, hcolumn, Cursor.position]

end Written

namespace Buffer

open Command

section Order

variable {content : List Code} {i j : Nat}

/-- Positions stand in the order of their indices. -/
theorem placeAt_lt_iff : placeAt content i < placeAt content j ↔ i < j :=
  (strictMono_nat_of_lt_succ (placeAt_lt_succ content)).lt_iff_lt

/-- No two indices share a position. -/
theorem placeAt_eq_iff : placeAt content i = placeAt content j ↔ i = j :=
  (strictMono_nat_of_lt_succ (placeAt_lt_succ content)).injective.eq_iff

theorem place_standingAt (h : i < content.length) :
    toLex ((standingAt content i).line, (standingAt content i).column) = placeAt content i := by
  simp only [standingAt, nearest_natCast h, placeAt]

end Order

/-- Two scans of one content that stand on it are in the order of their lines and columns, and stand
at the same offset exactly if line and column are the same. So the text of a position stands for one
state of the walk. -/
theorem place_identifies_walk (content : List Code) (ops₁ ops₂ : List Operation)
    (h₁ : ((ofCodes content).scan ops₁).isOnContent = true)
    (h₂ : ((ofCodes content).scan ops₂).isOnContent = true) :
    let b₁ := (ofCodes content).scan ops₁
    let b₂ := (ofCodes content).scan ops₂
    (b₁.offset < b₂.offset ↔ toLex (b₁.line, b₁.column) < toLex (b₂.line, b₂.column)) ∧
      (b₁.offset = b₂.offset ↔ (b₁.line, b₁.column) = (b₂.line, b₂.column)) ∧
      (b₁.cursor.position = b₂.cursor.position ↔ b₁ = b₂) := by
  intro b₁ b₂
  obtain ⟨i, hi, hb₁⟩ : ∃ i : Nat, i < content.length ∧ b₁ = standingAt content i :=
    exists_scan_eq_standingAt h₁
  obtain ⟨j, hj, hb₂⟩ : ∃ j : Nat, j < content.length ∧ b₂ = standingAt content j :=
    exists_scan_eq_standingAt h₂
  have hplace₁ : toLex (b₁.line, b₁.column) = placeAt content i := by
    rw [hb₁, place_standingAt hi]
  have hplace₂ : toLex (b₂.line, b₂.column) = placeAt content j := by
    rw [hb₂, place_standingAt hj]
  have hoffset : b₁.offset = b₂.offset ↔ (b₁.line, b₁.column) = (b₂.line, b₂.column) := by
    rw [← toLex_inj (a := (b₁.line, b₁.column)), hplace₁, hplace₂, placeAt_eq_iff, hb₁, hb₂]
    exact Int.ofNat_inj
  refine ⟨?_, hoffset, ?_⟩
  · rw [hplace₁, hplace₂, placeAt_lt_iff, hb₁, hb₂]
    exact Int.ofNat_lt
  · rw [Cursor.position_eq_iff]
    constructor
    · rintro ⟨hline, hcolumn⟩
      -- The offset is the same, and the rest of the state is counted from it.
      have hsame := hoffset.mpr (Prod.ext hline hcolumn)
      calc b₁ = standingAt content b₁.offset := scan_ofCodes content ops₁
        _ = standingAt content b₂.offset := by rw [hsame]
        _ = b₂ := (scan_ofCodes content ops₂).symm
    · intro h
      rw [h]
      exact ⟨rfl, rfl⟩

/-- A scan forward into the second line and a scan past the end and back that stand at one place. -/
theorem place_identifies_walk_of_detour :
    let content := [97, 10, 98, 34, 99]
    let b₁ := (ofCodes content).scan [.skipUntil 34]
    let b₂ := (ofCodes content).scan [.readUntilBefore 34 true, .next, .next, .previous, .previous]
    b₁.isOnContent = true ∧ b₂.isOnContent = true ∧ (b₁.line, b₁.column) = (2, 2) ∧
      b₁.offset = b₂.offset ∧ b₁ = b₂ := by
  intro content b₁ b₂
  have h₁ : b₁.isOnContent = true := by decide +kernel
  have h₂ : b₂.isOnContent = true := by decide +kernel
  have hplace : (b₁.line, b₁.column) = (b₂.line, b₂.column) := by decide +kernel
  obtain ⟨-, hoffset, hposition⟩ := place_identifies_walk content
    [.skipUntil 34] [.readUntilBefore 34 true, .next, .next, .previous, .previous] h₁ h₂
  exact ⟨h₁, h₂, by decide +kernel, hoffset.mpr hplace, hposition.mp (by decide +kernel)⟩

section Editor

def editorLine (content : List Code) (o : Int) : Int :=
  1 + (content.take o.toNat).count Code.lineFeed

variable {content : List Code}

/-- Up to an index all line feeds open a line but the one at the very front. -/
theorem lineAt_eq_count_take (content : List Code) (p : Nat) :
    lineAt content p = 1 + (content.take (p + 1)).count Code.lineFeed -
      if content.head? = some Code.lineFeed then 1 else 0 := by
  induction p with
  | zero =>
    cases content with
    | nil => rfl
    | cons c content =>
      -- The line of the front is the first one, be it a line feed or not.
      by_cases hc : c = Code.lineFeed
      · simp [lineAt, hc]
      · simp [lineAt, hc]
  | succ p ih =>
    -- The index after it adds the code it holds, if there is one.
    have hcount : (content.take (p + 1 + 1)).count Code.lineFeed =
        (content.take (p + 1)).count Code.lineFeed +
          if content[p + 1]? = some Code.lineFeed then 1 else 0 := by
      rw [List.take_add_one, List.count_append]
      cases content[p + 1]? with
      | none => rfl
      | some c => simp [List.count_singleton]
    by_cases h : content[p + 1]? = some Code.lineFeed
    · rw [lineAt_succ_of_lineFeed h, ih, hcount, if_pos h]
      omega
    · have hline : lineAt content (p + 1) = lineAt content p := by
        rw [lineAt, lineAt, lineOpenings_succ_of_ne h]
      rw [hline, ih, hcount, if_neg h]
      rfl

/-- Off the line feeds a line is that of an editor, less the line that a line feed at the very front
opens there. -/
theorem lineAt_eq_editorLine {p : Nat} {c : Code} (h : content[p]? = some c)
    (hc : c ≠ Code.lineFeed) :
    lineAt content p = editorLine content p -
      if content.head? = some Code.lineFeed then 1 else 0 := by
  have hcount : (content.take (p + 1)).count Code.lineFeed =
      (content.take p).count Code.lineFeed := by
    rw [List.take_add_one, h, List.count_append]
    simp [hc]
  rw [lineAt_eq_count_take, hcount, editorLine, Int.toNat_natCast]

end Editor

/-- The line in which a text editor shows a place, less the one that a line feed at the very front
opens there. -/
def shownLine (content : List Code) (place : Cursor) : Int :=
  editorLine content place.offset - if content.head? = some Code.lineFeed then 1 else 0

section Listed

variable {content : List Code}

/-- An occurrence of anything but a line feed is reported in the line that is shown. -/
theorem line_of_mem_occurrences {c : Code} (hc : c ≠ Code.lineFeed) {place : Cursor}
    (h : place ∈ Scan.occurrences c (ofCodes content)) : place.line = shownLine content place := by
  obtain ⟨indices, hindices, hlist⟩ := Scan.occurrences_ofCodes c content
  rw [hlist] at h
  obtain ⟨i, hi, rfl⟩ := List.mem_map.mp h
  have hat := ((hindices.mem_iff i).mp hi).2
  rw [Scan.walk_replicate_forward, cursor_standingAt (lt_length_of_getElem? hat)]
  exact lineAt_eq_editorLine hat hc

/-- A field is reported in the line that is shown, whatever the separators are. -/
theorem line_of_mem_fields {separators : List Code} {s : Scan.Stretch}
    (h : s ∈ Scan.fields separators (ofCodes content)) :
    s.start.line = shownLine content s.start := by
  obtain ⟨extents, hfields, hlist⟩ := Scan.fields_ofCodes separators content
  rw [hlist] at h
  obtain ⟨e, he, rfl⟩ := List.mem_map.mp h
  have hfield := ((hfields.mem_iff e).mp he).2
  -- A field starts with a code that is no divider, and a line feed divides fields.
  have hlt : e.start < content.length :=
    Nat.lt_of_lt_of_le hfield.start_lt_stop hfield.stop_le_length
  have hat : content[e.start]? = some content[e.start] := List.getElem?_eq_getElem hlt
  refine lineAt_eq_editorLine hat ?_
  intro hfeed
  apply hfield.inside e.start (Nat.le_refl _) hfield.start_lt_stop
  exact ⟨_, hat, Or.inl (by rw [hfeed]; decide)⟩

/-- A quoted run is reported in the line that is shown, unless line feeds are quotes. -/
theorem line_of_mem_quotedRuns {quote : Code} {escaped : Bool} (hquote : quote ≠ Code.lineFeed)
    {r : Scan.QuotedRun} (h : r ∈ Scan.quotedRuns quote escaped (ofCodes content)) :
    r.start.line = shownLine content r.start := by
  obtain ⟨spans, hspans, hlist⟩ := Scan.quotedRuns_ofCodes quote (!escaped) content
  rw [Bool.not_not] at hlist
  rw [hlist] at h
  obtain ⟨s, hs, rfl⟩ := List.mem_map.mp h
  exact lineAt_eq_editorLine (hspans.getElem?_start s hs) hquote

end Listed

/-- On any code but a line feed the line of a scan is one more than the line feeds before it, less one
if the content starts with a line feed. So are the lines of the occurrences, the fields and the quoted
runs that are listed, unless it is line feeds that are listed, and it is these lines that a report
prints. -/
theorem line_counts_feeds_behind_front (content : List Code) (ops : List Operation) :
    let numbered (place : Cursor) : Prop :=
      place.line = editorLine content place.offset -
        if content.head? = some Code.lineFeed then 1 else 0
    let b := (ofCodes content).scan ops
    let printed (t : Task) : String := (t.report (ofCodes content)).output
    (∀ c, b.current? = some c → c ≠ Code.lineFeed → numbered b.cursor) ∧
      (∀ c, c ≠ Code.lineFeed → ∀ place ∈ Scan.occurrences c (ofCodes content), numbered place) ∧
      (∀ separators, ∀ s ∈ Scan.fields separators (ofCodes content), numbered s.start) ∧
      (∀ quote escaped, quote ≠ Code.lineFeed →
        ∀ r ∈ Scan.quotedRuns quote escaped (ofCodes content), numbered r.start) ∧
      (∀ c, Code.ofChar c ≠ Code.lineFeed →
        printed (.find c) =
          String.join ((Scan.occurrences (Code.ofChar c) (ofCodes content)).map fun place =>
            toString (shownLine content place) ++ ":" ++ toString place.column ++ "\n")) ∧
      (∀ separators,
        printed (.fields separators) =
          String.join ((Scan.fields (separators.map Code.ofChar) (ofCodes content)).map fun s =>
            toString (shownLine content s.start) ++ ":" ++ toString s.start.column ++ "\t" ++
              Code.text s.codes ++ "\n")) ∧
      ∀ quote raw, Code.ofChar quote ≠ Code.lineFeed →
        printed (.quoted quote raw) =
          String.join ((Scan.quotedRuns (Code.ofChar quote) (!raw) (ofCodes content)).map fun r =>
            toString (shownLine content r.start) ++ ":" ++ toString r.start.column ++ "\t" ++
              Code.text r.codes ++ "\n") := by
  intro numbered b printed
  refine ⟨?_, fun _ hc _ => line_of_mem_occurrences hc, fun _ _ => line_of_mem_fields,
    fun _ _ hquote _ => line_of_mem_quotedRuns hquote, ?_, ?_, ?_⟩
  · intro c hcurrent hc
    have hon : b.isOnContent = true := Option.isSome_of_eq_some hcurrent
    obtain ⟨i, hi, hb⟩ : ∃ i : Nat, i < content.length ∧ b = standingAt content i :=
      exists_scan_eq_standingAt hon
    rw [hb, current?_standingAt] at hcurrent
    rw [hb, cursor_standingAt hi]
    exact lineAt_eq_editorLine hcurrent hc
  · intro c hc
    apply congrArg String.join
    apply List.map_congr_left
    intro place hplace
    rw [Cursor.position, line_of_mem_occurrences hc hplace]
  · intro separators
    apply congrArg String.join
    apply List.map_congr_left
    intro s hs
    rw [stretchLine, Cursor.position, line_of_mem_fields hs]
  · intro quote raw hquote
    apply congrArg String.join
    apply List.map_congr_left
    intro r hr
    rw [stretchLine, Cursor.position, line_of_mem_quotedRuns hquote hr]

/-- Two line feeds, of which the one at the front is not counted. -/
theorem line_counts_feeds_behind_front_of_two :
    let content := [10, 97, 10, 98]
    let b := (ofCodes content).scan [.skipUntil 98]
    b.current? = some 98 ∧ b.line = editorLine content b.offset - 1 ∧
      editorLine content b.offset = 3 := by
  intro content b
  have hcurrent : b.current? = some 98 := by decide +kernel
  exact ⟨hcurrent,
    (line_counts_feeds_behind_front content [.skipUntil 98]).1 98 hcurrent (by decide),
    by decide +kernel⟩

/-- Behind a line feed at the very front an editor is one line ahead. -/
theorem line_ne_editorLine_of_front_feed :
    let content := [10, 97]
    let b := (ofCodes content).scan [.next]
    b.current? = some 97 ∧ (97 : Code) ≠ Code.lineFeed ∧ b.line = 1 ∧
      editorLine content b.offset = 2 ∧ b.line ≠ editorLine content b.offset := by
  decide +kernel

end Buffer

end TextWalk
