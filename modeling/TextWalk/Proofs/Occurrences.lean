import TextWalk.Proofs.PositionOrder
import TextWalk.Proofs.Printing
import TextWalk.Proofs.QuotedSpan
import TextWalk.Proofs.Stopping

namespace TextWalk.Scan

open Buffer

structure OccurrencesFrom (content : List Code) (c : Code) (n : Nat) (indices : List Nat) :
    Prop where
  mem_iff : ∀ i, i ∈ indices ↔ n ≤ i ∧ content[i]? = some c
  increasing : indices.Pairwise (· < ·)
  length_eq : indices.length = (content.drop n).count c

namespace OccurrencesFrom

variable {content : List Code} {c : Code} {n s : Nat} {indices : List Nat}

theorem nil (h : ∀ i, n ≤ i → content[i]? ≠ some c) : OccurrencesFrom content c n [] where
  mem_iff i := by
    constructor
    · intro hi
      exact absurd hi List.not_mem_nil
    · intro hi
      exact absurd hi.2 (h i hi.1)
  increasing := List.Pairwise.nil
  length_eq := (count_drop_eq_zero h).symm

theorem cons (hs : IsLeast {i | n ≤ i ∧ content[i]? = some c} s)
    (h : OccurrencesFrom content c (s + 1) indices) :
    OccurrencesFrom content c n (s :: indices) where
  mem_iff i := by
    rw [List.mem_cons, h.mem_iff i]
    constructor
    · intro hi
      rcases hi with rfl | ⟨hlt, hc⟩
      · exact hs.1
      · exact ⟨Nat.le_trans hs.1.1 (Nat.le_of_succ_le hlt), hc⟩
    · intro hi
      -- No index before the first one holds the code, so any other lies behind it.
      have hle : s ≤ i := hs.2 hi
      rcases Nat.eq_or_lt_of_le hle with heq | hlt
      · exact Or.inl heq.symm
      · exact Or.inr ⟨hlt, hi.2⟩
  increasing := by
    apply List.pairwise_cons.mpr
    refine ⟨?_, h.increasing⟩
    intro i hi
    exact ((h.mem_iff i).mp hi).1
  length_eq := by
    rw [List.length_cons, h.length_eq, count_drop_of_isLeast hs]

end OccurrencesFrom

section Step

variable {content : List Code} {c : Code} {n s : Nat}

theorem occurrences_of_not_lt (h : ¬ firstPassing content (· == c) n < content.length) :
    occurrences c (standingAt content n) = [] := by
  rw [occurrences, skipUntil_standingAt, isOnContent_standingAt_of_le (Nat.le_of_not_lt h)]

/-- The skip stands still on an occurrence, so it is the move after it that gets ahead. -/
theorem occurrences_of_lt (hs : firstPassing content (· == c) n = s) (hlt : s < content.length) :
    occurrences c (standingAt content n) =
      (standingAt content s).cursor ::
        occurrences c (standingAt content ((s + 1 : Nat) : Int)) := by
  have hon : (standingAt content s).isOnContent = true := (isOnContent_standingAt content s).mpr hlt
  rw [occurrences, skipUntil_standingAt, hs, hon]
  simp only [next_standingAt_natCast]

end Step

/-- From any index on the listing gives the occurrences from there, in order. -/
theorem exists_occurrencesFrom (c : Code) (content : List Code) (n : Nat) :
    ∃ indices, OccurrencesFrom content c n indices ∧
      occurrences c (standingAt content n) =
        indices.map fun i : Nat => (standingAt content i).cursor := by
  have hopen (i : Nat) : passesAt content (· == c) i = true ↔ content[i]? = some c :=
    passesAt_beq_iff
  by_cases hlt : firstPassing content (· == c) n < content.length
  · have hleast := isLeast_firstIndex hopen hlt
    change IsLeast _ (firstPassing content (· == c) n) at hleast
    have hn : n ≤ firstPassing content (· == c) n := hleast.1.1
    obtain ⟨indices, hindices, hlist⟩ :=
      exists_occurrencesFrom c content (firstPassing content (· == c) n + 1)
    refine ⟨_ :: indices, hindices.cons hleast, ?_⟩
    rw [occurrences_of_lt rfl hlt, hlist, List.map_cons]
  · refine ⟨[], OccurrencesFrom.nil ?_, occurrences_of_not_lt hlt⟩
    exact not_of_size_le_firstIndex hopen (fun _ => lt_length_of_getElem?) (Nat.le_of_not_lt hlt)
termination_by content.length - n

/-- A walk of single moves forward from the front stands where its length says. -/
theorem walk_replicate_forward (content : List Code) (i : Nat) :
    (ofCodes content).walk (List.replicate i .forward) = standingAt content i := by
  rw [ofCodes_eq_standingAt]
  exact walk_forward_standingAt (Nat.zero_le i)

theorem occurrences_ofCodes (c : Code) (content : List Code) :
    ∃ indices, OccurrencesFrom content c 0 indices ∧
      occurrences c (ofCodes content) =
        indices.map fun i => ((ofCodes content).walk (List.replicate i .forward)).cursor := by
  obtain ⟨indices, hindices, hlist⟩ := exists_occurrencesFrom c content 0
  refine ⟨indices, hindices, ?_⟩
  simp only [walk_replicate_forward]
  rw [ofCodes_eq_standingAt]
  exact hlist

end TextWalk.Scan

namespace TextWalk.Command

open Scan Buffer

def placeLine (b : Buffer) : String := toString b.line ++ ":" ++ toString b.column ++ "\n"

/-- What the report on occurrences prints and logs, by their indices. -/
theorem report_find (c : Char) {content : List Code} {indices : List Nat}
    (h : occurrences (Code.ofChar c) (ofCodes content) =
      indices.map fun i => ((ofCodes content).walk (List.replicate i .forward)).cursor) :
    (Task.find c).report (ofCodes content) =
      { output := String.join (indices.map fun i =>
          placeLine ((ofCodes content).walk (List.replicate i .forward)))
        records :=
          [{ level := .info
             message := "find done"
             fields := [("char", Utf8.encode [c]), ("count", countValue indices.length)] }] } := by
  simp only [Task.report, h, List.map_map, List.length_map]
  rfl

/-- The line that counts the occurrences of a character. -/
theorem line_occurrenceCount (c : Char) (n : Nat) :
    Log.Record.line
        { level := .info
          message := "find done"
          fields := [("char", Utf8.encode [c]), ("count", countValue n)] } =
      "level=info msg=\"find done\" char=" ++ Log.value (Utf8.encode [c]) ++ " count=" ++
        toString n ++ "\n" := by
  rw [Log.line_of_not_bare .info (isPlain_of_all rfl) rfl]
  simp only [Log.Level.text, countValue, Log.value_toString, List.map_cons, List.map_nil,
    String.join_cons, String.join_nil, String.append_assoc, String.append_empty]
  rfl

/-- The position of an index within the content is its place in the order of positions. -/
theorem place_walk_forward {content : List Code} {i : Nat} (h : i < content.length) :
    toLex (((ofCodes content).walk (List.replicate i .forward)).line,
      ((ofCodes content).walk (List.replicate i .forward)).column) = placeAt content i := by
  rw [walk_replicate_forward]
  simp only [standingAt, nearest_natCast h, placeAt]

/-- Finding a character in a source that can be read prints one line for each index of the content
that holds it, in increasing order, with the line and column that a plain walk forward from the front
has at that index. The printed positions increase, line before column, and the count that is logged
is the number of times the character occurs. -/
theorem find_job_prints_occurrences (c : Char) (source : Source) (settings : Settings)
    (data : Bytes) :
    let j : Job := { task := .find c, source := source, settings := settings }
    let content := settings.codes data
    let walked (i : Nat) := (ofCodes content).walk (List.replicate i .forward)
    ∃ indices : List Nat,
      j.buffer (.ok data) = .ok (ofCodes content) ∧
      (∀ i, i ∈ indices ↔ content[i]? = some (Code.ofChar c)) ∧
      indices.Pairwise (· < ·) ∧
      j.run (.ok data) =
        { failed := false
          stdout := String.join (indices.map fun i => placeLine (walked i))
          stderr := loadedText source settings content ++
            if settings.verbosity = 0 then ""
            else
              "level=info msg=\"find done\" char=" ++ Log.value (Utf8.encode [c]) ++ " count=" ++
                toString (content.count (Code.ofChar c)) ++ "\n" } ∧
      (indices.map fun i => toLex ((walked i).line, (walked i).column)).Pairwise (· < ·) ∧
      indices.length = content.count (Code.ofChar c) := by
  intro j content walked
  obtain ⟨indices, hindices, hlist⟩ := occurrences_ofCodes (Code.ofChar c) content
  have hmem (i : Nat) : i ∈ indices ↔ content[i]? = some (Code.ofChar c) := by
    rw [hindices.mem_iff i]
    exact and_iff_right (Nat.zero_le i)
  have hlength : indices.length = content.count (Code.ofChar c) := by
    have h := hindices.length_eq
    rwa [List.drop_zero] at h
  refine ⟨indices, buffer_eq_ofCodes j data, hmem, hindices.increasing, ?_, ?_, hlength⟩
  · rw [run_eq_report, report_find c hlist, Log.render_info rfl, line_occurrenceCount, hlength]
  · apply List.pairwise_map.mpr
    apply hindices.increasing.imp_of_mem
    intro i k hi hk hik
    have hlt (m : Nat) (hm : m ∈ indices) : m < content.length :=
      lt_length_of_getElem? ((hmem m).mp hm)
    rw [place_walk_forward (hlt i hi), place_walk_forward (hlt k hk)]
    exact placeAt_lt_placeAt content hik

/-- A comma on either side of a line feed, and one at the very end. -/
theorem find_job_prints_occurrences_of_commas :
    let j : Job := { task := .find ',', source := .standardInput, settings := { verbosity := 1 } }
    let data := Bytes.ascii "a,\n,b,"
    j.run (.ok data) =
        { failed := false
          stdout := "1:1\n2:1\n2:3\n"
          stderr := "level=info msg=\"find done\" char=\",\" count=3\n" } ∧
      ∃ indices : List Nat, indices.length = 3 ∧ 5 ∈ indices ∧ 4 ∉ indices ∧
        String.join (indices.map fun i =>
          placeLine ((ofCodes (j.settings.codes data)).walk (List.replicate i .forward))) =
            "1:1\n2:1\n2:3\n" := by
  intro j data
  obtain ⟨hprinted, hcontent⟩ : j.run (.ok data) =
        { failed := false
          stdout := "1:1\n2:1\n2:3\n"
          stderr := "level=info msg=\"find done\" char=\",\" count=3\n" } ∧
      j.settings.codes data = [97, 44, 10, 44, 98, 44] := by decide +kernel
  obtain ⟨indices, -, hmem, -, hrun, -, hlength⟩ :=
    find_job_prints_occurrences ',' .standardInput { verbosity := 1 } data
  change ∀ i, i ∈ indices ↔ (j.settings.codes data)[i]? = _ at hmem
  change indices.length = (j.settings.codes data).count _ at hlength
  rw [hcontent] at hmem hlength
  refine ⟨hprinted, indices, hlength, (hmem 5).mpr (by decide), ?_, ?_⟩
  · rw [hmem 4]
    decide
  · exact congrArg Outcome.stdout (hrun.symm.trans hprinted)

end TextWalk.Command
