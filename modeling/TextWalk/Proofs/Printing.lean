import TextWalk.Command.Run
import TextWalk.Proofs.Passage
import TextWalk.Proofs.TextRoundTrip
import TextWalk.Proofs.WrittenText

namespace TextWalk

theorem Code.eq_ofChar_of_toChar_eq {c : Code} {d : Char} (h : Code.toChar c = d)
    (hd : d ≠ Code.replacement) : c = Code.ofChar d := by
  -- A code that is no character is written as the replacement character.
  by_cases hc : 0 ≤ c ∧ c.toNat.isValidChar
  · rw [← h, Code.ofChar_toChar hc.1 hc.2]
  · rw [Code.toChar, if_neg hc] at h
    exact absurd h.symm hd

/-- A character other than the replacement character is written only for its own code. -/
theorem Code.not_mem_text {cs : List Code} {d : Char} (hd : d ≠ Code.replacement)
    (h : Code.ofChar d ∉ cs) : d ∉ (Code.text cs).toList := by
  rw [Code.text, String.toList_ofList, List.mem_map]
  rintro ⟨c, hc, hcd⟩
  rw [Code.eq_ofChar_of_toChar_eq hcd hd] at hc
  exact h hc

theorem Code.join_map_text {α : Type} (l : List α) (f : α → List Code) :
    String.join (l.map fun a => Code.text (f a)) = Code.text (l.flatMap f) := by
  induction l with
  | nil => rfl
  | cons a l ih => rw [List.map_cons, String.join_cons, ih, List.flatMap_cons, Code.text_append]

namespace Command

open Buffer

/-- The codes that are walked over: the text of the data, in normal form if that is asked for. -/
def Settings.codes (s : Settings) (data : Bytes) : List Code :=
  let text := Load.text data s.contentType
  (if s.normalize then Normal.normalize (Utf8.encode text) else text).map Code.ofChar

/-- A job that can read its source walks over fresh content, normalized or not. -/
theorem buffer_eq_ofCodes (j : Job) (data : Bytes) :
    j.buffer (.ok data) = .ok (ofCodes (j.settings.codes data)) := by
  have htext : textBytes (ofData data j.settings.contentType) =
      Utf8.encode (Load.text data j.settings.contentType) := textBytes_ofChars _
  simp only [Job.buffer, Source.reading, Buffer.load, Settings.codes, htext]
  split
  · rfl
  · rfl

/-- What the verbosities other than zero and one tell of the loaded content. -/
def loadedText (source : Source) (settings : Settings) (content : List Code) : String :=
  if settings.verbosity = 0 ∨ settings.verbosity = 1 then ""
  else
    "level=debug msg=loaded normalize=" ++ (if settings.normalize then "true" else "false") ++
      " runes=" ++ toString content.length ++ " source=" ++ Log.value source.name ++ "\n"

/-- The record of the loaded content, as it is written. -/
theorem render_loaded (j : Job) (content : List Code) :
    Log.render j.settings.verbosity [j.loaded (ofCodes content)] =
      loadedText j.source j.settings content := by
  have htruth (b : Bool) : Log.value (Bytes.ascii (if b then "true" else "false")) =
      if b then "true" else "false" := by
    cases b <;> exact Log.value_of_bare (isPlain_of_all rfl) rfl
  have hmessage : Log.value (Bytes.ascii "loaded") = "loaded" :=
    Log.value_of_bare (isPlain_of_all rfl) rfl
  rw [Log.render_debug rfl, loadedText]
  simp only [Job.loaded, Log.Record.line, Log.Level.text, hmessage, htruth, countValue,
    Log.value_toString, List.map_cons, List.map_nil, size, ofCodes, List.size_toArray]
  split
  · rfl
  · simp only [String.join_cons, String.join_nil, String.append_assoc, String.append_empty]
    rfl

/-- A job that can read its source writes its report, after what it tells of the content. -/
theorem run_eq_report (j : Job) (data : Bytes) :
    let content := j.settings.codes data
    j.run (.ok data) =
      { failed := false
        stdout := (j.task.report (ofCodes content)).output
        stderr := loadedText j.source j.settings content ++
          Log.render j.settings.verbosity (j.task.report (ofCodes content)).records } := by
  intro content
  simp only [Job.run, buffer_eq_ofCodes]
  rw [Log.render_cons, render_loaded]

/-- Lines that end once each are as many as their line feeds. -/
theorem count_lineFeed_join {α : Type} {line : α → String} {l : List α}
    (h : ∀ a ∈ l, (line a).toList.count '\n' = 1) :
    (String.join (l.map line)).toList.count '\n' = l.length := by
  induction l with
  | nil => rfl
  | cons a l ih =>
    have ha := h a List.mem_cons_self
    have hl := ih fun b hb => h b (List.mem_cons_of_mem a hb)
    rw [List.map_cons, String.join_cons, String.toList_append, List.count_append, ha, hl,
      List.length_cons, Nat.add_comm]

def sliceLine (content : List Code) (start stop : Nat) : String :=
  toString (lineAt content start) ++ ":" ++ toString (columnAt content start) ++ "\t" ++
    Code.text (slice content start stop) ++ "\n"

/-- A line ends with its only line feed, unless the codes hold one. -/
theorem count_lineFeed_sliceLine {content : List Code} {start stop : Nat}
    (h : Code.lineFeed ∉ slice content start stop) :
    (sliceLine content start stop).toList.count '\n' = 1 := by
  have hline := List.count_eq_zero.mpr (lineFeed_not_mem_toString (lineAt content start))
  have hcolumn := List.count_eq_zero.mpr (lineFeed_not_mem_toString (columnAt content start))
  have hcodes := List.count_eq_zero.mpr (Code.not_mem_text (d := '\n') (by decide) h)
  simp only [sliceLine, String.toList_append, List.count_append, hline, hcolumn, hcodes]
  decide

end Command

end TextWalk
