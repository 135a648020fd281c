import TextWalk.Command.Task
import TextWalk.Proofs.Utf8

namespace TextWalk

section Numbers

/-- A natural number is written in digits alone. -/
theorem isDigit_of_mem_repr {n : Nat} {d : Char} (h : d ∈ n.repr.toList) : d.isDigit = true := by
  rw [Nat.repr_eq_ofList_toDigits, String.toList_ofList] at h
  exact Nat.isDigit_of_mem_toDigits (by decide) (by decide) h

/-- A number is written in digits, after a minus sign if it is below zero. -/
theorem isDigit_or_eq_of_mem_toString {n : Int} {d : Char} (h : d ∈ (toString n).toList) :
    d.isDigit = true ∨ d = '-' := by
  change d ∈ n.repr.toList at h
  rw [Int.repr_eq_if] at h
  split at h
  · exact Or.inl (isDigit_of_mem_repr h)
  · rw [String.toList_append, List.mem_append] at h
    rcases h with hminus | hdigits
    · exact Or.inr (by simpa using hminus)
    · exact Or.inl (isDigit_of_mem_repr hdigits)

/-- A number is written in digits, after a minus sign at most. -/
theorem not_mem_toString {d : Char} (hdigit : d.isDigit = false) (hminus : d ≠ '-') (n : Int) :
    d ∉ (toString n).toList := by
  intro h
  rcases isDigit_or_eq_of_mem_toString h with hd | hd
  · rw [hdigit] at hd
    exact Bool.false_ne_true hd
  · exact hminus hd

theorem lineFeed_not_mem_toString (n : Int) : '\n' ∉ (toString n).toList :=
  not_mem_toString (by decide) (by decide) n

/-- The digits of a number are read back as the number. -/
theorem repr_injective {m n : Nat} (h : m.repr = n.repr) : m = n := by
  rw [Nat.repr_eq_ofList_toDigits, Nat.repr_eq_ofList_toDigits, String.ofList_inj] at h
  calc m = Nat.ofDigitChars 10 (Nat.toDigits 10 m) 0 := Nat.ofDigitChars_ten_toDigits.symm
    _ = Nat.ofDigitChars 10 (Nat.toDigits 10 n) 0 := by rw [h]
    _ = n := Nat.ofDigitChars_ten_toDigits

/-- No two numbers are written alike. -/
theorem toString_inj {m n : Int} : toString m = toString n ↔ m = n := by
  have hminus (j k : Nat) : j.repr ≠ "-" ++ k.repr := by
    intro h
    have hmem : '-' ∈ j.repr.toList := by rw [h, String.toList_append]; simp
    exact absurd (isDigit_of_mem_repr hmem) (by decide)
  constructor
  · intro h
    change m.repr = n.repr at h
    rw [Int.repr_eq_if, Int.repr_eq_if] at h
    -- Only a number below zero is written with a minus sign.
    split at h <;> split at h
    · have := repr_injective h
      omega
    · exact absurd h (hminus _ _)
    · exact absurd h.symm (hminus _ _)
    · have := repr_injective ((String.append_right_inj _).mp h)
      omega
  · intro h
    rw [h]

end Numbers

def IsPlain (c : Char) : Prop := 0x20 ≤ c.toNat ∧ c.toNat < 0x7F ∧ c ≠ '"' ∧ c ≠ '\\'

instance : DecidablePred IsPlain :=
  fun c => inferInstanceAs (Decidable (0x20 ≤ c.toNat ∧ c.toNat < 0x7F ∧ c ≠ '"' ∧ c ≠ '\\'))

section Plain

variable {c : Char} {s t : String}

theorem isPlain_of_all (h : s.toList.all (fun c => IsPlain c) = true) :
    ∀ c ∈ s.toList, IsPlain c := by
  intro c hc
  exact of_decide_eq_true (List.all_eq_true.mp h c hc)

theorem isPlain_append (hs : ∀ c ∈ s.toList, IsPlain c) (ht : ∀ c ∈ t.toList, IsPlain c) :
    ∀ c ∈ (s ++ t).toList, IsPlain c := by
  intro c hc
  rw [String.toList_append, List.mem_append] at hc
  exact hc.elim (hs c) (ht c)

theorem isPlain_of_isDigit (h : c.isDigit = true) : IsPlain c := by
  simp only [Char.isDigit, Bool.and_eq_true, decide_eq_true_eq] at h
  have hlow : 0x30 ≤ c.toNat := h.1
  have hhigh : c.toNat ≤ 0x39 := h.2
  refine ⟨by omega, by omega, ?_, ?_⟩
  · rintro rfl
    exact absurd hlow (by decide)
  · rintro rfl
    exact absurd hhigh (by decide)

theorem isPlain_of_mem_toString {n : Int} (h : c ∈ (toString n).toList) : IsPlain c := by
  rcases isDigit_or_eq_of_mem_toString h with hdigit | rfl
  · exact isPlain_of_isDigit hdigit
  · decide

theorem isPrintable_of_isPlain (h : IsPlain c) : Text.isPrintable c = true := by
  have hall : ∀ r ∈ Text.unprintableRanges, r.2 < 0x20 ∨ 0x7F ≤ r.1 := by decide +kernel
  rw [Text.isPrintable, Bool.not_eq_true', List.any_eq_false]
  intro r hr
  have hlow := h.1
  have hhigh := h.2.1
  have hout := hall r hr
  simp only [Bool.and_eq_true, decide_eq_true_eq]
  omega

theorem quoteChar_of_isPlain (h : IsPlain c) : Text.quoteChar '"' c = [c] := by
  have hescape : ¬ (c = '"' ∨ c = '\\') := not_or.mpr h.2.2
  simp only [Text.quoteChar, if_neg hescape, if_pos (isPrintable_of_isPlain h)]

theorem toNat_ofNat_of_isPlain (h : IsPlain c) : (UInt8.ofNat c.toNat).toNat = c.toNat := by
  have hhigh := h.2.1
  exact Bytes.toNat_ofNat (by omega)

/-- Between quotes plain characters stand as they are. -/
theorem quoteBytes_of_isPlain {cs : List Char} (h : ∀ c ∈ cs, IsPlain c) :
    Text.quoteBytes (cs.map fun c => UInt8.ofNat c.toNat) = cs := by
  induction cs with
  | nil => rw [List.map_nil, Text.quoteBytes]
  | cons c cs ih =>
    have hc := h c List.mem_cons_self
    have hcs := ih fun d hd => h d (List.mem_cons_of_mem c hd)
    have hbyte := toNat_ofNat_of_isPlain hc
    have hhigh := hc.2.1
    have hstep := Utf8.step_of_one (cs.map fun c => UInt8.ofNat c.toNat)
      (b := UInt8.ofNat c.toNat) (by omega)
    rw [hbyte, Char.ofNat_toNat] at hstep
    rw [List.map_cons, Text.quoteBytes]
    split
    next d after hsplit =>
      rw [hstep, Prod.mk.injEq, Option.some.injEq] at hsplit
      obtain ⟨rfl, rfl⟩ := hsplit
      rw [quoteChar_of_isPlain hc, hcs, List.singleton_append]
    next hsplit =>
      rw [hstep] at hsplit
      simp at hsplit

theorem quoted_of_isPlain (h : ∀ c ∈ s.toList, IsPlain c) :
    Text.quoted (Bytes.ascii s) = "\"" ++ s ++ "\"" := by
  rw [Text.quoted, Bytes.ascii, quoteBytes_of_isPlain h, ← String.toList_inj]
  simp

theorem decode_of_isPlain (h : ∀ c ∈ s.toList, IsPlain c) :
    Utf8.decode (Bytes.ascii s) = s.toList := by
  have hbytes : ∀ b ∈ Bytes.ascii s, b.toNat < 0x80 := by
    intro b hb
    obtain ⟨c, hc, rfl⟩ := List.mem_map.mp hb
    have hhigh := (h c hc).2.1
    rw [toNat_ofNat_of_isPlain (h c hc)]
    omega
  rw [Utf8.decode_of_ascii hbytes, Bytes.ascii, List.map_map]
  refine (List.map_congr_left ?_).trans (List.map_id _)
  intro c hc
  simp only [Function.comp_apply, toNat_ofNat_of_isPlain (h c hc), Char.ofNat_toNat, id]

end Plain

namespace Log

section Values

variable {s : String}

/-- A plain value without special bytes is written as it is. -/
theorem value_of_bare (h : ∀ c ∈ s.toList, IsPlain c)
    (hbare : (Bytes.ascii s).all isBare = true) : value (Bytes.ascii s) = s := by
  rw [value, if_pos hbare, decode_of_isPlain h, String.ofList_toList]

/-- Any other plain value is written between quotes. -/
theorem value_of_not_bare (h : ∀ c ∈ s.toList, IsPlain c)
    (hbare : (Bytes.ascii s).all isBare = false) : value (Bytes.ascii s) = "\"" ++ s ++ "\"" := by
  rw [value, hbare, if_neg Bool.false_ne_true, quoted_of_isPlain h]

/-- A count shows in a log as it is written elsewhere. -/
theorem value_toString (n : Nat) : value (Bytes.ascii (toString n)) = toString n := by
  apply value_of_bare
  · intro c hc
    exact isPlain_of_isDigit (isDigit_of_mem_repr hc)
  · apply List.all_eq_true.mpr
    intro b hb
    obtain ⟨c, hc, rfl⟩ := List.mem_map.mp hb
    have hdigit := isDigit_of_mem_repr hc
    have hbyte := toNat_ofNat_of_isPlain (isPlain_of_isDigit hdigit)
    simp only [Char.isDigit, Bool.and_eq_true, decide_eq_true_eq] at hdigit
    have hbare : Bytes.isDigit (UInt8.ofNat c.toNat) = true := by
      rw [Bytes.isDigit, hbyte, Bool.and_eq_true, decide_eq_true_eq, decide_eq_true_eq]
      exact hdigit
    rw [isBare, hbare, Bool.or_true, Bool.true_or]

/-- The brackets of a cursor put it between quotes. -/
theorem value_cursor (c : Cursor) : value (Bytes.ascii c.text) = "\"" ++ c.text ++ "\"" := by
  apply value_of_not_bare
  · have hnumber (n : Int) : ∀ d ∈ (toString n).toList, IsPlain d :=
      fun _ => isPlain_of_mem_toString
    have hoffset := isPlain_append (s := "[offset=") (isPlain_of_all rfl) (hnumber c.offset)
    have hline := isPlain_append (isPlain_append hoffset (t := ";line=") (isPlain_of_all rfl))
      (hnumber c.line)
    have hcolumn := isPlain_append (isPlain_append hline (t := ";column=") (isPlain_of_all rfl))
      (hnumber c.column)
    exact isPlain_append hcolumn (isPlain_of_all rfl)
  · have htext : c.text = "[offset=" ++ toString c.offset ++ ";line=" ++ toString c.line ++
        ";column=" ++ toString c.column ++ "]" := rfl
    simp only [htext, Bytes.ascii, String.toList_append, List.map_append, List.all_append]
    rfl

/-- A message of several words shows between quotes, and its fields follow it. -/
theorem line_of_not_bare (level : Level) {message : String}
    (h : ∀ c ∈ message.toList, IsPlain c) (hbare : (Bytes.ascii message).all isBare = false)
    (fields : List (String × Bytes)) :
    Record.line { level := level, message := message, fields := fields } =
      "level=" ++ level.text ++ " msg=\"" ++ message ++ "\"" ++
        String.join (fields.map fun f => " " ++ f.1 ++ "=" ++ value f.2) ++ "\n" := by
  have hopen : " msg=\"" = " msg=" ++ "\"" := rfl
  simp only [Record.line, value_of_not_bare h hbare, hopen, String.append_assoc]

end Values

section Levels

variable {verbosity : Int} {r : Record} {records : List Record}

/-- Records are written one after the other. -/
theorem render_cons (verbosity : Int) (r : Record) (records : List Record) :
    render verbosity (r :: records) = render verbosity [r] ++ render verbosity records := by
  have hsplit : r :: records = [r] ++ records := rfl
  unfold render
  rw [hsplit, List.filter_append, List.map_append, String.join_append]

theorem render_singleton (verbosity : Int) (r : Record) :
    render verbosity [r] =
      if r.level.rank ≤ (Level.ofVerbosity verbosity).rank then r.line else "" := by
  unfold render
  by_cases h : r.level.rank ≤ (Level.ofVerbosity verbosity).rank
  · simp [h]
  · simp [h]

/-- A record for debugging is written at any verbosity but zero and one. -/
theorem render_debug (h : r.level = .debug) :
    render verbosity [r] = if verbosity = 0 ∨ verbosity = 1 then "" else r.line := by
  rw [render_singleton, h]
  by_cases h₀ : verbosity = 0
  · simp [h₀, Level.ofVerbosity, Level.rank]
  · by_cases h₁ : verbosity = 1 <;> simp [h₀, h₁, Level.ofVerbosity, Level.rank]

/-- A record for information is written at any verbosity but zero. -/
theorem render_info (h : r.level = .info) :
    render verbosity [r] = if verbosity = 0 then "" else r.line := by
  rw [render_singleton, h]
  by_cases h₀ : verbosity = 0
  · simp [h₀, Level.ofVerbosity, Level.rank]
  · by_cases h₁ : verbosity = 1 <;> simp [h₀, h₁, Level.ofVerbosity, Level.rank]

/-- Warnings are written at every verbosity. -/
theorem render_warnings (h : ∀ w ∈ records, w.level = .warning) :
    render verbosity records = String.join (records.map Record.line) := by
  have hall : (records.filter fun w =>
      w.level.rank ≤ (Level.ofVerbosity verbosity).rank) = records := by
    apply List.filter_eq_self.mpr
    intro w hw
    rw [h w hw]
    exact decide_eq_true (Nat.zero_le _)
  rw [render, hall]

end Levels

end Log

end TextWalk
