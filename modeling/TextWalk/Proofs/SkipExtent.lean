import TextWalk.Proofs.Stopping

namespace TextWalk.Buffer

section SkipWhile

variable {p : Code → Bool} {b : Buffer}

theorem skipWhile_of_isAt_eq_false (h : b.isAt p = false) : b.skipWhile p = b := by
  rw [isAt] at h
  rw [skipWhile]
  split
  case h_1 c hc =>
    rw [hc, Option.any_some] at h
    rw [h]
    rfl
  case h_2 => rfl

theorem skipWhile_of_current?_eq_none (h : b.current? = none) : b.skipWhile p = b := by
  apply skipWhile_of_isAt_eq_false
  rw [isAt, h, Option.any_none]

/-- Where a skip ends there is nothing more to skip. -/
theorem isAt_skipWhile (p : Code → Bool) (b : Buffer) : (b.skipWhile p).isAt p = false := by
  fun_induction skipWhile p b with
  | case1 b c hc hp ih => exact ih
  | case2 b c hc hp =>
    rw [isAt, hc, Option.any_some]
    exact Bool.eq_false_iff.mpr hp
  | case3 b hc => rw [isAt, hc, Option.any_none]

/-- Skipping again changes nothing. -/
theorem skipWhile_skipWhile (p : Code → Bool) (b : Buffer) :
    (b.skipWhile p).skipWhile p = b.skipWhile p :=
  skipWhile_of_isAt_eq_false (isAt_skipWhile p b)

end SkipWhile

section Tests

variable {content : List Code} {d : Code} {i : Nat}

theorem passesAt_not_bne_iff :
    passesAt content (fun c => !(c != d)) i = true ↔ content[i]? = some d := by
  simp [passesAt, Option.any_eq_true]

theorem passesAt_not_isBlank_iff : passesAt content (fun c => !c.isBlank) i = true ↔
    ∃ c, content[i]? = some c ∧ c ∉ [0x20, 0x0A, 0x0D, 0x09] := by
  simp only [passesAt, Option.any_eq_true, Bool.not_eq_true', Code.isBlank_eq_false_iff]

theorem passesAt_not_otherBlank_iff :
    passesAt content (fun c => !(c.isBlank && c != d)) i = true ↔
      ∃ c, content[i]? = some c ∧ (c ∉ [0x20, 0x0A, 0x0D, 0x09] ∨ c = d) := by
  simp only [passesAt, Option.any_eq_true, Bool.not_and, Bool.or_eq_true, Bool.not_eq_true',
    Code.isBlank_eq_false_iff, bne_eq_false_iff_eq]

/-- A code that is no blank is not the one blank that the test spares. -/
theorem otherBlank_eq_isBlank (h : d ∉ [0x20, 0x0A, 0x0D, 0x09]) :
    (fun c : Code => c.isBlank && c != d) = Code.isBlank := by
  funext c
  by_cases hc : c = d
  · rw [hc, Code.isBlank_eq_false_iff.mpr h, Bool.false_and]
  · rw [bne_iff_ne.mpr hc, Bool.and_true]

end Tests

section Standing

variable {content : List Code} {P : Nat → Prop} {p : Code → Bool} {n : Nat}

/-- A skip walks to the first code that it may not skip. -/
theorem exists_skipWhile_eq_walk (hP : ∀ i, passesAt content (fun c => !p c) i = true ↔ P i)
    (hn : n ≤ content.length) :
    ∃ j, IsFirstOrEnd P content.length n j ∧
      (standingAt content n).skipWhile p = standingAt content j ∧
      (standingAt content n).walk (List.replicate (j - n) .forward) = standingAt content j := by
  have hj : IsFirstOrEnd P content.length n (firstPassing content (fun c => !p c) n) :=
    isFirstOrEnd_firstIndex hP hn
  exact ⟨_, hj, skipWhile_standingAt p content n, walk_forward_standingAt hj.le⟩

theorem isOnContent_standingAt_eq (content : List Code) (j : Nat) :
    (standingAt content j).isOnContent = decide (j < content.length) := by
  rw [Bool.eq_iff_iff, isOnContent_standingAt, decide_eq_true_iff]

theorem isOn_standingAt_eq (content : List Code) (d : Code) (j : Nat) :
    (standingAt content j).isOn d = decide (j < content.length ∧ content[j]? = some d) := by
  have hon : (standingAt content j).isOn d = passesAt content (· == d) j := by
    rw [isOn, isAt, current?_standingAt, passesAt]
  rw [Bool.eq_iff_iff, hon, passesAt_beq_iff, decide_eq_true_iff]
  constructor
  · intro hd
    exact ⟨lt_length_of_getElem? hd, hd⟩
  · intro hd
    exact hd.2

/-- From an index of the content, the three skips differ in what stops them and in what they tell at
the place where they stop. -/
theorem skips_standingAt (d : Code) (hn : n ≤ content.length) :
    let b := standingAt content n
    ∃ i j k : Nat,
      IsFirstOrEnd (fun m => content[m]? = some d) content.length n i ∧
      b.skipUntil d = (decide (i < content.length), b.walk (List.replicate (i - n) .forward)) ∧
      IsFirstOrEnd (fun m => ∃ c, content[m]? = some c ∧ c ∉ [0x20, 0x0A, 0x0D, 0x09])
        content.length n j ∧
      b.skipBlanks = (decide (j < content.length), b.walk (List.replicate (j - n) .forward)) ∧
      IsFirstOrEnd (fun m => ∃ c, content[m]? = some c ∧ (c ∉ [0x20, 0x0A, 0x0D, 0x09] ∨ c = d))
        content.length n k ∧
      b.skipBlanksUntil d =
        (decide (k < content.length ∧ content[k]? = some d),
          b.walk (List.replicate (k - n) .forward)) := by
  intro b
  obtain ⟨i, hi, hskip₁, hwalk₁⟩ := exists_skipWhile_eq_walk (fun _ => passesAt_not_bne_iff) hn
  obtain ⟨j, hj, hskip₂, hwalk₂⟩ := exists_skipWhile_eq_walk (fun _ => passesAt_not_isBlank_iff) hn
  obtain ⟨k, hk, hskip₃, hwalk₃⟩ :=
    exists_skipWhile_eq_walk (fun _ => passesAt_not_otherBlank_iff) hn
  refine ⟨i, j, k, hi, ?_, hj, ?_, hk, ?_⟩
  · rw [hwalk₁, skipUntil, hskip₁, isOnContent_standingAt_eq]
  · rw [hwalk₂, skipBlanks, hskip₂, isOnContent_standingAt_eq]
  · rw [hwalk₃, skipBlanksUntil, hskip₃, isOn_standingAt_eq]

end Standing

/-- A skip to a code, a skip of blanks and a skip of blanks up to a code each move from where they are
to the first index that stops them, or to the end of the content, and tell whether they found what
they look for. Once more from there, they stay and tell the same. If the code is no blank, the two
skips of blanks end in the same place. Off content every skip tells that it found nothing and changes
nothing. -/
theorem skips_end_first (content : List Code) (ops : List Operation) (d : Code) :
    let b := (ofCodes content).scan ops
    let blanks : List Code := [0x20, 0x0A, 0x0D, 0x09]
    let toCode := (Operation.skipUntil d).run b
    let pastBlanks := Operation.skipBlanks.run b
    let toEither := (Operation.skipBlanksUntil d).run b
    (b.isOnContent = false →
        toCode = (.flag false, b) ∧ pastBlanks = (.flag false, b) ∧ toEither = (.flag false, b)) ∧
      (b.isOnContent = true → ∃ o i j k : Nat, b.offset = o ∧ o < content.length ∧
        IsFirstOrEnd (fun m => content[m]? = some d) content.length o i ∧
        toCode =
          (.flag (decide (i < content.length)), b.walk (List.replicate (i - o) .forward)) ∧
        IsFirstOrEnd (fun m => ∃ c, content[m]? = some c ∧ c ∉ blanks) content.length o j ∧
        pastBlanks =
          (.flag (decide (j < content.length)), b.walk (List.replicate (j - o) .forward)) ∧
        IsFirstOrEnd (fun m => ∃ c, content[m]? = some c ∧ (c ∉ blanks ∨ c = d)) content.length o k ∧
        toEither =
          (.flag (decide (k < content.length ∧ content[k]? = some d)),
            b.walk (List.replicate (k - o) .forward))) ∧
      ((Operation.skipUntil d).run toCode.2 = toCode ∧
        Operation.skipBlanks.run pastBlanks.2 = pastBlanks ∧
        (Operation.skipBlanksUntil d).run toEither.2 = toEither) ∧
      (d ∉ blanks → toEither.2 = pastBlanks.2) := by
  intro b blanks toCode pastBlanks toEither
  have hcode : toCode = Answer.ofSkip (b.skipUntil d) := rfl
  have hblanks : pastBlanks = Answer.ofSkip b.skipBlanks := rfl
  have heither : toEither = Answer.ofSkip (b.skipBlanksUntil d) := rfl
  refine ⟨?_, ?_, ?_, ?_⟩
  · intro hoff
    have hnone := current?_eq_none_of_isOnContent hoff
    have hon : b.isOn d = false := by rw [isOn, isAt, hnone, Option.any_none]
    rw [hcode, hblanks, heither, skipUntil, skipBlanks, skipBlanksUntil]
    simp only [skipWhile_of_current?_eq_none hnone, hoff, hon, Answer.ofSkip, and_self]
  · intro hon
    obtain ⟨o, ho, hscan⟩ := exists_scan_eq_standingAt hon
    have hb : b = standingAt content o := hscan
    obtain ⟨i, j, k, hi, hskip₁, hj, hskip₂, hk, hskip₃⟩ := skips_standingAt d (Nat.le_of_lt ho)
    rw [← hb] at hskip₁ hskip₂ hskip₃
    refine ⟨o, i, j, k, congrArg Buffer.offset hb, ho, hi, ?_, hj, ?_, hk, ?_⟩
    · rw [hcode, hskip₁]
      rfl
    · rw [hblanks, hskip₂]
      rfl
    · rw [heither, hskip₃]
      rfl
  -- What a skip tells depends on its last place alone, and a second skip does not leave it.
  · simp only [hcode, hblanks, heither, Operation.run, Answer.ofSkip, skipUntil, skipBlanks,
      skipBlanksUntil, skipWhile_skipWhile, and_self]
  · intro hd
    rw [heither, hblanks, skipBlanksUntil, skipBlanks, otherBlank_eq_isBlank hd]
    rfl

/-- Two blanks and a comma, from the front and from past the end. -/
theorem skips_end_first_of_comma :
    let content : List Code := [0x20, 0x0A, 0x2C]
    let blanks : List Code := [0x20, 0x0A, 0x0D, 0x09]
    let front := (ofCodes content).scan []
    let past := (ofCodes content).scan [.skipUntil 0x78]
    (past.isOnContent = false ∧ (Operation.skipUntil 0x2C).run past = (.flag false, past) ∧
      Operation.skipBlanks.run past = (.flag false, past) ∧
      (Operation.skipBlanksUntil 0x2C).run past = (.flag false, past)) ∧
    (front.isOnContent = true ∧ ∃ o i j k : Nat, front.offset = o ∧ o < content.length ∧
      IsFirstOrEnd (fun m => content[m]? = some 0x2C) content.length o i ∧
      (Operation.skipUntil 0x2C).run front =
        (.flag (decide (i < content.length)), front.walk (List.replicate (i - o) .forward)) ∧
      IsFirstOrEnd (fun m => ∃ c, content[m]? = some c ∧ c ∉ blanks) content.length o j ∧
      Operation.skipBlanks.run front =
        (.flag (decide (j < content.length)), front.walk (List.replicate (j - o) .forward)) ∧
      IsFirstOrEnd (fun m => ∃ c, content[m]? = some c ∧ (c ∉ blanks ∨ c = 0x2C))
        content.length o k ∧
      (Operation.skipBlanksUntil 0x2C).run front =
        (.flag (decide (k < content.length ∧ content[k]? = some 0x2C)),
          front.walk (List.replicate (k - o) .forward))) ∧
    0x2C ∉ blanks ∧
      ((Operation.skipBlanksUntil 0x2C).run front).2 = (Operation.skipBlanks.run front).2 := by
  intro content blanks front past
  have hpast : past.isOnContent = false := by decide +kernel
  have hfront : front.isOnContent = true := by decide +kernel
  have hcomma : 0x2C ∉ blanks := by decide
  obtain ⟨hoff, -⟩ := skips_end_first content [.skipUntil 0x78] 0x2C
  obtain ⟨-, hon, -, hsame⟩ := skips_end_first content [] 0x2C
  exact ⟨⟨hpast, hoff hpast⟩, ⟨hfront, hon hfront⟩, hcomma, hsame hcomma⟩

end TextWalk.Buffer
