import TextWalk.Proofs.FieldExtent
import TextWalk.Proofs.Stopping

namespace TextWalk.Buffer

open Scan

/-- What ends a delimited read, said of the codes at two indices. -/
theorem endsAt_iff {content : List Code} {d : Code} {escaped : Bool} {i : Nat} :
    endsAt content d escaped i = true ↔
      content[i]? = some d ∧ (escaped = true → content[i - 1]? ≠ some Code.backslash) := by
  cases escaped with
  | false => simp [endsAt]
  | true => simp [endsAt]

/-- A read up to a delimiter and a read through it both move from where they are to the next
delimiter, which with `escaped` must not follow a backslash, or to the end of the content. The first
gives the text up to there, the second adds the delimiter if there is one. Off content both give
nothing and change nothing. -/
theorem delimited_reads_end_first (content : List Code) (ops : List Operation) (d : Code)
    (escaped : Bool) :
    let b := (ofCodes content).scan ops
    let before := (Operation.readUntilBefore d escaped).run b
    let through := (Operation.readUntil d escaped).run b
    (b.isOnContent = false → before = (.text "", b) ∧ through = (.text "", b)) ∧
      (b.isOnContent = true → ∃ o j : Nat, b.offset = o ∧ o < content.length ∧
        IsFirstOrEnd (fun i => content[i]? = some d ∧
          (escaped = true → content[i - 1]? ≠ some Code.backslash)) content.length (o + 1) j ∧
        let walked := b.walk (List.replicate (j - o) .forward)
        before = (.text (Code.text (slice content o j)), walked) ∧
          through = (.text (Code.text (slice content o j ++ content[j]?.toList)), walked)) := by
  intro b before through
  have hbefore : before = Answer.ofRead (b.readUntilBefore d escaped) := rfl
  have hthrough : through = Answer.ofRead (b.readUntil d escaped) := rfl
  constructor
  · intro hoff
    have hnone := current?_eq_none_of_isOnContent hoff
    rw [hbefore, hthrough, readUntilBefore_of_current?_eq_none d escaped hnone,
      readUntil_of_current?_eq_none d escaped hnone]
    exact ⟨rfl, rfl⟩
  · intro hon
    obtain ⟨o, ho, hscan⟩ := exists_scan_eq_standingAt hon
    have hb : b = standingAt content o := hscan
    have hj : IsFirstOrEnd _ content.length (o + 1) (firstEnding content d escaped (o + 1)) :=
      isFirstOrEnd_firstIndex (fun _ => endsAt_iff) ho
    -- The search starts behind the cursor, so a delimiter that it stands on does not end the read.
    have hle : o ≤ firstEnding content d escaped (o + 1) := Nat.le_of_succ_le hj.le
    refine ⟨o, firstEnding content d escaped (o + 1), congrArg Buffer.offset hb, ho, hj, ?_, ?_⟩
    · rw [hbefore, hb, walk_forward_standingAt hle, readUntilBefore_standingAt d escaped ho]
      rfl
    · rw [hthrough, hb, walk_forward_standingAt hle, readUntil_standingAt d escaped ho,
        slice_append_getElem? hle]
      rfl

/-- A text with an escaped quote and a line feed, from its front and from past its end. -/
theorem delimited_reads_end_first_of_escaped_quote :
    let content : List Code := [0x22, 0x5C, 0x22, 0x0A, 0x22, 0x62]
    let front := (ofCodes content).scan [.previous, .next]
    let past := (ofCodes content).scan [.readUntil 0x78 false]
    front.isOnContent = true ∧ past.isOnContent = false ∧
      (∃ o j : Nat, front.offset = o ∧ o < content.length ∧
        IsFirstOrEnd (fun i => content[i]? = some 0x22 ∧
          (true = true → content[i - 1]? ≠ some Code.backslash)) content.length (o + 1) j ∧
        (Operation.readUntilBefore 0x22 true).run front =
          (.text (Code.text (slice content o j)),
            front.walk (List.replicate (j - o) .forward)) ∧
        (Operation.readUntil 0x22 true).run front =
          (.text (Code.text (slice content o j ++ content[j]?.toList)),
            front.walk (List.replicate (j - o) .forward))) ∧
      (Operation.readUntilBefore 0x22 true).run past = (.text "", past) ∧
      (Operation.readUntil 0x22 true).run past = (.text "", past) := by
  intro content front past
  have hfront : front.isOnContent = true := by decide +kernel
  have hpast : past.isOnContent = false := by decide +kernel
  exact ⟨hfront, hpast, (delimited_reads_end_first content _ 0x22 true).2 hfront,
    (delimited_reads_end_first content _ 0x22 true).1 hpast⟩

section BlankReads

variable {b : Buffer} {set : List Code} {c : Code}

theorem isStop_nil : isStop [] = Code.isBlank := by
  funext c
  simp [isStop]

/-- Order and repetition of the extra stops do not matter. -/
theorem isStop_congr {set' : List Code} (h : ∀ c, c ∈ set' ↔ c ∈ set) : isStop set' = isStop set := by
  funext c
  simp only [isStop, List.contains_eq_mem, h c]

theorem readUntilBlankOr_of_isStop (hc : b.current? = some c) (hstop : isStop set c = true) :
    b.readUntilBlankOr set = ([c], b) := by
  rw [readUntilBlankOr, takeThrough]
  split
  · simp_all
  · simp_all

/-- From a code that is no stop, the two reads differ in the stop alone. -/
theorem readUntilBlankOr_of_not_isStop (hc : b.current? = some c) (hstop : isStop set c = false) :
    b.readUntilBlankOr set =
      ((b.readUntilBeforeBlankOr set).1 ++ (b.readUntilBeforeBlankOr set).2.current?.toList,
        (b.readUntilBeforeBlankOr set).2) := by
  have hbefore : b.takeWhile (fun d => !isStop set d) = b.readUntilBeforeBlankOr set := by
    rw [takeWhile, readUntilBeforeBlankOr]
    split
    · simp_all
    · simp_all
  rw [readUntilBlankOr, takeThrough_eq, hbefore]

theorem offset_lt_readUntilBeforeBlankOr (hc : b.current? = some c) :
    b.offset < (b.readUntilBeforeBlankOr set).2.offset := by
  have hle := offset_le_takeWhile (fun d => !isStop set d) b.next
  rw [offset_next] at hle
  simp only [readUntilBeforeBlankOr, hc]
  omega

theorem blank_reads_of_current?_eq_none (set : List Code) (h : b.current? = none) :
    b.readUntilBeforeBlankOr set = ([], b) ∧ b.readUntilBlankOr set = ([], b) := by
  refine ⟨readUntilBeforeBlankOr_of_current?_eq_none set h, ?_⟩
  rw [readUntilBlankOr, takeThrough]
  split
  · simp_all
  · rfl

/-- From an index of the content, the read up to a stop takes the code there and goes on to the next
stop, while the read through a stop may stop at once. -/
theorem blank_reads_standingAt {content : List Code} {n : Nat} (set : List Code)
    (h : n < content.length) :
    let b := standingAt content n
    ∃ j k : Nat,
      IsFirstOrEnd (DividesAt content set) content.length (n + 1) j ∧
      b.readUntilBeforeBlankOr set =
        (slice content n j, b.walk (List.replicate (j - n) .forward)) ∧
      IsFirstOrEnd (DividesAt content set) content.length n k ∧
      b.readUntilBlankOr set =
        (slice content n k ++ content[k]?.toList, b.walk (List.replicate (k - n) .forward)) := by
  intro b
  have hfirst {m : Nat} (hm : m ≤ content.length) :
      IsFirstOrEnd (DividesAt content set) content.length m
        (firstPassing content (isStop set) m) :=
    isFirstOrEnd_firstIndex (fun _ => passesAt_isStop_iff) hm
  have hj := hfirst h
  have hk := hfirst (Nat.le_of_lt h)
  refine ⟨_, _, hj, ?_, hk, ?_⟩
  · rw [walk_forward_standingAt (Nat.le_of_succ_le hj.le), readUntilBeforeBlankOr_standingAt set h]
  · rw [walk_forward_standingAt hk.le, readUntilBlankOr, takeThrough_standingAt,
      slice_append_getElem? hk.le]

end BlankReads

/-- A read up to a blank or a code of the set always takes the code it stands on and moves to the
next stop behind it. A read through a stop also stops at the code it stands on: there it gives this
code alone and does not move, elsewhere it ends where the other read ends and gives the stop besides.
A read through a blank is the second with no further stops. Which codes the set has is all that
matters, and off content every read gives nothing and changes nothing. -/
theorem blank_reads_end_first (content : List Code) (ops : List Operation) (set : List Code) :
    let b := (ofCodes content).scan ops
    let before := (Operation.readUntilBeforeBlankOr set).run b
    let through := (Operation.readUntilBlankOr set).run b
    let throughBlank := Operation.readUntilBlankOrEnd.run b
    (b.isOnContent = false →
        before = (.text "", b) ∧ through = (.text "", b) ∧ throughBlank = (.text "", b)) ∧
      (b.isOnContent = true → ∃ o j k : Nat, b.offset = o ∧ o < content.length ∧
        IsFirstOrEnd (DividesAt content set) content.length (o + 1) j ∧
        before =
          (.text (Code.text (slice content o j)), b.walk (List.replicate (j - o) .forward)) ∧
        IsFirstOrEnd (DividesAt content set) content.length o k ∧
        through =
          (.text (Code.text (slice content o k ++ content[k]?.toList)),
            b.walk (List.replicate (k - o) .forward))) ∧
      (∀ c, b.current? = some c →
        if IsDivider set c then through = (.text (Code.text [c]), b) ∧ b.offset < before.2.offset
        else through.2 = before.2 ∧ ∃ cs, before.1 = .text (Code.text cs) ∧
          through.1 = .text (Code.text (cs ++ before.2.current?.toList))) ∧
      throughBlank = (Operation.readUntilBlankOr []).run b ∧
      ∀ set' : List Code, (∀ c, c ∈ set' ↔ c ∈ set) →
        (Operation.readUntilBeforeBlankOr set').run b = before ∧
          (Operation.readUntilBlankOr set').run b = through := by
  intro b before through throughBlank
  have hbefore : before = Answer.ofRead (b.readUntilBeforeBlankOr set) := rfl
  have hthrough : through = Answer.ofRead (b.readUntilBlankOr set) := rfl
  have hblank : throughBlank = (Operation.readUntilBlankOr []).run b := by
    change Answer.ofRead (b.takeThrough Code.isBlank) = Answer.ofRead (b.takeThrough (isStop []))
    rw [isStop_nil]
  refine ⟨?_, ?_, ?_, hblank, ?_⟩
  · intro hoff
    have hnone := current?_eq_none_of_isOnContent hoff
    obtain ⟨hread, hreadThrough⟩ := blank_reads_of_current?_eq_none set hnone
    rw [hblank, hbefore, hthrough, hread, hreadThrough, Operation.run,
      (blank_reads_of_current?_eq_none [] hnone).2]
    exact ⟨rfl, rfl, rfl⟩
  · intro hon
    obtain ⟨o, ho, hscan⟩ := exists_scan_eq_standingAt hon
    have hb : b = standingAt content o := hscan
    obtain ⟨j, k, hj, hread, hk, hreadThrough⟩ := blank_reads_standingAt set ho
    rw [← hb] at hread hreadThrough
    refine ⟨o, j, k, congrArg Buffer.offset hb, ho, hj, ?_, hk, ?_⟩
    · rw [hbefore, hread]
      rfl
    · rw [hthrough, hreadThrough]
      rfl
  · intro c hc
    split
    case isTrue hdiv =>
      have hstop := isStop_iff_isDivider.mpr hdiv
      rw [hthrough, hbefore, readUntilBlankOr_of_isStop hc hstop]
      exact ⟨rfl, offset_lt_readUntilBeforeBlankOr hc⟩
    case isFalse hdiv =>
      have hstop := Bool.eq_false_iff.mpr (mt isStop_iff_isDivider.mp hdiv)
      rw [hthrough, hbefore, readUntilBlankOr_of_not_isStop hc hstop]
      exact ⟨rfl, _, rfl, rfl⟩
  · intro set' hset
    have hstop := isStop_congr hset
    constructor
    · simp only [hbefore, Operation.run, readUntilBeforeBlankOr, hstop]
    · simp only [hthrough, Operation.run, readUntilBlankOr, hstop]

/-- A text read from past its end and from a comma, with a set that is written in two ways. -/
theorem blank_reads_end_first_of_comma :
    let content : List Code := [0x61, 0x2C, 0x62, 0x0A]
    let set : List Code := [0x2C, 0x3B]
    let other : List Code := [0x3B, 0x2C, 0x2C]
    let past := (ofCodes content).scan [.skipUntil 0x78]
    let comma := (ofCodes content).scan [.skipUntil 0x2C]
    let before (set : List Code) (b : Buffer) := (Operation.readUntilBeforeBlankOr set).run b
    let through (set : List Code) (b : Buffer) := (Operation.readUntilBlankOr set).run b
    (past.isOnContent = false ∧
      before set past = (.text "", past) ∧ through set past = (.text "", past)) ∧
    (comma.isOnContent = true ∧ ∃ o j k : Nat, comma.offset = o ∧ o < content.length ∧
      IsFirstOrEnd (DividesAt content set) content.length (o + 1) j ∧
      before set comma =
        (.text (Code.text (slice content o j)), comma.walk (List.replicate (j - o) .forward)) ∧
      IsFirstOrEnd (DividesAt content set) content.length o k ∧
      through set comma =
        (.text (Code.text (slice content o k ++ content[k]?.toList)),
          comma.walk (List.replicate (k - o) .forward))) ∧
    (comma.current? = some 0x2C ∧ IsDivider set 0x2C ∧
      through set comma = (.text (Code.text [0x2C]), comma) ∧
      comma.offset < (before set comma).2.offset) ∧
    (∀ c, c ∈ other ↔ c ∈ set) ∧
      before other comma = before set comma ∧ through other comma = through set comma := by
  intro content set other past comma before through
  have hpast : past.isOnContent = false := by decide +kernel
  have hcomma : comma.isOnContent = true := by decide +kernel
  have hcurrent : comma.current? = some 0x2C := by decide +kernel
  have hdiv : IsDivider set 0x2C := by decide
  have hother (c : Code) : c ∈ other ↔ c ∈ set := by
    simp only [other, set, List.mem_cons, List.not_mem_nil]
    tauto
  obtain ⟨hoff, -⟩ := blank_reads_end_first content [.skipUntil 0x78] set
  obtain ⟨-, hon, hstop, -, hset⟩ := blank_reads_end_first content [.skipUntil 0x2C] set
  have hread := hstop 0x2C hcurrent
  rw [if_pos hdiv] at hread
  exact ⟨⟨hpast, (hoff hpast).1, (hoff hpast).2.1⟩, ⟨hcomma, hon hcomma⟩,
    ⟨hcurrent, hdiv, hread⟩, hother, hset other hother⟩

end TextWalk.Buffer
