import TextWalk.Buffer.Operation
import TextWalk.Proofs.Position

/-!
Walks as words of moves. Every operation is a word of single moves, so that what one move keeps is
kept by every scan. Main statements: after any scan the whole state is the one counted from content
and offset, and any two words of moves with the same displacement lead to the same state.
-/
namespace TextWalk

inductive Move where
  | forward
  | back
deriving DecidableEq, Repr

namespace Move

def run (b : Buffer) : Move → Buffer
  | forward => b.next
  | back => b.previous

def displacement (w : List Move) : Int := (w.count forward : Int) - w.count back

@[simp] theorem displacement_nil : displacement [] = 0 := rfl

theorem displacement_forward (w : List Move) :
    displacement (forward :: w) = 1 + displacement w := by
  simp only [displacement, List.count_cons_self, List.count_cons_of_ne (by decide : forward ≠ back)]
  omega

theorem displacement_back (w : List Move) : displacement (back :: w) = -1 + displacement w := by
  simp only [displacement, List.count_cons_self, List.count_cons_of_ne (by decide : back ≠ forward)]
  omega

end Move

namespace Buffer

def walk (b : Buffer) (w : List Move) : Buffer := w.foldl Move.run b

@[simp] theorem walk_nil (b : Buffer) : b.walk [] = b := rfl

@[simp] theorem walk_forward (b : Buffer) (w : List Move) :
    b.walk (.forward :: w) = b.next.walk w := rfl

@[simp] theorem walk_back (b : Buffer) (w : List Move) :
    b.walk (.back :: w) = b.previous.walk w := rfl

def skipMoves (p : Code → Bool) (b : Buffer) : List Move :=
  match _h : b.current? with
  | some c => if p c then .forward :: skipMoves p b.next else []
  | none => []
termination_by b.remaining
decreasing_by exact remaining_next_lt ‹_›

def delimitedMoves (occurrence : Code) (escaped : Bool) (b : Buffer) : List Move :=
  match _h : b.next.current? with
  | none => [.forward]
  | some c =>
    if c != occurrence then .forward :: delimitedMoves occurrence escaped b.next
    else if !escaped then [.forward]
    else if b.next.lookBehind.1 then
      .forward :: .back :: .forward :: delimitedMoves occurrence escaped b.next.lookBehind.2
    else [.forward, .back, .forward]
termination_by b.remaining
decreasing_by
  all_goals
    have := offset_lt_of_current? ‹b.next.current? = some _›
    simp only [remaining, content_next, offset_next, content_lookBehind, offset_lookBehind] at *
    omega

/-- A step back from here would leave a line feed for which no column is kept. -/
def lacksLineEnd (b : Buffer) : Bool :=
  (b.shift (-1)).isOnContent && b.isOn Code.lineFeed && b.lineEnds.isEmpty

end Buffer

def Operation.moves (b : Buffer) : Operation → List Move
  | next => [.forward]
  | previous => [.back]
  | readUntilBefore c escaped | readUntil c escaped =>
    if b.isOnContent then b.delimitedMoves c escaped else []
  | readUntilBeforeBlankOr set =>
    if b.isOnContent then .forward :: b.next.skipMoves fun c => !Buffer.isStop set c else []
  | readUntilBlankOr set => b.skipMoves fun c => !Buffer.isStop set c
  | readUntilBlankOrEnd => b.skipMoves fun c => !c.isBlank
  | skipBlanksUntil d => b.skipMoves fun c => c.isBlank && c != d
  | skipUntil d => b.skipMoves (· != d)
  | skipBlanks => b.skipMoves Code.isBlank
  | current | currentText | isOnContent | isOnBlank | isOn _ | isOnAny _ | cursor | size | text => []

namespace Buffer

/-- A skip is a word of moves forward. -/
theorem walk_skipMoves (p : Code → Bool) (b : Buffer) :
    b.walk (b.skipMoves p) = b.skipWhile p := by
  fun_induction skipWhile p b
  all_goals
    rw [skipMoves]
    split <;> simp_all

theorem takeWhile_snd (p : Code → Bool) (b : Buffer) : (b.takeWhile p).2 = b.skipWhile p := by
  fun_induction skipWhile p b
  all_goals
    rw [takeWhile]
    split <;> simp_all

/-- A read that includes its stop is one that excludes it, and the code it stands on. -/
theorem takeThrough_eq (stop : Code → Bool) (b : Buffer) :
    b.takeThrough stop =
      ((b.takeWhile fun c => !stop c).1 ++ (b.takeWhile fun c => !stop c).2.current?.toList,
        (b.takeWhile fun c => !stop c).2) := by
  fun_induction takeWhile (fun c => !stop c) b
  all_goals
    rw [takeThrough]
    split <;> simp_all

/-- A delimited read is a word of moves too, with its looks behind. -/
theorem walk_delimitedMoves (occurrence : Code) (escaped : Bool) (b : Buffer) :
    b.walk (b.delimitedMoves occurrence escaped) = (b.takeDelimited occurrence escaped).2 := by
  -- The word branches as the read does, so every case of the read opens one case of the word.
  fun_induction takeDelimited occurrence escaped b
  all_goals
    rw [delimitedMoves]
    split <;> simp_all [lookBehind]

theorem readUntil_snd (occurrence : Code) (escaped : Bool) (b : Buffer) :
    (b.readUntil occurrence escaped).2 = (b.readUntilBefore occurrence escaped).2 := by
  cases h : b.current? with
  | none => simp [readUntil, readUntilBefore, h]
  | some c => simp [readUntil, h]

/-- An operation leaves the walk where its moves lead. -/
theorem run_snd (op : Operation) (b : Buffer) : (op.run b).2 = b.walk (op.moves b) := by
  have hdelimited (c : Code) (escaped : Bool) : (b.readUntilBefore c escaped).2 =
      b.walk (if b.isOnContent then b.delimitedMoves c escaped else []) := by
    cases h : b.current? with
    | none => simp [readUntilBefore, isOnContent, h]
    | some d => simp [readUntilBefore, isOnContent, h, walk_delimitedMoves]
  cases op with
  | readUntilBefore c escaped => exact hdelimited c escaped
  | readUntil c escaped => exact (readUntil_snd c escaped b).trans (hdelimited c escaped)
  | readUntilBeforeBlankOr set =>
    cases h : b.current? with
    | none => simp [Operation.run, Operation.moves, Answer.ofRead, readUntilBeforeBlankOr,
        isOnContent, h]
    | some d => simp [Operation.run, Operation.moves, Answer.ofRead, readUntilBeforeBlankOr,
        isOnContent, h, takeWhile_snd, walk_skipMoves]
  | readUntilBlankOr set =>
    simp only [Operation.run, Operation.moves, Answer.ofRead, readUntilBlankOr, takeThrough_eq,
      takeWhile_snd, walk_skipMoves]
  | readUntilBlankOrEnd =>
    simp only [Operation.run, Operation.moves, Answer.ofRead, readUntilBlankOrEnd, takeThrough_eq,
      takeWhile_snd, walk_skipMoves]
  | skipBlanksUntil d => exact (walk_skipMoves _ b).symm
  | skipUntil d => exact (walk_skipMoves _ b).symm
  | skipBlanks => exact (walk_skipMoves _ b).symm
  | _ => rfl

/-- A word of moves leads from one counted position to another. -/
theorem walk_standingAt (content : List Code) (o : Int) (w : List Move) :
    (standingAt content o).walk w = standingAt content (o + Move.displacement w) := by
  -- Induction on the word: the offset it starts from changes with every move.
  induction w generalizing o with
  | nil => simp
  | cons m w ih =>
    cases m with
    | forward =>
      rw [walk_forward, next_standingAt, ih, Move.displacement_forward, Int.add_assoc]
    | back =>
      rw [walk_back, previous_standingAt, ih, Move.displacement_back, Int.sub_eq_add_neg,
        Int.add_assoc]

/-- So does a scan. -/
theorem scan_standingAt (content : List Code) (o : Int) (ops : List Operation) :
    ∃ o', (standingAt content o).scan ops = standingAt content o' := by
  induction ops generalizing o with
  | nil => exact ⟨o, rfl⟩
  | cons op ops ih =>
    -- Each operation is a word of moves, and a word of moves leads from position to position.
    have hstep : (standingAt content o).scan (op :: ops) =
        ((standingAt content o).walk (op.moves (standingAt content o))).scan ops := by
      rw [← run_snd]
      rfl
    rw [hstep, walk_standingAt]
    exact ih _

/-- After any scan the state is the one counted from content and offset. -/
theorem scan_ofCodes (content : List Code) (ops : List Operation) :
    (ofCodes content).scan ops = standingAt content ((ofCodes content).scan ops).offset := by
  obtain ⟨o, ho⟩ := scan_standingAt content 0 ops
  rw [ofCodes_eq_standingAt, ho, offset_standingAt]

/-- No counted position lacks the column of a line feed. -/
theorem lacksLineEnd_standingAt (content : List Code) (o : Int) :
    (standingAt content o).lacksLineEnd = false := by
  apply Bool.eq_false_iff.mpr
  intro h
  simp only [lacksLineEnd, Bool.and_eq_true] at h
  obtain ⟨⟨hback, hfeed⟩, hempty⟩ := h
  have hoff := (isOnContent_iff.mp hback).1
  simp only [offset_shift, offset_standingAt] at hoff
  obtain ⟨n, rfl⟩ : ∃ n : Nat, o = (n + 1 : Nat) := ⟨(o - 1).toNat, by omega⟩
  have hc : content[n + 1]? = some Code.lineFeed := by
    simpa only [isOn, isAt, current?_standingAt, Option.any_eq_true, beq_iff_eq,
      exists_eq_right] using hfeed
  have hlt := lt_length_of_getElem? hc
  -- The line feed under the cursor is the latest opening, so its column is on top.
  simp only [standingAt, nearest_natCast hlt, lineEndsAt_succ_of_lineFeed hc] at hempty
  simp at hempty

/-- After any scan from the front the content is as it was, and line, column and kept columns are
counted from it up to the index nearest to the offset. So the state is a function of content and
offset, and of the moves that an operation makes from there no move back finds a kept column
missing. -/
theorem scan_state_counted (content : List Code) (ops : List Operation) :
    let b := (ofCodes content).scan ops
    let p := nearest content b.offset
    b.content = content.toArray ∧
      b.line = 1 + (lineOpenings content p).length ∧
      b.column = p - ((lineOpenings content p).getLastD 0 : Nat) ∧
      b.lineEnds.reverse = (lineOpenings content p).map (fun i => columnAt content (i - 1)) ∧
      b = standingAt content b.offset ∧
      1 ≤ b.line ∧ 0 ≤ b.column ∧
      (∀ op : Operation, (op.run b).2 = b.walk (op.moves b)) ∧
      ¬ ∃ (op : Operation) (w : List Move),
        w ++ [Move.back] <+: op.moves b ∧ (b.walk w).lacksLineEnd = true := by
  intro b p
  have hb : b = standingAt content b.offset := scan_ofCodes content ops
  have hline : b.line = lineAt content p := congrArg Buffer.line hb
  have hcolumn : b.column = columnAt content p := congrArg Buffer.column hb
  have hends : b.lineEnds = (lineEndsAt content p).reverse := congrArg Buffer.lineEnds hb
  refine ⟨congrArg Buffer.content hb, hline, hcolumn, ?_, hb, ?_, ?_, fun op => run_snd op b, ?_⟩
  · rw [hends, List.reverse_reverse, lineEndsAt]
  · rw [hline]
    exact one_le_lineAt content p
  · rw [hcolumn]
    exact columnAt_nonneg content p
  · -- Whatever word of moves came before, it led to a counted position.
    rintro ⟨op, w, -, hlacks⟩
    rw [hb, walk_standingAt, lacksLineEnd_standingAt] at hlacks
    exact Bool.false_ne_true hlacks

/-- A move back undoes a move forward from any state, and a move forward undoes a move back after
any scan. So two words of moves lead to the same state exactly when they have the same number of
moves forward less moves back. -/
theorem moves_cancel :
    (∀ b : Buffer, b.next.previous = b) ∧
      ∀ (content : List Code) (ops : List Operation),
        let b := (ofCodes content).scan ops
        b.previous.next = b ∧
          ∀ v w : List Move, b.walk v = b.walk w ↔
            (v.count .forward : Int) - v.count .back = w.count .forward - w.count .back := by
  refine ⟨previous_next, ?_⟩
  intro content ops b
  have hb : b = standingAt content b.offset := scan_ofCodes content ops
  constructor
  · rw [hb, previous_standingAt, next_standingAt, Int.sub_add_cancel]
  · intro v w
    rw [hb, walk_standingAt, walk_standingAt]
    change _ ↔ Move.displacement v = Move.displacement w
    constructor
    · -- Different displacements already differ in the offset.
      intro h
      have ho := congrArg Buffer.offset h
      simp only [offset_standingAt] at ho
      omega
    · intro h
      rw [h]

end Buffer

end TextWalk
