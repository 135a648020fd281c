import TextWalk.Buffer.Operation
import TextWalk.Proofs.Position

/-!
Walks by checked indices. Here every operation is spelled out in the order of its tests, moves and
lookups, and a lookup out of range ends the whole operation. Main statement: from any state no
operation meets one, so that asking for the current code is all that can fail.
-/
namespace TextWalk.Indexed

def item? {α : Type} (xs : List α) (i : Int) : Option α :=
  if 0 ≤ i then xs[i.toNat]? else none

def itemsBelow? {α : Type} (xs : List α) (i : Int) : Option (List α) :=
  if 0 ≤ i ∧ i ≤ xs.length then some (xs.take i.toNat) else none

def code (b : Buffer) : Option Code := item? b.content.toList b.offset

-- The test that stands before a lookup is on numbers alone.
def onContent (b : Buffer) : Bool := decide (0 ≤ b.offset) && decide (b.offset < b.size)

def ifOnContent {α : Type} (f : Code → α) (off : α) (b : Buffer) : Option α := do
  if onContent b then
    return f (← code b)
  else
    return off

def current (b : Buffer) : Option (Except CursorError Code) :=
  ifOnContent .ok (.error { offset := b.offset }) b

def currentText (b : Buffer) : Option String :=
  ifOnContent (fun c => Code.text [c]) Buffer.endOfBuffer b

def isAt (p : Code → Bool) (b : Buffer) : Option Bool := ifOnContent p false b

def retreat (c : Code) (b : Buffer) : Option Buffer := do
  if c = Code.lineFeed then
    -- Columns are kept oldest first here, so that the one to return to has the last index.
    let ends := b.lineEnds.reverse
    let n : Int := ends.length
    if 0 < n then
      let column ← item? ends (n - 1)
      let rest ← itemsBelow? ends (n - 1)
      return { b with line := b.line - 1, column := column, lineEnds := rest.reverse }
    else
      return { b with line := b.line - 1 }
  else
    return { b with column := b.column - 1 }

def next (b : Buffer) : Option (Bool × Buffer) := do
  let moved := b.shift 1
  if onContent moved then
    if 0 ≤ b.offset then
      return (true, moved.advance (← item? b.content.toList moved.offset))
    else
      return (true, moved)
  else
    return (false, moved)

def previous (b : Buffer) : Option (Bool × Buffer) := do
  let moved := b.shift (-1)
  if onContent moved then
    -- The code that is left stands at the offset of the start, of which only one bound is tested.
    if b.offset < b.size then
      return (true, ← retreat (← item? b.content.toList b.offset) moved)
    else
      return (true, moved)
  else
    return (false, moved)

def lookBehind (b : Buffer) : Option (Bool × Buffer) := do
  let (onto, back) ← previous b
  let escaped ← if onto then do pure ((← code back) == Code.backslash) else pure false
  let (_, again) ← next back
  return (escaped, again)

section Lookup

variable {b : Buffer} {c : Code}

theorem item?_eq_none_iff {α : Type} (xs : List α) (i : Int) :
    item? xs i = none ↔ ¬ (0 ≤ i ∧ i < xs.length) := by
  by_cases h : 0 ≤ i
  · simp only [item?, h, ↓reduceIte, List.getElem?_eq_none_iff, true_and]
    omega
  · simp only [item?, h, ↓reduceIte, false_and, not_false_eq_true]

/-- Looking up the current code goes out of range exactly off content. -/
theorem code_eq_none_iff (b : Buffer) :
    code b = none ↔ ¬ (0 ≤ b.offset ∧ b.offset < b.size) :=
  item?_eq_none_iff b.content.toList b.offset

theorem code_eq (b : Buffer) : code b = b.current? := by
  simp only [code, item?, Buffer.current?, Array.getElem?_toList]

theorem onContent_eq (b : Buffer) : onContent b = b.isOnContent := by
  apply Bool.eq_iff_iff.mpr
  rw [Buffer.isOnContent_iff, onContent, Bool.and_eq_true, decide_eq_true_iff, decide_eq_true_iff]
  rfl

theorem onContent_of_some (h : b.current? = some c) : onContent b = true := by
  rw [onContent_eq, Buffer.isOnContent, h, Option.isSome_some]

theorem onContent_of_none (h : b.current? = none) : onContent b = false := by
  rw [onContent_eq, Buffer.isOnContent, h, Option.isSome_none]

theorem ifOnContent_eq {α : Type} (f : Code → α) (off : α) (b : Buffer) :
    ifOnContent f off b = some (b.current?.elim off f) := by
  cases h : b.current? with
  | none => simp [ifOnContent, onContent_of_none h]
  | some c => simp [ifOnContent, onContent_of_some h, code_eq, h]

theorem current_eq (b : Buffer) : current b = some b.current := by
  rw [current, ifOnContent_eq, Buffer.current]
  cases b.current? <;> rfl

theorem currentText_eq (b : Buffer) : currentText b = some b.currentText := by
  rw [currentText, ifOnContent_eq, Buffer.currentText]
  cases b.current? <;> rfl

theorem isAt_eq (p : Code → Bool) (b : Buffer) : isAt p b = some (b.isAt p) := by
  rw [isAt, ifOnContent_eq, Buffer.isAt]
  cases b.current? <;> rfl

end Lookup

section Move

theorem retreat_eq (c : Code) (b : Buffer) : retreat c b = some (b.retreat c) := by
  by_cases hc : c = Code.lineFeed
  case neg => simp [retreat, Buffer.retreat, hc]
  cases h : b.lineEnds with
  | nil => simp [retreat, Buffer.retreat, hc, h]
  | cons column rest =>
    have hitem : item? (rest.reverse ++ [column]) rest.length = some column := by
      simp [item?]
    have hbelow : itemsBelow? (rest.reverse ++ [column]) rest.length = some rest.reverse := by
      have hle : (rest.length : Int) ≤ rest.length + 1 := by omega
      simp [itemsBelow?, hle]
    simp [retreat, Buffer.retreat, hc, h, hitem, hbelow]

/-- A move forward looks up no code that is not there. -/
theorem next_eq (b : Buffer) : next b = some (b.next.isOnContent, b.next) := by
  rw [Buffer.isOnContent, Buffer.current?_next, next, Buffer.next]
  cases h : (b.shift 1).current? with
  | none => simp [onContent_of_none h]
  | some c =>
    have hlook : item? b.content.toList (b.shift 1).offset = some c :=
      (code_eq (b.shift 1)).trans h
    by_cases ho : 0 ≤ b.offset
    · simp only [onContent_of_some h, ho, ↓reduceIte, hlook]
      rfl
    · simp [onContent_of_some h, ho]

/-- Nor does a move back, which looks up a kept column besides. -/
theorem previous_eq (b : Buffer) : previous b = some (b.previous.isOnContent, b.previous) := by
  rw [Buffer.isOnContent, Buffer.current?_previous, previous, Buffer.previous, Buffer.isOnContent]
  cases h : (b.shift (-1)).current? with
  | none => simp [onContent_of_none h]
  | some d =>
    have hbounds := Buffer.offset_lt_of_current? h
    simp only [Buffer.offset_shift] at hbounds
    by_cases ho : b.offset < b.size
    · -- The move ended at zero or above, so the start is not below zero either.
      have hon : b.isOnContent = true := Buffer.isOnContent_iff.mpr ⟨by omega, ho⟩
      obtain ⟨c, hc⟩ := Option.isSome_iff_exists.mp hon
      have hlook : item? b.content.toList b.offset = some c := (code_eq b).trans hc
      simp only [onContent_of_some h, ho, hc, ↓reduceIte, hlook, Option.isSome_some]
      rw [Option.bind_eq_bind, Option.bind_some, retreat_eq]
      rfl
    · have hoff : b.current? = none := by
        rw [← code_eq, code_eq_none_iff]
        omega
      simp [onContent_of_some h, ho, hoff]

theorem lookBehind_eq (b : Buffer) : lookBehind b = some b.lookBehind := by
  rw [lookBehind, previous_eq]
  simp only [Option.bind_eq_bind, Option.bind_some, next_eq, code_eq, Buffer.lookBehind,
    Buffer.isOn, Buffer.isAt, Buffer.isOnContent]
  cases b.previous.current? <;> rfl

/-- A move forward that ends on content brings the end nearer. -/
theorem remaining_lt_of_next {b moved : Buffer} (h : next b = some (true, moved)) :
    moved.remaining < b.remaining := by
  rw [next_eq, Option.some_inj, Prod.mk.injEq] at h
  obtain ⟨hon, rfl⟩ := h
  have hbounds := Buffer.isOnContent_iff.mp hon
  simp only [Buffer.remaining, Buffer.content_next, Buffer.offset_next] at *
  omega

end Move

/-- A test with the moves it takes, which bring the end nearer whenever it tells to go on. -/
structure Step where
  run : Buffer → Option (Bool × Buffer)
  remaining_lt : ∀ {b moved : Buffer}, run b = some (true, moved) → moved.remaining < b.remaining

def collect (s : Step) (b : Buffer) : Option (List Code × Buffer) :=
  match _h : s.run b with
  | none => none
  | some (false, moved) => some ([], moved)
  | some (true, moved) => do
    let c ← code moved
    let (cs, reached) ← collect s moved
    return (c :: cs, reached)
termination_by b.remaining
decreasing_by exact s.remaining_lt ‹_›

def read (s : Step) (b : Buffer) : Option (List Code × Buffer) := do
  if onContent b then
    let c ← code b
    let (cs, reached) ← collect s b
    return (c :: cs, reached)
  else
    return ([], b)

section Collect

variable {s : Step} {c : Code} {b moved : Buffer}

theorem collect_of_stop (h : s.run b = some (false, moved)) : collect s b = some ([], moved) := by
  rw [collect]
  split <;> simp_all

theorem collect_of_go (h : s.run b = some (true, moved)) (hc : moved.current? = some c) :
    collect s b = (collect s moved).map fun r => (c :: r.1, r.2) := by
  rw [collect]
  split
  · simp_all
  · simp_all
  next reached hreached =>
    obtain rfl : moved = reached := by simp_all
    simp only [Option.bind_eq_bind, code_eq, hc, Option.bind_some]
    cases collect s moved <;> rfl

theorem read_of_none (h : b.current? = none) : read s b = some ([], b) := by
  simp [read, onContent_of_none h]

theorem read_of_some (h : b.current? = some c) :
    read s b = (collect s b).map fun r => (c :: r.1, r.2) := by
  simp only [read, onContent_of_some h, ↓reduceIte, code_eq, h, Option.bind_eq_bind,
    Option.bind_some]
  cases collect s b <;> rfl

end Collect

section Delimited

variable {occurrence c : Code} {escaped : Bool} {b moved : Buffer}

def delimitedTest (occurrence : Code) (escaped : Bool) (b : Buffer) : Option (Bool × Buffer) := do
  let (onto, b) ← next b
  if onto then
    if (← code b) != occurrence then
      return (true, b)
    else if !escaped then
      return (false, b)
    else
      lookBehind b
  else
    return (false, b)

theorem delimitedTest_of_none (h : b.next.current? = none) :
    delimitedTest occurrence escaped b = some (false, b.next) := by
  simp [delimitedTest, next_eq, Buffer.isOnContent, h]

theorem delimitedTest_of_some (h : b.next.current? = some c) :
    delimitedTest occurrence escaped b =
      if c != occurrence then some (true, b.next)
      else if !escaped then some (false, b.next)
      else some b.next.lookBehind := by
  simp [delimitedTest, next_eq, Buffer.isOnContent, code_eq, h, lookBehind_eq]

theorem remaining_lt_of_delimitedTest
    (h : delimitedTest occurrence escaped b = some (true, moved)) :
    moved.remaining < b.remaining := by
  cases hc : b.next.current? with
  | none =>
    rw [delimitedTest_of_none hc] at h
    simp at h
  | some c =>
    have hlt : b.next.remaining < b.remaining :=
      remaining_lt_of_next (by rw [next_eq, Buffer.isOnContent, hc, Option.isSome_some])
    -- However the test goes on, it stands where the move forward led.
    have hsame : moved.remaining = b.next.remaining := by
      rw [delimitedTest_of_some hc] at h
      split at h
      · cases h
        rfl
      · split at h
        · cases h
        · have hmoved : b.next.lookBehind.2 = moved := congrArg Prod.snd (Option.some.inj h)
          rw [← hmoved]
          simp only [Buffer.remaining, Buffer.content_lookBehind, Buffer.offset_lookBehind]
    rwa [hsame]

def delimitedStep (occurrence : Code) (escaped : Bool) : Step where
  run := delimitedTest occurrence escaped
  remaining_lt := remaining_lt_of_delimitedTest

/-- The loop of a delimited read executes, and gathers what the read takes. -/
theorem collect_delimitedStep (occurrence : Code) (escaped : Bool) (b : Buffer) :
    collect (delimitedStep occurrence escaped) b = some (b.takeDelimited occurrence escaped) := by
  fun_induction Buffer.takeDelimited occurrence escaped b with
  | case1 b h => exact collect_of_stop (delimitedTest_of_none h)
  | case2 b c h hne cs reached hr ih =>
    have hstep : (delimitedStep occurrence escaped).run b = some (true, b.next) :=
      (delimitedTest_of_some h).trans (if_pos hne)
    rw [collect_of_go hstep h, ih, hr]
    rfl
  | case3 b c h hne hesc =>
    apply collect_of_stop
    change delimitedTest occurrence escaped b = _
    rw [delimitedTest_of_some h, if_neg hne, if_pos hesc]
  | case4 b c h hne hesc hback cs reached hr ih =>
    -- The look behind returns to the occurrence, which is then kept as an ordinary code.
    have hstep : (delimitedStep occurrence escaped).run b = some (true, b.next.lookBehind.2) := by
      change delimitedTest occurrence escaped b = _
      rw [delimitedTest_of_some h, if_neg hne, if_neg hesc, ← hback]
    have hagain : b.next.lookBehind.2.current? = some c := by
      rw [← h]
      exact Buffer.current?_congr (Buffer.content_lookBehind _) (Buffer.offset_lookBehind _)
    rw [collect_of_go hstep hagain, ih, hr]
    rfl
  | case5 b c h hne hesc hback =>
    apply collect_of_stop
    change delimitedTest occurrence escaped b = _
    rw [delimitedTest_of_some h, if_neg hne, if_neg hesc, ← Bool.eq_false_iff.mpr hback]

theorem read_delimitedStep (occurrence : Code) (escaped : Bool) (b : Buffer) :
    read (delimitedStep occurrence escaped) b = some (b.readUntilBefore occurrence escaped) := by
  cases h : b.current? with
  | none => simp only [read_of_none h, Buffer.readUntilBefore, h]
  | some c =>
    rw [read_of_some h, collect_delimitedStep]
    simp only [Buffer.readUntilBefore, h, Option.map_some]

def readUntil (occurrence : Code) (escaped : Bool) (b : Buffer) : Option (List Code × Buffer) := do
  let (cs, reached) ← read (delimitedStep occurrence escaped) b
  if onContent b && onContent reached then
    return (cs ++ [← code reached], reached)
  else
    return (cs, reached)

theorem readUntil_eq (occurrence : Code) (escaped : Bool) (b : Buffer) :
    readUntil occurrence escaped b = some (b.readUntil occurrence escaped) := by
  rw [readUntil, read_delimitedStep]
  cases h : b.current? with
  | none => simp [onContent_of_none h, Buffer.readUntil, Buffer.readUntilBefore, h]
  | some c =>
    cases hr : (b.readUntilBefore occurrence escaped).2.current? with
    | none => simp [onContent_of_some h, onContent_of_none hr, Buffer.readUntil, h, hr]
    | some d => simp [onContent_of_some h, onContent_of_some hr, code_eq, Buffer.readUntil, h, hr]

end Delimited

section Blank

variable {stops : Buffer → Option Bool} {stop : Code → Bool}

def beforeStep (stops : Buffer → Option Bool) : Step where
  run b := do
    let (onto, b) ← next b
    if onto then
      return (!(← stops b), b)
    else
      return (false, b)
  remaining_lt := by
    intro b moved h
    apply remaining_lt_of_next
    rw [next_eq] at h ⊢
    cases hon : b.next.isOnContent with
    | false => simp [hon] at h
    | true =>
      cases hstops : stops b.next with
      | none => simp [hon, hstops] at h
      | some stopped => simp_all

def throughStep (stops : Buffer → Option Bool) : Step where
  run b := do
    if ← stops b then
      return (false, b)
    else
      next b
  remaining_lt := by
    intro b moved h
    apply remaining_lt_of_next
    cases hstops : stops b with
    | none => simp [hstops] at h
    | some stopped => cases stopped <;> simp_all

def isAtStop (set : List Code) (b : Buffer) : Option Bool := do
  if ← isAt Code.isBlank b then
    return true
  else
    isAt set.contains b

theorem isAtStop_eq (set : List Code) (b : Buffer) :
    isAtStop set b = some (b.isAt (Buffer.isStop set)) := by
  rw [isAtStop, isAt_eq, isAt_eq, Buffer.isAt, Buffer.isAt, Buffer.isAt]
  cases b.current? with
  | none => rfl
  | some c => cases h : c.isBlank <;> simp [Buffer.isStop, h]

/-- The loop of a read that excludes its stop executes. -/
theorem collect_beforeStep (hstops : ∀ b, stops b = some (b.isAt stop)) (b : Buffer) :
    collect (beforeStep stops) b = some (b.next.takeWhile fun c => !stop c) := by
  rw [Buffer.takeWhile]
  split
  next c h =>
    have hstep : (beforeStep stops).run b = some (!stop c, b.next) := by
      simp [beforeStep, next_eq, Buffer.isOnContent, hstops, Buffer.isAt, h]
    cases hc : stop c with
    | true =>
      rw [hc] at hstep
      exact collect_of_stop hstep
    | false =>
      rw [hc] at hstep
      rw [collect_of_go hstep h, collect_beforeStep hstops b.next]
      rfl
  next h =>
    apply collect_of_stop
    simp [beforeStep, next_eq, Buffer.isOnContent, h]
termination_by b.next.remaining
decreasing_by exact Buffer.remaining_next_lt ‹_›

theorem read_beforeStep (set : List Code) (b : Buffer) :
    read (beforeStep (isAtStop set)) b = some (b.readUntilBeforeBlankOr set) := by
  cases h : b.current? with
  | none => simp only [read_of_none h, Buffer.readUntilBeforeBlankOr, h]
  | some c =>
    rw [read_of_some h, collect_beforeStep (isAtStop_eq set)]
    simp only [Buffer.readUntilBeforeBlankOr, h, Option.map_some]

/-- A read that includes its stop executes, and reads what the total one does. -/
theorem read_throughStep (hstops : ∀ b, stops b = some (b.isAt stop)) (b : Buffer) :
    read (throughStep stops) b = some (b.takeThrough stop) := by
  fun_induction Buffer.takeThrough stop b with
  | case1 b c h hc =>
    have hstep : (throughStep stops).run b = some (false, b) := by
      simp [throughStep, hstops, Buffer.isAt, h, hc]
    rw [read_of_some h, collect_of_stop hstep]
    rfl
  | case2 b c h hc cs reached hr ih =>
    have hstep : (throughStep stops).run b = some (b.next.isOnContent, b.next) := by
      simp [throughStep, hstops, Buffer.isAt, h, hc, next_eq]
    -- Beyond the first code the loop reads on exactly as a read that starts there.
    have hrest : collect (throughStep stops) b = read (throughStep stops) b.next := by
      cases hn : b.next.current? with
      | none =>
        rw [Buffer.isOnContent, hn] at hstep
        rw [collect_of_stop hstep, read_of_none hn]
      | some d =>
        rw [Buffer.isOnContent, hn] at hstep
        rw [collect_of_go hstep hn, read_of_some hn]
    rw [read_of_some h, hrest, ih, hr]
    rfl
  | case3 b h => exact read_of_none h

end Blank

section Skip

variable {guard : Buffer → Option Bool} {p : Code → Bool}

def skip (guard : Buffer → Option Bool) (b : Buffer) : Option Buffer := do
  if ← guard b then
    match _h : next b with
    | none => none
    | some (false, moved) => return moved
    | some (true, moved) => skip guard moved
  else
    return b
termination_by b.remaining
decreasing_by exact remaining_lt_of_next ‹_›

theorem skip_of_stop {b : Buffer} (h : guard b = some false) : skip guard b = some b := by
  rw [skip, h]
  rfl

theorem skip_of_go {b : Buffer} (h : guard b = some true) :
    skip guard b = if b.next.isOnContent then skip guard b.next else some b.next := by
  have hmove := next_eq b
  rw [skip, h]
  simp only [Option.bind_eq_bind, Option.bind_some, ↓reduceIte]
  split <;> simp_all

/-- A skip executes, and ends where the total one does. -/
theorem skip_eq (hguard : ∀ b, guard b = some (b.isAt p)) (b : Buffer) :
    skip guard b = some (b.skipWhile p) := by
  have hhere (b : Buffer) {c : Code} (h : b.current? = some c) : guard b = some (p c) := by
    rw [hguard, Buffer.isAt, h, Option.any_some]
  fun_induction Buffer.skipWhile p b with
  | case1 b c h hc ih =>
    rw [skip_of_go ((hhere b h).trans (congrArg some hc))]
    split
    · exact ih
    next hoff =>
      -- The move left the content, where the walk stands still.
      rw [Buffer.skipWhile]
      split <;> simp_all [Buffer.isOnContent]
  | case2 b c h hc =>
    apply skip_of_stop
    rw [hhere b h, Bool.eq_false_iff.mpr hc]
  | case3 b h =>
    apply skip_of_stop
    rw [hguard, Buffer.isAt, h, Option.any_none]

def isAtOtherBlank (occurrence : Code) (b : Buffer) : Option Bool := do
  if ← isAt Code.isBlank b then
    return (← code b) != occurrence
  else
    return false

theorem isAtOtherBlank_eq (occurrence : Code) (b : Buffer) :
    isAtOtherBlank occurrence b = some (b.isAt fun c => c.isBlank && c != occurrence) := by
  rw [isAtOtherBlank, isAt_eq, code_eq, Buffer.isAt, Buffer.isAt]
  cases b.current? with
  | none => rfl
  | some c => cases h : c.isBlank <;> simp [h]

end Skip

def run (b : Buffer) : Operation → Option (Answer × Buffer)
  | .next => do
    let (onto, b) ← next b
    return (.flag onto, b)
  | .previous => do
    let (onto, b) ← previous b
    return (.flag onto, b)
  | .current => return (.ofCurrent (← current b), b)
  | .currentText => return (.text (← currentText b), b)
  | .isOnContent => return (.flag (onContent b), b)
  | .isOnBlank => return (.flag (← isAt Code.isBlank b), b)
  | .isOn c => return (.flag (← isAt (· == c) b), b)
  | .isOnAny set => return (.flag (← isAt set.contains b), b)
  | .cursor => return (.text b.cursor.text, b)
  | .size => return (.count b.size, b)
  | .text => return (.text b.text, b)
  | .readUntilBefore c escaped => return Answer.ofRead (← read (delimitedStep c escaped) b)
  | .readUntil c escaped => return Answer.ofRead (← readUntil c escaped b)
  | .readUntilBeforeBlankOr set => return Answer.ofRead (← read (beforeStep (isAtStop set)) b)
  | .readUntilBlankOr set => return Answer.ofRead (← read (throughStep (isAtStop set)) b)
  | .readUntilBlankOrEnd => return Answer.ofRead (← read (throughStep (isAt Code.isBlank)) b)
  | .skipBlanksUntil c => do
    let reached ← skip (isAtOtherBlank c) b
    return (.flag (← isAt (· == c) reached), reached)
  | .skipUntil c => do
    let reached ← skip (isAt (· != c)) b
    return (.flag (onContent reached), reached)
  | .skipBlanks => do
    let reached ← skip (isAt Code.isBlank) b
    return (.flag (onContent reached), reached)

/-- With every index checked, an operation still gives its answer and the walk it leaves. -/
theorem run_eq (b : Buffer) (op : Operation) : run b op = some (op.run b) := by
  cases op with
  | next => simp [run, next_eq, Operation.run, Answer.ofMove]
  | previous => simp [run, previous_eq, Operation.run, Answer.ofMove]
  | current => simp [run, current_eq, Operation.run]
  | currentText => simp [run, currentText_eq, Operation.run]
  | isOnContent => simp [run, onContent_eq, Operation.run]
  | isOnBlank => simp [run, isAt_eq, Operation.run, Buffer.isOnBlank]
  | isOn c => simp [run, isAt_eq, Operation.run, Buffer.isOn]
  | isOnAny set => simp [run, isAt_eq, Operation.run, Buffer.isOnAny]
  | cursor => rfl
  | size => rfl
  | text => rfl
  | readUntilBefore c escaped => simp [run, read_delimitedStep, Operation.run]
  | readUntil c escaped => simp [run, readUntil_eq, Operation.run]
  | readUntilBeforeBlankOr set => simp [run, read_beforeStep, Operation.run]
  | readUntilBlankOr set =>
    simp [run, read_throughStep (isAtStop_eq set), Operation.run, Buffer.readUntilBlankOr]
  | readUntilBlankOrEnd =>
    simp [run, read_throughStep (isAt_eq Code.isBlank), Operation.run, Buffer.readUntilBlankOrEnd]
  | skipBlanksUntil c =>
    simp [run, skip_eq (isAtOtherBlank_eq c), isAt_eq, Operation.run, Answer.ofSkip,
      Buffer.skipBlanksUntil, Buffer.isOn]
  | skipUntil c =>
    simp [run, skip_eq (isAt_eq (· != c)), onContent_eq, Operation.run, Answer.ofSkip,
      Buffer.skipUntil]
  | skipBlanks =>
    simp [run, skip_eq (isAt_eq Code.isBlank), onContent_eq, Operation.run, Answer.ofSkip,
      Buffer.skipBlanks]

end TextWalk.Indexed

namespace TextWalk.Operation

/-- Asking for the current code fails exactly off content, with the offset in the error. -/
theorem current_run_eq_failure_iff (b : Buffer) (e : CursorError) :
    (current.run b).1 = .failure e ↔
      ¬ (0 ≤ b.offset ∧ b.offset < b.size) ∧
        e = { offset := b.offset, fault := .invalidPosition } := by
  have hoff := Indexed.code_eq_none_iff b
  rw [Indexed.code_eq] at hoff
  rw [← hoff]
  cases h : b.current? with
  | none => simp [run, Answer.ofCurrent, Buffer.current, h, eq_comm]
  | some c => simp [run, Answer.ofCurrent, Buffer.current, h]

/-- No other operation answers with a failure. -/
theorem run_fst_ne_failure {op : Operation} (h : op ≠ .current) (b : Buffer) (e : CursorError) :
    (op.run b).1 ≠ .failure e := by
  cases op
  case current => exact absurd rfl h
  all_goals exact Answer.noConfusion

/-- From any state whatever, no operation looks up the content or the kept columns out of range:
run with every index checked, where one lookup out of range would leave it without a result, it has
the result of the plain run. Such lookups do fail, that of the current code off content among them.
There asking for the current code, alone of all operations, answers with an error that carries the
offset, and the state is as it was. -/
theorem only_current_fails (b : Buffer) (op : Operation) :
    Indexed.run b op = some (op.run b) ∧
      (Indexed.code b = none ↔ ¬ (0 ≤ b.offset ∧ b.offset < b.size)) ∧
      (∀ (columns : List Int) (i : Int),
        Indexed.item? columns i = none ↔ ¬ (0 ≤ i ∧ i < columns.length)) ∧
      (∀ e : CursorError, (op.run b).1 = .failure e ↔
        op = .current ∧ ¬ (0 ≤ b.offset ∧ b.offset < b.size) ∧
          e = { offset := b.offset, fault := .invalidPosition }) ∧
      (current.run b).2 = b := by
  refine ⟨Indexed.run_eq b op, Indexed.code_eq_none_iff b, Indexed.item?_eq_none_iff, ?_, rfl⟩
  intro e
  by_cases h : op = .current
  · rw [h, current_run_eq_failure_iff, eq_self, true_and]
  · constructor
    · intro hfail
      exact absurd hfail (run_fst_ne_failure h b e)
    · intro hcurrent
      exact absurd hcurrent.1 h

end TextWalk.Operation
