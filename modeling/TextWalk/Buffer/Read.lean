import TextWalk.Buffer.Basic

namespace TextWalk.Buffer

def takeWhile (p : Code → Bool) (b : Buffer) : List Code × Buffer :=
  match _h : b.current? with
  | some c =>
    if p c then
      let (cs, reached) := takeWhile p b.next
      (c :: cs, reached)
    else ([], b)
  | none => ([], b)
termination_by b.remaining
decreasing_by exact remaining_next_lt ‹_›

def takeThrough (stop : Code → Bool) (b : Buffer) : List Code × Buffer :=
  match _h : b.current? with
  | some c =>
    if stop c then ([c], b)
    else
      let (cs, reached) := takeThrough stop b.next
      (c :: cs, reached)
  | none => ([], b)
termination_by b.remaining
decreasing_by exact remaining_next_lt ‹_›

def lookBehind (b : Buffer) : Bool × Buffer :=
  -- A walk looks at the code before it by going there and coming back.
  (b.previous.isOn Code.backslash, b.previous.next)

@[simp] theorem content_lookBehind (b : Buffer) : b.lookBehind.2.content = b.content := by
  simp [lookBehind]

@[simp] theorem offset_lookBehind (b : Buffer) : b.lookBehind.2.offset = b.offset := by
  simp [lookBehind]

/-- The codes after the cursor up to the next occurrence, and the walk that stands on it. With
`escaped` an occurrence right after a backslash is passed over. -/
def takeDelimited (occurrence : Code) (escaped : Bool) (b : Buffer) : List Code × Buffer :=
  match _h : b.next.current? with
  | none => ([], b.next)
  | some c =>
    if c != occurrence then
      let (cs, reached) := takeDelimited occurrence escaped b.next
      (c :: cs, reached)
    else if !escaped then ([], b.next)
    else if b.next.lookBehind.1 then
      let (cs, reached) := takeDelimited occurrence escaped b.next.lookBehind.2
      (c :: cs, reached)
    else ([], b.next.lookBehind.2)
termination_by b.remaining
decreasing_by
  all_goals
    have := offset_lt_of_current? ‹b.next.current? = some _›
    simp only [remaining, content_next, offset_next, content_lookBehind, offset_lookBehind] at *
    omega

/-- From the current code, which is always taken, up to the next occurrence. -/
def readUntilBefore (occurrence : Code) (escaped : Bool) (b : Buffer) : List Code × Buffer :=
  match b.current? with
  | none => ([], b)
  | some c =>
    let (cs, reached) := b.takeDelimited occurrence escaped
    (c :: cs, reached)

def readUntil (occurrence : Code) (escaped : Bool) (b : Buffer) : List Code × Buffer :=
  match b.current? with
  | none => ([], b)
  | some _ =>
    let (cs, reached) := b.readUntilBefore occurrence escaped
    (cs ++ reached.current?.toList, reached)

def isStop (set : List Code) (c : Code) : Bool := c.isBlank || set.contains c

def readUntilBeforeBlankOr (set : List Code) (b : Buffer) : List Code × Buffer :=
  match b.current? with
  | none => ([], b)
  | some c =>
    let (cs, reached) := b.next.takeWhile fun d => !isStop set d
    (c :: cs, reached)

def readUntilBlankOr (set : List Code) (b : Buffer) : List Code × Buffer :=
  b.takeThrough (isStop set)

def readUntilBlankOrEnd (b : Buffer) : List Code × Buffer :=
  b.takeThrough Code.isBlank

@[simp] theorem content_takeWhile (p : Code → Bool) (b : Buffer) :
    (b.takeWhile p).2.content = b.content := by
  fun_induction takeWhile p b <;> simp_all

/-- A read never goes back. -/
theorem offset_le_takeWhile (p : Code → Bool) (b : Buffer) :
    b.offset ≤ (b.takeWhile p).2.offset := by
  fun_induction takeWhile p b with
  | case1 b c _ _ cs reached hr ih =>
    simp only [hr, offset_next] at ih ⊢
    omega
  | case2 => exact Int.le_refl _
  | case3 => exact Int.le_refl _

@[simp] theorem content_takeDelimited (occurrence : Code) (escaped : Bool) (b : Buffer) :
    (b.takeDelimited occurrence escaped).2.content = b.content := by
  fun_induction takeDelimited occurrence escaped b <;> simp_all

/-- A delimited read moves at least one character forward. -/
theorem offset_lt_takeDelimited (occurrence : Code) (escaped : Bool) (b : Buffer) :
    b.offset < (b.takeDelimited occurrence escaped).2.offset := by
  fun_induction takeDelimited occurrence escaped b <;> simp_all <;> omega

/-- From content, a read up to a blank gets ahead. -/
theorem remaining_readUntilBeforeBlankOr_lt {b : Buffer} (set : List Code)
    (h : b.isOnContent = true) :
    (b.readUntilBeforeBlankOr set).2.remaining < b.remaining := by
  obtain ⟨c, hc⟩ := Option.isSome_iff_exists.mp h
  have h₁ := offset_lt_of_current? hc
  have h₂ := offset_le_takeWhile (fun d => !isStop set d) b.next
  simp only [readUntilBeforeBlankOr, hc, remaining, content_takeWhile, content_next,
    offset_next] at *
  omega

/-- From content, a read through a delimiter gets ahead. -/
theorem remaining_readUntil_lt {b : Buffer} (occurrence : Code) (escaped : Bool)
    (h : b.isOnContent = true) :
    (b.readUntil occurrence escaped).2.remaining < b.remaining := by
  obtain ⟨c, hc⟩ := Option.isSome_iff_exists.mp h
  have h₁ := offset_lt_of_current? hc
  have h₂ := offset_lt_takeDelimited occurrence escaped b
  simp only [readUntil, readUntilBefore, hc, remaining, content_takeDelimited] at *
  omega

end TextWalk.Buffer
