import TextWalk.Buffer.Basic

namespace TextWalk.Buffer

def skipWhile (p : Code → Bool) (b : Buffer) : Buffer :=
  match _h : b.current? with
  | some c => if p c then skipWhile p b.next else b
  | none => b
termination_by b.remaining
decreasing_by exact remaining_next_lt ‹_›

def skipUntil (occurrence : Code) (b : Buffer) : Bool × Buffer :=
  let reached := b.skipWhile (· != occurrence)
  (reached.isOnContent, reached)

def skipBlanks (b : Buffer) : Bool × Buffer :=
  let reached := b.skipWhile Code.isBlank
  (reached.isOnContent, reached)

/-- Past blanks up to a code, which may itself be a blank; tells whether the walk ended on it. -/
def skipBlanksUntil (occurrence : Code) (b : Buffer) : Bool × Buffer :=
  let reached := b.skipWhile fun c => c.isBlank && c != occurrence
  (reached.isOn occurrence, reached)

@[simp] theorem content_skipWhile (p : Code → Bool) (b : Buffer) :
    (b.skipWhile p).content = b.content := by
  fun_induction skipWhile p b <;> simp_all

/-- A skip never goes back. -/
theorem offset_le_skipWhile (p : Code → Bool) (b : Buffer) :
    b.offset ≤ (b.skipWhile p).offset := by
  fun_induction skipWhile p b with
  | case1 b c _ _ ih => simp only [offset_next] at ih; omega
  | case2 => exact Int.le_refl _
  | case3 => exact Int.le_refl _

theorem remaining_skipWhile_le (p : Code → Bool) (b : Buffer) :
    (b.skipWhile p).remaining ≤ b.remaining := by
  have := offset_le_skipWhile p b
  simp only [remaining, content_skipWhile]
  omega

end TextWalk.Buffer
