import TextWalk.Buffer.Read
import TextWalk.Buffer.Skip

namespace TextWalk.Scan

open Buffer

structure Stretch where
  start : Cursor
  codes : List Code
deriving DecidableEq, Repr

structure QuotedRun extends Stretch where
  closed : Bool
deriving DecidableEq, Repr

def occurrences (c : Code) (b : Buffer) : List Cursor :=
  match _h : b.skipUntil c with
  | (true, found) => found.cursor :: occurrences c found.next
  | (false, _) => []
termination_by b.remaining
decreasing_by
  have h₁ := remaining_skipWhile_le (· != c) b
  simp only [skipUntil, Prod.mk.injEq] at _h
  obtain ⟨d, hd⟩ := Option.isSome_iff_exists.mp _h.1
  rw [_h.2] at h₁ hd
  have h₂ := remaining_next_lt hd
  omega

def fields (separators : List Code) (b : Buffer) : List Stretch :=
  match _h : b.skipBlanks with
  | (true, found) =>
    -- A separator in front of a field is passed over as a blank is.
    if found.isOnAny separators then fields separators found.next
    else
      { start := found.cursor, codes := (found.readUntilBeforeBlankOr separators).1 } ::
        fields separators (found.readUntilBeforeBlankOr separators).2
  | (false, _) => []
termination_by b.remaining
decreasing_by
  all_goals
    have h₁ := remaining_skipWhile_le Code.isBlank b
    simp only [skipBlanks, Prod.mk.injEq] at _h
    obtain ⟨d, hd⟩ := Option.isSome_iff_exists.mp _h.1
    rw [_h.2] at h₁ hd
  · have h₂ := remaining_next_lt hd
    omega
  · have h₂ := remaining_readUntilBeforeBlankOr_lt separators (Option.isSome_of_eq_some hd)
    omega

/-- The quoted runs from here on, quotes included. With `escaped` a quote after a backslash does
not close a run. The last run may lack its closing quote. -/
def quotedRuns (quote : Code) (escaped : Bool) (b : Buffer) : List QuotedRun :=
  match _h : b.skipUntil quote with
  | (true, found) =>
    -- The closing quote is left behind, or it would open the next run.
    { start := found.cursor, codes := (found.readUntil quote escaped).1,
      closed := (found.readUntil quote escaped).2.isOnContent } ::
      quotedRuns quote escaped (found.readUntil quote escaped).2.next
  | (false, _) => []
termination_by b.remaining
decreasing_by
  have h₁ := remaining_skipWhile_le (· != quote) b
  simp only [skipUntil, Prod.mk.injEq] at _h
  obtain ⟨d, hd⟩ := Option.isSome_iff_exists.mp _h.1
  rw [_h.2] at h₁ hd
  have h₂ := remaining_readUntil_lt quote escaped (Option.isSome_of_eq_some hd)
  have h₃ : ∀ b : Buffer, b.next.remaining ≤ b.remaining := by
    intro b
    simp only [remaining, content_next, offset_next]
    omega
  have h₄ := h₃ (found.readUntil quote escaped).2
  omega

end TextWalk.Scan
