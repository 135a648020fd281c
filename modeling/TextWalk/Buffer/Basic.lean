import TextWalk.Code
import TextWalk.Cursor

/-!
Buffers: content with a cursor that moves one character at a time. A line feed is column zero of
the line it opens. Moves beyond either end change the offset alone, so that stepping back finds
the line and column as they were.
-/
namespace TextWalk

/-- Content and the state of a walk over it. `lineEnds` holds, latest first, the column from which
each line feed was reached. -/
structure Buffer where
  content : Array Code
  offset : Int
  line : Int
  column : Int
  lineEnds : List Int
deriving DecidableEq, Repr

namespace Buffer

def ofCodes (content : List Code) : Buffer :=
  { content := content.toArray, offset := 0, line := 1, column := 0, lineEnds := [] }

def ofChars (cs : List Char) : Buffer :=
  ofCodes (cs.map Code.ofChar)

def empty : Buffer :=
  -- Without content there is no line yet.
  { content := #[], offset := 0, line := 0, column := 0, lineEnds := [] }

def size (b : Buffer) : Nat := b.content.size

def text (b : Buffer) : String := Code.text b.content.toList

def cursor (b : Buffer) : Cursor :=
  { offset := b.offset, line := b.line, column := b.column }

def current? (b : Buffer) : Option Code :=
  if 0 ≤ b.offset then b.content[b.offset.toNat]? else none

def isOnContent (b : Buffer) : Bool := b.current?.isSome

def current (b : Buffer) : Except CursorError Code :=
  match b.current? with
  | some c => .ok c
  | none => .error { offset := b.offset }

def endOfBuffer : String := "END OF BUFFER"

def currentText (b : Buffer) : String :=
  match b.current? with
  | some c => Code.text [c]
  | none => endOfBuffer

def isAt (p : Code → Bool) (b : Buffer) : Bool := b.current?.any p

def isOn (c : Code) (b : Buffer) : Bool := b.isAt (· == c)

def isOnAny (cs : List Code) (b : Buffer) : Bool := b.isAt cs.contains

def isOnBlank (b : Buffer) : Bool := b.isAt Code.isBlank

def advance (c : Code) (b : Buffer) : Buffer :=
  if c = Code.lineFeed then
    { b with line := b.line + 1, column := 0, lineEnds := b.column :: b.lineEnds }
  else { b with column := b.column + 1 }

def retreat (c : Code) (b : Buffer) : Buffer :=
  if c = Code.lineFeed then
    match b.lineEnds with
    | column :: rest => { b with line := b.line - 1, column := column, lineEnds := rest }
    -- No scan comes here: every line feed it has passed has left its column.
    | [] => { b with line := b.line - 1 }
  else { b with column := b.column - 1 }

def shift (d : Int) (b : Buffer) : Buffer := { b with offset := b.offset + d }

/-- One character forward. Line and column follow only when the move ends on content and does not
start before it. -/
def next (b : Buffer) : Buffer :=
  match (b.shift 1).current? with
  | some c => if 0 ≤ b.offset then (b.shift 1).advance c else b.shift 1
  | none => b.shift 1

/-- One character backward. Line and column are rolled back only when the move ends on content and
does not start past it. -/
def previous (b : Buffer) : Buffer :=
  if (b.shift (-1)).isOnContent then
    match b.current? with
    | some c => (b.shift (-1)).retreat c
    | none => b.shift (-1)
  else b.shift (-1)

def remaining (b : Buffer) : Nat := ((b.content.size : Int) - b.offset).toNat

@[simp] theorem content_shift (d : Int) (b : Buffer) : (b.shift d).content = b.content := rfl

@[simp] theorem offset_shift (d : Int) (b : Buffer) : (b.shift d).offset = b.offset + d := rfl

@[simp] theorem content_advance (c : Code) (b : Buffer) :
    (b.advance c).content = b.content := by
  unfold advance; split <;> rfl

@[simp] theorem offset_advance (c : Code) (b : Buffer) :
    (b.advance c).offset = b.offset := by
  unfold advance; split <;> rfl

@[simp] theorem content_retreat (c : Code) (b : Buffer) :
    (b.retreat c).content = b.content := by
  unfold retreat; repeat' split
  all_goals rfl

@[simp] theorem offset_retreat (c : Code) (b : Buffer) :
    (b.retreat c).offset = b.offset := by
  unfold retreat; repeat' split
  all_goals rfl

/-- A forward move keeps the content. -/
@[simp] theorem content_next (b : Buffer) : b.next.content = b.content := by
  unfold next; repeat' split
  all_goals simp

/-- A forward move adds one to the offset, wherever it starts. -/
@[simp] theorem offset_next (b : Buffer) : b.next.offset = b.offset + 1 := by
  unfold next; repeat' split
  all_goals simp

/-- A backward move keeps the content. -/
@[simp] theorem content_previous (b : Buffer) : b.previous.content = b.content := by
  unfold previous; repeat' split
  all_goals simp

/-- A backward move takes one from the offset, wherever it starts. -/
@[simp] theorem offset_previous (b : Buffer) : b.previous.offset = b.offset - 1 := by
  unfold previous; repeat' split
  all_goals simp only [offset_shift, offset_retreat]; omega

/-- On content the offset lies within the content. -/
theorem offset_lt_of_current? {b : Buffer} {c : Code} (h : b.current? = some c) :
    0 ≤ b.offset ∧ b.offset < b.content.size := by
  unfold current? at h
  split at h
  · obtain ⟨hi, _⟩ := Array.getElem?_eq_some_iff.mp h
    omega
  · simp at h

/-- A forward move from content brings the end nearer. -/
theorem remaining_next_lt {b : Buffer} {c : Code} (h : b.current? = some c) :
    b.next.remaining < b.remaining := by
  have := offset_lt_of_current? h
  simp only [remaining, content_next, offset_next]
  omega

end Buffer

end TextWalk
