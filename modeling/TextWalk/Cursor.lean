namespace TextWalk

/-- A snapshot of a scan: index into the content, line counted from one, column from zero. The
offset may lie outside the content. -/
structure Cursor where
  offset : Int
  line : Int
  column : Int
deriving DecidableEq, Repr

namespace Cursor

def text (c : Cursor) : String :=
  "[offset=" ++ toString c.offset ++ ";line=" ++ toString c.line ++
    ";column=" ++ toString c.column ++ "]"

def position (c : Cursor) : String :=
  toString c.line ++ ":" ++ toString c.column

end Cursor

inductive CursorFault where
  | invalidPosition
  | other (wording : String)
deriving DecidableEq, Repr

namespace CursorFault

def message : CursorFault → String
  | invalidPosition => "the cursor is in an invalid position"
  | other wording => wording

def isInvalidPosition : CursorFault → Bool
  | invalidPosition => true
  -- Whatever its wording, another fault has another cause.
  | other _ => false

end CursorFault

structure CursorError where
  offset : Int
  fault : CursorFault := .invalidPosition
deriving DecidableEq, Repr

def CursorError.message (e : CursorError) : String :=
  "scanbuf: " ++ e.fault.message ++ " (offset " ++ toString e.offset ++ ")"

end TextWalk
