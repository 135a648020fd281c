import TextWalk.Buffer.Read
import TextWalk.Buffer.Skip

namespace TextWalk

inductive Operation where
  | next
  | previous
  | current
  | currentText
  | isOnContent
  | isOnBlank
  | isOn (code : Code)
  | isOnAny (set : List Code)
  | cursor
  | size
  | text
  | readUntilBefore (occurrence : Code) (escaped : Bool)
  | readUntil (occurrence : Code) (escaped : Bool)
  | readUntilBeforeBlankOr (set : List Code)
  | readUntilBlankOr (set : List Code)
  | readUntilBlankOrEnd
  | skipBlanksUntil (occurrence : Code)
  | skipUntil (occurrence : Code)
  | skipBlanks
deriving DecidableEq, Repr

inductive Answer where
  | flag (value : Bool)
  | code (value : Code)
  | count (value : Nat)
  | text (value : String)
  | failure (error : CursorError)
deriving DecidableEq, Repr

namespace Answer

def ofRead (r : List Code × Buffer) : Answer × Buffer := (.text (Code.text r.1), r.2)

def ofSkip (r : Bool × Buffer) : Answer × Buffer := (.flag r.1, r.2)

def ofMove (b : Buffer) : Answer × Buffer := (.flag b.isOnContent, b)

def ofCurrent : Except CursorError Code → Answer
  | .ok c => .code c
  | .error e => .failure e

end Answer

def Operation.run (b : Buffer) : Operation → Answer × Buffer
  | next => Answer.ofMove b.next
  | previous => Answer.ofMove b.previous
  | current => (.ofCurrent b.current, b)
  | currentText => (.text b.currentText, b)
  | isOnContent => (.flag b.isOnContent, b)
  | isOnBlank => (.flag b.isOnBlank, b)
  | isOn c => (.flag (b.isOn c), b)
  | isOnAny set => (.flag (b.isOnAny set), b)
  | cursor => (.text b.cursor.text, b)
  | size => (.count b.size, b)
  | text => (.text b.text, b)
  | readUntilBefore c escaped => Answer.ofRead (b.readUntilBefore c escaped)
  | readUntil c escaped => Answer.ofRead (b.readUntil c escaped)
  | readUntilBeforeBlankOr set => Answer.ofRead (b.readUntilBeforeBlankOr set)
  | readUntilBlankOr set => Answer.ofRead (b.readUntilBlankOr set)
  | readUntilBlankOrEnd => Answer.ofRead b.readUntilBlankOrEnd
  | skipBlanksUntil c => Answer.ofSkip (b.skipBlanksUntil c)
  | skipUntil c => Answer.ofSkip (b.skipUntil c)
  | skipBlanks => Answer.ofSkip b.skipBlanks

def Buffer.scan (b : Buffer) (ops : List Operation) : Buffer :=
  ops.foldl (fun b op => (op.run b).2) b

end TextWalk
