import TextWalk.Command.Name
import TextWalk.Text.Case

namespace TextWalk.Command

/-- The rest of the next row of edit distances: `left` is the entry just computed, and `row` the
row above from the entry above it on. -/
def nextEntries (a : UInt8) (left : Nat) : Bytes → List Nat → List Nat
  | b :: bs, diagonal :: above :: row =>
    let entry := if a = b then diagonal else 1 + min (min diagonal above) left
    entry :: nextEntries a entry bs (above :: row)
  | _, _ => []

def nextRow (target : Bytes) (row : List Nat) (a : UInt8) : List Nat :=
  let first := row.headD 0 + 1
  first :: nextEntries a first target row

def editDistance (source target : Bytes) : Nat :=
  (source.foldl (nextRow target) (List.range (target.length + 1))).getLastD 0

def folded (typed : Bytes) : Bytes := Utf8.encode (Text.lower (Utf8.decode typed))

def isSuggested (typed : Bytes) (n : Name) : Bool :=
  editDistance (folded typed) (Bytes.ascii n.text) ≤ 2 ||
    (folded typed).isPrefixOf (Bytes.ascii n.text)

def suggestions (typed : Bytes) : List Name :=
  -- Help is never suggested.
  [Name.find, .fields, .quoted, .completion].filter (isSuggested typed)

end TextWalk.Command
