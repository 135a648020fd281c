import TextWalk.Normal.Data.Class
import TextWalk.Normal.Data.Composite
import TextWalk.Normal.Data.Replacement
import TextWalk.Normal.Hangul

namespace TextWalk.Normal

def combiningClass (c : Nat) : Nat :=
  ((classes.find? fun entry => entry.2.any fun r => r.1 ≤ c && c ≤ r.2).map (·.1)).getD 0

def ideograph? (c : Nat) : Option Nat :=
  ideographRuns.findSome? fun run => if run.1 ≤ c then run.2[c - run.1]? else none

def parts? (c : Nat) : Option (List Nat) :=
  match composites.find? (·.1 == c) with
  | some entry => some [entry.2.1, entry.2.2]
  | none =>
    match replacements.find? (·.1 == c) with
    | some entry => some entry.2
    | none => (ideograph? c).map ([·])

def expand : Nat → Nat → List Nat
  | 0, c => [c]
  | steps + 1, c =>
    match parts? c with
    -- Only the first part can have parts again.
    | some (first :: rest) => expand steps first ++ rest
    | _ => [c]

def depth : Nat := 3

def decomposeCode (c : Nat) : List Nat :=
  if Hangul.isSyllable c then Hangul.decompose c else expand depth c

def decompose (cs : List Nat) : List Nat := cs.flatMap decomposeCode

/-- Puts a character in front of an ordered text: it moves right past marks of lower class. -/
def insertMark (c : Nat) : List Nat → List Nat
  | [] => [c]
  | d :: ds =>
    if 0 < combiningClass d ∧ combiningClass d < combiningClass c then d :: insertMark c ds
    else c :: d :: ds

def order (cs : List Nat) : List Nat := cs.foldr insertMark []

/-- Ordering keeps every character. -/
theorem insertMark_perm (c : Nat) (cs : List Nat) : (insertMark c cs).Perm (c :: cs) := by
  induction cs with
  | nil => exact List.Perm.refl _
  | cons d ds ih =>
    simp only [insertMark]
    split
    · exact (List.Perm.cons d ih).trans (List.Perm.swap c d ds)
    · exact List.Perm.refl _

theorem order_perm (cs : List Nat) : (order cs).Perm cs := by
  induction cs with
  | nil => exact List.Perm.refl _
  | cons c cs ih => exact (insertMark_perm c (order cs)).trans (List.Perm.cons c ih)

end TextWalk.Normal
