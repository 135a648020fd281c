import TextWalk.Normal.Decomposition

/-!
Canonical composition of a segment: a host takes up the characters after it that compose with it
and are not blocked by a mark in between. A character that can compose makes the starter right
before it the new host; characters that never compose leave the host where it is. After the first
vowel or trailing consonant of Hangul a segment only composes syllables.
-/
namespace TextWalk.Normal

def combinesBackward (c : Nat) : Bool := composites.any (·.2.2 == c)

def composite? (a b : Nat) : Option Nat :=
  -- The look-up sees no more than the low sixteen bits of each.
  (composites.find? fun entry =>
    entry.2.1 % 0x10000 == a % 0x10000 && entry.2.2 % 0x10000 == b % 0x10000).map (·.1)

/-- A segment that is being composed: its host, and the characters kept on either side of it, each
side with the latest first. -/
structure Composing where
  before : List Nat := []
  host : Nat
  after : List Nat := []
  /-- A vowel or trailing consonant of Hangul has been met. -/
  syllabic : Bool := false

namespace Composing

def toList (s : Composing) : List Nat := s.before.reverse ++ s.host :: s.after.reverse

def keep (s : Composing) (c : Nat) : Composing := { s with after := c :: s.after }

@[simp]
theorem toList_keep (s : Composing) (c : Nat) : (s.keep c).toList = s.toList ++ [c] := by
  simp [toList, keep]

def rehost (s : Composing) : Composing :=
  match s.after with
  | [] => s
  | last :: rest =>
    if combiningClass last = 0 then
      { s with before := rest ++ s.host :: s.before, host := last, after := [] }
    else s

/-- A new host changes no character. -/
@[simp]
theorem toList_rehost (s : Composing) : s.rehost.toList = s.toList := by
  unfold rehost
  split
  · rfl
  · split
    · simp [toList, *]
    · rfl

def blocks (s : Composing) (c : Nat) : Bool :=
  match s.after with
  | [] => false
  | last :: _ => combiningClass c ≤ combiningClass last

def compose? (s : Composing) (c : Nat) : Option Nat :=
  if s.blocks c then none
  else if s.syllabic then Hangul.compose? s.host c
  else composite? s.host c

def add (s : Composing) (c : Nat) : Composing :=
  let s := { s with syllabic := s.syllabic || Hangul.isVowel c || Hangul.isTrail c }
  if s.syllabic || combinesBackward c then
    let s := s.rehost
    match s.compose? c with
    | some composite => { s with host := composite }
    | none => s.keep c
  else s.keep c

end Composing

def compose : List Nat → List Nat
  | [] => []
  | c :: cs => (cs.foldl Composing.add { host := c }).toList

end TextWalk.Normal
