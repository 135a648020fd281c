import TextWalk.Normal.Composition
import TextWalk.Normal.Data.Spelling

/-!
Segments: a character and the extenders after it, the parts of a text that are brought to normal
form one by one. A segment is ended with a joiner after thirty extenders, so that none is longer.
-/
namespace TextWalk.Normal

def joiner : Nat := 0x034F

def longestRun : Nat := 30

def isExtender (c : Nat) : Bool :=
  combiningClass c != 0 || combinesBackward c || Hangul.isVowel c || Hangul.isTrail c

def leadingExtenders (c : Nat) : Nat :=
  if soleExtenders.any fun r => r.1 ≤ c && c ≤ r.2 then 1
  else ((decomposeCode c).takeWhile isExtender).length

def spelledCount (c : Nat) : Nat :=
  ((spelledExtenders.find? fun entry => entry.2.any fun r => r.1 ≤ c && c ≤ r.2).map (·.1)).getD 0

def trailingExtenders (c : Nat) : Nat :=
  let backward := (decomposeCode c).reverse
  -- The base before them may itself be spelled with extenders.
  (backward.takeWhile isExtender).length +
    match backward.dropWhile isExtender with
    | base :: _ => spelledCount base
    | [] => 0

/-- Cuts a text into what belongs to the open segment, which ends in `run` extenders, and the
segments after it. -/
def cut (run : Nat) : List Nat → List Nat × List (List Nat)
  | [] => ([], [])
  | c :: cs =>
    let extenders := leadingExtenders c
    -- A character that starts with none opens a segment.
    if extenders = 0 then
      let (own, rest) := cut (trailingExtenders c) cs
      ([], (c :: own) :: rest)
    -- The run is full, and a joiner ends it.
    else if longestRun < run + extenders then
      let (own, rest) := cut extenders cs
      ([joiner], (c :: own) :: rest)
    else
      let (own, rest) := cut (run + extenders) cs
      (c :: own, rest)

def segments (cs : List Nat) : List (List Nat) :=
  let (own, rest) := cut 0 cs
  -- The first segment holds the extenders that a text starts with, mostly none.
  own :: rest

end TextWalk.Normal
