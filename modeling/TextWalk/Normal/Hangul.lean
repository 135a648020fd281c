namespace TextWalk.Normal.Hangul

def syllableBase : Nat := 0xAC00

def leadBase : Nat := 0x1100

def vowelBase : Nat := 0x1161

-- The place before the first trailing consonant: a syllable may end without one.
def trailBase : Nat := 0x11A7

def leadCount : Nat := 19

def vowelCount : Nat := 21

def trailCount : Nat := 28

def isLead (c : Nat) : Bool := leadBase ≤ c && c < leadBase + leadCount

def isVowel (c : Nat) : Bool := vowelBase ≤ c && c < vowelBase + vowelCount

def isTrail (c : Nat) : Bool := trailBase < c && c < trailBase + trailCount

def isSyllable (c : Nat) : Bool :=
  syllableBase ≤ c && c < syllableBase + leadCount * vowelCount * trailCount

section Ranges

variable {c : Nat}

theorem isLead_iff : isLead c = true ↔ 0x1100 ≤ c ∧ c ≤ 0x1112 := by
  rw [isLead, Bool.and_eq_true, decide_eq_true_eq, decide_eq_true_eq, leadBase, leadCount]
  omega

theorem isVowel_iff : isVowel c = true ↔ 0x1161 ≤ c ∧ c ≤ 0x1175 := by
  rw [isVowel, Bool.and_eq_true, decide_eq_true_eq, decide_eq_true_eq, vowelBase, vowelCount]
  omega

theorem isTrail_iff : isTrail c = true ↔ 0x11A8 ≤ c ∧ c ≤ 0x11C2 := by
  rw [isTrail, Bool.and_eq_true, decide_eq_true_eq, decide_eq_true_eq, trailBase, trailCount]
  omega

theorem isSyllable_iff : isSyllable c = true ↔ 0xAC00 ≤ c ∧ c ≤ 0xD7A3 := by
  rw [isSyllable, Bool.and_eq_true, decide_eq_true_eq, decide_eq_true_eq, syllableBase, leadCount,
    vowelCount, trailCount]
  omega

end Ranges

def decompose (c : Nat) : List Nat :=
  let n := c - syllableBase
  let pair := [leadBase + n / (vowelCount * trailCount),
    vowelBase + n % (vowelCount * trailCount) / trailCount]
  if n % trailCount = 0 then pair else pair ++ [trailBase + n % trailCount]

def compose? (a b : Nat) : Option Nat :=
  if isLead a && isVowel b then
    some (syllableBase +
      ((a - leadBase) * vowelCount + (b - vowelBase)) * trailCount)
  else if isSyllable a && (a - syllableBase) % trailCount == 0 && isTrail b then
    some (a + (b - trailBase))
  else none

end TextWalk.Normal.Hangul
