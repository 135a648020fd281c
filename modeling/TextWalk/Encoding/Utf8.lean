import TextWalk.Bytes
import TextWalk.Code

/-!
UTF-8. A lead byte announces how many continuation bytes follow and the range of the first of
them, which rules out overlong forms, surrogates and codes past the last plane. Reading is total:
`decode` writes one replacement character for each byte outside a valid sequence, and
`decodeMaximal` one for each longest beginning of a sequence that breaks off.
-/
namespace TextWalk.Utf8

/-- What a lead byte announces: its own share of the code, the number of continuation bytes and
the range of the first one. -/
structure Lead where
  share : Nat
  more : Nat
  low : Nat
  high : Nat
deriving DecidableEq, Repr

def lead? (b : UInt8) : Option Lead :=
  let n := b.toNat
  if n < 0x80 then some ⟨n, 0, 0x80, 0xBF⟩
  else if n < 0xC2 then none
  else if n < 0xE0 then some ⟨n - 0xC0, 1, 0x80, 0xBF⟩
  else if n < 0xF0 then
    some ⟨n - 0xE0, 2, if n = 0xE0 then 0xA0 else 0x80, if n = 0xED then 0x9F else 0xBF⟩
  else if n < 0xF5 then
    some ⟨n - 0xF0, 3, if n = 0xF0 then 0x90 else 0x80, if n = 0xF4 then 0x8F else 0xBF⟩
  else none

def follow (share : Nat) : Nat → Nat → Nat → Bytes → Option Char × Bytes
  | 0, _, _, rest => (some (Char.ofNat share), rest)
  | _ + 1, _, _, [] => (none, [])
  | more + 1, low, high, b :: rest =>
    if low ≤ b.toNat ∧ b.toNat ≤ high then
      follow (share * 64 + (b.toNat - 0x80)) more 0x80 0xBF rest
    -- The byte that does not fit is left for the next sequence.
    else (none, b :: rest)

def step (b : UInt8) (rest : Bytes) : Option Char × Bytes :=
  match lead? b with
  | some l => follow l.share l.more l.low l.high rest
  | none => (none, rest)

theorem length_follow_le (share more low high : Nat) (rest : Bytes) :
    (follow share more low high rest).2.length ≤ rest.length := by
  induction more generalizing share low high rest with
  | zero => simp [follow]
  | succ more ih =>
    cases rest with
    | nil => simp [follow]
    | cons b rest =>
      simp only [follow]
      split
      · have := ih (share * 64 + (b.toNat - 0x80)) 0x80 0xBF rest
        simp only [List.length_cons]
        omega
      · simp

/-- What follows a sequence is no longer than what follows its lead byte. -/
theorem length_step_le (b : UInt8) (rest : Bytes) : (step b rest).2.length ≤ rest.length := by
  unfold step
  split
  · exact length_follow_le _ _ _ _ _
  · exact Nat.le_refl _

/-- The text of a byte string, with a replacement character for each byte that is part of no
valid sequence. -/
def decode : Bytes → List Char
  | [] => []
  | b :: rest =>
    match _h : step b rest with
    | (some c, after) => c :: decode after
    | (none, _) => Code.replacement :: decode rest
termination_by bs => bs.length
decreasing_by
  · have := length_step_le b rest
    simp only [_h, List.length_cons] at *
    omega
  · simp

/-- The text of a byte string, with one replacement character for each longest beginning of a
sequence that breaks off. -/
def decodeMaximal : Bytes → List Char
  | [] => []
  | b :: rest =>
    match _h : step b rest with
    | (some c, after) => c :: decodeMaximal after
    | (none, after) => Code.replacement :: decodeMaximal after
termination_by bs => bs.length
decreasing_by
  all_goals
    have := length_step_le b rest
    simp only [_h, List.length_cons] at *
    omega

def isValid : Bytes → Bool
  | [] => true
  | b :: rest =>
    match _h : step b rest with
    | (some _, after) => isValid after
    | (none, _) => false
termination_by bs => bs.length
decreasing_by
  have := length_step_le b rest
  simp only [_h, List.length_cons] at *
  omega

def tail (n : Nat) : UInt8 := UInt8.ofNat (0x80 + n % 64)

def encodeChar (c : Char) : Bytes :=
  let n := c.toNat
  if n < 0x80 then [UInt8.ofNat n]
  else if n < 0x800 then [UInt8.ofNat (0xC0 + n / 64), tail n]
  else if n < 0x10000 then [UInt8.ofNat (0xE0 + n / 4096), tail (n / 64), tail n]
  else [UInt8.ofNat (0xF0 + n / 262144), tail (n / 4096), tail (n / 64), tail n]

def encode (cs : List Char) : Bytes := cs.flatMap encodeChar

end TextWalk.Utf8
