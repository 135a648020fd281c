/-!
Character codes: the units a buffer walks over. A code may be any integer; writing one that is
no Unicode scalar value gives the replacement character.
-/
namespace TextWalk

abbrev Code := Int

namespace Code

def lineFeed : Code := 0x0A

def backslash : Code := 0x5C

def isBlank (c : Code) : Bool :=
  c == 0x20 || c == lineFeed || c == 0x0D || c == 0x09

def replacement : Char := '\uFFFD'

def ofChar (c : Char) : Code := (c.toNat : Int)

def toChar (c : Code) : Char :=
  if 0 ≤ c ∧ c.toNat.isValidChar then Char.ofNat c.toNat else replacement

def text (cs : List Code) : String :=
  String.ofList (cs.map toChar)

theorem isBlank_iff {c : Code} : c.isBlank = true ↔ c ∈ [0x20, 0x0A, 0x0D, 0x09] := by
  simp [isBlank, lineFeed, or_assoc]

theorem isBlank_eq_false_iff {c : Code} : c.isBlank = false ↔ c ∉ [0x20, 0x0A, 0x0D, 0x09] := by
  rw [← Bool.not_eq_true, isBlank_iff]

@[simp] theorem ofChar_nonneg (c : Char) : 0 ≤ ofChar c := Int.natCast_nonneg _

/-- A character survives the way through its code. -/
@[simp] theorem toChar_ofChar (c : Char) : toChar (ofChar c) = c := by
  have h : c.toNat.isValidChar := c.valid
  simp [toChar, ofChar, h, Char.ofNat_toNat]

/-- A number that is a scalar value is the code of its character. -/
theorem toNat_ofNat {n : Nat} (h : n.isValidChar) : (Char.ofNat n).toNat = n := by
  rw [Char.ofNat, dif_pos h]
  rfl

/-- A code that is a scalar value survives the way through its character. -/
theorem ofChar_toChar {c : Code} (h₀ : 0 ≤ c) (h : c.toNat.isValidChar) :
    ofChar (toChar c) = c := by
  rw [toChar, if_pos ⟨h₀, h⟩, ofChar, toNat_ofNat h, Int.toNat_of_nonneg h₀]

end Code

end TextWalk
