import Mathlib.Data.Int.Order.Basic
import Mathlib.Data.Prod.Lex
import Mathlib.Order.Monotone.Basic
import TextWalk.Proofs.Position

namespace TextWalk.Buffer

def placeAt (content : List Code) (p : Nat) : ℤ ×ₗ ℤ :=
  toLex (lineAt content p, columnAt content p)

theorem placeAt_lt_succ (content : List Code) (p : Nat) :
    placeAt content p < placeAt content (p + 1) := by
  apply Prod.Lex.toLex_lt_toLex.mpr
  by_cases h : content[p + 1]? = some Code.lineFeed
  · -- A line feed opens the next line, whatever becomes of the column.
    have hline := lineAt_succ_of_lineFeed h
    left
    simp only
    omega
  · have hline : lineAt content (p + 1) = lineAt content p := by
      simp only [lineAt, lineOpenings_succ_of_ne h]
    have hcolumn := columnAt_succ_of_ne h
    right
    simp only
    omega

/-- Line and column, compared line first, grow with the index. -/
theorem placeAt_lt_placeAt (content : List Code) {i j : Nat} (h : i < j) :
    placeAt content i < placeAt content j :=
  strictMono_nat_of_lt_succ (placeAt_lt_succ content) h

end TextWalk.Buffer
