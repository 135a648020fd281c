import TextWalk.Buffer.Basic

/-!
Positions by formula. The line, the column and the kept columns of a walk are counted from its
content and its offset alone. Main statements: a move forward and a move back undo each other, and
both go from one counted position to the next one, on content and off it.
-/
namespace TextWalk.Buffer

/-- The indices up to `p` at which a line feed opens a line, in increasing order. A line feed at the
very front opens none. -/
def lineOpenings (content : List Code) (p : Nat) : List Nat :=
  (List.range (p + 1)).filter fun i => 1 ≤ i ∧ content[i]? = some Code.lineFeed

/-- The line of an index: one more than the line feeds up to it. -/
def lineAt (content : List Code) (p : Nat) : Int := 1 + (lineOpenings content p).length

/-- The column of an index: its distance from the latest line feed, or from the front. -/
def columnAt (content : List Code) (p : Nat) : Int := p - ((lineOpenings content p).getLastD 0 : Nat)

def lineEndsAt (content : List Code) (p : Nat) : List Int :=
  (lineOpenings content p).map fun i => columnAt content (i - 1)

def nearest (content : List Code) (o : Int) : Nat := min o.toNat (content.length - 1)

/-- The walk over a content that stands at an offset, with everything else counted. -/
def standingAt (content : List Code) (o : Int) : Buffer :=
  { content := content.toArray
    offset := o
    line := lineAt content (nearest content o)
    column := columnAt content (nearest content o)
    lineEnds := (lineEndsAt content (nearest content o)).reverse }

@[simp] theorem content_standingAt (content : List Code) (o : Int) :
    (standingAt content o).content = content.toArray := rfl

@[simp] theorem offset_standingAt (content : List Code) (o : Int) :
    (standingAt content o).offset = o := rfl

theorem lt_length_of_getElem? {content : List Code} {i : Nat} {c : Code}
    (h : content[i]? = some c) : i < content.length :=
  (List.getElem?_eq_some_iff.mp h).1

/-- Every line feed behind the front opens a line, and nothing else does. -/
theorem mem_lineOpenings {content : List Code} {p i : Nat} :
    i ∈ lineOpenings content p ↔ 1 ≤ i ∧ i ≤ p ∧ content[i]? = some Code.lineFeed := by
  simp only [lineOpenings, List.mem_filter, List.mem_range, decide_eq_true_eq]
  constructor
  · rintro ⟨hp, h1, hc⟩
    exact ⟨h1, by omega, hc⟩
  · rintro ⟨h1, hp, hc⟩
    exact ⟨by omega, h1, hc⟩

@[simp] theorem lineOpenings_zero (content : List Code) : lineOpenings content 0 = [] := by
  simp [lineOpenings]

/-- The next index opens a line or adds nothing. -/
theorem lineOpenings_succ (content : List Code) (p : Nat) :
    lineOpenings content (p + 1) = lineOpenings content p ++
      if content[p + 1]? = some Code.lineFeed then [p + 1] else [] := by
  unfold lineOpenings
  rw [List.range_succ, List.filter_append]
  congr 1
  split <;> simp_all

theorem getLastD_lineOpenings_le (content : List Code) (p : Nat) :
    (lineOpenings content p).getLastD 0 ≤ p := by
  rw [List.getLastD_eq_getLast?]
  cases h : (lineOpenings content p).getLast? with
  | none => exact Nat.zero_le p
  | some i => exact (mem_lineOpenings.mp (List.mem_of_getLast? h)).2.1

theorem one_le_lineAt (content : List Code) (p : Nat) : 1 ≤ lineAt content p := by
  unfold lineAt
  omega

theorem columnAt_nonneg (content : List Code) (p : Nat) : 0 ≤ columnAt content p := by
  have := getLastD_lineOpenings_le content p
  unfold columnAt
  omega

section Succ

variable {content : List Code} {p : Nat}

theorem lineAt_succ_of_lineFeed (h : content[p + 1]? = some Code.lineFeed) :
    lineAt content (p + 1) = lineAt content p + 1 := by
  simp only [lineAt, lineOpenings_succ, h, ↓reduceIte, List.length_append, List.length_singleton]
  omega

theorem columnAt_succ_of_lineFeed (h : content[p + 1]? = some Code.lineFeed) :
    columnAt content (p + 1) = 0 := by
  simp [columnAt, lineOpenings_succ, h]

theorem lineEndsAt_succ_of_lineFeed (h : content[p + 1]? = some Code.lineFeed) :
    lineEndsAt content (p + 1) = lineEndsAt content p ++ [columnAt content p] := by
  simp [lineEndsAt, lineOpenings_succ, h]

theorem lineOpenings_succ_of_ne (h : content[p + 1]? ≠ some Code.lineFeed) :
    lineOpenings content (p + 1) = lineOpenings content p := by
  simp [lineOpenings_succ, h]

theorem columnAt_succ_of_ne (h : content[p + 1]? ≠ some Code.lineFeed) :
    columnAt content (p + 1) = columnAt content p + 1 := by
  simp only [columnAt, lineOpenings_succ_of_ne h]
  omega

end Succ

theorem nearest_natCast {content : List Code} {n : Nat} (h : n < content.length) :
    nearest content n = n := by
  unfold nearest
  omega

/-- A walk that stands at an index sees the code there. -/
theorem current?_standingAt (content : List Code) (n : Nat) :
    (standingAt content n).current? = content[n]? := by
  simp [current?, standingAt]

theorem isOnContent_standingAt (content : List Code) (n : Nat) :
    (standingAt content n).isOnContent = true ↔ n < content.length := by
  rw [isOnContent, current?_standingAt, isSome_getElem?]

theorem isOnContent_standingAt_of_le {content : List Code} {n : Nat} (h : content.length ≤ n) :
    (standingAt content n).isOnContent = false := by
  apply Bool.eq_false_iff.mpr
  rw [Ne, isOnContent_standingAt]
  omega

theorem cursor_standingAt {content : List Code} {n : Nat} (h : n < content.length) :
    (standingAt content n).cursor =
      { offset := n, line := lineAt content n, column := columnAt content n } := by
  simp only [cursor, standingAt, nearest_natCast h]

/-- A fresh walk stands at the front. -/
theorem ofCodes_eq_standingAt (content : List Code) : ofCodes content = standingAt content 0 := by
  simp [ofCodes, standingAt, nearest, lineAt, columnAt, lineEndsAt]

/-- The account of arriving on a code is the one counted at its index. -/
theorem advance_standingAt {content : List Code} {n : Nat} {c : Code}
    (h : content[n + 1]? = some c) :
    ((standingAt content n).shift 1).advance c = standingAt content ((n : Int) + 1) := by
  have hn : n + 1 < content.length := lt_length_of_getElem? h
  have h₀ : nearest content n = n := nearest_natCast (by omega)
  have h₁ : nearest content ((n : Int) + 1) = n + 1 := nearest_natCast hn
  -- A line feed adds an opening and empties the column; any other code adds to the column only.
  by_cases hc : c = Code.lineFeed
  · rw [hc] at h
    simp only [advance, hc, ↓reduceIte, standingAt, shift, h₀, h₁, lineAt_succ_of_lineFeed h,
      columnAt_succ_of_lineFeed h, lineEndsAt_succ_of_lineFeed h, List.reverse_append,
      List.reverse_singleton, List.singleton_append]
  · have hf : content[n + 1]? ≠ some Code.lineFeed := by simp [h, hc]
    simp only [advance, hc, ↓reduceIte, standingAt, shift, h₀, h₁, lineAt, lineEndsAt,
      lineOpenings_succ_of_ne hf, columnAt_succ_of_ne hf]

theorem shift_standingAt {content : List Code} {o : Int}
    (h : nearest content (o + 1) = nearest content o) :
    (standingAt content o).shift 1 = standingAt content (o + 1) := by
  simp only [standingAt, shift, h]

/-- A move forward leads to the next position, wherever it starts. -/
@[simp] theorem next_standingAt (content : List Code) (o : Int) :
    (standingAt content o).next = standingAt content (o + 1) := by
  -- Only a move that both starts and ends on content has something to count.
  by_cases ho : 0 ≤ o
  · obtain ⟨n, rfl⟩ := Int.eq_ofNat_of_zero_le ho
    have hcur : ((standingAt content n).shift 1).current? = content[n + 1]? := by
      simpa [current?, shift, standingAt] using current?_standingAt content (n + 1)
    unfold next
    rw [hcur]
    cases h : content[n + 1]? with
    | none =>
      -- The move leaves the content, where every offset has the same nearest index.
      have hlen := List.getElem?_eq_none_iff.mp h
      exact shift_standingAt (by unfold nearest; omega)
    | some c => simpa only [offset_standingAt, ho, ↓reduceIte] using advance_standingAt h
  · have hn : nearest content (o + 1) = nearest content o := by unfold nearest; omega
    have hneg : ¬ 0 ≤ (standingAt content o).offset := by simpa using ho
    unfold next
    simp only [hneg, ↓reduceIte, shift_standingAt hn]
    split <;> rfl

/-- Leaving a code undoes the account of arriving on it. -/
theorem retreat_advance (c : Code) (b : Buffer) :
    ((b.advance c).shift (-1)).retreat c = b.shift (-1) := by
  by_cases hc : c = Code.lineFeed
  · simp [advance, retreat, shift, hc]
  · simp [advance, retreat, shift, hc]

theorem shift_shift (b : Buffer) (d e : Int) : (b.shift d).shift e = b.shift (d + e) := by
  simp [shift, Int.add_assoc]

@[simp] theorem shift_zero (b : Buffer) : b.shift 0 = b := by
  simp [shift]

theorem current?_advance (c : Code) (b : Buffer) : (b.advance c).current? = b.current? := by
  simp [current?]

/-- Which code is current depends on content and offset alone. -/
theorem current?_congr {a b : Buffer} (hcontent : a.content = b.content)
    (hoffset : a.offset = b.offset) : a.current? = b.current? := by
  simp only [current?, hcontent, hoffset]

theorem current?_next (b : Buffer) : b.next.current? = (b.shift 1).current? :=
  current?_congr (content_next b) (offset_next b)

theorem current?_previous (b : Buffer) : b.previous.current? = (b.shift (-1)).current? :=
  current?_congr (content_previous b) (offset_previous b)

/-- The cursor is on content exactly if its offset is within range. -/
theorem isOnContent_iff {b : Buffer} :
    b.isOnContent = true ↔ 0 ≤ b.offset ∧ b.offset < b.content.size := by
  constructor
  · intro h
    obtain ⟨c, hc⟩ := Option.isSome_iff_exists.mp h
    exact offset_lt_of_current? hc
  · rintro ⟨h₀, h₁⟩
    have hlt : b.offset.toNat < b.content.size := by omega
    simp [isOnContent, current?, h₀, hlt]

/-- A move back undoes a move forward from any state at all. -/
theorem previous_next (b : Buffer) : b.next.previous = b := by
  have hback : (b.shift 1).shift (-1) = b := by simp [shift_shift]
  unfold next
  cases hc : (b.shift 1).current? with
  | none =>
    simp only [previous, hc, hback, ite_self]
  | some c =>
    have hpos := offset_lt_of_current? hc
    simp only [offset_shift, content_shift] at hpos
    by_cases ho : 0 ≤ b.offset
    · have hon : (((b.shift 1).advance c).shift (-1)).isOnContent = true := by
        rw [isOnContent_iff]
        simp only [offset_shift, content_shift, offset_advance, content_advance]
        omega
      simp only [ho, ↓reduceIte, previous, hon, current?_advance, hc, retreat_advance, hback]
    · -- The move started before the front, so the way back leaves content again.
      have hoff : ¬ b.isOnContent = true := by
        rw [isOnContent_iff]
        omega
      simp only [ho, ↓reduceIte, previous, hback, hoff, Bool.false_eq_true]

/-- A move back leads to the position before, wherever it starts. -/
@[simp] theorem previous_standingAt (content : List Code) (o : Int) :
    (standingAt content o).previous = standingAt content (o - 1) := by
  -- Every position is one that a move forward leads to, so a move back undoes that move.
  have h := previous_next (standingAt content (o - 1))
  rwa [next_standingAt, Int.sub_add_cancel] at h

end TextWalk.Buffer
