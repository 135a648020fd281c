import Mathlib.Order.Bounds.Basic
import TextWalk.Proofs.Walk

namespace TextWalk.Buffer

def firstIndex (stop : Nat → Bool) (size n : Nat) : Nat :=
  if n < size then if stop n then n else firstIndex stop size (n + 1) else n
termination_by size - n

/-- The codes of a content from one index up to another. -/
def slice (content : List Code) (i j : Nat) : List Code := (content.drop i).take (j - i)

def passesAt (content : List Code) (p : Code → Bool) (i : Nat) : Bool := content[i]?.any p

/-- The code at an index ends a delimited read: it is the occurrence and, with `escaped`, no
backslash stands right before it. -/
def endsAt (content : List Code) (occurrence : Code) (escaped : Bool) (i : Nat) : Bool :=
  content[i]? == some occurrence && !(escaped && content[i - 1]? == some Code.backslash)

def firstPassing (content : List Code) (p : Code → Bool) (n : Nat) : Nat :=
  firstIndex (passesAt content p) content.length n

def firstEnding (content : List Code) (occurrence : Code) (escaped : Bool) (n : Nat) : Nat :=
  firstIndex (endsAt content occurrence escaped) content.length n

section FirstIndex

variable {stop : Nat → Bool} {P : Nat → Prop} {size n i : Nat}

theorem le_firstIndex (stop : Nat → Bool) (size n : Nat) : n ≤ firstIndex stop size n := by
  fun_induction firstIndex stop size n with
  | case1 n hn hs => exact Nat.le_refl n
  | case2 n hn hs ih => omega
  | case3 n hn => exact Nat.le_refl n

theorem firstIndex_le (h : n ≤ size) : firstIndex stop size n ≤ size := by
  fun_induction firstIndex stop size n with
  | case1 n hn hs => exact h
  | case2 n hn hs ih => exact ih hn
  | case3 n hn => exact h

/-- If the search ends before the end, it has found what it looks for. -/
theorem stop_firstIndex (h : firstIndex stop size n < size) :
    stop (firstIndex stop size n) = true := by
  fun_induction firstIndex stop size n with
  | case1 n hn hs => exact hs
  | case2 n hn hs ih => exact ih h
  | case3 n hn => exact absurd h hn

/-- The search passes over nothing it looks for. -/
theorem stop_eq_false_of_lt_firstIndex (hn : n ≤ i) (hi : i < firstIndex stop size n) :
    stop i = false := by
  fun_induction firstIndex stop size n with
  | case1 n _ hs => omega
  | case2 n _ hs ih =>
    by_cases h : n = i
    · rw [← h]
      exact Bool.eq_false_iff.mpr hs
    · exact ih (by omega) hi
  | case3 n _ => omega

/-- The first index within bounds that passes a test is the least that passes it. -/
theorem isLeast_firstIndex (hP : ∀ i, stop i = true ↔ P i) (h : firstIndex stop size n < size) :
    IsLeast {i | n ≤ i ∧ P i} (firstIndex stop size n) := by
  refine ⟨⟨le_firstIndex stop size n, (hP _).mp (stop_firstIndex h)⟩, ?_⟩
  rintro i ⟨hn, hi⟩
  by_contra hlt
  have hstop := stop_eq_false_of_lt_firstIndex hn (Nat.lt_of_not_le hlt)
  rw [(hP i).mpr hi] at hstop
  exact Bool.noConfusion hstop

/-- Without such an index, nothing passes a test that only indices within bounds can pass. -/
theorem not_of_size_le_firstIndex (hP : ∀ i, stop i = true ↔ P i) (hsize : ∀ i, P i → i < size)
    (h : size ≤ firstIndex stop size n) (i : Nat) (hn : n ≤ i) : ¬ P i := by
  intro hi
  have hstop := stop_eq_false_of_lt_firstIndex hn (Nat.lt_of_lt_of_le (hsize i hi) h)
  rw [(hP i).mpr hi] at hstop
  exact Bool.noConfusion hstop

end FirstIndex

section Slice

variable {content : List Code} {i j k n : Nat} {c : Code}

@[simp] theorem slice_self (content : List Code) (i : Nat) : slice content i i = [] := by
  simp [slice]

/-- Adjacent slices make up one slice. -/
theorem slice_append (hij : i ≤ j) (hjk : j ≤ k) :
    slice content i j ++ slice content j k = slice content i k := by
  have hd : content.drop j = (content.drop i).drop (j - i) := by
    rw [List.drop_drop, Nat.add_sub_cancel' hij]
  have hk : k - i = (j - i) + (k - j) := by omega
  unfold slice
  rw [hd, hk, List.take_add]

theorem slice_append_drop (hij : i ≤ j) : slice content i j ++ content.drop j = content.drop i := by
  have hd : content.drop j = (content.drop i).drop (j - i) := by
    rw [List.drop_drop, Nat.add_sub_cancel' hij]
  rw [slice, hd, List.take_append_drop]

theorem exists_of_mem_slice (h : c ∈ slice content i j) :
    ∃ k, i ≤ k ∧ k < j ∧ content[k]? = some c := by
  obtain ⟨k, hk⟩ := List.mem_iff_getElem?.mp h
  have hlt := lt_length_of_getElem? hk
  simp only [slice, List.length_take, List.length_drop] at hlt
  rw [slice, List.getElem?_take_of_lt (by omega), List.getElem?_drop] at hk
  exact ⟨i + k, Nat.le_add_right i k, by omega, hk⟩

theorem slice_succ (content : List Code) (n : Nat) :
    slice content n (n + 1) = content[n]?.toList := by
  unfold slice
  rw [Nat.add_sub_cancel_left, List.take_one, List.head?_drop]

theorem slice_cons (h : content[n]? = some c) (hj : n < j) :
    c :: slice content (n + 1) j = slice content n j := by
  have happ : slice content n (n + 1) ++ slice content (n + 1) j = slice content n j :=
    slice_append (Nat.le_succ n) hj
  rw [slice_succ, h] at happ
  exact happ

theorem slice_append_getElem? (hij : i ≤ j) :
    slice content i j ++ content[j]?.toList = slice content i (j + 1) := by
  rw [← slice_succ, slice_append hij (Nat.le_succ j)]

theorem slice_eq_slice_length (h : content.length ≤ j) :
    slice content i j = slice content i content.length := by
  unfold slice
  apply List.take_eq_take_iff.mpr
  rw [List.length_drop]
  omega

end Slice

theorem passesAt_beq_iff {content : List Code} {quote : Code} {i : Nat} :
    passesAt content (· == quote) i = true ↔ content[i]? = some quote := by
  simp [passesAt, Option.any_eq_true]

theorem passesAt_of_getElem? {content : List Code} {p : Code → Bool} {n : Nat} {c : Code}
    (h : content[n]? = some c) : passesAt content p n = p c := by
  simp [passesAt, h]

/-- A move forward leads from an index to the next one. -/
theorem next_standingAt_natCast (content : List Code) (n : Nat) :
    (standingAt content n).next = standingAt content ((n + 1 : Nat) : Int) :=
  next_standingAt content n

/-- Looking behind tells the code before the index and stays there. -/
theorem lookBehind_standingAt (content : List Code) (n : Nat) :
    (standingAt content ((n + 1 : Nat) : Int)).lookBehind =
      (content[n]? == some Code.backslash, standingAt content ((n + 1 : Nat) : Int)) := by
  have hprev : (standingAt content ((n + 1 : Nat) : Int)).previous = standingAt content n := by
    rw [← next_standingAt_natCast, previous_next]
  unfold lookBehind
  rw [hprev, next_standingAt_natCast, isOn, isAt, current?_standingAt]
  cases content[n]? <;> simp

/-- A read up to a test gives the slice to the first index that fails it. -/
theorem takeWhile_standingAt (p : Code → Bool) (content : List Code) (n : Nat) :
    (standingAt content n).takeWhile p =
      (slice content n (firstPassing content (fun c => !p c) n),
        standingAt content (firstPassing content (fun c => !p c) n)) := by
  -- The read and the search take the same step and go on at the next index.
  rw [takeWhile, firstPassing, firstIndex, ← firstPassing]
  split
  case h_1 c hc =>
    rw [current?_standingAt] at hc
    have hlt := lt_length_of_getElem? hc
    rw [passesAt_of_getElem? hc, if_pos hlt]
    by_cases hp : p c
    · have hj : n + 1 ≤ firstPassing content (fun c => !p c) (n + 1) := le_firstIndex _ _ _
      simp only [hp, ↓reduceIte, Bool.not_true, Bool.false_eq_true]
      rw [next_standingAt_natCast, takeWhile_standingAt p content (n + 1), slice_cons hc hj]
    · simp [hp]
  case h_2 hc =>
    rw [current?_standingAt] at hc
    rw [if_neg (by simpa using hc), slice_self]
termination_by content.length - n

/-- A skip ends at the first index that fails its test. -/
theorem skipWhile_standingAt (p : Code → Bool) (content : List Code) (n : Nat) :
    (standingAt content n).skipWhile p =
      standingAt content (firstPassing content (fun c => !p c) n) := by
  rw [← takeWhile_snd, takeWhile_standingAt]

theorem skipUntil_standingAt (quote : Code) (content : List Code) (n : Nat) :
    (standingAt content n).skipUntil quote =
      ((standingAt content (firstPassing content (· == quote) n)).isOnContent,
        standingAt content (firstPassing content (· == quote) n)) := by
  have hnot : (fun c : Code => !(c != quote)) = (· == quote) := by
    funext c
    simp [bne]
  rw [skipUntil, skipWhile_standingAt, hnot]

theorem skipBlanks_standingAt (content : List Code) (n : Nat) :
    (standingAt content n).skipBlanks =
      ((standingAt content (firstPassing content (fun c => !c.isBlank) n)).isOnContent,
        standingAt content (firstPassing content (fun c => !c.isBlank) n)) := by
  rw [skipBlanks, skipWhile_standingAt]

theorem slice_append_current? {content : List Code} {i j : Nat} (h : i ≤ j) :
    slice content i j ++ (standingAt content j).current?.toList = slice content i (j + 1) := by
  rw [current?_standingAt, slice_append_getElem? h]

/-- A read that includes its stop gives the slice through the first index that passes. -/
theorem takeThrough_standingAt (stop : Code → Bool) (content : List Code) (n : Nat) :
    (standingAt content n).takeThrough stop =
      (slice content n (firstPassing content stop n + 1),
        standingAt content (firstPassing content stop n)) := by
  have hk : n ≤ firstPassing content stop n := le_firstIndex _ _ _
  rw [takeThrough_eq, takeWhile_standingAt]
  simp only [Bool.not_not, slice_append_current? hk]

/-- A delimited read gives the slice after its start up to the first index that ends it. -/
theorem takeDelimited_standingAt (occurrence : Code) (escaped : Bool) (content : List Code)
    (n : Nat) :
    (standingAt content n).takeDelimited occurrence escaped =
      (slice content (n + 1) (firstEnding content occurrence escaped (n + 1)),
        standingAt content (firstEnding content occurrence escaped (n + 1))) := by
  rw [takeDelimited, firstEnding, firstIndex, ← firstEnding, next_standingAt_natCast]
  split
  case h_1 hc =>
    rw [current?_standingAt] at hc
    rw [if_neg (by simpa using hc), slice_self]
  case h_2 c hc =>
    rw [current?_standingAt] at hc
    have hlt := lt_length_of_getElem? hc
    have hj : n + 1 + 1 ≤ firstEnding content occurrence escaped (n + 1 + 1) := le_firstIndex _ _ _
    have hends : endsAt content occurrence escaped (n + 1) =
        (c == occurrence && !(escaped && content[n]? == some Code.backslash)) := by
      simp [endsAt, hc]
    -- The read goes on past another code and past an occurrence that a backslash protects.
    have hgo := takeDelimited_standingAt occurrence escaped content (n + 1)
    rw [if_pos hlt, lookBehind_standingAt, hends, hgo]
    simp only [slice_cons hc hj]
    by_cases hoc : c = occurrence
    · cases escaped with
      | false => simp [hoc]
      | true => by_cases hback : content[n]? = some Code.backslash <;> simp [hoc, hback]
    · simp [hoc]
termination_by content.length - n

section OnContent

variable {content : List Code} {n : Nat}

theorem exists_current?_standingAt (h : n < content.length) :
    ∃ c, content[n]? = some c ∧ (standingAt content n).current? = some c :=
  ⟨content[n], List.getElem?_eq_getElem h, by rw [current?_standingAt, List.getElem?_eq_getElem h]⟩

/-- A delimited read searches from the next index on and gives the slice up to there. -/
theorem readUntilBefore_standingAt (occurrence : Code) (escaped : Bool)
    (h : n < content.length) :
    (standingAt content n).readUntilBefore occurrence escaped =
      (slice content n (firstEnding content occurrence escaped (n + 1)),
        standingAt content (firstEnding content occurrence escaped (n + 1))) := by
  obtain ⟨c, hc, hcur⟩ := exists_current?_standingAt h
  have hj : n < firstEnding content occurrence escaped (n + 1) := le_firstIndex _ _ _
  simp only [readUntilBefore, hcur, takeDelimited_standingAt, slice_cons hc hj]

/-- With the delimiter the slice is longer by one, and the walk ends in the same place. -/
theorem readUntil_standingAt (occurrence : Code) (escaped : Bool) (h : n < content.length) :
    (standingAt content n).readUntil occurrence escaped =
      (slice content n (firstEnding content occurrence escaped (n + 1) + 1),
        standingAt content (firstEnding content occurrence escaped (n + 1))) := by
  obtain ⟨c, -, hcur⟩ := exists_current?_standingAt h
  have hj : n + 1 ≤ firstEnding content occurrence escaped (n + 1) := le_firstIndex _ _ _
  simp only [readUntil, hcur, readUntilBefore_standingAt occurrence escaped h,
    slice_append_current? (Nat.le_of_succ_le hj)]

theorem readUntilBeforeBlankOr_standingAt (set : List Code) (h : n < content.length) :
    (standingAt content n).readUntilBeforeBlankOr set =
      (slice content n (firstPassing content (isStop set) (n + 1)),
        standingAt content (firstPassing content (isStop set) (n + 1))) := by
  obtain ⟨c, hc, hcur⟩ := exists_current?_standingAt h
  have hj : n < firstPassing content (isStop set) (n + 1) := le_firstIndex _ _ _
  simp only [readUntilBeforeBlankOr, hcur, next_standingAt_natCast, takeWhile_standingAt,
    Bool.not_not, slice_cons hc hj]

end OnContent

theorem readUntilBefore_of_current?_eq_none (occurrence : Code) (escaped : Bool) {b : Buffer}
    (h : b.current? = none) : b.readUntilBefore occurrence escaped = ([], b) := by
  simp only [readUntilBefore, h]

theorem readUntil_of_current?_eq_none (occurrence : Code) (escaped : Bool) {b : Buffer}
    (h : b.current? = none) : b.readUntil occurrence escaped = ([], b) := by
  simp only [readUntil, h]

theorem readUntilBeforeBlankOr_of_current?_eq_none (set : List Code) {b : Buffer}
    (h : b.current? = none) : b.readUntilBeforeBlankOr set = ([], b) := by
  simp only [readUntilBeforeBlankOr, h]

end TextWalk.Buffer
