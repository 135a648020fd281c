import TextWalk.Proofs.Reading

/-!
Stopping places. A read or a skip stops at the first index that has some property, or at the end of
the content if there is none. Main statement: the search of a walk finds this index, and walking there
takes as many moves forward as it lies ahead.
-/
namespace TextWalk.Buffer

def IsFirstOrEnd (P : Nat → Prop) (size n j : Nat) : Prop :=
  IsLeast {i | n ≤ i ∧ (P i ∨ i = size)} j

section FirstOrEnd

variable {P : Nat → Prop} {stop : Nat → Bool} {size n j : Nat}

/-- The search finds the first index with the property, or the end. -/
theorem isFirstOrEnd_firstIndex (hP : ∀ i, stop i = true ↔ P i) (hn : n ≤ size) :
    IsFirstOrEnd P size n (firstIndex stop size n) := by
  have hle : firstIndex stop size n ≤ size := firstIndex_le hn
  refine ⟨⟨le_firstIndex stop size n, ?_⟩, ?_⟩
  · rcases Nat.lt_or_eq_of_le hle with hlt | heq
    · exact Or.inl ((hP _).mp (stop_firstIndex hlt))
    · exact Or.inr heq
  -- The search has passed over every index below the one it finds, and those are all within.
  · rintro i ⟨hi, hstop⟩
    by_contra hlt
    have hfalse := stop_eq_false_of_lt_firstIndex hi (Nat.lt_of_not_le hlt)
    rcases hstop with hp | rfl
    · rw [(hP i).mpr hp] at hfalse
      exact Bool.noConfusion hfalse
    · exact hlt hle

theorem IsFirstOrEnd.le (h : IsFirstOrEnd P size n j) : n ≤ j := h.1.1

end FirstOrEnd

section Standing

variable {content : List Code} {i j : Nat}

/-- An index ahead is reached by as many moves forward. -/
theorem walk_forward_standingAt (h : i ≤ j) :
    (standingAt content i).walk (List.replicate (j - i) .forward) = standingAt content j := by
  have hcount : Move.displacement (List.replicate (j - i) .forward) = (j - i : Nat) := by
    simp [Move.displacement, List.count_replicate]
  have hsum : (i : Int) + (j - i : Nat) = j := by omega
  rw [walk_standingAt, hcount, hsum]

/-- On content a scan stands at an index of the content. -/
theorem exists_scan_eq_standingAt {ops : List Operation}
    (h : ((ofCodes content).scan ops).isOnContent = true) :
    ∃ o : Nat, o < content.length ∧ (ofCodes content).scan ops = standingAt content o := by
  have hb := scan_ofCodes content ops
  obtain ⟨o, ho⟩ := Int.eq_ofNat_of_zero_le (isOnContent_iff.mp h).1
  rw [ho] at hb
  rw [hb] at h
  exact ⟨o, (isOnContent_standingAt content o).mp h, hb⟩

theorem current?_eq_none_of_isOnContent {b : Buffer} (h : b.isOnContent = false) :
    b.current? = none := by
  rw [isOnContent] at h
  exact Option.isSome_eq_false_iff.mp h |> Option.isNone_iff_eq_none.mp

end Standing

end TextWalk.Buffer
