import TextWalk.Proofs.Reading
import TextWalk.Scan.Listing

namespace TextWalk.Scan

open Buffer

def IsDivider (separators : List Code) (c : Code) : Prop :=
  c ∈ [0x20, 0x0A, 0x0D, 0x09] ∨ c ∈ separators

instance (separators : List Code) : DecidablePred (IsDivider separators) :=
  fun c => inferInstanceAs (Decidable (c ∈ [0x20, 0x0A, 0x0D, 0x09] ∨ c ∈ separators))

def DividesAt (content separators : List Code) (i : Nat) : Prop :=
  ∃ c, content[i]? = some c ∧ IsDivider separators c

@[ext] structure Extent where
  start : Nat
  stop : Nat
deriving DecidableEq, Repr

namespace Extent

def codes (content : List Code) (e : Extent) : List Code := slice content e.start e.stop

def stretch (content : List Code) (e : Extent) : Stretch :=
  { start := { offset := e.start
               line := lineAt content e.start
               column := columnAt content e.start }
    codes := e.codes content }

end Extent

/-- A longest extent without dividers: it is not empty, and a divider or an end of the content
stands at either side. -/
structure IsField (content separators : List Code) (e : Extent) : Prop where
  start_lt_stop : e.start < e.stop
  stop_le_length : e.stop ≤ content.length
  inside : ∀ i, e.start ≤ i → i < e.stop → ¬ DividesAt content separators i
  before : e.start = 0 ∨ DividesAt content separators (e.start - 1)
  behind : e.stop = content.length ∨ DividesAt content separators e.stop

structure FieldsFrom (content separators : List Code) (n : Nat) (extents : List Extent) :
    Prop where
  mem_iff : ∀ e, e ∈ extents ↔ n ≤ e.start ∧ IsField content separators e
  increasing : extents.Pairwise fun e f => e.stop < f.start
  codes_eq : extents.flatMap (Extent.codes content) =
    (content.drop n).filter fun c => ¬ IsDivider separators c

section Divider

variable {content separators : List Code} {c : Code} {i j n : Nat}

theorem isStop_iff_isDivider : isStop separators c = true ↔ IsDivider separators c := by
  simp only [isStop, Bool.or_eq_true, Code.isBlank_iff, List.contains_iff_mem, IsDivider]

theorem isDivider_of_isBlank (h : c.isBlank = true) : IsDivider separators c := by
  rw [← isStop_iff_isDivider, isStop, h, Bool.true_or]

theorem not_isDivider (hblank : c.isBlank = false) (hsep : c ∉ separators) :
    ¬ IsDivider separators c := by
  rw [← isStop_iff_isDivider, isStop, hblank, List.contains_eq_mem, decide_eq_false hsep]
  exact Bool.false_ne_true

theorem passesAt_isStop_iff :
    passesAt content (isStop separators) i = true ↔ DividesAt content separators i := by
  simp only [passesAt, Option.any_eq_true, isStop_iff_isDivider, DividesAt]

theorem dividesAt_of_getElem? (h : content[i]? = some c) :
    DividesAt content separators i ↔ IsDivider separators c := by
  simp [DividesAt, h]

/-- Between fields nothing remains when dividers are left out. -/
theorem filter_slice_of_divides (h : ∀ k, i ≤ k → k < j → DividesAt content separators k) :
    (slice content i j).filter (fun c => ¬ IsDivider separators c) = [] := by
  apply List.filter_eq_nil_iff.mpr
  intro c hc
  obtain ⟨k, hik, hkj, hk⟩ := exists_of_mem_slice hc
  simpa using (dividesAt_of_getElem? hk).mp (h k hik hkj)

/-- Within a field leaving out dividers leaves out nothing. -/
theorem filter_slice_of_not_divides (h : ∀ k, i ≤ k → k < j → ¬ DividesAt content separators k) :
    (slice content i j).filter (fun c => ¬ IsDivider separators c) = slice content i j := by
  apply List.filter_eq_self.mpr
  intro c hc
  obtain ⟨k, hik, hkj, hk⟩ := exists_of_mem_slice hc
  exact decide_eq_true (mt (dividesAt_of_getElem? hk).mpr (h k hik hkj))

end Divider

/-- Fields that start at one index end at one index. -/
theorem IsField.stop_unique {content separators : List Code} {e f : Extent}
    (he : IsField content separators e) (hf : IsField content separators f)
    (h : e.start = f.start) : e.stop ≤ f.stop := by
  -- Were the other one shorter, its end would be a divider inside this one.
  by_contra hlt
  have hstop := he.stop_le_length
  have hstart := hf.start_lt_stop
  rcases hf.behind with hend | hdiv
  · omega
  · exact he.inside f.stop (by omega) (by omega) hdiv

namespace FieldsFrom

variable {content separators : List Code} {n m : Nat} {e : Extent} {extents : List Extent}

theorem nil (h : content.length ≤ n) : FieldsFrom content separators n [] where
  mem_iff e := by
    constructor
    · intro he
      exact absurd he List.not_mem_nil
    · rintro ⟨hn, he⟩
      have := he.start_lt_stop
      have := he.stop_le_length
      omega
  increasing := List.Pairwise.nil
  codes_eq := by simp [List.drop_eq_nil_of_le h]

/-- Dividers in front change nothing. -/
theorem skip (hnm : n ≤ m) (hdiv : ∀ i, n ≤ i → i < m → DividesAt content separators i)
    (h : FieldsFrom content separators m extents) :
    FieldsFrom content separators n extents where
  mem_iff e := by
    rw [h.mem_iff e]
    constructor
    · rintro ⟨hm, he⟩
      exact ⟨Nat.le_trans hnm hm, he⟩
    · rintro ⟨hn, he⟩
      refine ⟨?_, he⟩
      by_contra hlt
      exact he.inside e.start (Nat.le_refl _) he.start_lt_stop
        (hdiv e.start hn (Nat.lt_of_not_le hlt))
  increasing := h.increasing
  codes_eq := by
    rw [h.codes_eq, ← slice_append_drop hnm, List.filter_append, filter_slice_of_divides hdiv,
      List.nil_append]

/-- A field in front comes first. -/
theorem cons (he : IsField content separators e)
    (h : FieldsFrom content separators e.stop extents) :
    FieldsFrom content separators e.start (e :: extents) where
  mem_iff f := by
    rw [List.mem_cons, h.mem_iff f]
    constructor
    · rintro (rfl | ⟨hstop, hf⟩)
      · exact ⟨Nat.le_refl _, he⟩
      · exact ⟨Nat.le_trans (Nat.le_of_lt he.start_lt_stop) hstop, hf⟩
    · rintro ⟨hstart, hf⟩
      by_cases hstop : e.stop ≤ f.start
      · exact Or.inr ⟨hstop, hf⟩
      · -- A field that starts within this one can only start where it does.
        have hsame : e.start = f.start := by
          by_contra hne
          rcases hf.before with hzero | hdiv
          · omega
          · exact he.inside (f.start - 1) (by omega) (by omega) hdiv
        have hle := he.stop_unique hf hsame
        have hge := hf.stop_unique he hsame.symm
        exact Or.inl (Extent.ext hsame.symm (Nat.le_antisymm hge hle))
  increasing := by
    apply List.pairwise_cons.mpr
    refine ⟨?_, h.increasing⟩
    intro f hf
    obtain ⟨hstop, hf⟩ := (h.mem_iff f).mp hf
    have hlt := hf.start_lt_stop
    have hle := hf.stop_le_length
    -- What ends this field cannot be the first code of the next one.
    have hne : e.stop ≠ f.start := by
      intro heq
      rcases he.behind with hend | hdiv
      · omega
      · exact hf.inside e.stop (by omega) (by omega) hdiv
    omega
  codes_eq := by
    rw [List.flatMap_cons, h.codes_eq, ← slice_append_drop (Nat.le_of_lt he.start_lt_stop),
      List.filter_append, filter_slice_of_not_divides he.inside]
    rfl

end FieldsFrom

end TextWalk.Scan
