import Mathlib.Order.Bounds.Basic
import TextWalk.Proofs.Reading
import TextWalk.Scan.Listing

/-!
Spans of quoted runs, said of the content alone. Main statements: the spans are determined by the
content, they follow one another without overlap, every quote lies in exactly one of them, only the
last can lack its closing quote, and raw quotes pair up two by two.
-/
namespace TextWalk.Scan

open Buffer

structure Span where
  start : Nat
  stop : Nat
  closed : Bool
deriving DecidableEq, Repr

namespace Span

def covers (i : Nat) (s : Span) : Bool := s.start ≤ i && i < s.stop

def run (content : List Code) (s : Span) : QuotedRun :=
  { start := { offset := s.start
               line := lineAt content s.start
               column := columnAt content s.start }
    codes := slice content s.start s.stop
    closed := s.closed }

end Span

/-- The code at an index can close a run: it is the quote and, unless quotes are raw, does not
follow a backslash. -/
def Closes (content : List Code) (quote : Code) (raw : Bool) (i : Nat) : Prop :=
  content[i]? = some quote ∧ (raw = true ∨ content[i - 1]? ≠ some Code.backslash)

/-- The spans of the quoted runs from an index on. A run opens at the first quote and goes through
the first later quote that closes it, or to the end of the content. -/
inductive QuotedSpans (content : List Code) (quote : Code) (raw : Bool) :
    Nat → List Span → Prop where
  | done {n : Nat} (hopen : ∀ i, n ≤ i → content[i]? ≠ some quote) :
      QuotedSpans content quote raw n []
  | closed {n s e : Nat} {spans : List Span}
      (hopen : IsLeast {i | n ≤ i ∧ content[i]? = some quote} s)
      (hclose : IsLeast {i | s < i ∧ Closes content quote raw i} e)
      (rest : QuotedSpans content quote raw (e + 1) spans) :
      QuotedSpans content quote raw n ({ start := s, stop := e + 1, closed := true } :: spans)
  | unclosed {n s : Nat}
      (hopen : IsLeast {i | n ≤ i ∧ content[i]? = some quote} s)
      (hclose : ∀ i, s < i → ¬ Closes content quote raw i) :
      QuotedSpans content quote raw n [{ start := s, stop := content.length, closed := false }]

theorem count_drop_of_isLeast {content : List Code} {quote : Code} {n s : Nat}
    (h : IsLeast {i | n ≤ i ∧ content[i]? = some quote} s) :
    (content.drop n).count quote = (content.drop (s + 1)).count quote + 1 := by
  have hs := lt_length_of_getElem? h.1.2
  have hcut : content.drop n = slice content n s ++ quote :: content.drop (s + 1) := by
    have hquote : content[s] = quote := (List.getElem?_eq_some_iff.mp h.1.2).2
    have hdrop : content.drop s = (content.drop n).drop (s - n) := by
      rw [List.drop_drop, Nat.add_sub_cancel' h.1.1]
    rw [← hquote, ← List.drop_eq_getElem_cons hs, hdrop, slice, List.take_append_drop]
  have hbefore : (slice content n s).count quote = 0 := by
    apply List.count_eq_zero.mpr
    intro hmem
    obtain ⟨k, hk⟩ := List.mem_iff_getElem?.mp hmem
    have hlt := lt_length_of_getElem? hk
    simp only [slice, List.length_take, List.length_drop] at hlt
    rw [slice, List.getElem?_take_of_lt (by omega), List.getElem?_drop] at hk
    -- A quote before `s` would be an earlier first one.
    have hle : s ≤ n + k := h.2 ⟨Nat.le_add_right n k, hk⟩
    omega
  rw [hcut, List.count_append, hbefore, List.count_cons_self]
  omega

theorem count_drop_eq_zero {content : List Code} {quote : Code} {n : Nat}
    (h : ∀ i, n ≤ i → content[i]? ≠ some quote) : (content.drop n).count quote = 0 := by
  apply List.count_eq_zero.mpr
  intro hmem
  obtain ⟨k, hk⟩ := List.mem_iff_getElem?.mp hmem
  rw [List.getElem?_drop] at hk
  exact h (n + k) (Nat.le_add_right n k) hk

/-- A raw quote closes a run wherever it stands. -/
theorem closes_raw {content : List Code} {quote : Code} {i : Nat} :
    Closes content quote true i ↔ content[i]? = some quote := by
  simp [Closes]

namespace QuotedSpans

variable {content : List Code} {quote : Code} {raw : Bool} {n : Nat} {spans : List Span}

theorem eq_nil_of_length_le (h : QuotedSpans content quote raw n spans)
    (hn : content.length ≤ n) : spans = [] := by
  cases h with
  | done _ => rfl
  | closed hopen _ _ =>
    have := lt_length_of_getElem? hopen.1.2
    have := hopen.1.1
    omega
  | unclosed hopen _ =>
    have := lt_length_of_getElem? hopen.1.2
    have := hopen.1.1
    omega

/-- The content determines its spans. -/
theorem unique {spans' : List Span} (h : QuotedSpans content quote raw n spans)
    (h' : QuotedSpans content quote raw n spans') : spans' = spans := by
  -- Where a run opens and where it closes are least indices, so there is one way to go on.
  induction h generalizing spans' with
  | done hopen =>
    cases h' with
    | done _ => rfl
    | closed hopen' _ _ => exact absurd hopen'.1.2 (hopen _ hopen'.1.1)
    | unclosed hopen' _ => exact absurd hopen'.1.2 (hopen _ hopen'.1.1)
  | closed hopen hclose _ ih =>
    cases h' with
    | done hopen' => exact absurd hopen.1.2 (hopen' _ hopen.1.1)
    | closed hopen' hclose' rest' =>
      obtain rfl := hopen.unique hopen'
      obtain rfl := hclose.unique hclose'
      rw [ih rest']
    | unclosed hopen' hclose' =>
      obtain rfl := hopen.unique hopen'
      exact absurd hclose.1.2 (hclose' _ hclose.1.1)
  | unclosed hopen hclose =>
    cases h' with
    | done hopen' => exact absurd hopen.1.2 (hopen' _ hopen.1.1)
    | closed hopen' hclose' _ =>
      obtain rfl := hopen.unique hopen'
      exact absurd hclose'.1.2 (hclose _ hclose'.1.1)
    | unclosed hopen' _ => rw [hopen.unique hopen']

/-- A span is not empty and lies within the content. -/
theorem bounds (h : QuotedSpans content quote raw n spans) :
    ∀ s ∈ spans, n ≤ s.start ∧ s.start < s.stop ∧ s.stop ≤ content.length := by
  induction h with
  | done _ => simp
  | closed hopen hclose _ ih =>
    intro s hs
    have ho := hopen.1.1
    have hc := hclose.1.1
    have hlen := lt_length_of_getElem? hclose.1.2.1
    rcases List.mem_cons.mp hs with rfl | hs
    · exact ⟨ho, by simp only; omega, hlen⟩
    · have hb := ih s hs
      exact ⟨by omega, hb.2⟩
  | unclosed hopen _ =>
    intro s hs
    obtain rfl := List.mem_singleton.mp hs
    exact ⟨hopen.1.1, lt_length_of_getElem? hopen.1.2, Nat.le_refl _⟩

/-- Every span starts with a quote. -/
theorem getElem?_start (h : QuotedSpans content quote raw n spans) :
    ∀ s ∈ spans, content[s.start]? = some quote := by
  induction h with
  | done _ => simp
  | closed hopen _ _ ih => exact List.forall_mem_cons.mpr ⟨hopen.1.2, ih⟩
  | unclosed hopen _ => exact List.forall_mem_singleton.mpr hopen.1.2

/-- Spans follow one another without overlap. -/
theorem pairwise (h : QuotedSpans content quote raw n spans) :
    spans.Pairwise fun s t => s.start < t.start ∧ s.stop ≤ t.start := by
  induction h with
  | done _ => exact List.Pairwise.nil
  | closed _ hclose rest ih =>
    apply List.pairwise_cons.mpr
    refine ⟨?_, ih⟩
    intro t ht
    have hc := hclose.1.1
    have hb := (rest.bounds t ht).1
    exact ⟨by simp only; omega, hb⟩
  | unclosed _ _ => exact List.pairwise_singleton _ _

theorem countP_covers_of_lt (h : QuotedSpans content quote raw n spans) {i : Nat} (hi : i < n) :
    spans.countP (Span.covers i) = 0 := by
  apply List.countP_eq_zero.mpr
  intro s hs
  have hb := h.bounds s hs
  simp only [Span.covers, Bool.and_eq_true, decide_eq_true_eq]
  omega

/-- Every quote ahead lies in exactly one span. -/
theorem countP_covers (h : QuotedSpans content quote raw n spans) {i : Nat} (hn : n ≤ i)
    (hi : content[i]? = some quote) : spans.countP (Span.covers i) = 1 := by
  induction h with
  | done hopen => exact absurd hi (hopen i hn)
  | @closed n s e spans hopen hclose rest ih =>
    have hs : s ≤ i := hopen.2 ⟨hn, hi⟩
    -- The quote lies in the first span or, behind its end, in one of the others.
    by_cases he : i < e + 1
    · have hcov : Span.covers i { start := s, stop := e + 1, closed := true } = true := by
        simp [Span.covers, hs, he]
      rw [List.countP_cons_of_pos hcov, rest.countP_covers_of_lt he]
    · have hcov : ¬ Span.covers i { start := s, stop := e + 1, closed := true } = true := by
        simp [Span.covers, he]
      rw [List.countP_cons_of_neg hcov, ih (Nat.le_of_not_lt he)]
  | @unclosed n s hopen _ =>
    have hs : s ≤ i := hopen.2 ⟨hn, hi⟩
    have hlen := lt_length_of_getElem? hi
    simp [Span.covers, hs, hlen]

/-- Only the last span can lack its closing quote. -/
theorem filter_not_closed (h : QuotedSpans content quote raw n spans) :
    spans.filter (fun s => !s.closed) = spans.getLast?.toList.filter fun s => !s.closed := by
  induction h with
  | done _ => rfl
  | @closed n s e spans _ _ _ ih =>
    cases spans with
    | nil => rfl
    | cons t spans =>
      rw [List.getLast?_cons_cons, ← ih]
      exact List.filter_cons_of_neg (by simp)
  | unclosed _ _ => rfl

/-- Raw quotes pair up: every span takes two of them, less one for each that is not closed. -/
theorem count_raw (h : QuotedSpans content quote true n spans) :
    (content.drop n).count quote + spans.countP (fun s => !s.closed) = 2 * spans.length := by
  induction h with
  | done hopen => rw [count_drop_eq_zero hopen]; rfl
  | closed hopen hclose _ ih =>
    simp only [closes_raw] at hclose
    have hclosed := count_drop_of_isLeast hclose
    rw [count_drop_of_isLeast hopen, hclosed, List.countP_cons_of_neg (by simp), List.length_cons]
    omega
  | unclosed hopen hclose =>
    simp only [closes_raw] at hclose
    rw [count_drop_of_isLeast hopen, count_drop_eq_zero hclose]
    rfl

end QuotedSpans

end TextWalk.Scan
