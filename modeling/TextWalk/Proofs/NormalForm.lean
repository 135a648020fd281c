import TextWalk.Normal.Basic
import TextWalk.Proofs.CharacterParts
import TextWalk.Proofs.Utf8

/-!
The normal form and canonical equivalence. Main statement: as long as no part of a text has more
extenders than a segment may hold, its normal form is composed from the canonical order alone, so
that equivalent texts give equal walks. A longer run of marks is divided in the order in which it
was written, and there two equivalent texts can part.
-/
namespace TextWalk.Normal

section Split

def split : List Nat → List Nat × List (List Nat)
  | [] => ([], [])
  | d :: ds =>
    if joins d then (d :: (split ds).1, (split ds).2)
    else ([], (d :: (split ds).1) :: (split ds).2)

theorem split_cons_of_joins {d : Nat} (h : joins d = true) (ds : List Nat) :
    split (d :: ds) = (d :: (split ds).1, (split ds).2) := by
  rw [split, if_pos h]

theorem split_cons_of_not_joins {d : Nat} (h : joins d = false) (ds : List Nat) :
    split (d :: ds) = ([], (d :: (split ds).1) :: (split ds).2) := by
  rw [split, if_neg (Bool.eq_false_iff.mp h)]

/-- Characters that join go to what stands before them. -/
theorem split_append_of_joins {front : List Nat} (h : ∀ e ∈ front, joins e = true) (ds : List Nat) :
    split (front ++ ds) = (front ++ (split ds).1, (split ds).2) := by
  induction front with
  | nil => rfl
  | cons e front ih =>
    obtain ⟨he, hfront⟩ := List.forall_mem_cons.mp h
    rw [List.cons_append, split_cons_of_joins he, ih hfront]
    rfl

end Split

section Order

theorem order_cons (d : Nat) (ds : List Nat) : order (d :: ds) = insertMark d (order ds) := rfl

/-- A starter stays in front. -/
theorem insertMark_of_starter {d : Nat} (h : combiningClass d = 0) (ds : List Nat) :
    insertMark d ds = d :: ds := by
  cases ds with
  | nil => rfl
  | cons e ds =>
    rw [insertMark, if_neg]
    omega

/-- Putting a mark in its place touches the open part alone. -/
theorem split_insertMark {d : Nat} (h : joins d = true) (ds : List Nat) :
    split (insertMark d ds) = (insertMark d (split ds).1, (split ds).2) := by
  induction ds with
  | nil => exact split_cons_of_joins h []
  | cons e ds ih =>
    by_cases hpass : 0 < combiningClass e ∧ combiningClass e < combiningClass d
    · -- What the mark moves past is a mark too, and joins as it does.
      have he := joins_of_combiningClass hpass.1
      simp only [insertMark, if_pos hpass, split_cons_of_joins he, ih]
    · rw [insertMark, if_neg hpass, split_cons_of_joins h]
      cases he : joins e with
      | true => simp only [split_cons_of_joins he, insertMark, if_neg hpass]
      | false => simp only [split_cons_of_not_joins he, insertMark]

/-- The canonical order is that of each part. -/
theorem split_order (ds : List Nat) :
    split (order ds) = (order (split ds).1, (split ds).2.map order) := by
  induction ds with
  | nil => rfl
  | cons d ds ih =>
    cases hd : joins d with
    | true =>
      rw [order_cons, split_insertMark hd, ih, split_cons_of_joins hd]
      rfl
    | false =>
      have hclass := combiningClass_of_joins hd
      rw [order_cons, insertMark_of_starter hclass, split_cons_of_not_joins hd, ih,
        split_cons_of_not_joins hd, List.map_cons, order_cons, insertMark_of_starter hclass]
      rfl

end Order

section Fits

/-- No part of a text has more extenders than a segment may hold, when `run` of them stand before
it. -/
def fits (run : Nat) : List Nat → Bool
  | [] => true
  | d :: ds => if joins d then run < longestRun && fits (run + 1) ds else fits (spelledCount d) ds

theorem fits_cons_of_joins {d : Nat} (h : joins d = true) (run : Nat) (ds : List Nat) :
    fits run (d :: ds) = (decide (run < longestRun) && fits (run + 1) ds) := by
  rw [fits, if_pos h]

theorem fits_cons_of_not_joins {d : Nat} (h : joins d = false) (run : Nat) (ds : List Nat) :
    fits run (d :: ds) = fits (spelledCount d) ds := by
  rw [fits, if_neg (Bool.eq_false_iff.mp h)]

theorem fits_of_append {front ds : List Nat} {run : Nat} (hfront : ∀ e ∈ front, joins e = true)
    (h : fits run (front ++ ds) = true) :
    fits (run + front.length) ds = true ∧ (front ≠ [] → run + front.length ≤ longestRun) := by
  induction front generalizing run with
  | nil => exact ⟨h, fun hne => absurd rfl hne⟩
  | cons e front ih =>
    obtain ⟨he, hfront⟩ := List.forall_mem_cons.mp hfront
    rw [List.cons_append, fits_cons_of_joins he, Bool.and_eq_true, decide_eq_true_eq] at h
    obtain ⟨hfits, hbound⟩ := ih hfront h.2
    have hlength : run + (e :: front).length = run + 1 + front.length := by
      rw [List.length_cons]
      omega
    rw [hlength]
    refine ⟨hfits, fun _ => ?_⟩
    cases front with
    | nil => exact h.1
    | cons e' front => exact hbound (List.cons_ne_nil _ _)

/-- Ordering marks does not change how many there are in a part. -/
theorem fits_insertMark (run d : Nat) (ds : List Nat) :
    fits run (insertMark d ds) = fits run (d :: ds) := by
  induction ds generalizing run with
  | nil => rfl
  | cons e ds ih =>
    rw [insertMark]
    split
    · rename_i hpass
      have he := joins_of_combiningClass hpass.1
      have hd := joins_of_combiningClass (Nat.lt_trans hpass.1 hpass.2)
      rw [fits_cons_of_joins he, ih, fits_cons_of_joins hd, fits_cons_of_joins hd,
        fits_cons_of_joins he]
    · rfl

/-- The length of a run does not depend on the order of its marks. -/
theorem fits_order (run : Nat) (ds : List Nat) : fits run (order ds) = fits run ds := by
  induction ds generalizing run with
  | nil => rfl
  | cons d ds ih => simp only [order_cons, fits_insertMark, fits, ih]

end Fits

section Inert

def Composing.settle (s : Composing) (c : Nat) : Composing :=
  (s.compose? c).elim (s.keep c) fun composite => { s with host := composite }

theorem Composing.add_eq (s : Composing) (c : Nat) :
    s.add c =
      let marked := { s with syllabic := s.syllabic || Hangul.isVowel c || Hangul.isTrail c }
      if marked.syllabic || combinesBackward c then marked.rehost.settle c else marked.keep c := by
  simp only [add, settle]
  split
  · split
    · rename_i hcomposite
      rw [hcomposite]
      rfl
    · rename_i hnone
      rw [hnone]
      rfl
  · rfl

/-- Two segments under composition, the second without the inert character `x` that the first one
starts with: `x` is still the host and `y` the first character after it, or another host was
found. -/
inductive Trails (x y : Nat) : Composing → Composing → Prop where
  | held (after : List Nat) (syllabic : Bool) :
      Trails x y ⟨[], x, after ++ [y], syllabic⟩ ⟨[], y, after, syllabic⟩
  | passed (before : List Nat) (host : Nat) (after : List Nat) (syllabic : Bool) :
      Trails x y ⟨before ++ [x], host, after, syllabic⟩ ⟨before, host, after, syllabic⟩

variable {x y : Nat} {s t : Composing}

theorem Trails.toList_eq (h : Trails x y s t) : s.toList = x :: t.toList := by
  cases h with
  | held after syllabic => simp [Composing.toList]
  | passed before host after syllabic => simp [Composing.toList]

theorem Trails.syllabic_eq (h : Trails x y s t) : s.syllabic = t.syllabic := by
  cases h with
  | held after syllabic => rfl
  | passed before host after syllabic => rfl

theorem Trails.setSyllabic (h : Trails x y s t) (flag : Bool) :
    Trails x y { s with syllabic := flag } { t with syllabic := flag } := by
  cases h with
  | held after syllabic => exact held after flag
  | passed before host after syllabic => exact passed before host after flag

theorem Trails.keep (h : Trails x y s t) (c : Nat) : Trails x y (s.keep c) (t.keep c) := by
  cases h with
  | held after syllabic => exact held (c :: after) syllabic
  | passed before host after syllabic => exact passed before host (c :: after) syllabic

/-- With the first host after `x` the two segments become alike. -/
theorem Trails.rehost (hy : combiningClass y = 0) (h : Trails x y s t) :
    Trails x y s.rehost t.rehost := by
  cases h with
  | held after syllabic =>
    -- The next host is `y`, which `x` leaves behind, or a later starter, which both pass to.
    cases after with
    | nil =>
      simp only [Composing.rehost, List.nil_append, hy, if_true]
      exact passed [] y [] syllabic
    | cons last rest =>
      simp only [Composing.rehost, List.cons_append]
      split
      · exact passed (rest ++ [y]) last [] syllabic
      · exact held (last :: rest) syllabic
  | passed before host after syllabic =>
    cases after with
    | nil => exact passed before host [] syllabic
    | cons last rest =>
      simp only [Composing.rehost]
      split
      · have h := passed (x := x) (y := y) (rest ++ host :: before) last [] syllabic
        rwa [List.append_assoc, List.cons_append] at h
      · exact passed before host (last :: rest) syllabic

/-- An inert host takes nothing up. -/
theorem compose?_of_inert (h : Inert s.host) (c : Nat) : s.compose? c = none := by
  rw [Composing.compose?]
  split
  · rfl
  · split
    · exact (h c).2
    · exact (h c).1

theorem Trails.settle (hx : Inert x) (hy : Inert y) (h : Trails x y s t) (c : Nat) :
    Trails x y (s.settle c) (t.settle c) := by
  cases h with
  | held after syllabic =>
    -- Neither host takes anything up, so that both keep the character.
    rw [Composing.settle, Composing.settle, compose?_of_inert hx, compose?_of_inert hy]
    exact (held after syllabic).keep c
  | passed before host after syllabic =>
    -- What is composed does not depend on the characters before the host.
    have hsame : Composing.compose? ⟨before ++ [x], host, after, syllabic⟩ c =
        Composing.compose? ⟨before, host, after, syllabic⟩ c := rfl
    rw [Composing.settle, Composing.settle, hsame]
    cases Composing.compose? ⟨before, host, after, syllabic⟩ c with
    | none => exact (passed before host after syllabic).keep c
    | some composite => exact passed before composite after syllabic

/-- One step of composition keeps the two segments together. -/
theorem Trails.add (hx : Inert x) (hy : Inert y) (hclass : combiningClass y = 0)
    (h : Trails x y s t) (c : Nat) : Trails x y (s.add c) (t.add c) := by
  simp only [Composing.add_eq, h.syllabic_eq]
  split
  · exact ((h.setSyllabic _).rehost hclass).settle hx hy c
  · exact (h.setSyllabic _).keep c

/-- Composing keeps the two segments side by side. -/
theorem Trails.foldl_add (hx : Inert x) (hy : Inert y) (hclass : combiningClass y = 0)
    (h : Trails x y s t) (cs : List Nat) :
    Trails x y (cs.foldl Composing.add s) (cs.foldl Composing.add t) := by
  induction cs generalizing s t with
  | nil => exact h
  | cons c cs ih => exact ih (h.add hx hy hclass c)

/-- An inert starter before another one makes a segment of its own. -/
theorem compose_cons_of_inert (hx : Inert x) (hy : Inert y) (hstart : joins y = false)
    (cs : List Nat) : compose (x :: y :: cs) = x :: compose (y :: cs) := by
  have hclass := combiningClass_of_joins hstart
  have hfirst : Composing.add { host := x } y = ⟨[], x, [] ++ [y], false⟩ := by
    simp only [joins, isExtender, Bool.or_eq_false_iff] at hstart
    simp [Composing.add, Composing.keep, hstart]
  rw [compose, compose, List.foldl_cons, hfirst]
  exact ((Trails.held [] false).foldl_add hx hy hclass cs).toList_eq

theorem compose_order_of_inert (hx : Inert x) (hy : Inert y) (hxstart : joins x = false)
    (hystart : joins y = false) (cs : List Nat) :
    compose (order (x :: y :: cs)) = x :: compose (order (y :: cs)) := by
  have hxclass := combiningClass_of_joins hxstart
  have hyclass := combiningClass_of_joins hystart
  rw [order_cons, order_cons, insertMark_of_starter hyclass, insertMark_of_starter hxclass,
    compose_cons_of_inert hx hy hystart]

end Inert

section Segments

def composeParts (ds : List Nat) : List Nat := compose (split ds).1 ++ (split ds).2.flatMap compose

variable {c run : Nat}

/-- An extender goes to the open segment as long as there is room. -/
theorem cut_of_extending (hne : leadingExtenders c ≠ 0)
    (hrun : run + leadingExtenders c ≤ longestRun) (cs : List Nat) :
    cut run (c :: cs) =
      (c :: (cut (run + leadingExtenders c) cs).1, (cut (run + leadingExtenders c) cs).2) := by
  simp only [cut, if_neg hne, if_neg (Nat.not_lt.mpr hrun)]

/-- A character that starts with no extender opens a segment. -/
theorem cut_of_opening (h : leadingExtenders c = 0) (run : Nat) (cs : List Nat) :
    cut run (c :: cs) =
      ([], (c :: (cut (trailingExtenders c) cs).1) :: (cut (trailingExtenders c) cs).2) := by
  simp only [cut, if_pos h]

theorem decompose_cons (c : Nat) (cs : List Nat) :
    decompose (c :: cs) = decomposeCode c ++ decompose cs := rfl

/-- Where no joiner is needed, the segments of a text are the parts of its decomposition. Only an
inert starter that opens a part of its own can share a segment with the next part. -/
theorem cut_of_fits {cs : List Nat} (h : fits run (decompose cs) = true) :
    decompose (cut run cs).1 = (split (decompose cs)).1 ∧
      ((cut run cs).2.flatMap fun segment => compose (order (decompose segment))) =
        (split (decompose cs)).2.flatMap fun part => compose (order part) := by
  induction cs generalizing run with
  | nil => exact ⟨rfl, rfl⟩
  | cons c cs ih =>
    rw [decompose_cons] at h ⊢
    cases apart c with
    | extending hcount hne hjoins =>
      -- The character goes to the open segment: the room for it is what the run still leaves.
      obtain ⟨hfits, hbound⟩ := fits_of_append hjoins h
      rw [← hcount] at hfits hbound
      have hzero : leadingExtenders c ≠ 0 := by
        rw [hcount]
        exact mt List.length_eq_zero_iff.mp hne
      obtain ⟨hown, hrest⟩ := ih hfits
      rw [cut_of_extending hzero (hbound hne), split_append_of_joins hjoins, decompose_cons, hown]
      exact ⟨rfl, hrest⟩
    | opening d tail hparts hstart hjoins hlead htrail =>
      -- Its first part opens a segment that starts with the extenders of the character.
      rw [hparts, List.cons_append, fits_cons_of_not_joins hstart] at h
      obtain ⟨hfits, -⟩ := fits_of_append hjoins h
      rw [← htrail] at hfits
      obtain ⟨hown, hrest⟩ := ih hfits
      rw [cut_of_opening hlead, hparts, List.cons_append, split_cons_of_not_joins hstart,
        split_append_of_joins hjoins, List.flatMap_cons, List.flatMap_cons, decompose_cons, hown,
        hrest, hparts]
      exact ⟨rfl, rfl⟩
    | stacking x y hparts hx hy hxi hyi hlead htrail =>
      -- Two parts of the decomposition share one segment, and composing keeps them apart.
      have hsplit : split ([x, y] ++ decompose cs) =
          ([], [x] :: (y :: (split (decompose cs)).1) :: (split (decompose cs)).2) := by
        rw [List.cons_append, List.singleton_append, split_cons_of_not_joins hx,
          split_cons_of_not_joins hy]
      have hone : compose (order [x]) = [x] := rfl
      have htwo := compose_order_of_inert hxi hyi hx hy (split (decompose cs)).1
      rw [hparts, List.cons_append, List.singleton_append, fits_cons_of_not_joins hx,
        fits_cons_of_not_joins hy, ← htrail] at h
      obtain ⟨hown, hrest⟩ := ih h
      rw [cut_of_opening hlead, hparts, hsplit, List.flatMap_cons, List.flatMap_cons,
        List.flatMap_cons, decompose_cons, hown, hrest, hparts, List.cons_append,
        List.singleton_append, htwo, hone]
      exact ⟨rfl, rfl⟩

/-- The normal form of a text without long runs is determined by its canonical order. -/
theorem normalizeCodes_of_fits {cs : List Nat} (h : fits 0 (decompose cs) = true) :
    normalizeCodes cs = composeParts (order (decompose cs)) := by
  obtain ⟨hown, hrest⟩ := cut_of_fits h
  rw [composeParts, split_order, List.flatMap_map, ← hown, ← hrest]
  rfl

end Segments

section Bytes

theorem announced_le (b : UInt8) :
    announced b ≤ 4 ∧ (b.toNat < 0xF0 → announced b ≤ 3) ∧ (b.toNat < 0xE0 → announced b ≤ 2) ∧
      (b.toNat < 0xC2 → announced b ≤ 1) := by
  simp only [announced]
  grind

theorem splitCut_cons {b : UInt8} {rest : Bytes} (h : announced b ≤ rest.length + 1)
    (hrest : splitCut rest = (rest, [])) : splitCut (b :: rest) = (b :: rest, []) := by
  have hwhole : ¬ (rest.take 3).length + 1 < announced b := by
    have hmost := (announced_le b).1
    rw [List.length_take]
    omega
  rw [splitCut, if_neg hwhole, hrest]

theorem splitCut_tail {n : Nat} {rest : Bytes} (hrest : splitCut rest = (rest, [])) :
    splitCut (Utf8.tail n :: rest) = (Utf8.tail n :: rest, []) := by
  have htail := Utf8.toNat_tail n
  have hone := (announced_le (Utf8.tail n)).2.2.2 (by omega)
  exact splitCut_cons (by omega) hrest

/-- The end does not cut off the sequence of a character. -/
theorem splitCut_encodeChar_append (c : Char) {rest : Bytes} (hrest : splitCut rest = (rest, [])) :
    splitCut (Utf8.encodeChar c ++ rest) = (Utf8.encodeChar c ++ rest, []) := by
  have hvalid : c.toNat < 0xD800 ∨ 0xDFFF < c.toNat ∧ c.toNat < 0x110000 := c.valid
  rcases Nat.lt_or_ge c.toNat 0x80 with h₁ | h₁
  · have hb := Bytes.toNat_ofNat (show c.toNat < 0x100 by omega)
    have hlead := (announced_le (UInt8.ofNat c.toNat)).2.2.2 (by omega)
    rw [Utf8.encodeChar_of_one h₁, List.singleton_append]
    exact splitCut_cons (by omega) hrest
  rcases Nat.lt_or_ge c.toNat 0x800 with h₂ | h₂
  · have hb := Bytes.toNat_ofNat (show 0xC0 + c.toNat / 64 < 0x100 by omega)
    have hlead := (announced_le (UInt8.ofNat (0xC0 + c.toNat / 64))).2.2.1 (by omega)
    simp only [Utf8.encodeChar_of_two h₁ h₂, List.cons_append, List.nil_append]
    refine splitCut_cons ?_ (splitCut_tail hrest)
    simp only [List.length_cons]
    omega
  rcases Nat.lt_or_ge c.toNat 0x10000 with h₃ | h₃
  · have hb := Bytes.toNat_ofNat (show 0xE0 + c.toNat / 4096 < 0x100 by omega)
    have hlead := (announced_le (UInt8.ofNat (0xE0 + c.toNat / 4096))).2.1 (by omega)
    simp only [Utf8.encodeChar_of_three h₂ h₃, List.cons_append, List.nil_append]
    refine splitCut_cons ?_ (splitCut_tail (splitCut_tail hrest))
    simp only [List.length_cons]
    omega
  · have hlead := (announced_le (UInt8.ofNat (0xF0 + c.toNat / 262144))).1
    simp only [Utf8.encodeChar_of_four h₃, List.cons_append, List.nil_append]
    refine splitCut_cons ?_ (splitCut_tail (splitCut_tail (splitCut_tail hrest)))
    simp only [List.length_cons]
    omega

/-- The end cuts off nothing of a text that was written as a whole. -/
theorem splitCut_encode (cs : List Char) :
    splitCut (Utf8.encode cs) = (Utf8.encode cs, []) := by
  induction cs with
  | nil => rfl
  | cons c cs ih => exact splitCut_encodeChar_append c ih

/-- The normal form of the bytes of a text is that of its characters. -/
theorem normalize_encode (cs : List Char) :
    normalize (Utf8.encode cs) = (normalizeCodes (cs.map Char.toNat)).map Char.ofNat := by
  simp only [normalize, splitCut_encode, Utf8.decode_encode, Utf8.decode, List.append_nil]

end Bytes

def canonical (cs : List Char) : List Nat := order (decompose (cs.map Char.toNat))

/-- Two texts are canonically equivalent: they have the same decomposition in canonical order. -/
def Equivalent (s t : List Char) : Prop := canonical s = canonical t

instance (s t : List Char) : Decidable (Equivalent s t) := inferInstanceAs (Decidable (_ = _))

end TextWalk.Normal

namespace TextWalk.Buffer

open TextWalk.Normal

/-- Canonically equivalent texts are walked alike, as long as no starter in them is followed by more
extenders than a segment may hold. -/
theorem ofNormalized_eq_of_equivalent {s t : List Char} (h : Equivalent s t)
    (hfits : fits 0 (canonical s) = true) :
    ofNormalized (Utf8.encode s) = ofNormalized (Utf8.encode t) := by
  have hcodes {cs : List Char} (hcs : fits 0 (canonical cs) = true) :
      normalizeCodes (cs.map Char.toNat) = composeParts (canonical cs) := by
    rw [canonical, fits_order] at hcs
    exact normalizeCodes_of_fits hcs
  have hequal : canonical s = canonical t := h
  rw [ofNormalized, ofNormalized, normalize_encode, normalize_encode, hcodes hfits, hequal,
    hcodes (hequal ▸ hfits)]

/-- The texts of a letter with two marks and a syllable, written whole and in parts, with the marks
out of order. -/
theorem ofNormalized_eq_of_parts_out_of_order :
    let s := ['\u1EC7', '\uAC01']
    let t := ['e', '\u0302', '\u0323', '\u1100', '\u1161', '\u11A8']
    Equivalent s t ∧ fits 0 (canonical s) = true ∧
      ofNormalized (Utf8.encode s) = ofNormalized (Utf8.encode t) := by
  have hequal : Equivalent ['\u1EC7', '\uAC01']
      ['e', '\u0302', '\u0323', '\u1100', '\u1161', '\u11A8'] := by
    decide +kernel
  have hfits : fits 0 (canonical ['\u1EC7', '\uAC01']) = true := by
    decide +kernel
  exact ⟨hequal, hfits, ofNormalized_eq_of_equivalent hequal hfits⟩

/-- A run of thirty-one marks is divided before its last mark as written, also where the canonical
order moves this mark to the front. -/
theorem ofNormalized_ne_of_long_run :
    let s := 'a' :: (List.replicate 30 '\u0316' ++ ['\u0301'])
    let t := 'a' :: '\u0301' :: List.replicate 30 '\u0316'
    Equivalent s t ∧ ofNormalized (Utf8.encode s) ≠ ofNormalized (Utf8.encode t) := by
  refine ⟨by decide +kernel, ?_⟩
  rw [ofNormalized, ofNormalized, normalize_encode, normalize_encode]
  decide +kernel

end TextWalk.Buffer
