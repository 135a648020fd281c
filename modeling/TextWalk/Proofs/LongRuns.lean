import TextWalk.Proofs.Recomposition

namespace TextWalk.Normal

section Joiner

/-- The joiner is whole and opens a segment that has no extenders yet. -/
theorem joiner_opens :
    joins joiner = false ∧ decomposeCode joiner = [joiner] ∧ leadingExtenders joiner = 0 ∧
      trailingExtenders joiner = 0 ∧ spelledCount joiner = 0 := by
  decide +kernel

theorem joins_joiner : joins joiner = false := joiner_opens.1

theorem decomposeCode_joiner : decomposeCode joiner = [joiner] := joiner_opens.2.1

theorem combiningClass_joiner : combiningClass joiner = 0 := combiningClass_of_joins joins_joiner

theorem order_append_joiner (cs : List Nat) : order (cs ++ [joiner]) = order cs ++ [joiner] :=
  order_append_cons combiningClass_joiner cs []

/-- No host takes a joiner up. -/
theorem takes?_joiner (s : Composing) : s.takes? joiner = none := by
  have hback : combinesBackward joiner = false := by
    have hjoins := joins_joiner
    simp only [joins, isExtender, Bool.or_eq_false_iff] at hjoins
    exact hjoins.2.1.1.2
  have hhangul (a : Nat) : Hangul.compose? a joiner = none := by
    have hvowel : Hangul.isVowel joiner = false := rfl
    have htrail : Hangul.isTrail joiner = false := rfl
    simp [Hangul.compose?, hvowel, htrail]
  rw [Composing.takes?, hback, Bool.or_false]
  split
  · rename_i hsyllabic
    rw [Composing.compose?, Composing.syllabic_rehost, if_pos hsyllabic, hhangul, ite_self]
  · rfl

theorem compose_append_joiner (cs : List Nat) : compose (cs ++ [joiner]) = compose cs ++ [joiner] := by
  cases cs with
  | nil => rfl
  | cons c cs =>
    rw [List.cons_append, compose, List.foldl_append, List.foldl_cons, List.foldl_nil,
      toList_add_of_takes?_eq_none (takes?_joiner _), compose]

end Joiner

section Guarded

variable {c run : Nat}

def guarded (run : Nat) (cs : List Nat) : List Nat := (cut run cs).1 ++ (cut run cs).2.flatten

theorem cut_of_full (hne : leadingExtenders c ≠ 0) (hrun : longestRun < run + leadingExtenders c)
    (cs : List Nat) :
    cut run (c :: cs) = ([joiner],
      (c :: (cut (leadingExtenders c) cs).1) :: (cut (leadingExtenders c) cs).2) := by
  simp only [cut, if_neg hne, if_pos hrun]

theorem guarded_of_opening (h : leadingExtenders c = 0) (run : Nat) (cs : List Nat) :
    guarded run (c :: cs) = c :: guarded (trailingExtenders c) cs := by
  rw [guarded, cut_of_opening h]
  rfl

theorem guarded_of_extending (hne : leadingExtenders c ≠ 0)
    (hrun : run + leadingExtenders c ≤ longestRun) (cs : List Nat) :
    guarded run (c :: cs) = c :: guarded (run + leadingExtenders c) cs := by
  rw [guarded, cut_of_extending hne hrun]
  rfl

/-- Before a character that would overfill the run a joiner is put in. -/
theorem guarded_of_full (hne : leadingExtenders c ≠ 0)
    (hrun : longestRun < run + leadingExtenders c) (cs : List Nat) :
    guarded run (c :: cs) = joiner :: c :: guarded (leadingExtenders c) cs := by
  rw [guarded, cut_of_full hne hrun]
  rfl

theorem mem_guarded {cs : List Nat} (h : c ∈ guarded run cs) : c ∈ cs ∨ c = joiner := by
  induction cs generalizing run with
  | nil => exact absurd h (by simp [guarded, cut])
  | cons d cs ih =>
    have hlater {r : Nat} (h : c ∈ d :: guarded r cs) : c ∈ d :: cs ∨ c = joiner := by
      rcases List.mem_cons.mp h with rfl | h
      · exact Or.inl List.mem_cons_self
      · exact (ih h).imp_left (List.mem_cons_of_mem d)
    by_cases hlead : leadingExtenders d = 0
    · rw [guarded_of_opening hlead] at h
      exact hlater h
    rcases Nat.lt_or_ge longestRun (run + leadingExtenders d) with hfull | hroom
    · rw [guarded_of_full hlead hfull] at h
      rcases List.mem_cons.mp h with rfl | h
      · exact Or.inr rfl
      · exact hlater h
    · rw [guarded_of_extending hlead hroom] at h
      exact hlater h

/-- Extenders in front take up room in the run. -/
theorem fits_append {front ds : List Nat} (hfront : ∀ e ∈ front, joins e = true)
    (hrun : run + front.length ≤ longestRun) (h : fits (run + front.length) ds = true) :
    fits run (front ++ ds) = true := by
  induction front generalizing run with
  | nil => exact h
  | cons e front ih =>
    obtain ⟨he, hfront⟩ := List.forall_mem_cons.mp hfront
    have hlength : run + (e :: front).length = run + 1 + front.length := by
      rw [List.length_cons]
      omega
    rw [hlength] at hrun h
    rw [List.cons_append, fits_cons_of_joins he, Bool.and_eq_true, decide_eq_true_eq]
    exact ⟨by omega, ih hfront hrun h⟩

/-- No character starts with more than four extenders. -/
theorem leadingExtenders_le (c : Nat) : leadingExtenders c ≤ 4 := by
  cases apart c with
  | extending hcount _ _ =>
    rw [hcount]
    exact length_decomposeCode_le c
  | opening _ _ _ _ _ hzero _ => omega
  | stacking _ _ _ _ _ _ _ hzero _ => omega

theorem spelledCount_le (c : Nat) : spelledCount c ≤ 2 := by
  have hcounts : ∀ entry ∈ spelledExtenders, entry.1 ≤ 2 := by decide
  rw [spelledCount]
  cases hfind : spelledExtenders.find? fun entry => entry.2.any fun r => r.1 ≤ c && c ≤ r.2 with
  | none => exact Nat.zero_le 2
  | some entry => exact hcounts entry (List.mem_of_find?_eq_some hfind)

/-- With its joiners a text has no run that is too long. -/
theorem fits_guarded (cs : List Nat) (hrun : run ≤ longestRun) :
    fits run (decompose (guarded run cs)) = true := by
  have hlongest : longestRun = 30 := rfl
  induction cs generalizing run with
  | nil => rfl
  | cons c cs ih =>
    -- No character is long enough to fill a run by itself.
    have hfour := length_decomposeCode_le c
    cases apart c with
    | extending hcount hne hjoins =>
      have hzero : leadingExtenders c ≠ 0 := by
        rw [hcount]
        exact mt List.length_eq_zero_iff.mp hne
      rcases Nat.lt_or_ge longestRun (run + leadingExtenders c) with hfull | hroom
      · rw [guarded_of_full hzero hfull, decompose_cons, decomposeCode_joiner,
          List.singleton_append, fits_cons_of_not_joins joins_joiner, joiner_opens.2.2.2.2,
          decompose_cons]
        apply fits_append hjoins
        · omega
        · rw [Nat.zero_add, ← hcount]
          exact ih (by omega)
      · rw [guarded_of_extending hzero hroom, decompose_cons]
        rw [hcount] at hroom ⊢
        exact fits_append hjoins hroom (ih hroom)
    | opening d tail hparts hstart hjoins hlead htrail =>
      have hspelled := spelledCount_le d
      rw [hparts, List.length_cons] at hfour
      rw [guarded_of_opening hlead, decompose_cons, hparts, List.cons_append,
        fits_cons_of_not_joins hstart, htrail]
      exact fits_append hjoins (by omega) (ih (by omega))
    | stacking x y hparts hx hy hxi hyi hlead htrail =>
      have hspelled := spelledCount_le y
      rw [guarded_of_opening hlead, decompose_cons, hparts, List.cons_append, List.singleton_append,
        fits_cons_of_not_joins hx, fits_cons_of_not_joins hy, htrail]
      exact ih (by omega)

end Guarded

section Forms

def segmentForm (segment : List Nat) : List Nat := compose (order (decompose segment))

def segmentFaithful (segment : List Nat) : Bool := composesFaithfully (order (decompose segment))

/-- A joiner at the end stays where it is when a text is taken apart. -/
theorem decompose_append_joiner (cs : List Nat) :
    decompose (cs ++ [joiner]) = decompose cs ++ [joiner] := by
  have hself : decompose [joiner] = [joiner] := by
    rw [decompose_cons, decomposeCode_joiner]
    rfl
  rw [decompose_append, hself]

theorem segmentForm_append_joiner (cs : List Nat) :
    segmentForm (cs ++ [joiner]) = segmentForm cs ++ [joiner] := by
  rw [segmentForm, decompose_append_joiner, order_append_joiner, compose_append_joiner, segmentForm]

theorem segmentFaithful_of_append_joiner {cs : List Nat}
    (h : segmentFaithful (cs ++ [joiner]) = true) : segmentFaithful cs = true := by
  rw [segmentFaithful, decompose_append_joiner, order_append_joiner] at h
  rw [segmentFaithful]
  cases hcs : order (decompose cs) with
  | nil => rfl
  | cons d ds =>
    rw [hcs, List.cons_append] at h
    exact Composing.runsFaithfully_of_append h

theorem joins_of_mem_decompose {cs : List Nat} (h : ∀ c ∈ cs, leadingExtenders c ≠ 0) :
    ∀ d ∈ decompose cs, joins d = true := by
  intro d hd
  obtain ⟨c, hc, hd⟩ := List.mem_flatMap.mp hd
  cases apart c with
  | extending hcount hne hjoins => exact hjoins d hd
  | opening _ _ _ _ _ hlead _ => exact absurd hlead (h c hc)
  | stacking _ _ _ _ _ _ _ hlead _ => exact absurd hlead (h c hc)

/-- A joiner can stand before extenders as well as at the end of the segment before them. -/
theorem segmentForm_joiner_cons {cs : List Nat} (hcs : ∀ c ∈ cs, leadingExtenders c ≠ 0)
    (h : segmentFaithful cs = true) : segmentForm (joiner :: cs) = joiner :: segmentForm cs := by
  have hmem (d : Nat) (hd : d ∈ order (decompose cs)) : d ∈ decompose cs :=
    (order_perm _).mem_iff.mp hd
  have hjoins : ∀ d ∈ order (decompose cs), joins d = true :=
    fun d hd => joins_of_mem_decompose hcs d (hmem d hd)
  have hwhole : ∀ d ∈ order (decompose cs), Whole d :=
    fun d hd => whole_of_mem_decompose (hmem d hd)
  rw [segmentForm, decompose_cons, decomposeCode_joiner, List.singleton_append, order_cons,
    insertMark_of_starter combiningClass_joiner, compose_joiner_cons hjoins, segmentForm,
    compose_of_joins hjoins hwhole h]

/-- How the segments of a text with its joiners differ from those of the text: a joiner at the end of
a segment goes to the front of the next one. -/
structure Recut (before after : List Nat × List (List Nat)) : Prop where
  own : before.1 = after.1 ∨ before.1 = after.1 ++ [joiner]
  extenders : ∀ c ∈ after.1, leadingExtenders c ≠ 0
  forms : ∀ front, segmentForm (front ++ before.1) ++ before.2.flatMap segmentForm =
    segmentForm (front ++ after.1) ++ after.2.flatMap segmentForm

section Step

variable {before after : List Nat × List (List Nat)} {c : Nat}

theorem Recut.opening (h : Recut before after) (c : Nat) :
    Recut ([], (c :: before.1) :: before.2) ([], (c :: after.1) :: after.2) := by
  refine ⟨Or.inl rfl, by simp, ?_⟩
  intro front
  rw [List.flatMap_cons, List.flatMap_cons]
  exact congrArg (segmentForm (front ++ []) ++ ·) (h.forms [c])

theorem Recut.extending (h : Recut before after) (hc : leadingExtenders c ≠ 0) :
    Recut (c :: before.1, before.2) (c :: after.1, after.2) := by
  refine ⟨?_, List.forall_mem_cons.mpr ⟨hc, h.extenders⟩, ?_⟩
  · exact h.own.imp (congrArg (List.cons c)) (congrArg (List.cons c))
  · intro front
    have hforms := h.forms (front ++ [c])
    rwa [List.append_assoc, List.append_assoc, List.singleton_append, List.singleton_append]
      at hforms

/-- The joiner that ended the open segment opens the next one. -/
theorem Recut.full (h : Recut before after) (hc : leadingExtenders c ≠ 0)
    (hfaithful : segmentFaithful (c :: before.1) = true) :
    Recut ([joiner], (c :: before.1) :: before.2) ([], (joiner :: c :: after.1) :: after.2) := by
  have hfaithful' : segmentFaithful (c :: after.1) = true := by
    rcases h.own with hsame | hjoiner
    · rwa [hsame] at hfaithful
    · rw [hjoiner, ← List.cons_append] at hfaithful
      exact segmentFaithful_of_append_joiner hfaithful
  have hnext : segmentForm (joiner :: c :: after.1) = joiner :: segmentForm (c :: after.1) :=
    segmentForm_joiner_cons (List.forall_mem_cons.mpr ⟨hc, h.extenders⟩) hfaithful'
  refine ⟨Or.inr rfl, by simp, ?_⟩
  intro front
  have hforms : segmentForm (c :: before.1) ++ before.2.flatMap segmentForm =
      segmentForm (c :: after.1) ++ after.2.flatMap segmentForm := h.forms [c]
  simp only [List.flatMap_cons, segmentForm_append_joiner, hnext, List.append_nil,
    List.append_assoc, List.cons_append, List.nil_append, hforms]

end Step

/-- The joiners of a guarded text are those that cutting the text puts in. -/
theorem recut_guarded (run : Nat) (cs : List Nat)
    (h : ∀ segment ∈ (cut run cs).2, segmentFaithful segment = true) :
    Recut (cut run cs) (cut run (guarded run cs)) := by
  induction cs generalizing run with
  | nil => exact ⟨Or.inl rfl, by simp [guarded, cut], fun _ => rfl⟩
  | cons c cs ih =>
    by_cases hlead : leadingExtenders c = 0
    · rw [cut_of_opening hlead] at h
      have hrest := ih _ (List.forall_mem_cons.mp h).2
      rw [guarded_of_opening hlead, cut_of_opening hlead, cut_of_opening hlead]
      exact hrest.opening c
    rcases Nat.lt_or_ge longestRun (run + leadingExtenders c) with hfull | hroom
    · rw [cut_of_full hlead hfull] at h
      obtain ⟨hsegment, hsegments⟩ := List.forall_mem_cons.mp h
      have hrest := ih _ hsegments
      -- After the joiner the run starts anew, so that the character has room there.
      have hfew : 0 + leadingExtenders c ≤ longestRun := by
        have hfour := leadingExtenders_le c
        have hlongest : longestRun = 30 := rfl
        omega
      rw [guarded_of_full hlead hfull, cut_of_full hlead hfull,
        cut_of_opening joiner_opens.2.2.1, joiner_opens.2.2.2.1,
        cut_of_extending hlead hfew, Nat.zero_add]
      exact hrest.full hlead hsegment
    · rw [cut_of_extending hlead hroom] at h
      have hrest := ih _ h
      rw [guarded_of_extending hlead hroom, cut_of_extending hlead hroom,
        cut_of_extending hlead hroom]
      exact hrest.extending hlead

/-- A text in which each composite is made of its own two parts, with only marks of lower class
between them. -/
def isFaithful (cs : List Nat) : Bool := (segments cs).all segmentFaithful

theorem normalizeCodes_eq_cut (cs : List Nat) :
    normalizeCodes cs = segmentForm (cut 0 cs).1 ++ (cut 0 cs).2.flatMap segmentForm := rfl

/-- The joiners do not change the normal form. -/
theorem normalizeCodes_guarded {cs : List Nat} (h : isFaithful cs = true) :
    normalizeCodes (guarded 0 cs) = normalizeCodes cs := by
  have hall := List.all_eq_true.mp h
  have hrecut := recut_guarded 0 cs fun segment hmem => hall segment (List.mem_cons_of_mem _ hmem)
  rw [normalizeCodes_eq_cut, normalizeCodes_eq_cut]
  exact (hrecut.forms []).symm

end Forms

end TextWalk.Normal
