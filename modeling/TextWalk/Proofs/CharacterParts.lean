import TextWalk.Normal.Segment

/-!
How characters come apart. Main statement: a character is taken apart into extenders alone, or into
a starter that opens a segment with extenders after it; only the stacked consonants of Tibetan come
apart into two starters, and these compose with nothing.
-/
namespace TextWalk.Normal

def isSole (c : Nat) : Bool := soleExtenders.any fun r => r.1 ≤ c && c ≤ r.2

def joins (c : Nat) : Bool := isSole c || isExtender c

def stacked : List (Nat × Nat × Nat) :=
  [(0x0F43, 0x0F42, 0x0FB7), (0x0F4D, 0x0F4C, 0x0FB7), (0x0F52, 0x0F51, 0x0FB7),
   (0x0F57, 0x0F56, 0x0FB7), (0x0F5C, 0x0F5B, 0x0FB7), (0x0F69, 0x0F40, 0x0FB5),
   (0x0F93, 0x0F92, 0x0FB7), (0x0F9D, 0x0F9C, 0x0FB7), (0x0FA2, 0x0FA1, 0x0FB7),
   (0x0FA7, 0x0FA6, 0x0FB7), (0x0FAC, 0x0FAB, 0x0FB7), (0x0FB9, 0x0F90, 0x0FB5)]

def Inert (c : Nat) : Prop := ∀ d, composite? c d = none ∧ Hangul.compose? c d = none

section Blocks

-- Whole blocks are kept apart in the tables, so that no character has to be looked up by itself.

def InSoleBlock (c : Nat) : Prop := 0x3133 ≤ c ∧ c ≤ 0x3163 ∨ 0xFF9E ≤ c ∧ c ≤ 0xFFDC

def InTibetan (c : Nat) : Prop := 0x0F40 ≤ c ∧ c ≤ 0x0FB9

instance (c : Nat) : Decidable (InSoleBlock c) := inferInstanceAs (Decidable (_ ∨ _))
instance (c : Nat) : Decidable (InTibetan c) := inferInstanceAs (Decidable (_ ∧ _))

/-- No composite has to do with the block of the stacked consonants. -/
theorem composites_blocks : ∀ entry ∈ composites,
    ¬ InSoleBlock entry.1 ∧ ¬ InTibetan entry.1 ∧ ¬ InSoleBlock entry.2.1 ∧
      ¬ InTibetan (entry.2.1 % 0x10000) ∧ ¬ InTibetan entry.2.2 := by
  decide +kernel

theorem replacements_blocks : ∀ entry ∈ replacements,
    ¬ InSoleBlock entry.1 ∧
      ((entry.2.tail.all isExtender = true ∧
          ∀ first ∈ entry.2.head?, ¬ InSoleBlock first ∧ first ∉ stacked.map (·.1)) ∨
        ∃ s ∈ stacked, entry = (s.1, [s.2.1, s.2.2])) := by
  decide +kernel

theorem ideographRuns_blocks : ∀ run ∈ ideographRuns,
    (0x3163 < run.1 ∧ run.1 + run.2.length ≤ 0xFF9E ∨ 0xFFDC < run.1) ∧
      ∀ c ∈ run.2, ¬ InSoleBlock c ∧ ¬ InTibetan c := by
  decide +kernel

/-- The parts of a stacked consonant are starters, and the first one has no replacement. -/
theorem stacked_blocks : ∀ s ∈ stacked,
    InTibetan s.1 ∧ InTibetan s.2.1 ∧ InTibetan s.2.2 ∧ combiningClass s.2.1 = 0 ∧
      combiningClass s.2.2 = 0 ∧ ∀ entry ∈ replacements, entry.1 ≠ s.2.1 := by
  decide +kernel

end Blocks

section Lookup

variable {c : Nat}

theorem inSoleBlock_of_isSole (h : isSole c = true) : InSoleBlock c := by
  have hranges : ∀ r ∈ soleExtenders, InSoleBlock r.1 ∧ InSoleBlock r.2 ∧
      (r.2 ≤ 0x3163 ∨ 0xFF9E ≤ r.1) := by decide
  obtain ⟨r, hr, hc⟩ := List.any_eq_true.mp h
  simp only [Bool.and_eq_true, decide_eq_true_eq] at hc
  have hblock := hranges r hr
  simp only [InSoleBlock] at hblock ⊢
  omega

theorem isSole_eq_false (h : ¬ InSoleBlock c) : isSole c = false :=
  Bool.eq_false_iff.mpr (mt inSoleBlock_of_isSole h)

theorem combinesBackward_eq_false (h : ∀ entry ∈ composites, entry.2.2 ≠ c) :
    combinesBackward c = false := by
  rw [combinesBackward, List.any_eq_false]
  intro entry hentry
  rw [beq_iff_eq]
  exact h entry hentry

/-- Where the parts of a character come from. -/
theorem parts?_eq_some {parts : List Nat} (h : parts? c = some parts) :
    (∃ a b, (c, a, b) ∈ composites ∧ parts = [a, b]) ∨ (c, parts) ∈ replacements ∨
      ∃ run ∈ ideographRuns, ∃ d, run.1 ≤ c ∧ run.2[c - run.1]? = some d ∧ parts = [d] := by
  rw [parts?] at h
  split at h
  · rename_i entry hfind
    have hkey := List.find?_some hfind
    rw [beq_iff_eq] at hkey
    left
    refine ⟨entry.2.1, entry.2.2, ?_, (Option.some.inj h).symm⟩
    rw [← hkey]
    exact List.mem_of_find?_eq_some hfind
  · split at h
    · rename_i entry hfind
      have hkey := List.find?_some hfind
      rw [beq_iff_eq] at hkey
      right
      left
      rw [← hkey, ← Option.some.inj h]
      exact List.mem_of_find?_eq_some hfind
    · obtain ⟨d, hd, rfl⟩ := Option.map_eq_some_iff.mp h
      rw [ideograph?] at hd
      obtain ⟨run, hrun, hd⟩ := List.exists_of_findSome?_eq_some hd
      right
      right
      by_cases hle : run.1 ≤ c
      · rw [if_pos hle] at hd
        exact ⟨run, hrun, d, hle, hd, rfl⟩
      · rw [if_neg hle] at hd
        exact absurd hd (by simp)

/-- A character spelled by a single extender is not taken apart. -/
theorem parts?_of_isSole (h : isSole c = true) : parts? c = none := by
  have hblock := inSoleBlock_of_isSole h
  apply Option.eq_none_iff_forall_ne_some.mpr
  intro parts hparts
  rcases parts?_eq_some hparts with ⟨a, b, hentry, -⟩ | hentry | ⟨run, hrun, d, hle, hd, -⟩
  · exact (composites_blocks _ hentry).1 hblock
  · exact (replacements_blocks _ hentry).1 hblock
  · have hlt := (List.getElem?_eq_some_iff.mp hd).1
    have hrange := (ideographRuns_blocks run hrun).1
    simp only [InSoleBlock] at hblock
    omega

theorem parts?_of_stacked {x y : Nat} (h : (c, x, y) ∈ stacked) : parts? x = none := by
  obtain ⟨-, hblock, -, -, -, hkeys⟩ := stacked_blocks _ h
  apply Option.eq_none_iff_forall_ne_some.mpr
  intro parts hparts
  rcases parts?_eq_some hparts with ⟨a, b, hentry, -⟩ | hentry | ⟨run, hrun, d, hle, -, -⟩
  · exact (composites_blocks _ hentry).2.1 hblock
  · exact hkeys _ hentry rfl
  · have hrange := (ideographRuns_blocks run hrun).1
    simp only [InTibetan] at hblock
    omega

theorem isExtender_of_mem_composites {a b : Nat} (h : (c, a, b) ∈ composites) :
    isExtender b = true := by
  have hback : combinesBackward b = true := by
    rw [combinesBackward, List.any_eq_true]
    exact ⟨_, h, beq_self_eq_true b⟩
  simp [isExtender, hback]

theorem combiningClass_of_joins (h : joins c = false) : combiningClass c = 0 := by
  simp only [joins, isExtender, Bool.or_eq_false_iff, bne_eq_false_iff_eq] at h
  exact h.2.1.1.1

theorem joins_of_combiningClass (h : 0 < combiningClass c) : joins c = true := by
  cases hjoins : joins c with
  | true => rfl
  | false =>
    rw [combiningClass_of_joins hjoins] at h
    exact absurd h (Nat.lt_irrefl 0)

end Lookup

section Shape

/-- Characters taken apart: a first one, which is new unless the character stays whole, and
extenders after it. -/
def HasTail (c : Nat) (ds : List Nat) : Prop :=
  ∃ d tail, ds = d :: tail ∧ (∀ e ∈ tail, isExtender e = true) ∧ (ds = [c] ∨ isSole d = false)

theorem HasTail.self (c : Nat) : HasTail c [c] := ⟨c, [], rfl, by simp, Or.inl rfl⟩

/-- A step of taking apart goes on with the first part and leaves extenders behind. -/
theorem HasTail.append {c first : Nat} {ds rest : List Nat} (h : HasTail first ds)
    (hfirst : ¬ InSoleBlock first) (hrest : ∀ e ∈ rest, isExtender e = true) :
    HasTail c (ds ++ rest) := by
  obtain ⟨d, tail, rfl, htail, hsole⟩ := h
  refine ⟨d, tail ++ rest, List.cons_append, ?_, Or.inr ?_⟩
  · intro e he
    rcases List.mem_append.mp he with he | he
    · exact htail e he
    · exact hrest e he
  · rcases hsole with hself | hsole
    · obtain ⟨rfl, -⟩ := List.cons.inj hself
      exact isSole_eq_false hfirst
    · exact hsole

theorem expand_of_parts?_eq_none {c : Nat} (h : parts? c = none) (n : Nat) : expand n c = [c] := by
  cases n with
  | zero => rfl
  | succ n => simp only [expand, h]

/-- In any number of steps a character comes apart into a first one and extenders, stacked
consonants aside. -/
theorem hasTail_expand (n c : Nat) :
    HasTail c (expand n c) ∨ ∃ x y, (c, x, y) ∈ stacked ∧ expand n c = [x, y] := by
  induction n generalizing c with
  | zero => exact Or.inl (HasTail.self c)
  | succ n ih =>
    -- The first part is taken apart further; it is no stacked consonant.
    have hstep (first : Nat) (rest : List Nat) (hparts : parts? c = some (first :: rest))
        (hfirst : ¬ InSoleBlock first ∧ first ∉ stacked.map (·.1))
        (hrest : ∀ e ∈ rest, isExtender e = true) : HasTail c (expand (n + 1) c) := by
      rw [expand, hparts]
      rcases ih first with htail | ⟨x, y, hmem, -⟩
      · exact htail.append hfirst.1 hrest
      · exact absurd (List.mem_map_of_mem hmem) hfirst.2
    have hblock (first : Nat) (h : ¬ InTibetan first) : first ∉ stacked.map (·.1) := by
      intro hmem
      obtain ⟨s, hs, rfl⟩ := List.mem_map.mp hmem
      exact h (stacked_blocks s hs).1
    cases hparts : parts? c with
    | none =>
      rw [expand_of_parts?_eq_none hparts]
      exact Or.inl (HasTail.self c)
    | some parts =>
      rcases parts?_eq_some hparts with ⟨a, b, hentry, rfl⟩ | hentry | ⟨run, hrun, d, -, hd, rfl⟩
      · obtain ⟨-, -, hsole, htibetan, -⟩ := composites_blocks _ hentry
        have ha : ¬ InTibetan a := by
          simp only [InTibetan] at htibetan ⊢
          omega
        exact Or.inl (hstep a [b] hparts ⟨hsole, hblock a ha⟩
          (by simpa using isExtender_of_mem_composites hentry))
      · rcases (replacements_blocks _ hentry).2 with ⟨htail, hfirst⟩ | ⟨s, hs, hpair⟩
        · cases parts with
          | nil =>
            rw [expand, hparts]
            exact Or.inl (HasTail.self c)
          | cons first rest =>
            exact Or.inl (hstep first rest hparts (hfirst first rfl) (List.all_eq_true.mp htail))
        · obtain ⟨rfl, rfl⟩ := Prod.mk.inj hpair
          refine Or.inr ⟨s.2.1, s.2.2, hs, ?_⟩
          rw [expand, hparts]
          simp only [expand_of_parts?_eq_none (parts?_of_stacked hs), List.singleton_append]
      · have hmem := List.mem_of_getElem? hd
        have hfacts := (ideographRuns_blocks run hrun).2 d hmem
        exact Or.inl (hstep d [] hparts ⟨hfacts.1, hblock d hfacts.2⟩ (by simp))

section Syllable

open Hangul

theorem hasTail_decompose_of_isSyllable {c : Nat} (h : isSyllable c = true) :
    HasTail c (Hangul.decompose c) := by
  rw [isSyllable_iff] at h
  have hlead : isSole (leadBase + (c - syllableBase) / (vowelCount * trailCount)) = false := by
    apply isSole_eq_false
    simp only [InSoleBlock, leadBase, syllableBase, vowelCount, trailCount]
    omega
  have hvowel :
      isVowel (vowelBase + (c - syllableBase) % (vowelCount * trailCount) / trailCount) = true := by
    rw [isVowel_iff, vowelBase, vowelCount, trailCount]
    omega
  rw [Hangul.decompose]
  by_cases hopen : (c - syllableBase) % trailCount = 0
  · refine ⟨_, _, if_pos hopen, ?_, Or.inr hlead⟩
    simp [isExtender, hvowel]
  · have htrail : isTrail (trailBase + (c - syllableBase) % trailCount) = true := by
      rw [trailCount] at hopen
      rw [isTrail_iff, trailBase, trailCount]
      omega
    refine ⟨_, _, if_neg hopen, ?_, Or.inr hlead⟩
    simp [isExtender, hvowel, htrail]

end Syllable

/-- The same holds of the full decomposition. -/
theorem hasTail_decomposeCode (c : Nat) :
    HasTail c (decomposeCode c) ∨ ∃ x y, (c, x, y) ∈ stacked ∧ decomposeCode c = [x, y] := by
  by_cases h : Hangul.isSyllable c = true
  · rw [decomposeCode, if_pos h]
    exact Or.inl (hasTail_decompose_of_isSyllable h)
  · rw [decomposeCode, if_neg h]
    exact hasTail_expand depth c

end Shape

section Apart

inductive Apart (c : Nat) : Prop where
  | extending (hcount : leadingExtenders c = (decomposeCode c).length)
      (hne : decomposeCode c ≠ []) (hjoins : ∀ e ∈ decomposeCode c, joins e = true)
  | opening (d : Nat) (tail : List Nat) (hparts : decomposeCode c = d :: tail)
      (hstart : joins d = false) (hjoins : ∀ e ∈ tail, joins e = true)
      (hlead : leadingExtenders c = 0)
      (htrail : trailingExtenders c = spelledCount d + tail.length)
  | stacking (x y : Nat) (hparts : decomposeCode c = [x, y])
      (hx : joins x = false) (hy : joins y = false) (hxi : Inert x) (hyi : Inert y)
      (hlead : leadingExtenders c = 0) (htrail : trailingExtenders c = spelledCount y)

theorem joins_of_inTibetan {c : Nat} (h : InTibetan c) (hclass : combiningClass c = 0) :
    isExtender c = false ∧ joins c = false := by
  have hsole : isSole c = false := by
    apply isSole_eq_false
    simp only [InSoleBlock, InTibetan] at h ⊢
    omega
  have hback : combinesBackward c = false := by
    apply combinesBackward_eq_false
    rintro entry hentry rfl
    exact (composites_blocks entry hentry).2.2.2.2 h
  have hvowel : Hangul.isVowel c = false := by
    rw [Bool.eq_false_iff, ne_eq, Hangul.isVowel_iff]
    simp only [InTibetan] at h
    omega
  have htrail : Hangul.isTrail c = false := by
    rw [Bool.eq_false_iff, ne_eq, Hangul.isTrail_iff]
    simp only [InTibetan] at h
    omega
  have hext : isExtender c = false := by simp [isExtender, hclass, hback, hvowel, htrail]
  exact ⟨hext, by simp [joins, hsole, hext]⟩

/-- Nothing in the block of the stacked consonants composes with what follows it. -/
theorem inert_of_inTibetan {c : Nat} (h : InTibetan c) : Inert c := by
  intro d
  have hrange : 0x0F40 ≤ c ∧ c ≤ 0x0FB9 := h
  constructor
  · -- The tables are looked up by the low sixteen bits, which are all of a code in this block.
    have hkeep : c % 0x10000 = c := by omega
    rw [composite?, Option.map_eq_none_iff, List.find?_eq_none]
    intro entry hentry hkey
    simp only [Bool.and_eq_true, beq_iff_eq] at hkey
    apply (composites_blocks entry hentry).2.2.2.1
    rwa [hkey.1, hkeep]
  · have hlead : Hangul.isLead c = false := by
      rw [Bool.eq_false_iff, ne_eq, Hangul.isLead_iff]
      omega
    have hsyllable : Hangul.isSyllable c = false := by
      rw [Bool.eq_false_iff, ne_eq, Hangul.isSyllable_iff]
      omega
    simp [Hangul.compose?, hlead, hsyllable]

theorem leadingExtenders_of_not_isSole {c : Nat} (h : isSole c = false) :
    leadingExtenders c = ((decomposeCode c).takeWhile isExtender).length := by
  have hcond : ¬ isSole c = true := Bool.eq_false_iff.mp h
  exact if_neg hcond

/-- The extenders at the end of a character, behind its last part that is none. -/
theorem trailingExtenders_of_parts {c d : Nat} {front tail : List Nat}
    (hparts : decomposeCode c = front ++ d :: tail) (hd : isExtender d = false)
    (htail : ∀ e ∈ tail, isExtender e = true) :
    trailingExtenders c = spelledCount d + tail.length := by
  have hback : (decomposeCode c).reverse = tail.reverse ++ d :: front.reverse := by
    simp [hparts]
  have hrev : ∀ e ∈ tail.reverse, isExtender e = true := by simpa using htail
  have htake : (decomposeCode c).reverse.takeWhile isExtender = tail.reverse := by
    rw [hback, List.takeWhile_append_of_pos hrev]
    simp [hd]
  have hdrop : (decomposeCode c).reverse.dropWhile isExtender = d :: front.reverse := by
    rw [hback, List.dropWhile_append_of_pos hrev]
    simp [hd]
  simp only [trailingExtenders, htake, hdrop, List.length_reverse]
  exact Nat.add_comm _ _

/-- Every character comes apart in one of these ways. -/
theorem apart (c : Nat) : Apart c := by
  by_cases hsole : isSole c = true
  · have hself : decomposeCode c = [c] := by
      have hblock := inSoleBlock_of_isSole hsole
      have hsyllable : ¬ Hangul.isSyllable c = true := by
        rw [Hangul.isSyllable_iff]
        simp only [InSoleBlock] at hblock
        omega
      rw [decomposeCode, if_neg hsyllable, expand_of_parts?_eq_none (parts?_of_isSole hsole)]
    have hcount : leadingExtenders c = 1 := if_pos hsole
    apply Apart.extending
    · rw [hcount, hself]
      rfl
    · simp [hself]
    · simp [hself, joins, hsole]
  · rw [Bool.not_eq_true] at hsole
    rcases hasTail_decomposeCode c with ⟨d, tail, hparts, htail, hd⟩ | ⟨x, y, hmem, hparts⟩
    · have hjoins : ∀ e ∈ tail, joins e = true := by
        intro e he
        simp [joins, htail e he]
      by_cases hext : isExtender d = true
      · -- The first part is an extender as well, so that all of them are.
        have hall : ∀ e ∈ decomposeCode c, isExtender e = true := by
          rw [hparts]
          exact List.forall_mem_cons.mpr ⟨hext, htail⟩
        apply Apart.extending
        · have htake : (decomposeCode c ++ []).takeWhile isExtender = decomposeCode c ++ [] :=
            List.takeWhile_append_of_pos hall
          rw [List.append_nil] at htake
          rw [leadingExtenders_of_not_isSole hsole, htake]
        · simp [hparts]
        · intro e he
          simp [joins, hall e he]
      · rw [Bool.not_eq_true] at hext
        have hnew : isSole d = false := by
          rcases hd with hself | hd
          · rw [hparts] at hself
            rwa [(List.cons.inj hself).1]
          · exact hd
        have hlast : decomposeCode c = [] ++ d :: tail := hparts
        refine Apart.opening d tail hparts (by simp [joins, hnew, hext]) hjoins ?_
          (trailingExtenders_of_parts hlast hext htail)
        rw [leadingExtenders_of_not_isSole hsole, hparts]
        simp [hext]
    · obtain ⟨-, hx, hy, hxclass, hyclass, -⟩ := stacked_blocks _ hmem
      obtain ⟨hxext, hxjoins⟩ := joins_of_inTibetan hx hxclass
      obtain ⟨hyext, hyjoins⟩ := joins_of_inTibetan hy hyclass
      have hlast : decomposeCode c = [x] ++ y :: [] := hparts
      refine Apart.stacking x y hparts hxjoins hyjoins (inert_of_inTibetan hx)
        (inert_of_inTibetan hy) ?_ (trailingExtenders_of_parts hlast hyext (by simp))
      rw [leadingExtenders_of_not_isSole hsole, hparts]
      simp [hxext]

end Apart

end TextWalk.Normal
