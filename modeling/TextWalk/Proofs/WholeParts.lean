import Mathlib.Data.List.Nodup
import TextWalk.Proofs.CharacterParts

/-!
How far characters come apart. Main statements: what a character is taken apart into cannot be
taken apart again, and a composite comes apart into the decomposition of its first part and its
second part. Characters that extend others compose with nothing after them, unless they are marks.
-/
namespace TextWalk.Normal

section CodeSet

-- To look each entry of a table up in another one takes a step for each pair of entries. As the bits
-- of two numbers the tables are compared at once.

def codeSet (cs : List Nat) : Nat := cs.foldr (fun c set => set ||| 1 <<< c) 0

/-- A code is in a set exactly if its bit is set. -/
theorem testBit_codeSet (cs : List Nat) (c : Nat) : (codeSet cs).testBit c = decide (c ∈ cs) := by
  induction cs with
  | nil => simp [codeSet]
  | cons d ds ih =>
    have hstep : codeSet (d :: ds) = codeSet ds ||| 1 <<< d := rfl
    have hsame : decide (d = c) = decide (c = d) := decide_eq_decide.mpr eq_comm
    rw [hstep, Nat.testBit_or, ih, Nat.one_shiftLeft, Nat.testBit_two_pow, hsame, Bool.or_comm]
    simp

/-- Sets without a common bit have no common code. -/
theorem not_mem_of_and_eq_zero {cs ds : List Nat} {c : Nat} (h : codeSet cs &&& codeSet ds = 0)
    (hc : c ∈ cs) : c ∉ ds := by
  intro hd
  have hbit : (codeSet cs &&& codeSet ds).testBit c = true := by
    rw [Nat.testBit_and, testBit_codeSet, testBit_codeSet]
    simp [hc, hd]
  rw [h, Nat.zero_testBit] at hbit
  exact Bool.false_ne_true hbit

end CodeSet

section Tables

/-- The blocks of the composites, the replacements and all their parts: no consonant or vowel of
Hangul, no syllable and no ideograph is among them. -/
def InTables (c : Nat) : Prop :=
  c < 0x1100 ∨ 0x1200 ≤ c ∧ c < 0x3400 ∨ 0xFB00 ≤ c ∧ c < 0x20000

def InJamo (c : Nat) : Prop := 0x1100 ≤ c ∧ c < 0x1200

def InReplaced (c : Nat) : Prop := 0xF900 ≤ c ∧ c < 0xFB00 ∨ 0x2F800 ≤ c ∧ c < 0x2FA20

def InUnified (c : Nat) : Prop := 0x3400 ≤ c ∧ c < 0xA000 ∨ 0x20000 ≤ c ∧ c < 0x2F800

instance (c : Nat) : Decidable (InTables c) := inferInstanceAs (Decidable (_ ∨ _))
instance (c : Nat) : Decidable (InUnified c) := inferInstanceAs (Decidable (_ ∨ _))

/-- The low half of a code is no extender that stands alone, nor a vowel or trailing consonant of
Hangul, nor the joiner. -/
def HasFreeLowHalf (c : Nat) : Prop :=
  ¬ InSoleBlock (c % 0x10000) ∧ ¬ (0x1161 ≤ c % 0x10000 ∧ c % 0x10000 < 0x1200) ∧
    c % 0x10000 ≠ joiner

instance (c : Nat) : Decidable (HasFreeLowHalf c) := inferInstanceAs (Decidable (_ ∧ _))

/-- Composites and their parts lie in the blocks of the tables. -/
theorem composites_inTables : ∀ entry ∈ composites,
    InTables entry.1 ∧ InTables entry.2.1 ∧ InTables entry.2.2 ∧ HasFreeLowHalf entry.2.1 := by
  decide +kernel

theorem replacements_inTables : ∀ entry ∈ replacements,
    InTables entry.1 ∧ (∀ c ∈ entry.2, InTables c) ∧ entry.2 ≠ [] ∧ entry.2.length ≤ 2 := by
  decide +kernel

theorem ideographRuns_inUnified : ∀ run ∈ ideographRuns,
    (0xF900 ≤ run.1 ∧ run.1 + run.2.length ≤ 0xFB00 ∨
        0x2F800 ≤ run.1 ∧ run.1 + run.2.length ≤ 0x2FA20) ∧
      ∀ c ∈ run.2, InUnified c := by
  decide +kernel

def divided : List Nat := composites.map (·.1) ++ replacements.map (·.1)

def laterParts : List Nat := composites.map (·.2.2) ++ replacements.flatMap (·.2.tail)

def firstParts : List Nat := composites.map (·.2.1)

def firstSteps : List (Nat × Nat) :=
  composites.map (fun entry => (entry.1, entry.2.1)) ++
    replacements.map (fun entry => (entry.1, entry.2.headD 0))

def onward (cs : List Nat) : List Nat :=
  (firstSteps.filter fun step => (codeSet cs).testBit step.1).map (·.2)

theorem mem_onward {cs : List Nat} {c d : Nat} (hc : c ∈ cs) (hstep : (c, d) ∈ firstSteps) :
    d ∈ onward cs := by
  refine List.mem_map.mpr ⟨(c, d), List.mem_filter.mpr ⟨hstep, ?_⟩, rfl⟩
  rw [testBit_codeSet]
  exact decide_eq_true hc

/-- A later part has no parts, nor has the first part of a first part of a first part. No first part
of a composite has its low half in common with a second part. -/
theorem parts_disjoint :
    codeSet laterParts &&& codeSet divided = 0 ∧
      codeSet (onward (onward (firstSteps.map (·.2)))) &&& codeSet divided = 0 ∧
      codeSet (composites.map (·.2.2 % 0x10000)) &&& codeSet (firstParts.map (· % 0x10000)) = 0 := by
  decide +kernel

end Tables

section Whole

variable {c d : Nat}

theorem inTables_of_mem_divided (h : c ∈ divided) : InTables c := by
  rcases List.mem_append.mp h with h | h
  · obtain ⟨entry, hentry, rfl⟩ := List.mem_map.mp h
    exact (composites_inTables entry hentry).1
  · obtain ⟨entry, hentry, rfl⟩ := List.mem_map.mp h
    exact (replacements_inTables entry hentry).1

/-- The parts of a character, with where they stand in the tables. -/
theorem parts?_eq_cons {parts : List Nat} (h : parts? c = some parts) :
    ∃ first rest, parts = first :: rest ∧
      ((c, first) ∈ firstSteps ∧ InTables first ∨ InUnified first) ∧
      (∀ e ∈ rest, e ∈ laterParts ∧ InTables e) ∧ rest.length ≤ 1 := by
  rcases parts?_eq_some h with ⟨a, b, hentry, rfl⟩ | hentry | ⟨run, hrun, d, -, hd, rfl⟩
  · obtain ⟨-, ha, hb, -⟩ := composites_inTables _ hentry
    refine ⟨a, [b], rfl, Or.inl ⟨?_, ha⟩, ?_, Nat.le_refl 1⟩
    · exact List.mem_append_left _ (List.mem_map.mpr ⟨_, hentry, rfl⟩)
    · intro e he
      obtain rfl := List.mem_singleton.mp he
      exact ⟨List.mem_append_left _ (List.mem_map.mpr ⟨_, hentry, rfl⟩), hb⟩
  · obtain ⟨-, hblock, hne, hlength⟩ := replacements_inTables _ hentry
    obtain ⟨first, rest, rfl⟩ := List.exists_cons_of_ne_nil hne
    refine ⟨first, rest, rfl, Or.inl ⟨?_, hblock first List.mem_cons_self⟩, ?_,
      Nat.le_of_succ_le_succ hlength⟩
    · exact List.mem_append_right _ (List.mem_map.mpr ⟨_, hentry, rfl⟩)
    · intro e he
      refine ⟨List.mem_append_right _ ?_, hblock e (List.mem_cons_of_mem first he)⟩
      exact List.mem_flatMap.mpr ⟨_, hentry, he⟩
  · refine ⟨d, [], rfl, Or.inr ?_, by simp, Nat.zero_le 1⟩
    exact (ideographRuns_inUnified run hrun).2 d (List.mem_of_getElem? hd)

theorem parts?_eq_none (hdivided : c ∉ divided) (hreplaced : ¬ InReplaced c) :
    parts? c = none := by
  apply Option.eq_none_iff_forall_ne_some.mpr
  intro parts hparts
  rcases parts?_eq_some hparts with ⟨a, b, hentry, -⟩ | hentry | ⟨run, hrun, e, hle, he, -⟩
  · exact hdivided (List.mem_append_left _ (List.mem_map.mpr ⟨_, hentry, rfl⟩))
  · exact hdivided (List.mem_append_right _ (List.mem_map.mpr ⟨_, hentry, rfl⟩))
  · have hlt := (List.getElem?_eq_some_iff.mp he).1
    have hrange := (ideographRuns_inUnified run hrun).1
    apply hreplaced
    simp only [InReplaced]
    omega

theorem not_inReplaced (h : InTables c) : ¬ InReplaced c := by
  simp only [InTables, InReplaced] at h ⊢
  omega

theorem not_isSyllable (h : InTables c) : ¬ Hangul.isSyllable c = true := by
  rw [Hangul.isSyllable_iff]
  simp only [InTables] at h
  omega

theorem parts?_of_inUnified (h : InUnified c) : parts? c = none := by
  apply parts?_eq_none
  · intro hmem
    have hblock := inTables_of_mem_divided hmem
    simp only [InTables, InUnified] at h hblock
    omega
  · simp only [InUnified, InReplaced] at h ⊢
    omega

/-- Only first parts have parts again. -/
theorem parts?_of_mem_laterParts (h : c ∈ laterParts) (hblock : InTables c) : parts? c = none :=
  parts?_eq_none (not_mem_of_and_eq_zero parts_disjoint.1 h) (not_inReplaced hblock)

def Whole (c : Nat) : Prop := decomposeCode c = [c]

theorem whole_of_parts? (hsyllable : ¬ Hangul.isSyllable c = true) (h : parts? c = none) :
    Whole c := by
  rw [Whole, decomposeCode, if_neg hsyllable, expand_of_parts?_eq_none h]

theorem whole_of_inJamo (h : InJamo c) : Whole c := by
  simp only [InJamo] at h
  apply whole_of_parts?
  · rw [Hangul.isSyllable_iff]
    omega
  · apply parts?_eq_none
    · intro hmem
      have hblock := inTables_of_mem_divided hmem
      simp only [InTables] at hblock
      omega
    · simp only [InReplaced]
      omega

end Whole

section Depth

def Ends : Nat → Nat → Prop
  | 0, c => parts? c = none
  | n + 1, c => ∀ first rest, parts? c = some (first :: rest) → Ends n first

variable {c : Nat}

theorem ends_of_parts?_eq_none (n : Nat) (h : parts? c = none) : Ends n c := by
  cases n with
  | zero => exact h
  | succ n =>
    intro first rest hparts
    rw [h] at hparts
    cases hparts

/-- It is enough to follow the first parts that stand in the tables. -/
theorem ends_succ {n : Nat}
    (hstep : ∀ first, (c, first) ∈ firstSteps → InTables first → Ends n first) :
    Ends (n + 1) c := by
  intro first rest hparts
  obtain ⟨d, ds, heq, hfirst, -⟩ := parts?_eq_cons hparts
  obtain ⟨rfl, -⟩ := List.cons.inj heq
  rcases hfirst with ⟨hmem, hblock⟩ | hunified
  · exact hstep first hmem hblock
  · exact ends_of_parts?_eq_none n (parts?_of_inUnified hunified)

/-- A first part of the tables comes to its end in two more steps. -/
theorem ends_of_mem_firstSteps {d : Nat} (h : (c, d) ∈ firstSteps) : Ends 2 d := by
  -- Each further step goes to a smaller set of codes, and in the third one nothing is divided.
  have hfirst : d ∈ firstSteps.map (·.2) := List.mem_map.mpr ⟨(c, d), h, rfl⟩
  apply ends_succ
  intro e he _
  have hsecond := mem_onward hfirst he
  apply ends_succ
  intro f hf hblock
  have hthird := mem_onward hsecond hf
  exact parts?_eq_none (not_mem_of_and_eq_zero parts_disjoint.2.1 hthird) (not_inReplaced hblock)

/-- No character takes more than three steps to take apart. -/
theorem ends_depth (c : Nat) : Ends depth c := by
  apply ends_succ
  intro first hstep _
  exact ends_of_mem_firstSteps hstep

/-- Once a character is taken apart, a further step changes nothing. -/
theorem expand_succ_of_ends {n : Nat} (h : Ends n c) : expand (n + 1) c = expand n c := by
  induction n generalizing c with
  | zero =>
    have hnone : parts? c = none := h
    rw [expand_of_parts?_eq_none hnone, expand_of_parts?_eq_none hnone]
  | succ n ih =>
    rw [expand, expand]
    split
    · rename_i first rest hparts
      rw [ih (h first rest hparts)]
    · rfl

theorem expand_of_parts? {n first : Nat} {rest : List Nat} (h : parts? c = some (first :: rest)) :
    expand (n + 1) c = expand n first ++ rest := by
  simp only [expand, h]

/-- What a character is taken apart into has no parts. -/
theorem mem_expand {n d : Nat} (h : Ends n c) (hd : d ∈ expand n c) :
    parts? d = none ∧ (d = c ∨ InTables d ∨ InUnified d) := by
  induction n generalizing c with
  | zero =>
    obtain rfl := List.mem_singleton.mp hd
    exact ⟨h, Or.inl rfl⟩
  | succ n ih =>
    cases hparts : parts? c with
    | none =>
      rw [expand_of_parts?_eq_none hparts] at hd
      obtain rfl := List.mem_singleton.mp hd
      exact ⟨hparts, Or.inl rfl⟩
    | some parts =>
      obtain ⟨first, rest, rfl, hfirst, hrest, -⟩ := parts?_eq_cons hparts
      rw [expand_of_parts? hparts] at hd
      rcases List.mem_append.mp hd with hd | hd
      · obtain ⟨hnone, hplace⟩ := ih (h first rest hparts) hd
        refine ⟨hnone, Or.inr ?_⟩
        rcases hplace with rfl | hplace
        · exact hfirst.imp And.right id
        · exact hplace
      · obtain ⟨hlater, hblock⟩ := hrest d hd
        exact ⟨parts?_of_mem_laterParts hlater hblock, Or.inr (Or.inl hblock)⟩

theorem length_expand_le (n c : Nat) : (expand n c).length ≤ n + 1 := by
  induction n generalizing c with
  | zero => exact Nat.le_refl 1
  | succ n ih =>
    cases hparts : parts? c with
    | none =>
      rw [expand_of_parts?_eq_none hparts, List.length_singleton]
      omega
    | some parts =>
      obtain ⟨first, rest, rfl, -, -, hlength⟩ := parts?_eq_cons hparts
      have hfirst := ih first
      rw [expand_of_parts? hparts, List.length_append]
      omega

end Depth

section Decomposition

variable {c d : Nat}

theorem inJamo_of_mem_decompose (hc : Hangul.isSyllable c = true) (hd : d ∈ Hangul.decompose c) :
    InJamo d := by
  rw [InJamo]
  rw [Hangul.isSyllable_iff] at hc
  rw [Hangul.decompose] at hd
  by_cases hopen : (c - Hangul.syllableBase) % Hangul.trailCount = 0
  · simp only [if_pos hopen, List.mem_cons, List.not_mem_nil, or_false] at hd
    simp only [Hangul.leadBase, Hangul.vowelBase, Hangul.syllableBase, Hangul.vowelCount,
      Hangul.trailCount] at hd
    omega
  · simp only [if_neg hopen, List.cons_append, List.nil_append, List.mem_cons, List.not_mem_nil,
      or_false] at hd
    simp only [Hangul.leadBase, Hangul.vowelBase, Hangul.trailBase, Hangul.syllableBase,
      Hangul.vowelCount, Hangul.trailCount] at hd
    omega

/-- What a character is taken apart into is whole. -/
theorem mem_decomposeCode (h : d ∈ decomposeCode c) :
    Whole d ∧ (d = c ∨ InTables d ∨ InUnified d ∨ InJamo d) := by
  by_cases hc : Hangul.isSyllable c = true
  · rw [decomposeCode, if_pos hc] at h
    have hjamo := inJamo_of_mem_decompose hc h
    exact ⟨whole_of_inJamo hjamo, Or.inr (Or.inr (Or.inr hjamo))⟩
  · rw [decomposeCode, if_neg hc] at h
    obtain ⟨hnone, hplace⟩ := mem_expand (ends_depth c) h
    have hd : ¬ Hangul.isSyllable d = true := by
      rcases hplace with rfl | hblock | hblock
      · exact hc
      · exact not_isSyllable hblock
      · rw [Hangul.isSyllable_iff]
        simp only [InUnified] at hblock
        omega
    refine ⟨whole_of_parts? hd hnone, ?_⟩
    rcases hplace with hself | hblock | hblock
    · exact Or.inl hself
    · exact Or.inr (Or.inl hblock)
    · exact Or.inr (Or.inr (Or.inl hblock))

theorem whole_of_mem_decompose {cs : List Nat} (h : d ∈ decompose cs) : Whole d := by
  obtain ⟨c, -, hd⟩ := List.mem_flatMap.mp h
  exact (mem_decomposeCode hd).1

theorem length_decomposeCode_le (c : Nat) : (decomposeCode c).length ≤ 4 := by
  by_cases hc : Hangul.isSyllable c = true
  · rw [decomposeCode, if_pos hc, Hangul.decompose]
    split
    · simp
    · simp
  · rw [decomposeCode, if_neg hc]
    exact length_expand_le depth c

/-- The composites are listed in order, so that none has two entries. -/
theorem composites_increasing : (composites.map (·.1)).IsChain (· < ·) := by
  decide +kernel

/-- A composite comes apart into its two parts. -/
theorem parts?_of_mem_composites {k a b : Nat} (h : (k, a, b) ∈ composites) :
    parts? k = some [a, b] := by
  -- No code has two entries, so the one that is found first is the given one.
  have hnodup : (composites.map (·.1)).Nodup := by
    apply List.Pairwise.imp _ composites_increasing.pairwise
    exact Nat.ne_of_lt
  have hsome : (composites.find? (·.1 == k)).isSome = true := by
    rw [List.find?_isSome]
    exact ⟨_, h, beq_self_eq_true k⟩
  obtain ⟨entry, hfind⟩ := Option.isSome_iff_exists.mp hsome
  have hkey := List.find?_some hfind
  rw [beq_iff_eq] at hkey
  have hentry : entry = (k, a, b) :=
    List.inj_on_of_nodup_map hnodup (List.mem_of_find?_eq_some hfind) h hkey
  simp only [parts?, hfind, hentry]

/-- A composite comes apart as its first part does, with its second part after it. -/
theorem decomposeCode_of_mem_composites {k a b : Nat} (h : (k, a, b) ∈ composites) :
    decomposeCode k = decomposeCode a ++ [b] := by
  obtain ⟨hk, ha, -⟩ := composites_inTables _ h
  have hstep : (k, a) ∈ firstSteps :=
    List.mem_append_left _ (List.mem_map.mpr ⟨_, h, rfl⟩)
  rw [decomposeCode, decomposeCode, if_neg (not_isSyllable hk), if_neg (not_isSyllable ha), depth,
    expand_of_parts? (parts?_of_mem_composites h), expand_succ_of_ends (ends_of_mem_firstSteps hstep)]

end Decomposition

section Composition

/-- No range of a class holds a first part or a leading consonant. -/
theorem classes_firstParts : ∀ entry ∈ classes, ∀ r ∈ entry.2,
    (codeSet firstParts >>> r.1) % 1 <<< (r.2 + 1 - r.1) = 0 ∧ (r.2 < 0x1100 ∨ 0x1112 < r.1) := by
  decide +kernel

variable {c : Nat}

theorem combiningClass_eq_zero
    (h : ∀ entry ∈ classes, ∀ r ∈ entry.2, ¬ (r.1 ≤ c ∧ c ≤ r.2)) : combiningClass c = 0 := by
  have hnone : (classes.find? fun entry => entry.2.any fun r => r.1 ≤ c && c ≤ r.2) = none := by
    rw [List.find?_eq_none]
    intro entry hentry hany
    obtain ⟨r, hr, hin⟩ := List.any_eq_true.mp hany
    rw [Bool.and_eq_true, decide_eq_true_eq, decide_eq_true_eq] at hin
    exact h entry hentry r hr hin
  rw [combiningClass, hnone]
  rfl

theorem combiningClass_of_mem_firstParts (h : c ∈ firstParts) : combiningClass c = 0 := by
  apply combiningClass_eq_zero
  intro entry hentry r hr hin
  have hbit : ((codeSet firstParts >>> r.1) % 1 <<< (r.2 + 1 - r.1)).testBit (c - r.1) = true := by
    have hlt : c - r.1 < r.2 + 1 - r.1 := by omega
    have hplace : r.1 + (c - r.1) = c := by omega
    rw [Nat.one_shiftLeft, Nat.testBit_mod_two_pow, Nat.testBit_shiftRight, hplace, testBit_codeSet]
    simp [hlt, h]
  rw [(classes_firstParts entry hentry r hr).1, Nat.zero_testBit] at hbit
  exact Bool.false_ne_true hbit

theorem combiningClass_of_isLead (h : Hangul.isLead c = true) : combiningClass c = 0 := by
  rw [Hangul.isLead_iff] at h
  apply combiningClass_eq_zero
  intro entry hentry r hr hin
  have hrange := (classes_firstParts entry hentry r hr).2
  omega

theorem hasFreeLowHalf_of_mem_firstParts (h : c ∈ firstParts) : HasFreeLowHalf c := by
  obtain ⟨entry, hentry, rfl⟩ := List.mem_map.mp h
  exact (composites_inTables entry hentry).2.2.2

/-- Composites are looked up by the low halves of their parts. -/
theorem inert_of_lowHalf (hlow : c % 0x10000 ∉ firstParts.map (· % 0x10000))
    (hlead : ¬ (0x1100 ≤ c ∧ c ≤ 0x1112)) (hsyllable : ¬ (0xAC00 ≤ c ∧ c ≤ 0xD7A3)) : Inert c := by
  intro d
  constructor
  · rw [composite?, Option.map_eq_none_iff, List.find?_eq_none]
    intro entry hentry hkey
    simp only [Bool.and_eq_true, beq_iff_eq] at hkey
    apply hlow
    rw [← hkey.1]
    exact List.mem_map_of_mem (List.mem_map_of_mem hentry)
  · rw [← Hangul.isLead_iff, Bool.not_eq_true] at hlead
    rw [← Hangul.isSyllable_iff, Bool.not_eq_true] at hsyllable
    simp [Hangul.compose?, hlead, hsyllable]

/-- An extender that is a starter composes with nothing after it. -/
theorem inert_of_joins (h : joins c = true) (hclass : combiningClass c = 0) : Inert c := by
  have hblock (hc : InSoleBlock c ∨ 0x1161 ≤ c ∧ c < 0x1200) : Inert c := by
    have hkeep : c % 0x10000 = c := by
      simp only [InSoleBlock] at hc
      omega
    apply inert_of_lowHalf
    · intro hmem
      obtain ⟨first, hfirst, hlow⟩ := List.mem_map.mp hmem
      obtain ⟨hsole, hjamo, -⟩ := hasFreeLowHalf_of_mem_firstParts hfirst
      rw [hlow, hkeep] at hsole hjamo
      exact hc.elim hsole hjamo
    · simp only [InSoleBlock] at hc
      omega
    · simp only [InSoleBlock] at hc
      omega
  simp only [joins, isExtender, hclass, Bool.or_eq_true, bne_self_eq_false, Bool.false_eq_true,
    false_or] at h
  rcases h with hsole | (hback | hvowel) | htrail
  · exact hblock (Or.inl (inSoleBlock_of_isSole hsole))
  · obtain ⟨entry, hentry, hsecond⟩ := List.any_eq_true.mp hback
    obtain rfl := beq_iff_eq.mp hsecond
    obtain ⟨-, -, htables, -⟩ := composites_inTables entry hentry
    simp only [InTables] at htables
    apply inert_of_lowHalf
    · exact not_mem_of_and_eq_zero parts_disjoint.2.2 (List.mem_map.mpr ⟨entry, hentry, rfl⟩)
    · omega
    · omega
  · rw [Hangul.isVowel_iff] at hvowel
    exact hblock (Or.inr (by omega))
  · rw [Hangul.isTrail_iff] at htrail
    exact hblock (Or.inr (by omega))

/-- The joiner composes with nothing. -/
theorem inert_joiner : Inert joiner := by
  apply inert_of_lowHalf
  · intro hmem
    obtain ⟨first, hfirst, hlow⟩ := List.mem_map.mp hmem
    exact (hasFreeLowHalf_of_mem_firstParts hfirst).2.2 hlow
  · decide
  · decide

end Composition

end TextWalk.Normal
