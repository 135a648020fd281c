import TextWalk.Proofs.NormalForm
import TextWalk.Proofs.WholeParts

namespace TextWalk.Normal

section SameOrder

/-- Marks of different classes can be inserted in either order. -/
theorem insertMark_comm {c d : Nat} (hc : 0 < combiningClass c)
    (hlt : combiningClass c < combiningClass d) (es : List Nat) :
    insertMark c (insertMark d es) = insertMark d (insertMark c es) := by
  have hpass : 0 < combiningClass c ∧ combiningClass c < combiningClass d := ⟨hc, hlt⟩
  have hstay : ¬ (0 < combiningClass d ∧ combiningClass d < combiningClass c) := by omega
  induction es with
  | nil => simp only [insertMark, if_pos hpass, if_neg hstay]
  | cons e es ih =>
    by_cases hce : 0 < combiningClass e ∧ combiningClass e < combiningClass c
    · have hde : 0 < combiningClass e ∧ combiningClass e < combiningClass d := by omega
      simp only [insertMark, if_pos hce, if_pos hde, ih]
    · by_cases hde : 0 < combiningClass e ∧ combiningClass e < combiningClass d
      · simp only [insertMark, if_neg hce, if_pos hde, if_pos hpass]
      · simp only [insertMark, if_neg hce, if_neg hde, if_pos hpass, if_neg hstay]

theorem order_append (cs ds : List Nat) : order (cs ++ ds) = cs.foldr insertMark (order ds) :=
  List.foldr_append

def SameOrder (xs ys : List Nat) : Prop := ∀ rest, order (xs ++ rest) = order (ys ++ rest)

variable {xs ys zs ws : List Nat}

theorem SameOrder.refl (xs : List Nat) : SameOrder xs xs := fun _ => rfl

theorem SameOrder.symm (h : SameOrder xs ys) : SameOrder ys xs := fun rest => (h rest).symm

theorem SameOrder.trans (h : SameOrder xs ys) (h' : SameOrder ys zs) : SameOrder xs zs :=
  fun rest => (h rest).trans (h' rest)

theorem SameOrder.order_eq (h : SameOrder xs ys) : order xs = order ys := by
  have hnil := h []
  rwa [List.append_nil, List.append_nil] at hnil

/-- Texts of the same order may be put after one another. -/
theorem SameOrder.append (h : SameOrder xs ys) (h' : SameOrder zs ws) :
    SameOrder (xs ++ zs) (ys ++ ws) := by
  intro rest
  rw [List.append_assoc, List.append_assoc, h, order_append ys, h' rest, order_append ys]

/-- Marks of different classes may change places. -/
theorem sameOrder_swap {c d : Nat} (hc : 0 < combiningClass c)
    (hlt : combiningClass c < combiningClass d) : SameOrder [c, d] [d, c] :=
  fun rest => insertMark_comm hc hlt (order rest)

theorem sameOrder_insertMark (c : Nat) (ds : List Nat) : SameOrder (insertMark c ds) (c :: ds) := by
  induction ds with
  | nil => exact SameOrder.refl [c]
  | cons d ds ih =>
    rw [insertMark]
    split
    · -- The mark passes one of lower class, with which it can be swapped.
      rename_i hpass
      have hfront : SameOrder (d :: insertMark c ds) (d :: c :: ds) := (SameOrder.refl [d]).append ih
      exact hfront.trans ((sameOrder_swap hpass.1 hpass.2).append (SameOrder.refl ds))
    · exact SameOrder.refl _

/-- A text has the order of its ordered form. -/
theorem sameOrder_order (cs : List Nat) : SameOrder (order cs) cs := by
  induction cs with
  | nil => exact SameOrder.refl []
  | cons c cs ih => exact (sameOrder_insertMark c (order cs)).trans ((SameOrder.refl [c]).append ih)

theorem insertMark_of_lower {c : Nat} {ds : List Nat}
    (h : ∀ d ∈ ds, 0 < combiningClass d ∧ combiningClass d < combiningClass c) :
    insertMark c ds = ds ++ [c] := by
  induction ds with
  | nil => rfl
  | cons d ds ih =>
    obtain ⟨hd, hds⟩ := List.forall_mem_cons.mp h
    rw [insertMark, if_pos hd, ih hds, List.cons_append]

/-- Nothing goes past a starter. -/
theorem insertMark_append_cons {d : Nat} (hd : combiningClass d = 0) (c : Nat) (cs ds : List Nat) :
    insertMark c (cs ++ d :: ds) = insertMark c cs ++ d :: ds := by
  induction cs with
  | nil =>
    have hstay : ¬ (0 < combiningClass d ∧ combiningClass d < combiningClass c) := by omega
    simp only [List.nil_append, insertMark, if_neg hstay, List.singleton_append]
  | cons e cs ih =>
    simp only [List.cons_append, insertMark, ih]
    split
    · rfl
    · rfl

theorem order_append_cons {d : Nat} (hd : combiningClass d = 0) (cs ds : List Nat) :
    order (cs ++ d :: ds) = order cs ++ order (d :: ds) := by
  have hstart : order (d :: ds) = d :: order ds := insertMark_of_starter hd (order ds)
  induction cs with
  | nil => rfl
  | cons c cs ih =>
    rw [List.cons_append, order_cons, ih, hstart, insertMark_append_cons hd, order_cons]

end SameOrder

section Syllable

open Hangul

theorem isSyllable_of_compose? {a b k : Nat} (h : Hangul.compose? a b = some k) :
    isSyllable k = true := by
  rw [isSyllable_iff]
  rw [Hangul.compose?] at h
  split at h
  · rename_i hpair
    rw [Bool.and_eq_true, isLead_iff, isVowel_iff] at hpair
    have hk := Option.some.inj h
    simp only [syllableBase, leadBase, vowelBase, vowelCount, trailCount] at hk
    omega
  · split at h
    · rename_i hclosed
      rw [Bool.and_eq_true, Bool.and_eq_true, isSyllable_iff, isTrail_iff, beq_iff_eq] at hclosed
      have hk := Option.some.inj h
      simp only [syllableBase, trailCount, trailBase] at hclosed hk
      omega
    · exact absurd h (by simp)

/-- A syllable comes apart as what it was composed of. -/
theorem decomposeCode_of_compose? {a b k : Nat} (h : Hangul.compose? a b = some k) :
    decomposeCode k = decomposeCode a ++ [b] := by
  have hsyllable := isSyllable_of_compose? h
  rw [Hangul.compose?] at h
  split at h
  · rename_i hpair
    rw [Bool.and_eq_true, isLead_iff, isVowel_iff] at hpair
    obtain ⟨hlead, hvowel⟩ := hpair
    have hk := Option.some.inj h
    simp only [syllableBase, leadBase, vowelBase, vowelCount, trailCount] at hk
    have hopen : (k - syllableBase) % trailCount = 0 := by
      rw [syllableBase, trailCount]
      omega
    have hfirst : leadBase + (k - syllableBase) / (vowelCount * trailCount) = a := by
      rw [leadBase, syllableBase, vowelCount, trailCount]
      omega
    have hsecond : vowelBase + (k - syllableBase) % (vowelCount * trailCount) / trailCount = b := by
      rw [vowelBase, syllableBase, vowelCount, trailCount]
      omega
    have ha : decomposeCode a = [a] := whole_of_inJamo ⟨by omega, by omega⟩
    rw [ha, decomposeCode, if_pos hsyllable, Hangul.decompose]
    simp only [if_pos hopen, hfirst, hsecond, List.singleton_append]
  · split at h
    · rename_i hclosed
      rw [Bool.and_eq_true, Bool.and_eq_true, isTrail_iff, beq_iff_eq] at hclosed
      obtain ⟨⟨ha, hopen⟩, hb⟩ := hclosed
      have hrange := isSyllable_iff.mp ha
      have hk := Option.some.inj h
      have hmultiple := hopen
      simp only [syllableBase, trailCount, trailBase] at hmultiple hk
      have hfull : ¬ (k - syllableBase) % trailCount = 0 := by
        rw [syllableBase, trailCount]
        omega
      have hfirst : (k - syllableBase) / (vowelCount * trailCount) =
          (a - syllableBase) / (vowelCount * trailCount) := by
        rw [syllableBase, vowelCount, trailCount]
        omega
      have hsecond : (k - syllableBase) % (vowelCount * trailCount) / trailCount =
          (a - syllableBase) % (vowelCount * trailCount) / trailCount := by
        rw [syllableBase, vowelCount, trailCount]
        omega
      have hthird : trailBase + (k - syllableBase) % trailCount = b := by
        rw [trailBase, syllableBase, trailCount]
        omega
      rw [decomposeCode, decomposeCode, if_pos hsyllable, if_pos ha, Hangul.decompose,
        Hangul.decompose]
      simp only [if_neg hfull, if_pos hopen, hfirst, hsecond, hthird]
    · exact absurd h (by simp)

end Syllable

namespace Composing

variable {s : Composing} {c k : Nat}

def noted (s : Composing) (c : Nat) : Composing :=
  { s with syllabic := s.syllabic || Hangul.isVowel c || Hangul.isTrail c }

def takes? (s : Composing) (c : Nat) : Option Nat :=
  if (s.noted c).syllabic || combinesBackward c then (s.noted c).rehost.compose? c else none

/-- A character that is taken up leaves a new host in its place. -/
theorem add_of_takes? (h : s.takes? c = some k) :
    s.add c = { (s.noted c).rehost with host := k } := by
  rw [takes?] at h
  split at h
  · rename_i hcond
    rw [add_eq]
    refine (if_pos hcond).trans ?_
    change settle (s.noted c).rehost c = _
    rw [settle, h]
    rfl
  · exact absurd h (by simp)

/-- A character that is not taken up is kept, by the old host or a new one. -/
theorem add_of_takes?_eq_none (h : s.takes? c = none) :
    s.add c = (s.noted c).rehost.keep c ∨ s.add c = (s.noted c).keep c := by
  rw [takes?] at h
  split at h
  · rename_i hcond
    left
    rw [add_eq]
    refine (if_pos hcond).trans ?_
    change settle (s.noted c).rehost c = _
    rw [settle, h]
    rfl
  · rename_i hcond
    right
    rw [add_eq]
    exact if_neg hcond

/-- The host takes a character up as a composite of the two, and only marks of lower class stand
between them. Otherwise the character is kept. -/
def takesFaithfully (s : Composing) (c : Nat) : Bool :=
  (s.takes? c).all fun composite =>
    (s.noted c).rehost.after.all (fun d =>
      0 < combiningClass d && combiningClass d < combiningClass c) &&
      ((s.noted c).syllabic || composites.contains (composite, (s.noted c).rehost.host, c))

def runsFaithfully : Composing → List Nat → Bool
  | _, [] => true
  | s, c :: cs => s.takesFaithfully c && (s.add c).runsFaithfully cs

theorem runsFaithfully_of_append {cs ds : List Nat} (h : s.runsFaithfully (cs ++ ds) = true) :
    s.runsFaithfully cs = true := by
  induction cs generalizing s with
  | nil => rfl
  | cons c cs ih =>
    rw [List.cons_append, runsFaithfully, Bool.and_eq_true] at h
    rw [runsFaithfully, Bool.and_eq_true]
    exact ⟨h.1, ih h.2⟩

theorem syllabic_rehost (s : Composing) : s.rehost.syllabic = s.syllabic := by
  rw [rehost]
  split
  · rfl
  · split
    · rfl
    · rfl

theorem after_rehost (s : Composing) : s.rehost.after = s.after ∨ s.rehost.after = [] := by
  rw [rehost]
  split
  · exact Or.inl rfl
  · split
    · exact Or.inr rfl
    · exact Or.inl rfl

/-- The host stays, or a starter after it takes its place. -/
theorem host_rehost (s : Composing) :
    s.rehost.host = s.host ∨ s.rehost.host ∈ s.after ∧ combiningClass s.rehost.host = 0 := by
  rw [rehost]
  split
  · exact Or.inl rfl
  · rename_i last rest hafter
    split
    · rename_i hclass
      right
      rw [hafter]
      exact ⟨List.mem_cons_self, hclass⟩
    · exact Or.inl rfl

/-- What is taken up faithfully composes with the host, past marks of lower class. -/
theorem takes?_eq_some (h : s.takes? c = some k) (hfaithful : s.takesFaithfully c = true) :
    (∀ d ∈ (s.noted c).rehost.after,
        0 < combiningClass d ∧ combiningClass d < combiningClass c) ∧
      (Hangul.compose? (s.noted c).rehost.host c = some k ∨
        (k, (s.noted c).rehost.host, c) ∈ composites) := by
  rw [takesFaithfully, h, Option.all_some, Bool.and_eq_true, Bool.or_eq_true,
    List.contains_iff_mem, List.all_eq_true] at hfaithful
  obtain ⟨hafter, hexact⟩ := hfaithful
  constructor
  · intro d hd
    have hlower := hafter d hd
    rwa [Bool.and_eq_true, decide_eq_true_eq, decide_eq_true_eq] at hlower
  · refine hexact.imp_left fun hsyllabic => ?_
    have hcompose : (s.noted c).rehost.compose? c = some k := by
      rwa [takes?, hsyllabic, Bool.true_or, if_pos rfl] at h
    rw [compose?] at hcompose
    split at hcompose
    · exact absurd hcompose (by simp)
    · rwa [syllabic_rehost, hsyllabic, if_pos rfl] at hcompose

end Composing

section Equivalent

variable {s : Composing} {c : Nat} {cs ds : List Nat}

theorem decompose_append (cs ds : List Nat) : decompose (cs ++ ds) = decompose cs ++ decompose ds :=
  List.flatMap_append

theorem decompose_of_whole (h : ∀ d ∈ ds, Whole d) : decompose ds = ds := by
  induction ds with
  | nil => rfl
  | cons d ds ih =>
    obtain ⟨hd, hds⟩ := List.forall_mem_cons.mp h
    have hself : decomposeCode d = [d] := hd
    rw [decompose_cons, hself, ih hds, List.singleton_append]

theorem forall_after_rehost {p : Nat → Prop} (h : ∀ d ∈ s.after, p d) :
    ∀ d ∈ s.rehost.after, p d := by
  intro d hd
  rcases s.after_rehost with hsame | hnil
  · rw [hsame] at hd
    exact h d hd
  · rw [hnil] at hd
    cases hd

/-- After the host stand only characters that were kept. -/
theorem forall_after_add {p : Nat → Prop} (h : ∀ d ∈ s.after, p d) (hc : p c) :
    ∀ d ∈ (s.add c).after, p d := by
  have hrehost : ∀ d ∈ (s.noted c).rehost.after, p d := forall_after_rehost (s := s.noted c) h
  cases htakes : s.takes? c with
  | some k =>
    rw [Composing.add_of_takes? htakes]
    exact hrehost
  | none =>
    rcases Composing.add_of_takes?_eq_none htakes with hadd | hadd
    · rw [hadd]
      exact List.forall_mem_cons.mpr ⟨hc, hrehost⟩
    · rw [hadd]
      exact List.forall_mem_cons.mpr ⟨hc, h⟩

theorem toList_add_of_takes?_eq_none (h : s.takes? c = none) :
    (s.add c).toList = s.toList ++ [c] := by
  have hnoted : (s.noted c).toList = s.toList := rfl
  rcases Composing.add_of_takes?_eq_none h with hadd | hadd
  · rw [hadd, Composing.toList_keep, Composing.toList_rehost, hnoted]
  · rw [hadd, Composing.toList_keep, hnoted]

/-- One step of composition keeps the order that the characters come to. -/
theorem sameOrder_add (hafter : ∀ d ∈ s.after, Whole d) (hc : Whole c)
    (h : s.takesFaithfully c = true) :
    SameOrder (decompose (s.add c).toList) (decompose s.toList ++ [c]) := by
  have hself : decompose [c] = [c] := decompose_of_whole (by simpa using hc)
  cases htakes : s.takes? c with
  | none =>
    rw [toList_add_of_takes?_eq_none htakes, decompose_append, hself]
    exact SameOrder.refl _
  | some k =>
    -- What the host takes up can be taken out of it again, and goes past the marks after the host to
    -- where it stood.
    obtain ⟨hlower, hexact⟩ := Composing.takes?_eq_some htakes h
    have hparts : decomposeCode k = decomposeCode (s.noted c).rehost.host ++ [c] :=
      hexact.elim decomposeCode_of_compose? decomposeCode_of_mem_composites
    have hwhole : ∀ d ∈ (s.noted c).rehost.after.reverse, Whole d := by
      intro d hd
      exact forall_after_rehost (s := s.noted c) hafter d (List.mem_reverse.mp hd)
    have hsame : (s.noted c).rehost.toList = s.toList := Composing.toList_rehost (s.noted c)
    rw [Composing.add_of_takes? htakes, ← hsame]
    generalize (s.noted c).rehost = t at hlower hparts hwhole
    have hmove : SameOrder (c :: t.after.reverse) (t.after.reverse ++ [c]) := by
      have hinsert := sameOrder_insertMark c t.after.reverse
      rw [insertMark_of_lower (by simpa using hlower)] at hinsert
      exact hinsert.symm
    simp only [Composing.toList, decompose_append, decompose_cons, hparts,
      decompose_of_whole hwhole, List.append_assoc, List.singleton_append]
    exact (SameOrder.refl _).append ((SameOrder.refl _).append hmove)

/-- What composing has made of a segment comes apart into the order of its characters. -/
theorem sameOrder_foldl_add (hafter : ∀ d ∈ s.after, Whole d) (hcs : ∀ c ∈ cs, Whole c)
    (h : s.runsFaithfully cs = true) :
    SameOrder (decompose (cs.foldl Composing.add s).toList) (decompose s.toList ++ cs) := by
  induction cs generalizing s with
  | nil =>
    rw [List.append_nil]
    exact SameOrder.refl _
  | cons c cs ih =>
    obtain ⟨hc, hcs⟩ := List.forall_mem_cons.mp hcs
    rw [Composing.runsFaithfully, Bool.and_eq_true] at h
    have hstep := (sameOrder_add hafter hc h.1).append (SameOrder.refl cs)
    have hrun := (ih (forall_after_add hafter hc) hcs h.2).trans hstep
    rwa [List.append_assoc, List.singleton_append] at hrun

def composesFaithfully : List Nat → Bool
  | [] => true
  | c :: cs => Composing.runsFaithfully { host := c } cs

/-- What a segment is composed to is equivalent to it. -/
theorem sameOrder_compose (hcs : ∀ c ∈ cs, Whole c) (h : composesFaithfully cs = true) :
    SameOrder (decompose (compose cs)) cs := by
  cases cs with
  | nil => exact SameOrder.refl []
  | cons c cs =>
    obtain ⟨hc, hcs⟩ := List.forall_mem_cons.mp hcs
    have hrun := sameOrder_foldl_add (s := { host := c }) (by simp) hcs h
    have hself : decompose [c] = [c] := decompose_of_whole (by simpa using hc)
    have hstart : decompose (Composing.toList { host := c }) = [c] := hself
    rwa [hstart, List.singleton_append] at hrun

theorem sameOrder_compose_order (h : composesFaithfully (order (decompose cs)) = true) :
    SameOrder (decompose (compose (order (decompose cs)))) (decompose cs) := by
  have hwhole : ∀ c ∈ order (decompose cs), Whole c := by
    intro c hc
    exact whole_of_mem_decompose ((order_perm _).mem_iff.mp hc)
  exact (sameOrder_compose hwhole h).trans (sameOrder_order _)

end Equivalent

section Idle

variable {s : Composing} {c : Nat} {cs : List Nat}

theorem takes?_eq_none_of_inert (h : Inert (s.noted c).rehost.host) : s.takes? c = none := by
  rw [Composing.takes?]
  split
  · exact compose?_of_inert h c
  · rfl

theorem compose?_of_mark {a : Nat} (hclass : 0 < combiningClass a) (hwhole : Whole a)
    (b : Nat) : Hangul.compose? a b = none := by
  have hlead : Hangul.isLead a = false := by
    rw [Bool.eq_false_iff]
    intro hlead
    rw [combiningClass_of_isLead hlead] at hclass
    exact Nat.lt_irrefl 0 hclass
  have hsyllable : Hangul.isSyllable a = false := by
    rw [Bool.eq_false_iff]
    intro hsyllable
    have hself : decomposeCode a = [a] := hwhole
    rw [decomposeCode, if_pos hsyllable] at hself
    have hjamo : InJamo a := inJamo_of_mem_decompose hsyllable (hself ▸ List.mem_singleton_self a)
    rw [InJamo] at hjamo
    rw [Hangul.isSyllable_iff] at hsyllable
    omega
  simp [Hangul.compose?, hlead, hsyllable]

def Idle (s : Composing) (cs : List Nat) : Prop :=
  Inert s.host ∨ 0 < combiningClass s.host ∧ Whole s.host ∧ s.runsFaithfully cs = true

theorem host_noted_rehost (hafter : ∀ d ∈ s.after, combiningClass d = 0 → Inert d) (c : Nat) :
    (s.noted c).rehost.host = s.host ∨ Inert (s.noted c).rehost.host := by
  rcases (s.noted c).host_rehost with hsame | ⟨hmem, hclass⟩
  · exact Or.inl hsame
  · exact Or.inr (hafter _ hmem hclass)

theorem Idle.takes?_eq_none (h : Idle s (c :: cs))
    (hafter : ∀ d ∈ s.after, combiningClass d = 0 → Inert d) : s.takes? c = none := by
  rcases host_noted_rehost hafter c with hsame | hinert
  · rcases h with hinert | ⟨hclass, hwhole, hrun⟩
    · rw [← hsame] at hinert
      exact takes?_eq_none_of_inert hinert
    · rw [Composing.runsFaithfully, Bool.and_eq_true] at hrun
      -- A composite would have the mark for its first part, and first parts are starters.
      apply Option.eq_none_iff_forall_ne_some.mpr
      intro k hk
      obtain ⟨-, hexact⟩ := Composing.takes?_eq_some hk hrun.1
      rw [hsame, compose?_of_mark hclass hwhole] at hexact
      rcases hexact with hsyllable | hmem
      · cases hsyllable
      · have hfirst : s.host ∈ firstParts := List.mem_map.mpr ⟨_, hmem, rfl⟩
        rw [combiningClass_of_mem_firstParts hfirst] at hclass
        exact Nat.lt_irrefl 0 hclass
  · exact takes?_eq_none_of_inert hinert

/-- A host that takes nothing up goes on so, or gives way to one like it. -/
theorem Idle.add (h : Idle s (c :: cs))
    (hafter : ∀ d ∈ s.after, combiningClass d = 0 → Inert d) : Idle (s.add c) cs := by
  have hhost : (s.add c).host = s.host ∨ Inert (s.add c).host := by
    rcases Composing.add_of_takes?_eq_none (h.takes?_eq_none hafter) with hadd | hadd
    · rw [hadd]
      exact host_noted_rehost hafter c
    · rw [hadd]
      exact Or.inl rfl
  rcases hhost with hsame | hinert
  · rw [Idle, hsame]
    refine Or.imp id ?_ h
    rintro ⟨hclass, hwhole, hrun⟩
    rw [Composing.runsFaithfully, Bool.and_eq_true] at hrun
    exact ⟨hclass, hwhole, hrun.2⟩
  · exact Or.inl hinert

/-- With an idle host every character is kept. -/
theorem Idle.toList_foldl_add (h : Idle s cs)
    (hafter : ∀ d ∈ s.after, combiningClass d = 0 → Inert d)
    (hcs : ∀ c ∈ cs, combiningClass c = 0 → Inert c) :
    (cs.foldl Composing.add s).toList = s.toList ++ cs := by
  induction cs generalizing s with
  | nil => rw [List.foldl_nil, List.append_nil]
  | cons c cs ih =>
    obtain ⟨hc, hcs⟩ := List.forall_mem_cons.mp hcs
    have hkept := toList_add_of_takes?_eq_none (h.takes?_eq_none hafter)
    rw [List.foldl_cons, ih (h.add hafter) (forall_after_add hafter hc) hcs, hkept,
      List.append_assoc, List.singleton_append]

/-- Extenders alone are composed to themselves. -/
theorem compose_of_joins (hjoins : ∀ c ∈ cs, joins c = true) (hwhole : ∀ c ∈ cs, Whole c)
    (h : composesFaithfully cs = true) : compose cs = cs := by
  cases cs with
  | nil => rfl
  | cons c cs =>
    obtain ⟨hc, hcs⟩ := List.forall_mem_cons.mp hjoins
    have hidle : Idle { host := c } cs := by
      rcases Nat.eq_zero_or_pos (combiningClass c) with hclass | hclass
      · exact Or.inl (inert_of_joins hc hclass)
      · exact Or.inr ⟨hclass, hwhole c List.mem_cons_self, h⟩
    exact hidle.toList_foldl_add (by simp) fun d hd => inert_of_joins (hcs d hd)

theorem compose_joiner_cons (hjoins : ∀ c ∈ cs, joins c = true) :
    compose (joiner :: cs) = joiner :: cs := by
  have hidle : Idle { host := joiner } cs := Or.inl inert_joiner
  exact hidle.toList_foldl_add (by simp) fun d hd => inert_of_joins (hjoins d hd)

end Idle

end TextWalk.Normal
