import TextWalk.Proofs.LongRuns
import TextWalk.Proofs.TextRoundTrip

/-!
Normalizing again. Main statement: where every composite is made of its own two parts, with only marks
of lower class between them, a normal form is its own normal form, and the bytes of a text and its
characters have the same one, unless the end cuts off a sequence before a character that is replaced.
-/
namespace TextWalk.Normal

section Again

variable {cs : List Nat}

theorem sameOrder_flatMap_segmentForm {segs : List (List Nat)}
    (h : ∀ segment ∈ segs, segmentFaithful segment = true) :
    SameOrder (decompose (segs.flatMap segmentForm)) (decompose segs.flatten) := by
  induction segs with
  | nil => exact SameOrder.refl []
  | cons segment segs ih =>
    obtain ⟨hsegment, hsegs⟩ := List.forall_mem_cons.mp h
    rw [List.flatMap_cons, List.flatten_cons, decompose_append, decompose_append]
    exact (sameOrder_compose_order hsegment).append (ih hsegs)

/-- A normal form is equivalent to its text with the joiners. -/
theorem order_decompose_normalizeCodes (h : isFaithful cs = true) :
    order (decompose (normalizeCodes cs)) = order (decompose (guarded 0 cs)) :=
  (sameOrder_flatMap_segmentForm (List.all_eq_true.mp h)).order_eq

/-- The normal form of a text that is composed faithfully is its own normal form. -/
theorem normalizeCodes_normalizeCodes (h : isFaithful cs = true) :
    normalizeCodes (normalizeCodes cs) = normalizeCodes cs := by
  have horder := order_decompose_normalizeCodes h
  have hguarded : fits 0 (decompose (guarded 0 cs)) = true := fits_guarded cs (Nat.zero_le _)
  have hnormal : fits 0 (decompose (normalizeCodes cs)) = true := by
    rw [← fits_order, horder, fits_order]
    exact hguarded
  -- Without long runs a normal form depends on the canonical order alone.
  calc normalizeCodes (normalizeCodes cs)
      = composeParts (order (decompose (normalizeCodes cs))) := normalizeCodes_of_fits hnormal
    _ = composeParts (order (decompose (guarded 0 cs))) := by rw [horder]
    _ = normalizeCodes (guarded 0 cs) := (normalizeCodes_of_fits hguarded).symm
    _ = normalizeCodes cs := normalizeCodes_guarded h

/-- A character that starts with no extender cuts a text in two. -/
theorem cut_append {b : Nat} (hb : leadingExtenders b = 0) (run : Nat) (as bs : List Nat) :
    cut run (as ++ b :: bs) = ((cut run as).1, (cut run as).2 ++ (cut 0 (b :: bs)).2) := by
  induction as generalizing run with
  | nil =>
    rw [List.nil_append, cut_of_opening hb, cut_of_opening hb]
    rfl
  | cons a as ih =>
    simp only [List.cons_append, cut, ih]
    split
    · rfl
    · split
      · rfl
      · rfl

/-- A character that opens a segment divides a text. -/
theorem normalizeCodes_append {b : Nat} (hb : leadingExtenders b = 0) (as bs : List Nat) :
    normalizeCodes (as ++ b :: bs) = normalizeCodes as ++ normalizeCodes (b :: bs) := by
  have hopen : (cut 0 (b :: bs)).1 = [] := by rw [cut_of_opening hb]
  rw [normalizeCodes_eq_cut, normalizeCodes_eq_cut, normalizeCodes_eq_cut, cut_append hb, hopen,
    List.flatMap_append, List.append_assoc]
  rfl

end Again

section Valid

-- A code that is no character would be lost on the way through characters.

theorem isValidChar_of_inTables {c : Nat} (h : InTables c) : c.isValidChar := by
  simp only [InTables] at h
  unfold Nat.isValidChar
  omega

theorem isValidChar_of_mem_decompose {cs : List Nat} (hcs : ∀ c ∈ cs, c.isValidChar) :
    ∀ d ∈ decompose cs, d.isValidChar := by
  intro d hd
  obtain ⟨c, hc, hd⟩ := List.mem_flatMap.mp hd
  rcases (mem_decomposeCode hd).2 with rfl | hblock | hblock | hblock
  · exact hcs d hc
  · exact isValidChar_of_inTables hblock
  · simp only [InUnified] at hblock
    unfold Nat.isValidChar
    omega
  · simp only [InJamo] at hblock
    unfold Nat.isValidChar
    omega

theorem isValidChar_of_takes? {s : Composing} {c k : Nat} (h : s.takes? c = some k) :
    k.isValidChar := by
  have hsyllable (a b : Nat) (h : Hangul.compose? a b = some k) : k.isValidChar := by
    have hrange := Hangul.isSyllable_iff.mp (isSyllable_of_compose? h)
    unfold Nat.isValidChar
    omega
  have hcomposite (a b : Nat) (h : composite? a b = some k) : k.isValidChar := by
    obtain ⟨entry, hfind, rfl⟩ := Option.map_eq_some_iff.mp h
    exact isValidChar_of_inTables (composites_inTables entry (List.mem_of_find?_eq_some hfind)).1
  rw [Composing.takes?] at h
  split at h
  · rw [Composing.compose?] at h
    split at h
    · exact absurd h (by simp)
    · split at h
      · exact hsyllable _ _ h
      · exact hcomposite _ _ h
  · exact absurd h (by simp)

theorem isValidChar_foldl_add {s : Composing} {cs : List Nat} (hs : ∀ d ∈ s.toList, d.isValidChar)
    (hcs : ∀ c ∈ cs, c.isValidChar) : ∀ d ∈ (cs.foldl Composing.add s).toList, d.isValidChar := by
  induction cs generalizing s with
  | nil => exact hs
  | cons c cs ih =>
    obtain ⟨hc, hcs⟩ := List.forall_mem_cons.mp hcs
    refine ih ?_ hcs
    cases htakes : s.takes? c with
    | none =>
      rw [toList_add_of_takes?_eq_none htakes]
      exact List.forall_mem_append.mpr ⟨hs, by simpa using hc⟩
    | some k =>
      -- The composite stands where the host did.
      have hsame : (s.noted c).rehost.toList = s.toList := Composing.toList_rehost (s.noted c)
      rw [← hsame, Composing.toList, List.forall_mem_append, List.forall_mem_cons] at hs
      rw [Composing.add_of_takes? htakes, Composing.toList, List.forall_mem_append,
        List.forall_mem_cons]
      exact ⟨hs.1, isValidChar_of_takes? htakes, hs.2.2⟩

/-- Composing characters gives characters. -/
theorem isValidChar_of_mem_compose {cs : List Nat} (hcs : ∀ c ∈ cs, c.isValidChar) :
    ∀ d ∈ compose cs, d.isValidChar := by
  cases cs with
  | nil => simp [compose]
  | cons c cs =>
    obtain ⟨hc, hcs⟩ := List.forall_mem_cons.mp hcs
    exact isValidChar_foldl_add (s := { host := c }) (by simpa [Composing.toList] using hc) hcs

/-- The normal form of characters is one of characters. -/
theorem isValidChar_of_mem_normalizeCodes {cs : List Nat} (hcs : ∀ c ∈ cs, c.isValidChar) :
    ∀ d ∈ normalizeCodes cs, d.isValidChar := by
  intro d hd
  obtain ⟨segment, hsegment, hd⟩ := List.mem_flatMap.mp hd
  have hvalid : ∀ c ∈ segment, c.isValidChar := by
    intro c hc
    have hmem : c ∈ guarded 0 cs := List.mem_flatten.mpr ⟨segment, hsegment, hc⟩
    rcases mem_guarded hmem with hmem | rfl
    · exact hcs c hmem
    · decide
  refine isValidChar_of_mem_compose ?_ d hd
  intro e he
  exact isValidChar_of_mem_decompose hvalid e ((order_perm _).mem_iff.mp he)

theorem isValidChar_of_mem_toNat (cs : List Char) : ∀ c ∈ cs.map Char.toNat, c.isValidChar := by
  intro c hc
  obtain ⟨d, -, rfl⟩ := List.mem_map.mp hc
  exact d.valid

theorem map_toNat_ofNat {cs : List Nat} (hcs : ∀ c ∈ cs, c.isValidChar) :
    (cs.map Char.ofNat).map Char.toNat = cs := by
  have hsame : cs.map (Char.toNat ∘ Char.ofNat) = cs.map id :=
    List.map_congr_left fun c hc => Code.toNat_ofNat (hcs c hc)
  rw [List.map_map, hsame, List.map_id]

theorem map_ofNat_toNat (cs : List Char) : (cs.map Char.toNat).map Char.ofNat = cs := by
  rw [List.map_map]
  apply List.map_id''
  exact Char.ofNat_toNat

end Valid

end TextWalk.Normal

namespace TextWalk.Utf8

theorem IsSequence.isTail_of_mem {b : UInt8} {tails : Bytes} (h : IsSequence (b :: tails)) :
    ∀ t ∈ tails, IsTail t := by
  cases h with
  | ascii hb => simp
  | led hb htails hmost => exact htails

/-- A lead byte is read apart from what stands before it. -/
theorem Reads.append {xs rest : Bytes} {b : UInt8} {cs ds : List Char} (hb : 0xC0 ≤ b.toNat)
    (h : Reads xs cs) (h' : Reads (b :: rest) ds) : Reads (xs ++ b :: rest) (cs ++ ds) := by
  induction h with
  | done => exact h'
  | @char after cs c _ ih =>
    rw [List.append_assoc]
    exact Reads.char c ih
  | @stray a after cs hstray _ ih =>
    refine Reads.stray ?_ ih
    intro c h
    have hfront : String.utf8EncodeChar c <+: (a :: after) ++ b :: rest := h
    rcases List.prefix_or_prefix_of_prefix hfront (List.prefix_append (a :: after) (b :: rest))
      with hshort | ⟨more, hmore⟩
    · exact hstray c hshort
    · -- The sequence would reach over the lead byte, which is no tail of it.
      rw [← hmore, List.prefix_append_right_inj] at hfront
      cases more with
      | nil =>
        rw [List.append_nil] at hmore
        exact hstray c (hmore ▸ List.prefix_refl _)
      | cons e more =>
        obtain ⟨rfl, -⟩ := List.cons_prefix_cons.mp hfront
        have hsequence := isSequence_encodeChar c
        rw [encodeChar_eq_utf8EncodeChar, ← hmore, List.cons_append] at hsequence
        have htail := hsequence.isTail_of_mem e (List.mem_append_right _ List.mem_cons_self)
        exact absurd htail.2 (Nat.not_lt.mpr hb)

/-- A sequence that misses a byte gives no character. -/
theorem follow_of_short {share more low high : Nat} {rest : Bytes} (h : rest.length < more) :
    (follow share more low high rest).1 = none := by
  induction more generalizing share low high rest with
  | zero => exact absurd h (Nat.not_lt_zero _)
  | succ more ih =>
    cases rest with
    | nil => rfl
    | cons b rest =>
      rw [follow]
      split
      · exact ih (Nat.lt_of_succ_lt_succ h)
      · rfl

end TextWalk.Utf8

namespace TextWalk.Normal

section Cut

variable {b : UInt8} {rest : Bytes}

theorem announced_of_lead? {l : Utf8.Lead} (h : Utf8.lead? b = some l) :
    announced b = l.more + 1 := by
  simp only [Utf8.lead?] at h
  simp only [announced]
  grind

/-- A sequence that the end cuts off is no sequence: its lead byte is replaced. -/
theorem decode_of_cut (h : rest.length + 1 < announced b) :
    Utf8.decode (b :: rest) = '\uFFFD' :: Utf8.decode rest := by
  have hnone : (Utf8.step b rest).1 = none := by
    rw [Utf8.step]
    split
    · rename_i l hlead
      have hmore := announced_of_lead? hlead
      exact Utf8.follow_of_short (by omega)
    · rfl
  exact Utf8.decode_of_step_eq_none (Prod.ext hnone rfl)

/-- Nothing is lost where the end cuts off a sequence. -/
theorem splitCut_append (bs : Bytes) : (splitCut bs).1 ++ (splitCut bs).2 = bs := by
  induction bs with
  | nil => rfl
  | cons b bs ih =>
    rw [splitCut]
    split
    · rfl
    · exact congrArg (List.cons b) ih

/-- What is cut off starts with a lead byte that asks for more than there is. -/
theorem snd_splitCut (bs : Bytes) :
    (splitCut bs).2 = [] ∨ ∃ b rest, (splitCut bs).2 = b :: rest ∧ rest.length + 1 < announced b := by
  induction bs with
  | nil => exact Or.inl rfl
  | cons b bs ih =>
    rw [splitCut]
    split
    · rename_i hshort
      have hmost := (announced_le b).1
      rw [List.length_take] at hshort
      exact Or.inr ⟨b, bs, rfl, by omega⟩
    · exact ih

/-- What the end cuts off is read apart from the rest, and begins with a replacement character. -/
theorem decode_eq_append (bs : Bytes) :
    Utf8.decode bs = Utf8.decode (splitCut bs).1 ++ Utf8.decode (splitCut bs).2 ∧
      (Utf8.decode (splitCut bs).2 = [] ∨
        ∃ cs, Utf8.decode (splitCut bs).2 = '\uFFFD' :: cs) := by
  have hbytes := splitCut_append bs
  rcases snd_splitCut bs with hnil | ⟨b, rest, hcut, hshort⟩
  · rw [hnil, List.append_nil] at hbytes
    have hdecode : Utf8.decode [] = [] := by rw [Utf8.decode]
    rw [hnil, hbytes, hdecode, List.append_nil]
    exact ⟨rfl, Or.inl rfl⟩
  · have hlead : 0xC0 ≤ b.toNat := by
      have hone := (announced_le b).2.2.2
      omega
    rw [hcut] at hbytes
    have hreads := (Utf8.reads_decode (splitCut bs).1).append hlead (Utf8.reads_decode (b :: rest))
    rw [hbytes] at hreads
    rw [hcut]
    exact ⟨hreads.decode_eq, Or.inr ⟨_, decode_of_cut hshort⟩⟩

end Cut

def IsNormal (cs : List Nat) : Prop := normalizeCodes cs = cs

instance (cs : List Nat) : Decidable (IsNormal cs) := inferInstanceAs (Decidable (_ = _))

section Bytes

theorem leadingExtenders_replacement : leadingExtenders '\uFFFD'.toNat = 0 := by
  decide +kernel

/-- The normal form of a text that ends in what was cut off. -/
theorem normalize_encode_append {cs : List Nat} {cut : List Char} (hcs : ∀ c ∈ cs, c.isValidChar)
    (hcut : cut = [] ∨ ∃ ds, cut = '\uFFFD' :: ds) :
    normalize (Utf8.encode (cs.map Char.ofNat ++ cut)) =
      (normalizeCodes cs).map Char.ofNat ++ (normalizeCodes (cut.map Char.toNat)).map Char.ofNat := by
  rw [normalize_encode, List.map_append, map_toNat_ofNat hcs, ← List.map_append]
  rcases hcut with rfl | ⟨ds, rfl⟩
  · have hnil : normalizeCodes [] = [] := rfl
    rw [List.map_nil, List.append_nil, hnil, List.append_nil]
  · rw [List.map_cons, normalizeCodes_append leadingExtenders_replacement]

theorem map_normalizeCodes_eq_iff (cs : List Char) :
    (normalizeCodes (cs.map Char.toNat)).map Char.ofNat = cs ↔ IsNormal (cs.map Char.toNat) := by
  have hvalid := isValidChar_of_mem_normalizeCodes (isValidChar_of_mem_toNat cs)
  constructor
  · intro h
    have hcodes := congrArg (List.map Char.toNat) h
    rwa [map_toNat_ofNat hvalid] at hcodes
  · intro h
    have hcodes : normalizeCodes (cs.map Char.toNat) = cs.map Char.toNat := h
    rw [hcodes, map_ofNat_toNat]

end Bytes

end TextWalk.Normal

namespace TextWalk.Buffer

open Command TextWalk.Normal

theorem ofChars_inj {cs ds : List Char} : ofChars cs = ofChars ds ↔ cs = ds := by
  constructor
  · intro h
    have hbytes := congrArg textBytes h
    rw [textBytes_ofChars, textBytes_ofChars] at hbytes
    have hchars := congrArg Utf8.decode hbytes
    rwa [Utf8.decode_encode, Utf8.decode_encode] at hchars
  · exact congrArg ofChars

/-- Normalizing a text that was loaded as it is gives the same walk as normalizing its bytes, exactly
if what the end cuts off of the bytes reads as a text in normal form. So does normalizing a normalized
text, as long as each composite in it is made of its own two parts, with only marks of lower class
between them. -/
theorem ofNormalized_stable_iff (s : Bytes) :
    let whole := (Utf8.decode (splitCut s).1).map Char.toNat
    let rest := (Utf8.decode (splitCut s).2).map Char.toNat
    (ofNormalized (textBytes (ofChars (Utf8.decode s))) = ofNormalized s ↔ IsNormal rest) ∧
      (isFaithful whole = true →
        (ofNormalized (textBytes (ofNormalized s)) = ofNormalized s ↔ IsNormal rest)) := by
  intro whole rest
  obtain ⟨hdecode, hcut⟩ := decode_eq_append s
  have hvalid : ∀ c ∈ whole, c.isValidChar := isValidChar_of_mem_toNat _
  have hform : normalize s =
      (normalizeCodes whole).map Char.ofNat ++ Utf8.decode (splitCut s).2 := rfl
  constructor
  · have hwhole : Utf8.decode s = whole.map Char.ofNat ++ Utf8.decode (splitCut s).2 := by
      rw [hdecode, map_ofNat_toNat]
    rw [textBytes_ofChars, ofNormalized, ofNormalized, ofChars_inj, hform, hwhole,
      normalize_encode_append hvalid hcut, List.append_right_inj]
    exact map_normalizeCodes_eq_iff _
  · intro hfaithful
    have hnormal := isValidChar_of_mem_normalizeCodes hvalid
    rw [ofNormalized, ofNormalized, textBytes_ofChars, ofChars_inj, hform,
      normalize_encode_append hnormal hcut, normalizeCodes_normalizeCodes hfaithful,
      List.append_right_inj]
    exact map_normalizeCodes_eq_iff _

/-- Marks out of order and a syllable in parts, before a sequence that the end cuts off. -/
theorem ofNormalized_stable_iff_of_parts :
    let s := Utf8.encode ['e', '\u0302', '\u0323', '\u1100', '\u1161', '\u11A8'] ++ [0xF0, 0xCC, 0x80]
    isFaithful ((Utf8.decode (splitCut s).1).map Char.toNat) = true ∧
      ofNormalized (textBytes (ofChars (Utf8.decode s))) = ofNormalized s ∧
      ofNormalized (textBytes (ofNormalized s)) = ofNormalized s := by
  intro s
  have hfaithful : isFaithful ((Utf8.decode (splitCut s).1).map Char.toNat) = true := by
    decide +kernel
  have hnormal : IsNormal ((Utf8.decode (splitCut s).2).map Char.toNat) := by
    decide +kernel
  obtain ⟨hloaded, hnormalized⟩ := ofNormalized_stable_iff s
  exact ⟨hfaithful, hloaded.mpr hnormal, (hnormalized hfaithful).mpr hnormal⟩

/-- Three ways in which a normal form is not its own: a character after a sequence that the end cuts
off is not replaced; a mark goes past a starter that stands after its host; a host is taken for the
character that has the same low half. -/
theorem ofNormalized_unstable :
    let cutOff : Bytes := [0xF0, 0xCD, 0x80]
    let divided := Utf8.encode ['L', '\u0304', '\u09BE', '\u0334', '\u0323']
    let mistaken := Utf8.encode [Char.ofNat 0x200C2, '\u0323', '\u0301']
    (ofNormalized (textBytes (ofChars (Utf8.decode cutOff))) ≠ ofNormalized cutOff ∧
        ofNormalized (textBytes (ofNormalized cutOff)) ≠ ofNormalized cutOff) ∧
      ofNormalized (textBytes (ofNormalized divided)) ≠ ofNormalized divided ∧
      ofNormalized (textBytes (ofNormalized mistaken)) ≠ ofNormalized mistaken := by
  intro cutOff divided mistaken
  have hagain {s : Bytes} {cs ds : List Char} (hs : normalize s = cs)
      (hcs : normalize (Utf8.encode cs) = ds) (hne : ds ≠ cs) :
      ofNormalized (textBytes (ofNormalized s)) ≠ ofNormalized s := by
    rw [ofNormalized, ofNormalized, hs, textBytes_ofChars, hcs, ne_eq, ofChars_inj]
    exact hne
  have hcut : normalize cutOff = ['\uFFFD', '\u0340'] := by decide +kernel
  have hread : Utf8.decode cutOff = ['\uFFFD', '\u0340'] := by decide +kernel
  have hcutAgain : normalize (Utf8.encode ['\uFFFD', '\u0340']) = ['\uFFFD', '\u0300'] := by
    decide +kernel
  have hdivided : normalize divided = ['\u1E36', '\u0304', '\u09BE', '\u0334'] := by decide +kernel
  have hdividedAgain : normalize (Utf8.encode ['\u1E36', '\u0304', '\u09BE', '\u0334']) =
      ['\u1E38', '\u09BE', '\u0334'] := by
    decide +kernel
  have hmistaken : normalize mistaken = ['\u1EA4', '\u0323'] := by decide +kernel
  have hmistakenAgain : normalize (Utf8.encode ['\u1EA4', '\u0323']) = ['\u1EAC', '\u0301'] := by
    decide +kernel
  refine ⟨⟨?_, hagain hcut hcutAgain (by decide)⟩, hagain hdivided hdividedAgain (by decide),
    hagain hmistaken hmistakenAgain (by decide)⟩
  rw [ofNormalized, ofNormalized, hcut, hread, textBytes_ofChars, hcutAgain, ne_eq, ofChars_inj]
  decide

end TextWalk.Buffer
