import TextWalk.Encoding.Utf8

namespace TextWalk.Utf8

theorem ofNat_eq_of_toNat {n : Nat} {b : UInt8} (h : n = b.toNat) : UInt8.ofNat n = b := by
  rw [h, UInt8.ofNat_toNat]

theorem toNat_tail (n : Nat) : (tail n).toNat = 0x80 + n % 64 :=
  Bytes.toNat_ofNat (by omega)

theorem tail_eq_of_toNat {n : Nat} {b : UInt8} (h : 0x80 + n % 64 = b.toNat) : tail n = b :=
  ofNat_eq_of_toNat h

section Follow

variable {share more low high : Nat} {rest after : Bytes} {c : Char}

/-- A continuation byte in range adds its six bits. -/
theorem follow_tail {n : Nat} (rest : Bytes) (hlow : low ≤ 0x80 + n % 64)
    (hhigh : 0x80 + n % 64 ≤ high) :
    follow share (more + 1) low high (tail n :: rest) =
      follow (share * 64 + n % 64) more 0x80 0xBF rest := by
  have hsub : 0x80 + n % 64 - 0x80 = n % 64 := by omega
  rw [follow, toNat_tail, if_pos ⟨hlow, hhigh⟩, hsub]

/-- A sequence that is read to its end had a byte in range where one was due. -/
theorem exists_of_follow_succ (h : follow share (more + 1) low high rest = (some c, after)) :
    ∃ b rest', rest = b :: rest' ∧ low ≤ b.toNat ∧ b.toNat ≤ high ∧
      follow (share * 64 + (b.toNat - 0x80)) more 0x80 0xBF rest' = (some c, after) := by
  cases rest with
  | nil => simp [follow] at h
  | cons b rest' =>
    by_cases hb : low ≤ b.toNat ∧ b.toNat ≤ high
    · rw [follow, if_pos hb] at h
      exact ⟨b, rest', rfl, hb.1, hb.2, h⟩
    · rw [follow, if_neg hb] at h
      simp at h

theorem eq_of_follow_zero (h : follow share 0 low high rest = (some c, after)) :
    Char.ofNat share = c ∧ rest = after := by
  simpa [follow] using h

end Follow

section Step

variable {b : UInt8} (rest : Bytes)

theorem step_of_one (h : b.toNat < 0x80) : step b rest = (some (Char.ofNat b.toNat), rest) := by
  simp only [step, lead?, h, ↓reduceIte, follow]

theorem step_of_two (hlow : 0xC2 ≤ b.toNat) (hhigh : b.toNat < 0xE0) :
    step b rest = follow (b.toNat - 0xC0) 1 0x80 0xBF rest := by
  have h₁ : ¬ b.toNat < 0x80 := by omega
  have h₂ : ¬ b.toNat < 0xC2 := by omega
  simp only [step, lead?, h₁, h₂, hhigh, ↓reduceIte]

theorem step_of_three (hlow : 0xE0 ≤ b.toNat) (hhigh : b.toNat < 0xF0) :
    step b rest = follow (b.toNat - 0xE0) 2 (if b.toNat = 0xE0 then 0xA0 else 0x80)
      (if b.toNat = 0xED then 0x9F else 0xBF) rest := by
  have h₁ : ¬ b.toNat < 0x80 := by omega
  have h₂ : ¬ b.toNat < 0xC2 := by omega
  have h₃ : ¬ b.toNat < 0xE0 := by omega
  simp only [step, lead?, h₁, h₂, h₃, hhigh, ↓reduceIte]

theorem step_of_four (hlow : 0xF0 ≤ b.toNat) (hhigh : b.toNat < 0xF5) :
    step b rest = follow (b.toNat - 0xF0) 3 (if b.toNat = 0xF0 then 0x90 else 0x80)
      (if b.toNat = 0xF4 then 0x8F else 0xBF) rest := by
  have h₁ : ¬ b.toNat < 0x80 := by omega
  have h₂ : ¬ b.toNat < 0xC2 := by omega
  have h₃ : ¬ b.toNat < 0xE0 := by omega
  have h₄ : ¬ b.toNat < 0xF0 := by omega
  simp only [step, lead?, h₁, h₂, h₃, h₄, hhigh, ↓reduceIte]

theorem step_of_no_lead (h : 0x80 ≤ b.toNat ∧ b.toNat < 0xC2 ∨ 0xF5 ≤ b.toNat) :
    step b rest = (none, rest) := by
  have h₁ : ¬ b.toNat < 0x80 := by omega
  have hnone : lead? b = none := by
    rcases h with ⟨-, hlt⟩ | hle
    · simp only [lead?, h₁, hlt, ↓reduceIte]
    · have h₂ : ¬ b.toNat < 0xC2 := by omega
      have h₃ : ¬ b.toNat < 0xE0 := by omega
      have h₄ : ¬ b.toNat < 0xF0 := by omega
      have h₅ : ¬ b.toNat < 0xF5 := by omega
      simp only [lead?, h₁, h₂, h₃, h₄, h₅, ↓reduceIte]
  simp only [step, hnone]

end Step

section EncodeChar

variable {c : Char}

theorem encodeChar_of_one (h : c.toNat < 0x80) : encodeChar c = [UInt8.ofNat c.toNat] := by
  simp only [encodeChar, h, ↓reduceIte]

theorem encodeChar_of_two (hlow : 0x80 ≤ c.toNat) (hhigh : c.toNat < 0x800) :
    encodeChar c = [UInt8.ofNat (0xC0 + c.toNat / 64), tail c.toNat] := by
  have h₁ : ¬ c.toNat < 0x80 := by omega
  simp only [encodeChar, h₁, hhigh, ↓reduceIte]

theorem encodeChar_of_three (hlow : 0x800 ≤ c.toNat) (hhigh : c.toNat < 0x10000) :
    encodeChar c =
      [UInt8.ofNat (0xE0 + c.toNat / 4096), tail (c.toNat / 64), tail c.toNat] := by
  have h₁ : ¬ c.toNat < 0x80 := by omega
  have h₂ : ¬ c.toNat < 0x800 := by omega
  simp only [encodeChar, h₁, h₂, hhigh, ↓reduceIte]

theorem encodeChar_of_four (hlow : 0x10000 ≤ c.toNat) :
    encodeChar c =
      [UInt8.ofNat (0xF0 + c.toNat / 262144), tail (c.toNat / 4096), tail (c.toNat / 64),
        tail c.toNat] := by
  have h₁ : ¬ c.toNat < 0x80 := by omega
  have h₂ : ¬ c.toNat < 0x800 := by omega
  have h₃ : ¬ c.toNat < 0x10000 := by omega
  simp only [encodeChar, h₁, h₂, h₃, ↓reduceIte]

end EncodeChar

/-- The sequence of a character is read as that character, whatever follows. -/
theorem exists_step_encodeChar (c : Char) (rest : Bytes) :
    ∃ b more, encodeChar c = b :: more ∧ step b (more ++ rest) = (some c, rest) := by
  have hvalid : c.toNat < 0xD800 ∨ 0xDFFF < c.toNat ∧ c.toNat < 0x110000 := c.valid
  rcases Nat.lt_or_ge c.toNat 0x80 with h₁ | h₁
  · refine ⟨_, _, encodeChar_of_one h₁, ?_⟩
    have hb := Bytes.toNat_ofNat (show c.toNat < 0x100 by omega)
    rw [List.nil_append, step_of_one rest (by omega), hb, Char.ofNat_toNat]
  rcases Nat.lt_or_ge c.toNat 0x800 with h₂ | h₂
  · refine ⟨_, _, encodeChar_of_two h₁ h₂, ?_⟩
    have hb := Bytes.toNat_ofNat (show 0xC0 + c.toNat / 64 < 0x100 by omega)
    have hcode : (0xC0 + c.toNat / 64 - 0xC0) * 64 + c.toNat % 64 = c.toNat := by omega
    rw [step_of_two _ (by omega) (by omega), hb, List.cons_append,
      follow_tail _ (by omega) (by omega), hcode, follow, Char.ofNat_toNat, List.nil_append]
  rcases Nat.lt_or_ge c.toNat 0x10000 with h₃ | h₃
  · refine ⟨_, _, encodeChar_of_three h₂ h₃, ?_⟩
    have hb := Bytes.toNat_ofNat (show 0xE0 + c.toNat / 4096 < 0x100 by omega)
    have hcode : ((0xE0 + c.toNat / 4096 - 0xE0) * 64 + c.toNat / 64 % 64) * 64 + c.toNat % 64 =
        c.toNat := by omega
    -- The first tail is in range since the code is neither overlong nor a surrogate.
    rw [step_of_three _ (by omega) (by omega), hb, List.cons_append,
      follow_tail _ (by split <;> omega) (by split <;> omega), List.cons_append,
      follow_tail _ (by omega) (by omega), hcode, follow, Char.ofNat_toNat, List.nil_append]
  · refine ⟨_, _, encodeChar_of_four h₃, ?_⟩
    have hb := Bytes.toNat_ofNat (show 0xF0 + c.toNat / 262144 < 0x100 by omega)
    have hcode : (((0xF0 + c.toNat / 262144 - 0xF0) * 64 + c.toNat / 4096 % 64) * 64 +
        c.toNat / 64 % 64) * 64 + c.toNat % 64 = c.toNat := by omega
    rw [step_of_four _ (by omega) (by omega), hb, List.cons_append,
      follow_tail _ (by split <;> omega) (by split <;> omega), List.cons_append,
      follow_tail _ (by omega) (by omega), List.cons_append,
      follow_tail _ (by omega) (by omega), hcode, follow, Char.ofNat_toNat, List.nil_append]

/-- Where a character is read, its own sequence stands. -/
theorem eq_encodeChar_append_of_step {b : UInt8} {rest after : Bytes} {c : Char}
    (h : step b rest = (some c, after)) : b :: rest = encodeChar c ++ after := by
  rcases Nat.lt_or_ge b.toNat 0x80 with h₁ | h₁
  · rw [step_of_one rest h₁, Prod.mk.injEq, Option.some.injEq] at h
    obtain ⟨rfl, rfl⟩ := h
    have hcode : (Char.ofNat b.toNat).toNat = b.toNat := Code.toNat_ofNat (Or.inl (by omega))
    rw [encodeChar_of_one (by omega), ofNat_eq_of_toNat hcode, List.singleton_append]
  by_cases h₂ : b.toNat < 0xC2 ∨ 0xF5 ≤ b.toNat
  · -- No sequence starts with such a byte.
    rw [step_of_no_lead rest (by omega)] at h
    simp at h
  rcases Nat.lt_or_ge b.toNat 0xE0 with h₃ | h₃
  · rw [step_of_two rest (by omega) h₃] at h
    obtain ⟨b₁, rest₁, rfl, hlow, hhigh, h⟩ := exists_of_follow_succ h
    obtain ⟨rfl, rfl⟩ := eq_of_follow_zero h
    have hcode := Code.toNat_ofNat
      (show ((b.toNat - 0xC0) * 64 + (b₁.toNat - 0x80)).isValidChar from Or.inl (by omega))
    rw [encodeChar_of_two (by omega) (by omega), ofNat_eq_of_toNat (b := b) (by omega),
      tail_eq_of_toNat (b := b₁) (by omega)]
    rfl
  rcases Nat.lt_or_ge b.toNat 0xF0 with h₄ | h₄
  · rw [step_of_three rest h₃ h₄] at h
    obtain ⟨b₁, rest₁, rfl, hlow, hhigh, h⟩ := exists_of_follow_succ h
    obtain ⟨b₂, rest₂, rfl, hlow₂, hhigh₂, h⟩ := exists_of_follow_succ h
    obtain ⟨rfl, rfl⟩ := eq_of_follow_zero h
    -- The range of the first tail rules out the overlong codes and the surrogates.
    have hrange : 0x800 ≤ ((b.toNat - 0xE0) * 64 + (b₁.toNat - 0x80)) * 64 + (b₂.toNat - 0x80) ∧
        (((b.toNat - 0xE0) * 64 + (b₁.toNat - 0x80)) * 64 + (b₂.toNat - 0x80)).isValidChar := by
      unfold Nat.isValidChar
      split at hlow <;> split at hhigh <;> omega
    have hcode := Code.toNat_ofNat hrange.2
    have hlow₁ : 0x80 ≤ b₁.toNat := by split at hlow <;> omega
    have hhigh₁ : b₁.toNat ≤ 0xBF := by split at hhigh <;> omega
    rw [encodeChar_of_three (by omega) (by omega), ofNat_eq_of_toNat (b := b) (by omega),
      tail_eq_of_toNat (b := b₁) (by omega), tail_eq_of_toNat (b := b₂) (by omega)]
    rfl
  · rw [step_of_four rest h₄ (by omega)] at h
    obtain ⟨b₁, rest₁, rfl, hlow, hhigh, h⟩ := exists_of_follow_succ h
    obtain ⟨b₂, rest₂, rfl, hlow₂, hhigh₂, h⟩ := exists_of_follow_succ h
    obtain ⟨b₃, rest₃, rfl, hlow₃, hhigh₃, h⟩ := exists_of_follow_succ h
    obtain ⟨rfl, rfl⟩ := eq_of_follow_zero h
    -- Here it rules out the overlong codes and those beyond the last character.
    have hrange : 0x10000 ≤ (((b.toNat - 0xF0) * 64 + (b₁.toNat - 0x80)) * 64 +
          (b₂.toNat - 0x80)) * 64 + (b₃.toNat - 0x80) ∧
        ((((b.toNat - 0xF0) * 64 + (b₁.toNat - 0x80)) * 64 + (b₂.toNat - 0x80)) * 64 +
          (b₃.toNat - 0x80)).isValidChar := by
      unfold Nat.isValidChar
      split at hlow <;> split at hhigh <;> omega
    have hcode := Code.toNat_ofNat hrange.2
    have hlow₁ : 0x80 ≤ b₁.toNat := by split at hlow <;> omega
    have hhigh₁ : b₁.toNat ≤ 0xBF := by split at hhigh <;> omega
    rw [encodeChar_of_four (by omega), ofNat_eq_of_toNat (b := b) (by omega),
      tail_eq_of_toNat (b := b₁) (by omega), tail_eq_of_toNat (b := b₂) (by omega),
      tail_eq_of_toNat (b := b₃) (by omega)]
    rfl

def IsTail (b : UInt8) : Prop := 0x80 ≤ b.toNat ∧ b.toNat < 0xC0

theorem isTail_tail (n : Nat) : IsTail (tail n) := by
  rw [IsTail, toNat_tail]
  omega

inductive IsSequence : Bytes → Prop where
  | ascii {b : UInt8} (hb : b.toNat < 0x80) : IsSequence [b]
  | led {b : UInt8} {tails : Bytes} (hb : 0xC0 ≤ b.toNat) (htails : ∀ t ∈ tails, IsTail t)
      (hmost : tails.length ≤ 3) : IsSequence (b :: tails)

/-- Every character is written as one sequence. -/
theorem isSequence_encodeChar (c : Char) : IsSequence (encodeChar c) := by
  have hvalid : c.toNat < 0xD800 ∨ 0xDFFF < c.toNat ∧ c.toNat < 0x110000 := c.valid
  have hlead {n : Nat} (hlow : 0xC0 ≤ n) (hhigh : n < 0x100) : 0xC0 ≤ (UInt8.ofNat n).toNat := by
    rw [Bytes.toNat_ofNat hhigh]
    exact hlow
  rcases Nat.lt_or_ge c.toNat 0x80 with h₁ | h₁
  · rw [encodeChar_of_one h₁]
    apply IsSequence.ascii
    rw [Bytes.toNat_ofNat (by omega)]
    exact h₁
  rcases Nat.lt_or_ge c.toNat 0x800 with h₂ | h₂
  · rw [encodeChar_of_two h₁ h₂]
    exact .led (hlead (by omega) (by omega)) (by simp [isTail_tail]) (by simp)
  rcases Nat.lt_or_ge c.toNat 0x10000 with h₃ | h₃
  · rw [encodeChar_of_three h₂ h₃]
    exact .led (hlead (by omega) (by omega)) (by simp [isTail_tail]) (by simp)
  · rw [encodeChar_of_four h₃]
    exact .led (hlead (by omega) (by omega)) (by simp [isTail_tail]) (by simp)

theorem le_toNat_of_mem_encodeChar {c : Char} (h : 0x80 ≤ c.toNat) :
    ∀ b ∈ encodeChar c, 0x80 ≤ b.toNat := by
  have hvalid : c.toNat < 0xD800 ∨ 0xDFFF < c.toNat ∧ c.toNat < 0x110000 := c.valid
  have htail (n : Nat) : 0x80 ≤ (tail n).toNat := by
    rw [toNat_tail]
    omega
  rcases Nat.lt_or_ge c.toNat 0x800 with h₂ | h₂
  · have hlead := Bytes.toNat_ofNat (show 0xC0 + c.toNat / 64 < 0x100 by omega)
    rw [encodeChar_of_two h h₂, List.forall_mem_cons, List.forall_mem_singleton, hlead]
    exact ⟨by omega, htail _⟩
  rcases Nat.lt_or_ge c.toNat 0x10000 with h₃ | h₃
  · have hlead := Bytes.toNat_ofNat (show 0xE0 + c.toNat / 4096 < 0x100 by omega)
    rw [encodeChar_of_three h₂ h₃, List.forall_mem_cons, List.forall_mem_cons,
      List.forall_mem_singleton, hlead]
    exact ⟨by omega, htail _, htail _⟩
  · have hlead := Bytes.toNat_ofNat (show 0xF0 + c.toNat / 262144 < 0x100 by omega)
    rw [encodeChar_of_four h₃, List.forall_mem_cons, List.forall_mem_cons, List.forall_mem_cons,
      List.forall_mem_singleton, hlead]
    exact ⟨by omega, htail _, htail _, htail _⟩

/-- An ASCII byte is written for its own character only. -/
theorem mem_of_mem_encode {b : UInt8} {cs : List Char} (hb : b.toNat < 0x80) (h : b ∈ encode cs) :
    Char.ofNat b.toNat ∈ cs := by
  obtain ⟨c, hc, hmem⟩ := List.mem_flatMap.mp h
  rcases Nat.lt_or_ge c.toNat 0x80 with h₁ | h₁
  · rw [encodeChar_of_one h₁, List.mem_singleton] at hmem
    rwa [hmem, Bytes.toNat_ofNat (by omega), Char.ofNat_toNat]
  · -- The bytes of a longer sequence are all beyond ASCII.
    have hle := le_toNat_of_mem_encodeChar h₁ b hmem
    omega

theorem encode_ne_nil {cs : List Char} (h : cs ≠ []) : encode cs ≠ [] := by
  obtain ⟨c, hc⟩ := List.exists_mem_of_ne_nil cs h
  obtain ⟨b, more, hbytes, -⟩ := exists_step_encodeChar c []
  apply List.ne_nil_of_mem (a := b)
  exact List.mem_flatMap.mpr ⟨c, hc, by rw [hbytes]; exact List.mem_cons_self⟩

/-- A character is written as the core library writes it. -/
theorem encodeChar_eq_utf8EncodeChar (c : Char) : encodeChar c = String.utf8EncodeChar c := by
  have hvalid : c.toNat < 0xD800 ∨ 0xDFFF < c.toNat ∧ c.toNat < 0x110000 := c.valid
  have hval : c.val.toNat = c.toNat := rfl
  have htail (n : Nat) : UInt8.ofNat (n % 64 + 128) = tail n := by rw [tail, Nat.add_comm]
  -- The lead bytes agree since no code is large enough for the remainders to matter.
  unfold String.utf8EncodeChar
  simp only [hval, htail]
  rcases Nat.lt_or_ge c.toNat 0x80 with h₁ | h₁
  · rw [encodeChar_of_one h₁, if_pos (by omega)]
  rcases Nat.lt_or_ge c.toNat 0x800 with h₂ | h₂
  · have hlead : c.toNat / 64 % 32 + 192 = 0xC0 + c.toNat / 64 := by omega
    rw [encodeChar_of_two h₁ h₂, if_neg (by omega), if_pos (by omega), hlead]
  rcases Nat.lt_or_ge c.toNat 0x10000 with h₃ | h₃
  · have hlead : c.toNat / 4096 % 16 + 224 = 0xE0 + c.toNat / 4096 := by omega
    rw [encodeChar_of_three h₂ h₃, if_neg (by omega), if_neg (by omega), if_pos (by omega), hlead]
  · have hlead : c.toNat / 262144 % 8 + 240 = 0xF0 + c.toNat / 262144 := by omega
    rw [encodeChar_of_four h₃, if_neg (by omega), if_neg (by omega), if_neg (by omega), hlead]

/-- Writing agrees with the core library. -/
theorem toByteArray_encode (cs : List Char) : (encode cs).toByteArray = cs.utf8Encode := by
  have hchar : encodeChar = String.utf8EncodeChar := funext encodeChar_eq_utf8EncodeChar
  rw [encode, hchar, List.utf8Encode]

theorem eq_encode_iff {bs : Bytes} {cs : List Char} :
    bs = encode cs ↔ bs.toByteArray = cs.utf8Encode := by
  rw [← toByteArray_encode, List.toByteArray_inj]

theorem encode_cons (c : Char) (cs : List Char) : encode (c :: cs) = encodeChar c ++ encode cs := rfl

theorem encode_append (cs ds : List Char) : encode (cs ++ ds) = encode cs ++ encode ds :=
  List.flatMap_append

section Reading

variable {b : UInt8} {rest after : Bytes} {c : Char}

theorem decode_of_step (h : step b rest = (some c, after)) :
    decode (b :: rest) = c :: decode after := by
  rw [decode]
  split <;> simp_all

theorem decodeMaximal_of_step (h : step b rest = (some c, after)) :
    decodeMaximal (b :: rest) = c :: decodeMaximal after := by
  rw [decodeMaximal]
  split <;> simp_all

theorem isValid_of_step (h : step b rest = (some c, after)) :
    isValid (b :: rest) = isValid after := by
  rw [isValid]
  split <;> simp_all

theorem isValid_of_step_eq_none (h : step b rest = (none, after)) : isValid (b :: rest) = false := by
  rw [isValid]
  split <;> simp_all

end Reading

/-- Reading byte by byte undoes writing. -/
theorem decode_encode (cs : List Char) : decode (encode cs) = cs := by
  induction cs with
  | nil => rw [encode, List.flatMap_nil, decode]
  | cons c cs ih =>
    obtain ⟨b, more, hc, hstep⟩ := exists_step_encodeChar c (encode cs)
    rw [encode_cons, hc, List.cons_append, decode_of_step hstep, ih]

/-- Reading by longest beginnings undoes writing. -/
theorem decodeMaximal_encode (cs : List Char) : decodeMaximal (encode cs) = cs := by
  induction cs with
  | nil => rw [encode, List.flatMap_nil, decodeMaximal]
  | cons c cs ih =>
    obtain ⟨b, more, hc, hstep⟩ := exists_step_encodeChar c (encode cs)
    rw [encode_cons, hc, List.cons_append, decodeMaximal_of_step hstep, ih]

/-- What is written passes the check. -/
theorem isValid_encode (cs : List Char) : isValid (encode cs) = true := by
  induction cs with
  | nil => rw [encode, List.flatMap_nil, isValid]
  | cons c cs ih =>
    obtain ⟨b, more, hc, hstep⟩ := exists_step_encodeChar c (encode cs)
    rw [encode_cons, hc, List.cons_append, isValid_of_step hstep, ih]

/-- The check passes exactly the byte strings that writing gives. -/
theorem isValid_iff_exists_encode {bs : Bytes} : isValid bs = true ↔ ∃ cs, bs = encode cs := by
  constructor
  · intro h
    -- Each step of the check passes over the sequence of one character.
    fun_induction isValid bs with
    | case1 => exact ⟨[], rfl⟩
    | case2 b rest c after hstep ih =>
      obtain ⟨cs, hcs⟩ := ih h
      exact ⟨c :: cs, by rw [eq_encodeChar_append_of_step hstep, hcs, encode_cons]⟩
    | case3 => exact absurd h Bool.false_ne_true
  · rintro ⟨cs, rfl⟩
    exact isValid_encode cs

/-- The check is that of the core library. -/
theorem isValid_iff_isValidUTF8 {bs : Bytes} :
    isValid bs = true ↔ bs.toByteArray.IsValidUTF8 := by
  rw [isValid_iff_exists_encode]
  constructor
  · rintro ⟨cs, hcs⟩
    exact ⟨cs, eq_encode_iff.mp hcs⟩
  · rintro ⟨cs, hcs⟩
    exact ⟨cs, eq_encode_iff.mpr hcs⟩

/-- ASCII bytes are read one by one. -/
theorem decode_of_ascii {bs : Bytes} (h : ∀ b ∈ bs, b.toNat < 0x80) :
    decode bs = bs.map fun b => Char.ofNat b.toNat := by
  induction bs with
  | nil => rw [decode, List.map_nil]
  | cons b bs ih =>
    have hb := h b List.mem_cons_self
    have hbs := ih fun c hc => h c (List.mem_cons_of_mem b hc)
    rw [decode_of_step (step_of_one bs hb), hbs, List.map_cons]

/-- ASCII characters are written as their own bytes. -/
theorem encode_of_ascii {bs : Bytes} (h : ∀ b ∈ bs, b.toNat < 0x80) :
    encode (bs.map fun b => Char.ofNat b.toNat) = bs := by
  induction bs with
  | nil => rfl
  | cons b bs ih =>
    have hb := h b List.mem_cons_self
    have hcode : (Char.ofNat b.toNat).toNat = b.toNat := Code.toNat_ofNat (Or.inl (by omega))
    have hbs := ih fun c hc => h c (List.mem_cons_of_mem b hc)
    rw [List.map_cons, encode_cons, hbs, encodeChar_of_one (by omega), ofNat_eq_of_toNat hcode,
      List.singleton_append]

end TextWalk.Utf8
