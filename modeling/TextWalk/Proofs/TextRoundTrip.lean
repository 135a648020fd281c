import TextWalk.Command.Run
import TextWalk.Proofs.Utf8

namespace TextWalk

def Code.IsScalar (c : Int) : Prop := 0 ≤ c ∧ (c < 0xD800 ∨ 0xDFFF < c ∧ c < 0x110000)

instance (c : Code) : Decidable (Code.IsScalar c) :=
  inferInstanceAs (Decidable (_ ∧ _))

theorem Code.isScalar_iff {c : Int} : Code.IsScalar c ↔ 0 ≤ c ∧ c.toNat.isValidChar := by
  unfold Code.IsScalar Nat.isValidChar
  constructor
  · intro h
    omega
  · intro h
    omega

/-- Written as a character, a code is kept or replaced. -/
theorem Code.ofChar_toChar_eq (c : Code) :
    Code.ofChar c.toChar = if Code.IsScalar c then c else 0xFFFD := by
  by_cases h : Code.IsScalar c
  · have hvalid := Code.isScalar_iff.mp h
    rw [if_pos h, Code.ofChar_toChar hvalid.1 hvalid.2]
  · have hinvalid := mt Code.isScalar_iff.mpr h
    rw [if_neg h, Code.toChar, if_neg hinvalid]
    rfl

namespace Utf8

/-- What bytes read as: the character of each sequence that stands whole, and one replacement
character for every byte at which none does. -/
inductive Reads : Bytes → List Char → Prop where
  | done : Reads [] []
  | char {rest : Bytes} {cs : List Char} (c : Char) (h : Reads rest cs) :
      Reads (String.utf8EncodeChar c ++ rest) (c :: cs)
  | stray {b : UInt8} {rest : Bytes} {cs : List Char}
      (hb : ∀ c, ¬ String.utf8EncodeChar c <+: b :: rest) (h : Reads rest cs) :
      Reads (b :: rest) ('\uFFFD' :: cs)

section Stray

variable {b : UInt8} {rest after : Bytes}

theorem decode_of_step_eq_none (h : step b rest = (none, after)) :
    decode (b :: rest) = '\uFFFD' :: decode rest := by
  rw [decode]
  split <;> simp_all [Code.replacement]

/-- A step gives nothing exactly where the sequence of no character stands. -/
theorem fst_step_eq_none_iff :
    (step b rest).1 = none ↔ ∀ c, ¬ String.utf8EncodeChar c <+: b :: rest := by
  constructor
  · intro hnone c hprefix
    obtain ⟨tail, htail⟩ := hprefix
    rw [← encodeChar_eq_utf8EncodeChar] at htail
    -- The sequence of a character is read as that character, whatever follows.
    obtain ⟨b', more, hbytes, hstep⟩ := exists_step_encodeChar c tail
    rw [hbytes, List.cons_append, List.cons.injEq] at htail
    rw [← htail.1, ← htail.2, hstep] at hnone
    exact Option.some_ne_none c hnone
  · intro h
    cases hstep : step b rest with
    | mk found after =>
      cases found with
      | none => rfl
      | some c =>
        have hbytes := eq_encodeChar_append_of_step hstep
        rw [encodeChar_eq_utf8EncodeChar] at hbytes
        exact absurd ⟨after, hbytes.symm⟩ (h c)

end Stray

/-- The reader reads bytes as the relation says. -/
theorem reads_decode (bs : Bytes) : Reads bs (decode bs) := by
  fun_induction decode bs with
  | case1 => exact Reads.done
  | case2 b rest c after hstep ih =>
    rw [eq_encodeChar_append_of_step hstep, encodeChar_eq_utf8EncodeChar]
    exact Reads.char c ih
  | case3 b rest after hstep ih =>
    apply Reads.stray _ ih
    apply fst_step_eq_none_iff.mp
    rw [hstep]

theorem Reads.decode_eq {bs : Bytes} {cs : List Char} (h : Reads bs cs) : decode bs = cs := by
  induction h with
  | done => rw [decode]
  | @char rest cs c _ ih =>
    obtain ⟨b, more, hbytes, hstep⟩ := exists_step_encodeChar c rest
    rw [← encodeChar_eq_utf8EncodeChar, hbytes, List.cons_append, decode_of_step hstep, ih]
  | @stray b rest cs hb _ ih =>
    have hnone := fst_step_eq_none_iff.mpr hb
    have hstep : step b rest = (none, (step b rest).2) := Prod.ext hnone rfl
    rw [decode_of_step_eq_none hstep, ih]

/-- Bytes read as one text only. -/
theorem reads_iff {bs : Bytes} {cs : List Char} : Reads bs cs ↔ cs = decode bs := by
  constructor
  · intro h
    exact h.decode_eq.symm
  · intro h
    rw [h]
    exact reads_decode bs

/-- Writing what was read gives the bytes back exactly if they are UTF-8. -/
theorem encode_decode_eq_iff {bs : Bytes} :
    encode (decode bs) = bs ↔ bs.toByteArray.IsValidUTF8 := by
  rw [← isValid_iff_isValidUTF8, isValid_iff_exists_encode]
  constructor
  · intro h
    exact ⟨decode bs, h.symm⟩
  · intro h
    obtain ⟨cs, rfl⟩ := h
    rw [decode_encode]

end Utf8

namespace Buffer

open Command

@[simp] theorem content_ofChars (cs : List Char) :
    (ofChars cs).content.toList = cs.map Code.ofChar := rfl

/-- The text of a buffer has the bytes that are written for it. -/
theorem toByteArray_text (b : Buffer) : b.text.toByteArray = (textBytes b).toByteArray := by
  rw [text, Code.text, String.toByteArray_ofList, textBytes, Utf8.toByteArray_encode]

theorem textBytes_ofChars (cs : List Char) : textBytes (ofChars cs) = Utf8.encode cs := by
  have hchars : (cs.map Code.ofChar).map Code.toChar = cs := by
    rw [List.map_map]
    apply List.map_id''
    exact Code.toChar_ofChar
  rw [textBytes, content_ofChars, hchars]

/-- Written and read again, every code is kept or replaced. -/
theorem decode_textBytes_ofCodes (codes : List Code) :
    Utf8.decode (textBytes (ofCodes codes)) = codes.map Code.toChar := by
  rw [textBytes, Utf8.decode_encode]
  rfl

/-- The text of a buffer is its bytes. A buffer over bytes reads each sequence that stands whole and
replaces every other byte; its text is UTF-8, is the same bytes exactly if those were UTF-8, and
gives the same buffer again. A buffer over codes gives through its text as many codes, those that are
no characters replaced. -/
theorem text_reads_back :
    (∀ b : Buffer, b.text.toByteArray = (textBytes b).toByteArray) ∧
      (∀ s : Bytes,
        (∀ cs, Utf8.Reads s cs ↔ cs = Utf8.decode s) ∧
        (textBytes (ofChars (Utf8.decode s))).toByteArray.IsValidUTF8 ∧
        (textBytes (ofChars (Utf8.decode s)) = s ↔ s.toByteArray.IsValidUTF8) ∧
        ofChars (Utf8.decode (textBytes (ofChars (Utf8.decode s)))) = ofChars (Utf8.decode s)) ∧
      ∀ codes : List Code,
        (ofChars (Utf8.decode (textBytes (ofCodes codes)))).content.toList =
          codes.map (fun c => if Code.IsScalar c then c else 0xFFFD) ∧
        (ofChars (Utf8.decode (textBytes (ofCodes codes)))).size = (ofCodes codes).size := by
  refine ⟨toByteArray_text, ?_, ?_⟩
  · intro s
    have hbytes := textBytes_ofChars (Utf8.decode s)
    refine ⟨fun cs => Utf8.reads_iff, ?_, ?_, ?_⟩
    · rw [hbytes, Utf8.toByteArray_encode]
      exact ⟨_, rfl⟩
    · rw [hbytes]
      exact Utf8.encode_decode_eq_iff
    · rw [hbytes, Utf8.decode_encode]
  · intro codes
    have hcontent : (ofChars (Utf8.decode (textBytes (ofCodes codes)))).content.toList =
        codes.map (fun c => if Code.IsScalar c then c else 0xFFFD) := by
      rw [content_ofChars, decode_textBytes_ofCodes, List.map_map]
      apply List.map_congr_left
      intro c _
      exact Code.ofChar_toChar_eq c
    refine ⟨hcontent, ?_⟩
    have hlength := congrArg List.length hcontent
    rwa [List.length_map, Array.length_toList] at hlength

end Buffer

end TextWalk
