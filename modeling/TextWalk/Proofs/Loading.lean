import TextWalk.Proofs.UnicodeForm

namespace TextWalk.Load

def IsKnownLabel (contentType : Bytes) : Prop :=
  isLabel contentType = true ∧ ∃ e, Encoding.ofLabel? contentType = some e

/-- The content type decides the encoding: it is a label of the table, or a media type whose charset
parameter is one. -/
def IsAuthoritative (contentType : Bytes) : Prop :=
  IsKnownLabel contentType ∨
    ∃ m value e, MediaType.parse? contentType = some m ∧
      m.parameter? (Bytes.ascii "charset") = some value ∧ Encoding.ofLabel? value = some e

def NamesHtml (contentType : Bytes) : Prop :=
  ∃ m, MediaType.parse? contentType = some m ∧ m.name = "text/html".toList

def HasMark (data : Bytes) : Prop := ∃ form : UnicodeForm, form.mark <+: data

theorem dropMark_eq (cs : List Char) :
    dropMark cs = if cs.head? = some '\uFEFF' then cs.tail else cs := by
  cases cs with
  | nil => rfl
  | cons c cs => simp [dropMark]

section Choice

variable {data contentType : Bytes}

theorem isHtml_eq_true_iff : isHtml contentType = true ↔ NamesHtml contentType := by
  simp only [isHtml, Option.any_eq_true, beq_iff_eq, NamesHtml]

theorem charsetEncoding?_eq_some_iff {e : Encoding} :
    charsetEncoding? contentType = some e ↔
      ∃ m value, MediaType.parse? contentType = some m ∧
        m.parameter? (Bytes.ascii "charset") = some value ∧ Encoding.ofLabel? value = some e := by
  simp only [charsetEncoding?, Option.bind_eq_some_iff]
  constructor
  · rintro ⟨value, ⟨m, hm, hvalue⟩, he⟩
    exact ⟨m, value, hm, hvalue, he⟩
  · rintro ⟨m, value, hm, hvalue, he⟩
    exact ⟨value, ⟨m, hm, hvalue⟩, he⟩

theorem isKnownLabel_iff :
    IsKnownLabel contentType ↔
      isLabel contentType = true ∧ (Encoding.ofLabel? contentType).isSome = true := by
  rw [Option.isSome_iff_exists, IsKnownLabel]

/-- The content type decides exactly if it is a known label or names one as its charset. -/
theorem isAuthoritative_iff :
    IsAuthoritative contentType ↔
      IsKnownLabel contentType ∨ (charsetEncoding? contentType).isSome = true := by
  rw [Option.isSome_iff_exists, IsAuthoritative]
  constructor
  · rintro (hknown | ⟨m, value, e, hm, hvalue, he⟩)
    · exact Or.inl hknown
    · exact Or.inr ⟨e, charsetEncoding?_eq_some_iff.mpr ⟨m, value, hm, hvalue, he⟩⟩
  · rintro (hknown | ⟨e, he⟩)
    · exact Or.inl hknown
    · obtain ⟨m, value, hm, hvalue, hlabel⟩ := charsetEncoding?_eq_some_iff.mp he
      exact Or.inr ⟨m, value, e, hm, hvalue, hlabel⟩

instance (contentType : Bytes) : Decidable (IsKnownLabel contentType) :=
  decidable_of_iff _ isKnownLabel_iff.symm

instance (contentType : Bytes) : Decidable (IsAuthoritative contentType) :=
  decidable_of_iff _ isAuthoritative_iff.symm

instance (contentType : Bytes) : Decidable (NamesHtml contentType) :=
  decidable_of_iff _ isHtml_eq_true_iff

theorem charsetEncoding?_eq_none (h : ¬ IsAuthoritative contentType) :
    charsetEncoding? contentType = none := by
  rw [isAuthoritative_iff, not_or, Bool.not_eq_true, Option.isSome_eq_false_iff] at h
  exact Option.isNone_iff_eq_none.mp h.2

theorem hasMark_iff :
    HasMark data ↔ UnicodeForm.utf8.mark <+: data ∨
      (UnicodeForm.utf16 .little).mark <+: data ∨ (UnicodeForm.utf16 .big).mark <+: data := by
  constructor
  · rintro ⟨_ | _ | _, h⟩
    · exact Or.inl h
    · exact Or.inr (Or.inl h)
    · exact Or.inr (Or.inr h)
  · rintro (h | h | h)
    · exact ⟨_, h⟩
    · exact ⟨_, h⟩
    · exact ⟨_, h⟩

instance (data : Bytes) : Decidable (HasMark data) := decidable_of_iff _ hasMark_iff.symm

/-- The mark of a form is recognized whatever follows it. -/
theorem markEncoding?_mark_append (form : UnicodeForm) (rest : Bytes) :
    markEncoding? (form.mark ++ rest) = some form.encoding := by
  match form with
  | .utf8 => rfl
  | .utf16 .little => rfl
  | .utf16 .big => rfl

theorem markEncoding?_eq_none (h : ¬ HasMark data) : markEncoding? data = none := by
  have hnone (form : UnicodeForm) : form.mark.isPrefixOf data = false := by
    rw [Bool.eq_false_iff, Ne, List.isPrefixOf_iff_prefix]
    exact fun hprefix => h ⟨form, hprefix⟩
  have hbig := hnone (.utf16 .big)
  have hlittle := hnone (.utf16 .little)
  have hutf8 := hnone .utf8
  simp only [UnicodeForm.mark] at hbig hlittle hutf8
  simp [markEncoding?, marks, hbig, hlittle, hutf8]

/-- A content type that is no known label leaves the choice to the data, as if an unknown label had
not been given. -/
theorem encodingOf_of_not_isKnownLabel (h : ¬ IsKnownLabel contentType) :
    encodingOf data contentType = sniff data (if isLabel contentType then [] else contentType) := by
  by_cases hlabel : isLabel contentType = true
  · have hnone : Encoding.ofLabel? contentType = none := by
      apply Option.eq_none_iff_forall_ne_some.mpr
      intro e he
      exact h ⟨hlabel, e, he⟩
    rw [encodingOf, if_pos hlabel, if_pos hlabel, hnone, Option.getD_none]
  · rw [encodingOf, if_neg hlabel, if_neg hlabel]

/-- A mark decides unless the content type is a known label. -/
theorem encodingOf_mark_append (form : UnicodeForm) (rest : Bytes)
    (h : ¬ IsKnownLabel contentType) :
    encodingOf (form.mark ++ rest) contentType = form.encoding := by
  rw [encodingOf_of_not_isKnownLabel h, sniff, markEncoding?_mark_append, Option.some_or]

/-- Without a label, a mark and a charset, the choice rests on the data as a whole. -/
theorem encodingOf_of_not_isAuthoritative (h : ¬ IsAuthoritative contentType)
    (hmark : ¬ HasMark data) (hdata : Utf8.isValid data = true ∨ ¬ NamesHtml contentType) :
    encodingOf data contentType =
      if Utf8.isValid data then .asIs else .codePage .windows1252 := by
  have hknown : ¬ IsKnownLabel contentType := fun hk => h (Or.inl hk)
  have hempty : charsetEncoding? [] = none := by decide +kernel
  have hemptyHtml : isHtml [] = false := by decide +kernel
  -- Blanking an unknown label keeps both that no charset and that no HTML is named.
  have hcharset : charsetEncoding? (if isLabel contentType then [] else contentType) = none := by
    split
    · exact hempty
    · exact charsetEncoding?_eq_none h
  have hhtml : ¬ NamesHtml contentType →
      isHtml (if isLabel contentType then [] else contentType) = false := by
    intro hn
    split
    · exact hemptyHtml
    · exact Bool.eq_false_iff.mpr (mt isHtml_eq_true_iff.mp hn)
  rw [encodingOf_of_not_isKnownLabel hknown, sniff, markEncoding?_eq_none hmark, hcharset]
  -- The guess from the front of the data is reached only by HTML that is no UTF-8.
  rcases hdata with hvalid | hn
  · simp [hvalid]
  · simp [hhtml hn]

end Choice

section Western

/-- The Western code page leaves five bytes undefined. -/
theorem decodeByte_windows1252 : ∀ b : UInt8,
    (CodePage.windows1252.decodeByte b = '\uFFFD' ↔ b ∈ [0x81, 0x8D, 0x8F, 0x90, 0x9D]) ∧
      CodePage.windows1252.decodeByte b ≠ '\uFEFF' := by
  apply Bytes.forall_of_fin
  decide +kernel

theorem dropMark_decode_windows1252 (data : Bytes) :
    dropMark (CodePage.windows1252.decode data) = data.map CodePage.windows1252.decodeByte := by
  cases data with
  | nil => rfl
  | cons b data =>
    have hb := (decodeByte_windows1252 b).2
    simp [dropMark, CodePage.decode, hb]

end Western

/-- Behind its mark a text is read back, and only that mark is taken off. -/
theorem text_mark_append_encode (form : UnicodeForm) (s : List Char) {contentType : Bytes}
    (h : ¬ IsKnownLabel contentType) :
    text (form.mark ++ form.encode s) contentType = s := by
  rw [text, encodingOf_mark_append form _ h, UnicodeForm.mark_append_encode,
    UnicodeForm.decode_encode, dropMark, if_pos rfl]

/-- Text written in UTF-8 begins with a byte order mark exactly if its first character is one. -/
theorem hasMark_encode_iff {s : List Char} :
    HasMark (Utf8.encode s) ↔ s.head? = some '\uFEFF' := by
  constructor
  · rintro ⟨form, rest, hrest⟩
    have hvalid := Utf8.isValid_encode s
    have hdecode := Utf8.decode_encode s
    rw [← hrest] at hvalid hdecode
    -- The marks of the other forms start with bytes that no sequence starts with.
    have hlead (b : UInt8) (rest : Bytes) (hb : 0xF5 ≤ b.toNat) :
        Utf8.isValid (b :: rest) ≠ true := by
      rw [Utf8.isValid_of_step_eq_none (Utf8.step_of_no_lead rest (Or.inr hb))]
      exact Bool.false_ne_true
    match form with
    | .utf8 =>
      have hstep : Utf8.step 0xEF (0xBB :: 0xBF :: rest) = (some '\uFEFF', rest) := rfl
      have hfirst : Utf8.decode (UnicodeForm.utf8.mark ++ rest) = '\uFEFF' :: Utf8.decode rest :=
        Utf8.decode_of_step hstep
      rw [← hdecode, hfirst, List.head?_cons]
    | .utf16 .little => exact absurd hvalid (hlead 0xFF _ (by decide))
    | .utf16 .big => exact absurd hvalid (hlead 0xFE _ (by decide))
  · intro h
    obtain ⟨t, rfl⟩ := List.head?_eq_some_iff.mp h
    exact ⟨.utf8, Utf8.encode t, UnicodeForm.mark_append_encode .utf8 t⟩

section Sniffed

variable {contentType : Bytes} (h : ¬ IsAuthoritative contentType)
include h

/-- Where the content type does not decide, UTF-8 without a mark is read back. -/
theorem text_encode_of_not_hasMark {s : List Char} (hmark : ¬ HasMark (Utf8.encode s)) :
    text (Utf8.encode s) contentType = s := by
  have hvalid := Utf8.isValid_encode s
  rw [text, encodingOf_of_not_isAuthoritative h hmark (Or.inl hvalid), if_pos hvalid,
    Encoding.decode, Utf8.decode_encode, dropMark_eq, if_neg (mt hasMark_encode_iff.mpr hmark)]

/-- Where it does not decide, data that is no UTF-8 is read byte by byte in the Western code page.
-/
theorem text_of_not_isValid {data : Bytes} (hmark : ¬ HasMark data)
    (hdata : ¬ Utf8.isValid data = true) (hhtml : ¬ NamesHtml contentType) :
    text data contentType = data.map CodePage.windows1252.decodeByte := by
  rw [text, encodingOf_of_not_isAuthoritative h hmark (Or.inr hhtml), if_neg hdata,
    Encoding.decode, dropMark_decode_windows1252]

end Sniffed

end TextWalk.Load

namespace TextWalk.Buffer

open Load

/-- Without a byte order mark and a content type that decides, data that is UTF-8 as a whole is read
so, whatever the markup says. Unless the content type is HTML, any other data is read byte by byte in
the Western code page, which leaves five bytes undefined. So the choice does not change between two
data of which both or neither is UTF-8, wherever they differ. -/
theorem load_of_not_isAuthoritative (data contentType : Bytes)
    (h : ¬ IsAuthoritative contentType) (hmark : ¬ HasMark data) :
    (∀ s, data.toByteArray = s.utf8Encode →
        Buffer.load (.ok data) contentType = .ok (.ofChars s)) ∧
      (¬ data.toByteArray.IsValidUTF8 → ¬ NamesHtml contentType →
        Buffer.load (.ok data) contentType =
            .ok (.ofChars (data.map CodePage.windows1252.decodeByte)) ∧
          (Buffer.ofChars (data.map CodePage.windows1252.decodeByte)).size = data.length) ∧
      (∀ b, CodePage.windows1252.decodeByte b = '\uFFFD' ↔
        b ∈ [0x81, 0x8D, 0x8F, 0x90, 0x9D]) ∧
      ∀ data' : Bytes, ¬ HasMark data' →
        (data'.toByteArray.IsValidUTF8 ↔ data.toByteArray.IsValidUTF8) →
          (data.toByteArray.IsValidUTF8 ∨ ¬ NamesHtml contentType) →
            Load.encodingOf data' contentType = Load.encodingOf data contentType := by
  refine ⟨?_, ?_, fun b => (decodeByte_windows1252 b).1, ?_⟩
  · intro s hs
    obtain rfl := Utf8.eq_encode_iff.mpr hs
    rw [Buffer.load, ofData, text_encode_of_not_hasMark h hmark]
  · intro hdata hhtml
    rw [← Utf8.isValid_iff_isValidUTF8] at hdata
    rw [Buffer.load, ofData, text_of_not_isValid h hmark hdata hhtml]
    exact ⟨rfl, by simp [size, ofChars, ofCodes]⟩
  · intro data' hmark' hsame hdata
    rw [← Utf8.isValid_iff_isValidUTF8, ← Utf8.isValid_iff_isValidUTF8] at hsame
    rw [← Utf8.isValid_iff_isValidUTF8] at hdata
    have hdata' : Utf8.isValid data' = true ∨ ¬ NamesHtml contentType := by rwa [hsame]
    rw [encodingOf_of_not_isAuthoritative h hmark hdata,
      encodingOf_of_not_isAuthoritative h hmark' hdata', Bool.eq_iff_iff.mpr hsame]

/-- A media type that breaks off, and an HTML page that declares another encoding than its own. -/
theorem load_of_malformed_type :
    (¬ IsAuthoritative (Bytes.ascii "text/plain; charset") ∧
      ¬ HasMark (Bytes.ascii "caf" ++ [0xE9]) ∧
      Buffer.load (.ok (Bytes.ascii "caf" ++ [0xE9])) (Bytes.ascii "text/plain; charset") =
        .ok (.ofChars ['c', 'a', 'f', 'é'])) ∧
      ¬ IsAuthoritative (Bytes.ascii "text/html") ∧
      ¬ HasMark (Utf8.encode "<meta charset=koi8-r>é".toList) ∧
      Buffer.load (.ok (Utf8.encode "<meta charset=koi8-r>é".toList)) (Bytes.ascii "text/html") =
        .ok (.ofChars "<meta charset=koi8-r>é".toList) := by
  have hplain : ¬ IsAuthoritative (Bytes.ascii "text/plain; charset") := by decide +kernel
  have hpage : ¬ IsAuthoritative (Bytes.ascii "text/html") := by decide +kernel
  have hbytes : ¬ HasMark (Bytes.ascii "caf" ++ [0xE9]) := by decide +kernel
  have hmeta : ¬ HasMark (Utf8.encode "<meta charset=koi8-r>é".toList) := by decide +kernel
  have hinvalid : ¬ (Bytes.ascii "caf" ++ [0xE9]).toByteArray.IsValidUTF8 := by
    rw [← Utf8.isValid_iff_isValidUTF8]
    decide +kernel
  have hwestern := ((load_of_not_isAuthoritative _ _ hplain hbytes).2.1 hinvalid
    (by decide +kernel)).1
  have hchars : (Bytes.ascii "caf" ++ [0xE9]).map CodePage.windows1252.decodeByte =
      ['c', 'a', 'f', 'é'] := by decide +kernel
  rw [hchars] at hwestern
  exact ⟨⟨hplain, hbytes, hwestern⟩, hpage, hmeta,
    (load_of_not_isAuthoritative _ _ hpage hmeta).1 _ (Utf8.toByteArray_encode _)⟩

/-- Data with the byte order mark of a form is read as what the form has written after the mark,
unless the content type is a known label: one mark is left out and no more, whatever charset or
markup says. -/
theorem load_mark_append_encode (form : UnicodeForm) (s : List Char) (contentType : Bytes)
    (h : ¬ IsKnownLabel contentType) :
    Buffer.load (.ok (form.mark ++ form.encode s)) contentType =
      .ok { content := (s.map Code.ofChar).toArray, offset := 0, line := 1, column := 0,
            lineEnds := [] } := by
  rw [Buffer.load, ofData, text_mark_append_encode form s h]
  rfl

/-- The text itself begins with a mark and the content type names another encoding. -/
theorem load_mark_append_encode_of_repeated_mark :
    ¬ IsKnownLabel (Bytes.ascii "text/html; charset=latin1") ∧
      Buffer.load (.ok ([0xFF, 0xFE] ++ Utf16.encode .little ['\uFEFF', 'a', '😀']))
          (Bytes.ascii "text/html; charset=latin1") =
        .ok { content := #[0xFEFF, 0x61, 0x1F600], offset := 0, line := 1, column := 0,
              lineEnds := [] } := by
  have hlabel : ¬ IsKnownLabel (Bytes.ascii "text/html; charset=latin1") := by decide +kernel
  exact ⟨hlabel, load_mark_append_encode (.utf16 .little) ['\uFEFF', 'a', '😀'] _ hlabel⟩

end TextWalk.Buffer
