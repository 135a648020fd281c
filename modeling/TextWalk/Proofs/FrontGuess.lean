import TextWalk.Proofs.Loading
import TextWalk.Proofs.TextRoundTrip

/-!
The guess from the front of a document. Main statement: what the front of a UTF-8 text keeps when a
sequence at its end is dropped is UTF-8 again, wherever in a sequence the front was cut off. So an
HTML page is kept as it is if its front is UTF-8 beyond ASCII and declares no other encoding.
-/
namespace TextWalk

namespace Utf8

/-- The front of a text in UTF-8 is a text in UTF-8 and the beginning of a sequence, which is not
whole. -/
theorem exists_of_prefix_encode {front : Bytes} {s : List Char} (h : front <+: encode s) :
    ∃ cs begun, front = encode cs ++ begun ∧
      (begun = [] ∨ ∃ c, begun <+: encodeChar c ∧ begun.length < (encodeChar c).length) := by
  induction s generalizing front with
  | nil => exact ⟨[], [], List.prefix_nil.mp h, Or.inl rfl⟩
  | cons c s ih =>
    rw [encode_cons] at h
    rcases Nat.lt_or_ge front.length (encodeChar c).length with hlt | hge
    · -- The front ends within the sequence of the first character.
      have hbegun : front <+: encodeChar c :=
        List.prefix_of_prefix_length_le h (List.prefix_append _ _) (Nat.le_of_lt hlt)
      exact ⟨[], front, rfl, Or.inr ⟨c, hbegun, hlt⟩⟩
    · obtain ⟨rest, rfl⟩ : encodeChar c <+: front :=
        List.prefix_of_prefix_length_le (List.prefix_append _ _) h hge
      obtain ⟨cs, begun, hrest, hbegun⟩ := ih ((List.prefix_append_right_inj _).mp h)
      exact ⟨c :: cs, begun, by rw [hrest, encode_cons, List.append_assoc], hbegun⟩

/-- An ASCII character is read only where its byte stands. -/
theorem mem_of_mem_decode {bs : Bytes} {c : Char} (hc : c.toNat < 0x80) (h : c ∈ decode bs) :
    UInt8.ofNat c.toNat ∈ bs := by
  fun_induction decode bs with
  | case1 => exact absurd h List.not_mem_nil
  | case2 b rest d after hstep ih =>
    rw [eq_encodeChar_append_of_step hstep, List.mem_append]
    rcases List.mem_cons.mp h with rfl | h
    · exact Or.inl (by rw [encodeChar_of_one hc]; exact List.mem_singleton_self _)
    · exact Or.inr (ih h)
  | case3 b rest after hstep ih =>
    rcases List.mem_cons.mp h with rfl | h
    · exact absurd hc (by decide)
    · exact List.mem_cons_of_mem b (ih h)

end Utf8

namespace Text

/-- No capital letter has a small letter up to the slash. -/
theorem lowerCode_eq_or_lt (n : Nat) : lowerCode n = n ∨ 0x2F < lowerCode n := by
  have hruns : ∀ r ∈ capitalRuns, 0x2F < r.2.2 := by decide +kernel
  have halternating : ∀ r ∈ alternatingRuns, 0x2F < r.1 := by decide +kernel
  rw [lowerCode]
  split
  · rename_i first last small hfind
    have hsmall : 0x2F < small := hruns _ (List.mem_of_find?_eq_some hfind)
    exact Or.inr (Nat.lt_add_right _ hsmall)
  · split
    · rename_i hany
      obtain ⟨r, hr, hn⟩ := List.any_eq_true.mp hany
      have hfirst := halternating r hr
      simp only [Bool.and_eq_true, decide_eq_true_eq] at hn
      right
      omega
    · exact Or.inl rfl

theorem eq_slash_of_lowerChar {c : Char} (h : lowerChar c = '/') : c = '/' := by
  rw [lowerChar] at h
  rcases lowerCode_eq_or_lt c.toNat with hsame | hlt
  · rwa [hsame, Char.ofNat_toNat] at h
  · -- Any other small letter has a greater code, or its code is no character at all.
    have hcode := congrArg Char.toNat h
    by_cases hvalid : (lowerCode c.toNat).isValidChar
    · rw [Code.toNat_ofNat hvalid] at hcode
      have hslash : '/'.toNat = 0x2F := rfl
      omega
    · rw [Char.ofNat, dif_neg hvalid] at hcode
      exact absurd hcode (by decide)

/-- Taking away white space adds nothing. -/
theorem trim_sublist (cs : List Char) : (trim cs).Sublist cs := by
  have hfront := List.dropWhile_sublist (l := cs) isSpace
  have hback := List.dropWhile_sublist (l := (cs.dropWhile isSpace).reverse) isSpace
  rw [trim]
  exact (List.reverse_sublist.mpr hback).trans (by rwa [List.reverse_reverse])

end Text

theorem MediaType.name_of_parse? {bs : Bytes} {m : MediaType} (h : parse? bs = some m) :
    m.name = Text.lower (Text.trim (Utf8.decode (bs.takeWhile (· != 0x3B)))) := by
  simp only [parse?] at h
  split at h
  · split at h
    · split at h
      · rw [← Option.some.inj h]
      · exact absurd h (by simp)
    · exact absurd h (by simp)
  · exact absurd h (by simp)

namespace Load

section Partial

variable {front tails : Bytes} {b : UInt8} {n : Nat}

/-- The walk back passes over tails as long as it may. -/
theorem beforeLead?_append (htails : ∀ t ∈ tails, Utf8.IsTail t) (rest : Bytes) :
    beforeLead? n (tails ++ rest) =
      if tails.length ≤ n then beforeLead? (n - tails.length) rest else none := by
  induction tails generalizing n with
  | nil => rfl
  | cons t tails ih =>
    obtain ⟨ht, htails⟩ := List.forall_mem_cons.mp htails
    cases n with
    | zero => rfl
    | succ n =>
      have hascii : ¬ t.toNat < 0x80 := Nat.not_lt.mpr ht.1
      rw [List.cons_append, beforeLead?, if_neg hascii, if_pos ht.2, ih htails, List.length_cons,
        Nat.add_sub_add_right]
      exact if_congr Nat.succ_le_succ_iff.symm rfl rfl

/-- A lead byte with less than three tails is dropped together with them. -/
theorem dropPartial_of_led (front : Bytes) (hb : 0xC0 ≤ b.toNat)
    (htails : ∀ t ∈ tails, Utf8.IsTail t) (hfew : tails.length < 3) :
    dropPartial (front ++ b :: tails) = front := by
  have hback : (front ++ b :: tails).reverse = tails.reverse ++ b :: front.reverse := by simp
  have hleft : 3 - tails.reverse.length = (2 - tails.length) + 1 := by
    rw [List.length_reverse]
    omega
  have hfound : beforeLead? 3 (tails.reverse ++ b :: front.reverse) = some front.reverse := by
    rw [beforeLead?_append (by simpa using htails), if_pos (by simp; omega), hleft, beforeLead?,
      if_neg (by omega), if_neg (by omega)]
  simp only [dropPartial, hback, hfound, List.reverse_reverse]

/-- Three tails are all that is looked at, so that a sequence of four bytes stays. -/
theorem dropPartial_of_three_tails (front : Bytes) (htails : ∀ t ∈ tails, Utf8.IsTail t)
    (hthree : tails.length = 3) : dropPartial (front ++ tails) = front ++ tails := by
  have hfound : beforeLead? 3 (tails.reverse ++ front.reverse) = none := by
    rw [beforeLead?_append (by simpa using htails), if_pos (by simp [hthree]), List.length_reverse,
      hthree]
    rfl
  rw [dropPartial, List.reverse_append, hfound]

theorem dropPartial_of_ascii (front : Bytes) (hb : b.toNat < 0x80) :
    dropPartial (front ++ [b]) = front ++ [b] := by
  have hfound : beforeLead? 3 (b :: front.reverse) = none := by rw [beforeLead?, if_pos hb]
  rw [dropPartial, List.reverse_append, List.reverse_singleton, List.singleton_append, hfound]

/-- A whole sequence at the end stays or goes, but is never cut. -/
theorem dropPartial_of_isSequence (front : Bytes) {last : Bytes} (h : Utf8.IsSequence last) :
    dropPartial (front ++ last) = front ++ last ∨ dropPartial (front ++ last) = front := by
  cases h with
  | ascii hb => exact Or.inl (dropPartial_of_ascii front hb)
  | @led b tails hb htails hmost =>
    rcases Nat.lt_or_eq_of_le hmost with hfew | hthree
    · exact Or.inr (dropPartial_of_led front hb htails hfew)
    · left
      have hkeep := dropPartial_of_three_tails (front ++ [b]) htails hthree
      rwa [List.append_assoc, List.singleton_append] at hkeep

/-- The beginning of a sequence at the end goes as a whole. -/
theorem dropPartial_of_begun (front : Bytes) {begun whole : Bytes} (h : Utf8.IsSequence whole)
    (hbegins : begun <+: whole) (hlt : begun.length < whole.length) (hne : begun ≠ []) :
    dropPartial (front ++ begun) = front := by
  obtain ⟨b, more, rfl⟩ := List.exists_cons_of_ne_nil hne
  cases h with
  | ascii hb =>
    simp only [List.length_cons, List.length_nil] at hlt
    omega
  | led hb htails hmost =>
    obtain ⟨rfl, hmore⟩ := List.cons_prefix_cons.mp hbegins
    simp only [List.length_cons] at hlt
    exact dropPartial_of_led front hb (fun t ht => htails t (hmore.subset ht)) (by omega)

/-- What is left of the front of a text in UTF-8 is a text in UTF-8. -/
theorem isValid_dropPartial {s : List Char} (h : front <+: Utf8.encode s) :
    Utf8.isValid (dropPartial front) = true := by
  obtain ⟨cs, begun, rfl, hbegun⟩ := Utf8.exists_of_prefix_encode h
  by_cases hne : begun = []
  · rw [hne, List.append_nil]
    rcases List.eq_nil_or_concat cs with rfl | ⟨cs, c, rfl⟩
    · decide +kernel
    · -- The last character is whole: it stays or goes.
      have hlast : Utf8.encode (cs ++ [c]) = Utf8.encode cs ++ Utf8.encodeChar c := by
        rw [Utf8.encode_append, Utf8.encode_cons]
        exact congrArg _ (List.append_nil _)
      rw [List.concat_eq_append, hlast]
      rcases dropPartial_of_isSequence (Utf8.encode cs) (Utf8.isSequence_encodeChar c) with hd | hd
      · rw [hd, ← hlast]
        exact Utf8.isValid_encode _
      · rw [hd]
        exact Utf8.isValid_encode cs
  · obtain ⟨c, hbegins, hlt⟩ := hbegun.resolve_left hne
    rw [dropPartial_of_begun _ (Utf8.isSequence_encodeChar c) hbegins hlt hne]
    exact Utf8.isValid_encode cs

/-- A walk back takes off no more bytes than it may. -/
theorem length_of_beforeLead? {n : Nat} {bs rest : Bytes} (h : beforeLead? n bs = some rest) :
    ∃ dropped, bs = dropped ++ rest ∧ dropped.length ≤ n := by
  fun_induction beforeLead? n bs with
  | case1 => exact absurd h (by simp)
  | case2 n b bs _ _ ih =>
    obtain ⟨dropped, rfl, hle⟩ := ih h
    exact ⟨b :: dropped, rfl, Nat.succ_le_succ hle⟩
  | case3 n b bs => exact ⟨[b], by rw [Option.some.inj h]; rfl, Nat.succ_le_succ (Nat.zero_le n)⟩
  | case4 => exact absurd h (by simp)

/-- No more than the last three bytes are dropped. -/
theorem take_prefix_dropPartial (front : Bytes) :
    front.take (front.length - 3) <+: dropPartial front := by
  rw [dropPartial]
  split
  · rename_i rest hfound
    obtain ⟨dropped, hback, hle⟩ := length_of_beforeLead? hfound
    have hfront : front = rest.reverse ++ dropped.reverse := by
      rw [← List.reverse_append, ← hback, List.reverse_reverse]
    apply List.prefix_of_prefix_length_le (List.take_prefix _ _)
    · exact ⟨dropped.reverse, hfront.symm⟩
    · have hlength := congrArg List.length hfront
      simp only [List.length_append, List.length_reverse] at hlength
      simp only [List.length_take, List.length_reverse]
      omega
  · exact List.take_prefix _ _

end Partial

section Guess

variable {data contentType front : Bytes}

/-- Without an angle bracket there is no tag. -/
theorem startTags_eq_nil {bs : Bytes} (h : 0x3C ∉ bs) : Markup.startTags bs = [] := by
  induction bs with
  | nil => rw [Markup.startTags]
  | cons b bs ih =>
    obtain ⟨hb, hbs⟩ := not_or.mp (mt List.mem_cons.mpr h)
    rw [Markup.startTags.eq_def]
    simp only [ne_eq, Ne.symm hb, not_false_eq_true, if_true, ih hbs]

/-- The front of a text in UTF-8 is taken for one, if it declares nothing and holds more than ASCII
before its last bytes. -/
theorem guess_eq_asIs {s : List Char} (h : front <+: Utf8.encode s) (hplain : 0x3C ∉ front)
    (hhigh : ∃ b ∈ front.take (front.length - 3), 0x80 ≤ b.toNat) : guess front = .asIs := by
  obtain ⟨b, hb, hle⟩ := hhigh
  have hdeclared : Markup.declaredEncoding? front = none := by
    rw [Markup.declaredEncoding?, startTags_eq_nil hplain, List.findSome?_nil]
  have hany : (dropPartial front).any (0x80 ≤ ·.toNat) = true :=
    List.any_eq_true.mpr ⟨b, (take_prefix_dropPartial front).subset hb, decide_eq_true hle⟩
  simp only [guess, hdeclared, hany, isValid_dropPartial h, Bool.and_self, if_true]

/-- A media type is no charset label: its name has the slash that its bytes have. -/
theorem isLabel_of_namesHtml (h : NamesHtml contentType) : isLabel contentType = false := by
  obtain ⟨m, hm, hname⟩ := h
  have hslash : '/' ∈ m.name := by
    rw [hname]
    decide
  rw [MediaType.name_of_parse? hm, Text.lower, List.mem_map] at hslash
  obtain ⟨c, hc, hlower⟩ := hslash
  rw [Text.eq_slash_of_lowerChar hlower] at hc
  have hmem := Utf8.mem_of_mem_decode (c := '/') (by decide) ((Text.trim_sublist _).subset hc)
  have hbyte : (0x2F : UInt8) ∈ contentType := (List.takeWhile_sublist _).subset hmem
  simp [isLabel, hbyte]

/-- An HTML page without a byte order mark and a known charset is kept as it is, if its front is that
of a text in UTF-8 and makes no declaration. -/
theorem encodingOf_of_front {s : List Char} (hhtml : NamesHtml contentType)
    (hcharset : charsetEncoding? contentType = none) (hmark : ¬ HasMark data)
    (hfront : data.take window <+: Utf8.encode s) (hplain : 0x3C ∉ data.take window)
    (hhigh : ∃ b ∈ (data.take window).take ((data.take window).length - 3), 0x80 ≤ b.toNat) :
    encodingOf data contentType = .asIs := by
  have hguess := guess_eq_asIs hfront hplain hhigh
  rw [encodingOf, isLabel_of_namesHtml hhtml, if_neg Bool.false_ne_true, sniff,
    markEncoding?_eq_none hmark, hcharset]
  simp only [Option.none_or, isHtml_eq_true_iff.mpr hhtml, hguess, if_true, ite_self]

/-- A byte order mark is read only where one stands. -/
theorem dropMark_decode (hmark : ¬ HasMark data) : dropMark (Utf8.decode data) = Utf8.decode data := by
  rw [dropMark_eq]
  apply if_neg
  intro hhead
  obtain ⟨cs, hcs⟩ := List.head?_eq_some_iff.mp hhead
  have hreads := Utf8.reads_decode data
  rw [hcs] at hreads
  cases hreads with
  | @char rest _ _ _ => exact hmark ⟨.utf8, rest, rfl⟩

/-- Three bytes are enough to see whether data begins with a mark. -/
theorem hasMark_take {n : Nat} (hn : 3 ≤ n) : HasMark (data.take n) ↔ HasMark data := by
  constructor
  · rintro ⟨form, hform⟩
    exact ⟨form, hform.trans (List.take_prefix n data)⟩
  · rintro ⟨form, hform⟩
    have hlength : form.mark.length ≤ 3 := by
      match form with
      | .utf8 => decide
      | .utf16 .little => decide
      | .utf16 .big => decide
    exact ⟨form, List.prefix_take_iff.mpr ⟨hform, Nat.le_trans hlength hn⟩⟩

end Guess

end Load

namespace Buffer

open Load

/-- An HTML page that names no known charset is read as it is, one replacement character for each
byte that is part of no sequence, if its first 1024 bytes are the front of a text in UTF-8, begin with
no byte order mark, hold no angle bracket and hold more than ASCII before their last three bytes. It
matters neither where in a sequence they end nor whether the page is UTF-8 as a whole. -/
theorem load_of_front_in_utf8 (data contentType : Bytes) (hhtml : NamesHtml contentType)
    (hcharset : charsetEncoding? contentType = none)
    (hfront : ∃ t : Bytes, t.toByteArray.IsValidUTF8 ∧ data.take 1024 <+: t)
    (hmark : ¬ HasMark (data.take 1024)) (hplain : 0x3C ∉ data.take 1024)
    (hhigh : ∃ b ∈ (data.take 1024).take ((data.take 1024).length - 3), 0x80 ≤ b.toNat) :
    Buffer.load (.ok data) contentType = .ok (.ofChars (Utf8.decode data)) ∧
      Utf8.Reads data (Utf8.decode data) := by
  obtain ⟨t, ⟨s, hs⟩, hbegins⟩ := hfront
  obtain rfl : t = Utf8.encode s := Utf8.eq_encode_iff.mpr hs
  have hmark' : ¬ HasMark data := mt (hasMark_take (by decide)).mpr hmark
  refine ⟨?_, Utf8.reads_decode data⟩
  rw [Buffer.load, ofData, Load.text,
    encodingOf_of_front hhtml hcharset hmark' hbegins hplain hhigh, Encoding.decode,
    dropMark_decode hmark']

/-- A page that ends within the sequence of its last character. -/
theorem load_of_front_in_utf8_of_cut_sequence :
    let data := Utf8.encode "naïve ".toList ++ [0xE2, 0x82]
    ¬ data.toByteArray.IsValidUTF8 ∧
      (∃ t : Bytes, t.toByteArray.IsValidUTF8 ∧ data.take 1024 <+: t) ∧
      Buffer.load (.ok data) (Bytes.ascii "Text/HTML; charset=none") =
        .ok (.ofChars "naïve \uFFFD\uFFFD".toList) := by
  intro data
  have hinvalid : ¬ data.toByteArray.IsValidUTF8 := by
    rw [← Utf8.isValid_iff_isValidUTF8]
    decide +kernel
  have hfront : ∃ t : Bytes, t.toByteArray.IsValidUTF8 ∧ data.take 1024 <+: t := by
    refine ⟨Utf8.encode "naïve €".toList, ?_, by decide +kernel⟩
    rw [← Utf8.isValid_iff_isValidUTF8]
    exact Utf8.isValid_encode _
  have hload := (load_of_front_in_utf8 data (Bytes.ascii "Text/HTML; charset=none")
    (by decide +kernel) (by decide +kernel) hfront (by decide +kernel) (by decide +kernel)
    (by decide +kernel)).1
  have hchars : Utf8.decode data = "naïve \uFFFD\uFFFD".toList := by decide +kernel
  rw [hchars] at hload
  exact ⟨hinvalid, hfront, hload⟩

end Buffer

end TextWalk
