import TextWalk.Proofs.Loading

namespace TextWalk

namespace Text

/-- Of the capital letters only those of the first run are ASCII. -/
theorem lowerCode_of_ascii {n : Nat} (h : n < 0x80) :
    lowerCode n = if 0x41 ≤ n ∧ n ≤ 0x5A then n + 0x20 else n := by
  have hruns : ∀ r ∈ capitalRuns.tail, 0x80 ≤ r.1 := by decide +kernel
  have halternating : ∀ r ∈ alternatingRuns, 0x80 ≤ r.1 := by decide +kernel
  have hfind : capitalRuns.tail.find? (fun r => r.1 ≤ n && n ≤ r.2.1) = none := by
    apply List.find?_eq_none.mpr
    intro r hr
    have hle := hruns r hr
    simp only [Bool.and_eq_true, decide_eq_true_eq]
    omega
  have hany : (alternatingRuns.any fun r => r.1 ≤ n && n ≤ r.2 && (n - r.1) % 2 == 0) = false := by
    apply List.any_eq_false.mpr
    intro r hr
    have hle := halternating r hr
    simp only [Bool.and_eq_true, decide_eq_true_eq, beq_iff_eq]
    omega
  have hcons : capitalRuns = (0x41, 0x5A, 0x61) :: capitalRuns.tail := rfl
  rw [lowerCode, hcons]
  by_cases hn : 0x41 ≤ n ∧ n ≤ 0x5A
  · rw [List.find?_cons_of_pos (by simpa using hn), if_pos hn]
    simp only
    omega
  · rw [List.find?_cons_of_neg (by simpa using hn), hfind, hany, if_neg hn]
    rfl

theorem lowerChar_of_ascii {b : UInt8} (h : b.toNat < 0x80) :
    lowerChar (Char.ofNat b.toNat) = Char.ofNat (Bytes.lowerByte b).toNat := by
  have hcode : (Char.ofNat b.toNat).toNat = b.toNat := Code.toNat_ofNat (Or.inl (by omega))
  rw [lowerChar, hcode, lowerCode_of_ascii h, Bytes.lowerByte]
  split
  · have hsum : (b + 0x20).toNat = b.toNat + 0x20 := by
      rw [UInt8.toNat_add]
      exact Nat.mod_eq_of_lt (by simp only [UInt8.reduceToNat]; omega)
    rw [hsum]
  · rfl

end Text

namespace MediaType

def IsToken (bs : Bytes) : Prop := bs ≠ [] ∧ ∀ b ∈ bs, isTokenByte b = true

instance (bs : Bytes) : Decidable (IsToken bs) := inferInstanceAs (Decidable (_ ∧ _))

section Token

variable {t rest : Bytes} {b : UInt8}

/-- A token ends before the first byte that belongs to none. -/
theorem token_append (ht : ∀ c ∈ t, isTokenByte c = true) (hb : isTokenByte b = false) :
    token (t ++ b :: rest) = (t, b :: rest) := by
  have htake : (b :: rest).takeWhile isTokenByte = [] :=
    List.takeWhile_cons_of_neg (by rw [hb]; exact Bool.false_ne_true)
  have hdrop : (b :: rest).dropWhile isTokenByte = b :: rest :=
    List.dropWhile_cons_of_neg (by rw [hb]; exact Bool.false_ne_true)
  rw [token, List.takeWhile_append_of_pos ht, List.dropWhile_append_of_pos ht, htake, hdrop,
    List.append_nil]

theorem token_self (ht : ∀ c ∈ t, isTokenByte c = true) : token t = (t, []) := by
  have htake : t.takeWhile isTokenByte = t := List.takeWhile_eq_self_iff.mpr ht
  have hdrop : t.dropWhile isTokenByte = [] := List.dropWhile_eq_nil_iff.mpr ht
  rw [token, htake, hdrop]

/-- What is known of a byte of a token: it is ASCII, neither white space nor a semicolon, and its
small letter belongs to a token as well. -/
theorem isTokenByte_facts : ∀ b : UInt8, isTokenByte b = true →
    b.toNat < 0x80 ∧ b ≠ 0x3B ∧ Text.isSpace (Char.ofNat b.toNat) = false ∧
      isTokenByte (Bytes.lowerByte b) = true := by
  apply Bytes.forall_of_fin
  decide +kernel

theorem IsToken.lower (h : IsToken t) : IsToken (Bytes.lower t) := by
  constructor
  · intro hnil
    exact h.1 (List.map_eq_nil_iff.mp hnil)
  · intro b hb
    obtain ⟨c, hc, rfl⟩ := List.mem_map.mp hb
    exact (isTokenByte_facts c (h.2 c hc)).2.2.2

end Token

section Name

variable {kind subkind : Bytes}

theorem isTypeName_of_isToken (hkind : IsToken kind) (hsub : IsToken subkind) :
    isTypeName (kind ++ 0x2F :: subkind) = true := by
  obtain ⟨k, kind, rfl⟩ := List.exists_cons_of_ne_nil hkind.1
  obtain ⟨s, subkind, rfl⟩ := List.exists_cons_of_ne_nil hsub.1
  have htoken : token (k :: kind ++ 0x2F :: s :: subkind) = (k :: kind, 0x2F :: s :: subkind) :=
    token_append hkind.2 (by decide)
  have hrest : token (s :: subkind) = (s :: subkind, []) := token_self hsub.2
  rw [isTypeName, htoken]
  simp [hrest]

/-- The bytes of a type are ASCII, and none is white space or a semicolon. -/
theorem typeName_facts (hkind : IsToken kind) (hsub : IsToken subkind) :
    ∀ b ∈ kind ++ 0x2F :: subkind,
      b.toNat < 0x80 ∧ b ≠ 0x3B ∧ Text.isSpace (Char.ofNat b.toNat) = false := by
  intro b hb
  rw [List.mem_append, List.mem_cons] at hb
  rcases hb with hb | rfl | hb
  · have hfacts := isTokenByte_facts b (hkind.2 b hb)
    exact ⟨hfacts.1, hfacts.2.1, hfacts.2.2.1⟩
  · decide
  · have hfacts := isTokenByte_facts b (hsub.2 b hb)
    exact ⟨hfacts.1, hfacts.2.1, hfacts.2.2.1⟩

/-- A type is read as its bytes in small letters. -/
theorem lower_trim_decode_typeName (hkind : IsToken kind) (hsub : IsToken subkind) :
    Text.lower (Text.trim (Utf8.decode (kind ++ 0x2F :: subkind))) =
      (Bytes.lower (kind ++ 0x2F :: subkind)).map fun b => Char.ofNat b.toNat := by
  have hfacts := typeName_facts hkind hsub
  generalize kind ++ 0x2F :: subkind = name at hfacts ⊢
  have hdecode := Utf8.decode_of_ascii fun b hb => (hfacts b hb).1
  have hspace : ∀ c ∈ name.map (fun b => Char.ofNat b.toNat), Text.isSpace c = false := by
    intro c hc
    obtain ⟨b, hb, rfl⟩ := List.mem_map.mp hc
    exact (hfacts b hb).2.2
  have htrim : Text.trim (name.map fun b => Char.ofNat b.toNat) =
      name.map fun b => Char.ofNat b.toNat := by
    have hnone : ∀ c ∈ ([] : List Char), Text.isSpace c = true := by simp
    have h := Text.trim_append hnone hspace hnone
    rwa [List.nil_append, List.append_nil] at h
  rw [hdecode, htrim, Text.lower, Bytes.lower, List.map_map, List.map_map]
  apply List.map_congr_left
  intro b hb
  exact Text.lowerChar_of_ascii (hfacts b hb).1

theorem lower_typeName (kind subkind : Bytes) :
    Bytes.lower (kind ++ 0x2F :: subkind) = Bytes.lower kind ++ 0x2F :: Bytes.lower subkind := by
  have hslash : Bytes.lowerByte 0x2F = 0x2F := by decide
  rw [Bytes.lower, List.map_append, List.map_cons, hslash]
  rfl

theorem lt_of_mem_lower (hkind : IsToken kind) (hsub : IsToken subkind) :
    ∀ b ∈ Bytes.lower (kind ++ 0x2F :: subkind), b.toNat < 0x80 := by
  rw [lower_typeName]
  intro b hb
  exact (typeName_facts hkind.lower hsub.lower b hb).1

end Name

section Parameter

variable {label : Bytes}

def Quotable (label : Bytes) : Prop := ∀ b ∈ label, b ≠ 0x22 ∧ b ≠ 0x5C ∧ b ≠ 0x0D ∧ b ≠ 0x0A

/-- A label without special bytes is read back from between its quotes. -/
theorem quoted_append (h : Quotable label) (rest : Bytes) :
    quoted (label ++ 0x22 :: rest) = some (label, rest) := by
  induction label with
  | nil =>
    rw [List.nil_append, quoted.eq_def]
    exact if_pos rfl
  | cons b label ih =>
    obtain ⟨hquote, hescape, hreturn, hfeed⟩ := h b List.mem_cons_self
    have hrest := ih fun c hc => h c (List.mem_cons_of_mem b hc)
    -- The reader looks one byte ahead, and there is always one: the closing quote at the latest.
    obtain ⟨s, after, hs⟩ : ∃ s after, label ++ 0x22 :: rest = s :: after :=
      List.exists_cons_of_ne_nil (by simp)
    rw [List.cons_append, hs, quoted]
    rw [hs] at hrest
    simp [hquote, hescape, hreturn, hfeed, hrest]

theorem dropSpace_of_space (rest : Bytes) : dropSpace (0x20 :: rest) = dropSpace rest := by
  have hstep : Utf8.step 0x20 rest = (some ' ', rest) := Utf8.step_of_one rest (by decide)
  have hspace : Text.isSpace ' ' = true := by decide
  rw [dropSpace]
  split <;> simp_all

theorem dropSpace_of_not_space {b : UInt8} (rest : Bytes) (hb : b.toNat < 0x80)
    (hspace : Text.isSpace (Char.ofNat b.toNat) = false) : dropSpace (b :: rest) = b :: rest := by
  have hstep := Utf8.step_of_one rest hb
  rw [dropSpace]
  split <;> simp_all

def charsetBytes (label : Bytes) : Bytes :=
  0x3B :: 0x20 :: (Bytes.ascii "charset" ++ 0x3D :: 0x22 :: (label ++ [0x22]))

theorem parameter_charsetBytes (h : Quotable label) :
    parameter (charsetBytes label) = some ((Bytes.ascii "charset", label), []) := by
  obtain ⟨n, name, hbytes⟩ : ∃ n name, Bytes.ascii "charset" = n :: name :=
    List.exists_cons_of_ne_nil (by decide)
  have hname : dropSpace (0x20 :: (Bytes.ascii "charset" ++ 0x3D :: 0x22 :: (label ++ [0x22]))) =
      Bytes.ascii "charset" ++ 0x3D :: 0x22 :: (label ++ [0x22]) := by
    rw [dropSpace_of_space]
    exact dropSpace_of_not_space _ (by decide) (by decide)
  have htoken : token (Bytes.ascii "charset" ++ 0x3D :: 0x22 :: (label ++ [0x22])) =
      (Bytes.ascii "charset", 0x3D :: 0x22 :: (label ++ [0x22])) :=
    token_append (by decide +kernel) (by decide)
  have hequals : dropSpace (0x3D :: 0x22 :: (label ++ [0x22])) = 0x3D :: 0x22 :: (label ++ [0x22]) :=
    dropSpace_of_not_space _ (by decide) (by decide)
  have hopen : dropSpace (0x22 :: (label ++ [0x22])) = 0x22 :: (label ++ [0x22]) :=
    dropSpace_of_not_space _ (by decide) (by decide)
  have hvalue : value (0x22 :: (label ++ [0x22])) = some (label, []) := by
    rw [value, if_pos rfl, quoted_append h]
  have hlower : Bytes.lower (Bytes.ascii "charset") = Bytes.ascii "charset" := by decide
  rw [charsetBytes, parameter, hname, htoken]
  rw [hbytes] at hlower ⊢
  simp [hequals, hopen, hvalue, hlower]

theorem readParameters_nil : readParameters [] = some [] := by
  have hnil : dropSpace [] = [] := by rw [dropSpace]
  rw [readParameters]
  split <;> simp_all

theorem readParameters_of_parameter {b : UInt8} {rest after : Bytes} {p : Bytes × Bytes}
    (hspace : dropSpace (b :: rest) = b :: rest) (h : parameter (b :: rest) = some (p, after)) :
    readParameters (b :: rest) = (readParameters after).map (p :: ·) := by
  rw [readParameters]
  split <;> simp_all
  split <;> simp_all

/-- The charset between quotes is the only parameter. -/
theorem readParameters_charsetBytes (h : Quotable label) :
    readParameters (charsetBytes label) = some [(Bytes.ascii "charset", label)] := by
  have hspace : dropSpace (charsetBytes label) = charsetBytes label :=
    dropSpace_of_not_space _ (by decide) (by decide)
  have hparameter := parameter_charsetBytes h
  rw [charsetBytes] at hspace hparameter ⊢
  rw [readParameters_of_parameter hspace hparameter, readParameters_nil]
  rfl

end Parameter

section Charset

variable {kind subkind label : Bytes}

def withCharset (kind subkind label : Bytes) : Bytes :=
  kind ++ Bytes.ascii "/" ++ subkind ++ Bytes.ascii "; charset=\"" ++ label ++ Bytes.ascii "\""

theorem withCharset_eq (kind subkind label : Bytes) :
    withCharset kind subkind label = (kind ++ 0x2F :: subkind) ++ charsetBytes label := by
  have hslash : Bytes.ascii "/" = [0x2F] := by decide
  have hfront : Bytes.ascii "; charset=\"" =
      0x3B :: 0x20 :: (Bytes.ascii "charset" ++ [0x3D, 0x22]) := by decide
  have hquote : Bytes.ascii "\"" = [0x22] := by decide
  rw [withCharset, hslash, hfront, hquote, charsetBytes]
  simp only [List.append_assoc, List.cons_append, List.nil_append]

/-- The media type is read as it was put together, its name in small letters. -/
theorem parse?_withCharset (hkind : IsToken kind) (hsub : IsToken subkind) (h : Quotable label) :
    parse? (withCharset kind subkind label) =
      some { name := (Bytes.lower (kind ++ 0x2F :: subkind)).map fun b => Char.ofNat b.toNat
             parameters := [(Bytes.ascii "charset", label)] } := by
  have hfacts := typeName_facts hkind hsub
  have hplain : ∀ b ∈ kind ++ 0x2F :: subkind, (b != 0x3B) = true := by
    intro b hb
    exact bne_iff_ne.mpr (hfacts b hb).2.1
  -- The type ends at the first semicolon, which is the one before the charset.
  have htake : (withCharset kind subkind label).takeWhile (· != 0x3B) = kind ++ 0x2F :: subkind := by
    rw [withCharset_eq, List.takeWhile_append_of_pos hplain]
    exact List.append_nil _
  have hdrop : (withCharset kind subkind label).dropWhile (· != 0x3B) =
      charsetBytes label := by
    rw [withCharset_eq, List.dropWhile_append_of_pos hplain]
    rfl
  have hascii := lt_of_mem_lower hkind hsub
  have hname : isTypeName (Utf8.encode ((Bytes.lower (kind ++ 0x2F :: subkind)).map fun b =>
      Char.ofNat b.toNat)) = true := by
    rw [Utf8.encode_of_ascii hascii, lower_typeName]
    exact isTypeName_of_isToken hkind.lower hsub.lower
  have hconsistent : isConsistent [(Bytes.ascii "charset", label)] = true := by
    simp [isConsistent]
  simp only [parse?, htake, hdrop, lower_trim_decode_typeName hkind hsub, hname,
    readParameters_charsetBytes h, hconsistent, ↓reduceIte]

/-- A charset that is the only parameter is found as it stands. -/
theorem parameter?_charset (name : List Char) (label : Bytes) :
    parameter? { name := name, parameters := [(Bytes.ascii "charset", label)] }
      (Bytes.ascii "charset") = some label := by
  have hother (other : Bytes) (hne : (Bytes.ascii "charset" == other) = false) :
      written? { name := name, parameters := [(Bytes.ascii "charset", label)] } other = none := by
    simp [written?, hne]
  have hself : written? { name := name, parameters := [(Bytes.ascii "charset", label)] }
      (Bytes.ascii "charset") = some label := by
    simp [written?]
  have hextended := hother (Bytes.ascii "charset" ++ [0x2A]) (by decide)
  have hpiece := hother (Bytes.ascii "charset" ++ Bytes.ascii ("*" ++ toString 0)) (by decide)
  have hencoded := hother (Bytes.ascii "charset" ++ Bytes.ascii ("*" ++ toString 0) ++ [0x2A])
    (by decide)
  have hzero : piece? { name := name, parameters := [(Bytes.ascii "charset", label)] }
      (Bytes.ascii "charset") 0 = none := by
    rw [piece?, hpiece, hencoded]
    rfl
  have hpieces : pieces { name := name, parameters := [(Bytes.ascii "charset", label)] }
      (Bytes.ascii "charset") = [] := by
    simp [pieces, hzero]
  rw [parameter?, hextended, hpieces, hself]

end Charset

end MediaType

namespace Load

section Named

variable {data label kind subkind : Bytes}

/-- What a label alone or as a charset leads to: the encoding it names or, if it names none, what the
data as a whole looks like. -/
def namedEncoding (data label : Bytes) : Encoding :=
  (Encoding.ofLabel? label).getD (if Utf8.isValid data then .asIs else .codePage .windows1252)

theorem sniff_nil (hmark : ¬ HasMark data) :
    sniff data [] = if Utf8.isValid data then .asIs else .codePage .windows1252 := by
  have hplain : ¬ IsAuthoritative [] := by decide +kernel
  have hhtml : ¬ NamesHtml [] := by decide +kernel
  have hopen : encodingOf data [] = sniff data [] := if_neg Bool.false_ne_true
  rw [← hopen]
  exact encodingOf_of_not_isAuthoritative hplain hmark (Or.inr hhtml)

/-- A label by itself leads to the encoding it names, or to what the data looks like. -/
theorem encodingOf_label (hmark : ¬ HasMark data) (hslash : 0x2F ∉ label) :
    encodingOf data label = namedEncoding data label := by
  have hblank : (if isLabel label then [] else label) = [] := by
    by_cases hnil : label = []
    · rw [hnil, ite_self]
    · have hlabel : isLabel label = true := by simp [isLabel, hnil, hslash]
      rw [if_pos hlabel]
  cases he : Encoding.ofLabel? label with
  | none =>
    have hunknown : ¬ IsKnownLabel label := by
      rw [isKnownLabel_iff, he]
      simp
    rw [encodingOf_of_not_isKnownLabel hunknown, hblank, sniff_nil hmark, namedEncoding, he,
      Option.getD_none]
  | some e =>
    -- The empty label names nothing, so a label that names an encoding is not empty.
    have hempty : Encoding.ofLabel? [] = none := by decide +kernel
    have hnil : label ≠ [] := by
      intro hnil
      rw [hnil, hempty] at he
      exact Option.some_ne_none e he.symm
    have hlabel : isLabel label = true := by simp [isLabel, hnil, hslash]
    rw [encodingOf, if_pos hlabel, namedEncoding, he, Option.getD_some, Option.getD_some]

section Parameter

variable (hkind : MediaType.IsToken kind) (hsub : MediaType.IsToken subkind)
  (hlabel : MediaType.Quotable label)
include hkind hsub hlabel

theorem charsetEncoding?_withCharset :
    charsetEncoding? (MediaType.withCharset kind subkind label) = Encoding.ofLabel? label := by
  rw [charsetEncoding?, MediaType.parse?_withCharset hkind hsub hlabel, Option.bind_some,
    MediaType.parameter?_charset, Option.bind_some]

theorem not_namesHtml_withCharset
    (hhtml : Bytes.lower (kind ++ Bytes.ascii "/" ++ subkind) ≠ Bytes.ascii "text/html") :
    ¬ NamesHtml (MediaType.withCharset kind subkind label) := by
  intro h
  obtain ⟨m, hm, hname⟩ := h
  rw [MediaType.parse?_withCharset hkind hsub hlabel, Option.some.injEq] at hm
  rw [← hm] at hname
  have hslash : kind ++ Bytes.ascii "/" ++ subkind = kind ++ 0x2F :: subkind := by
    have hbyte : Bytes.ascii "/" = [0x2F] := by decide
    rw [hbyte, List.append_assoc, List.singleton_append]
  have hbytes : Utf8.encode "text/html".toList = Bytes.ascii "text/html" := by decide +kernel
  -- Written as bytes again, the name is the type in small letters.
  have hlower := congrArg Utf8.encode hname
  rw [Utf8.encode_of_ascii (MediaType.lt_of_mem_lower hkind hsub), hbytes, ← hslash] at hlower
  exact hhtml hlower

/-- As the charset of a media type a label leads to the same encoding. -/
theorem encodingOf_withCharset (hmark : ¬ HasMark data)
    (hhtml : Bytes.lower (kind ++ Bytes.ascii "/" ++ subkind) ≠ Bytes.ascii "text/html") :
    encodingOf data (MediaType.withCharset kind subkind label) = namedEncoding data label := by
  have hcharset := charsetEncoding?_withCharset hkind hsub hlabel
  have hhtml' := not_namesHtml_withCharset hkind hsub hlabel hhtml
  have hslash : isLabel (MediaType.withCharset kind subkind label) = false := by
    rw [MediaType.withCharset_eq]
    simp [isLabel]
  have hknown : ¬ IsKnownLabel (MediaType.withCharset kind subkind label) := by
    rw [isKnownLabel_iff, hslash]
    simp
  cases he : Encoding.ofLabel? label with
  | none =>
    have hplain : ¬ IsAuthoritative (MediaType.withCharset kind subkind label) := by
      rw [isAuthoritative_iff, hcharset, he]
      simp [hknown]
    rw [encodingOf_of_not_isAuthoritative hplain hmark (Or.inr hhtml'), namedEncoding, he,
      Option.getD_none]
  | some e =>
    rw [encodingOf, hslash, if_neg Bool.false_ne_true, sniff, markEncoding?_eq_none hmark, hcharset,
      he, namedEncoding, he]
    rfl

end Parameter

end Named

end Load

namespace Buffer

open Load

theorem ascii_unquotable : Bytes.ascii "/\"\\\r\n" = [0x2F, 0x22, 0x5C, 0x0D, 0x0A] := by
  decide

/-- Without a byte order mark a label gives the same text by itself and between quotes as the charset
of a media type other than HTML. Both read the data in the encoding that the label names, in whatever
letters and with white space around it, and otherwise as the data as a whole looks like. -/
theorem load_withCharset (data label kind subkind : Bytes) (hmark : ¬ HasMark data)
    (hlabel : ∀ b ∈ label, b ∉ Bytes.ascii "/\"\\\r\n")
    (hkind : MediaType.IsToken kind) (hsub : MediaType.IsToken subkind)
    (hhtml : Bytes.lower (kind ++ Bytes.ascii "/" ++ subkind) ≠ Bytes.ascii "text/html") :
    Buffer.load (.ok data)
        (kind ++ Bytes.ascii "/" ++ subkind ++ Bytes.ascii "; charset=\"" ++ label ++
          Bytes.ascii "\"") =
      Buffer.load (.ok data) label ∧
    Buffer.load (.ok data) label =
      .ok (.ofChars (dropMark ((namedEncoding data label).decode data))) := by
  rw [ascii_unquotable] at hlabel
  have hslash : 0x2F ∉ label := by
    intro h
    exact hlabel _ h (by decide)
  have hquotable : MediaType.Quotable label := by
    intro b hb
    have hnot := hlabel b hb
    simp only [List.mem_cons, not_or] at hnot
    exact ⟨hnot.2.1, hnot.2.2.1, hnot.2.2.2.1, hnot.2.2.2.2.1⟩
  have halone : Buffer.load (.ok data) label =
      .ok (.ofChars (dropMark ((namedEncoding data label).decode data))) := by
    rw [Buffer.load, ofData, Load.text, encodingOf_label hmark hslash]
  refine ⟨?_, halone⟩
  have hcharset := encodingOf_withCharset hkind hsub hquotable hmark hhtml
  rw [MediaType.withCharset] at hcharset
  rw [halone, Buffer.load, ofData, Load.text, hcharset]

/-- A label in capital letters between blanks, and one that names nothing and holds a semicolon. -/
theorem load_withCharset_of_capitals :
    (¬ HasMark [0xC1, 0xC2] ∧ MediaType.IsToken (Bytes.ascii "Text") ∧
      Buffer.load (.ok [0xC1, 0xC2]) (Bytes.ascii " KOI8-R ") = .ok (.ofChars ['а', 'б']) ∧
      Buffer.load (.ok [0xC1, 0xC2]) (Bytes.ascii "Text" ++ Bytes.ascii "/" ++ Bytes.ascii "x-log" ++
        Bytes.ascii "; charset=\"" ++ Bytes.ascii " KOI8-R " ++ Bytes.ascii "\"") =
          .ok (.ofChars ['а', 'б'])) ∧
      Buffer.load (.ok [0xE9]) (Bytes.ascii "Text" ++ Bytes.ascii "/" ++ Bytes.ascii "x-log" ++
        Bytes.ascii "; charset=\"" ++ Bytes.ascii "x;koi8-r" ++ Bytes.ascii "\"") =
          .ok (.ofChars ['é']) := by
  have hkind : MediaType.IsToken (Bytes.ascii "Text") := by decide +kernel
  have hsub : MediaType.IsToken (Bytes.ascii "x-log") := by decide +kernel
  have hhtml : Bytes.lower (Bytes.ascii "Text" ++ Bytes.ascii "/" ++ Bytes.ascii "x-log") ≠
      Bytes.ascii "text/html" := by decide
  have hmark : ¬ HasMark [0xC1, 0xC2] := by decide
  have hquoted : ∀ b ∈ Bytes.ascii " KOI8-R ", b ∉ Bytes.ascii "/\"\\\r\n" := by
    rw [ascii_unquotable]
    decide +kernel
  have hquoted' : ∀ b ∈ Bytes.ascii "x;koi8-r", b ∉ Bytes.ascii "/\"\\\r\n" := by
    rw [ascii_unquotable]
    decide +kernel
  have hknown := load_withCharset [0xC1, 0xC2] (Bytes.ascii " KOI8-R ") _ _ hmark hquoted
    hkind hsub hhtml
  have hunknown := load_withCharset [0xE9] (Bytes.ascii "x;koi8-r") _ _ (by decide) hquoted'
    hkind hsub hhtml
  have htext : dropMark ((namedEncoding [0xC1, 0xC2] (Bytes.ascii " KOI8-R ")).decode
      [0xC1, 0xC2]) = ['а', 'б'] := by decide +kernel
  have hwestern : dropMark ((namedEncoding [0xE9] (Bytes.ascii "x;koi8-r")).decode [0xE9]) =
      ['é'] := by decide +kernel
  rw [htext] at hknown
  rw [hwestern] at hunknown
  exact ⟨⟨hmark, hkind, hknown.2, hknown.1.trans hknown.2⟩, hunknown.1.trans hunknown.2⟩

end Buffer

end TextWalk
