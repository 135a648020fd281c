import TextWalk.Proofs.CharacterNumber

/-!
The grammar of character arguments. An argument denotes a character by being its UTF-8 sequence or one
whole escape for it. Main statement: reading accepts exactly the arguments that denote a character, with
that character, and refuses all others.
-/
namespace TextWalk.Character

def letterEscapes : List (UInt8 × Char) :=
  [('a', '\x07'), ('b', '\x08'), ('f', '\x0C'), ('n', '\n'), ('r', '\r'), ('t', '\t'), ('v', '\x0B'),
    ('\\', '\\'), ('\'', '\'')].map fun e => (UInt8.ofNat e.1.toNat, e.2)

def numberEscapes : List (UInt8 × Nat) :=
  [('x', 2), ('u', 4), ('U', 8)].map fun e => (UInt8.ofNat e.1.toNat, e.2)

inductive IsEscape : Bytes → Char → Prop where
  | letter {b : UInt8} {c : Char} (h : (b, c) ∈ letterEscapes) : IsEscape [0x5C, b] c
  | number {b : UInt8} {count : Nat} {digits : Bytes} {c : Char} (h : (b, count) ∈ numberEscapes)
      (hlen : digits.length = count) (hdigits : Writes 16 digits c.toNat) :
      IsEscape (0x5C :: b :: digits) c
  | octal {digits : Bytes} {c : Char} (hlen : digits.length = 3) (hdigits : Writes 8 digits c.toNat)
      (hmax : c.toNat ≤ 255) : IsEscape (0x5C :: digits) c

/-- The argument stands for the character: it is its UTF-8 sequence or an escape for it. -/
inductive Denotes : Bytes → Char → Prop where
  | plain (c : Char) : Denotes (String.utf8EncodeChar c) c
  | escape {argument : Bytes} {c : Char} (h : IsEscape argument c) : Denotes argument c

section Reading

variable {argument digits : Bytes} {c : Char} {n : Nat}

theorem ofNat?_eq_some_iff : ofNat? n = some c ↔ n = c.toNat := by
  rw [ofNat?]
  constructor
  · intro h
    split at h
    case isTrue hn =>
      rw [← Option.some.inj h, Code.toNat_ofNat hn]
    case isFalse => simp at h
  · rintro rfl
    have hc : c.toNat.isValidChar := c.valid
    rw [if_pos hc, Char.ofNat_toNat]

/-- An argument is one character exactly if it is the sequence of that character. -/
theorem single?_eq_some_iff : single? argument = some c ↔ argument = Utf8.encodeChar c := by
  constructor
  · intro h
    cases argument with
    | nil => simp [single?] at h
    | cons b rest =>
      rw [single?] at h
      split at h
      case h_1 c' hstep =>
        rw [Utf8.eq_encodeChar_append_of_step hstep, List.append_nil, Option.some.inj h]
      case h_2 => simp at h
  · rintro rfl
    obtain ⟨b, more, hc, hstep⟩ := Utf8.exists_step_encodeChar c []
    rw [List.append_nil] at hstep
    rw [hc, single?, hstep]

/-- A backslash with something behind it is no single character. -/
theorem single?_backslash (b : UInt8) (rest : Bytes) : single? (0x5C :: b :: rest) = none := by
  rw [single?, Utf8.step_of_one _ (by decide)]

theorem letterEscape?_eq_some_iff {b : UInt8} :
    letterEscape? b = some c ↔ (b, c) ∈ letterEscapes := by
  constructor
  · intro h
    have hall : ∀ b : UInt8, (letterEscape? b).all (fun c => letterEscapes.contains (b, c)) = true :=
      Bytes.forall_of_fin (by decide +kernel)
    have hc := hall b
    rw [h, Option.all_some] at hc
    exact List.contains_iff_mem.mp hc
  · intro h
    have hall : ∀ e ∈ letterEscapes, letterEscape? e.1 = some e.2 := by decide +kernel
    exact hall (b, c) h

theorem escape?_of_number {b : UInt8} {count : Nat} (h : (b, count) ∈ numberEscapes)
    (hlen : digits.length = count) : escape? (b :: digits) = (digits? 16 digits).bind ofNat? := by
  have hcases : b = 0x78 ∧ count = 2 ∨ b = 0x75 ∧ count = 4 ∨ b = 0x55 ∧ count = 8 := by
    simpa [numberEscapes] using h
  have hne : digits ≠ [] := by
    rintro rfl
    rw [List.length_nil] at hlen
    omega
  obtain ⟨d, more, rfl⟩ := List.exists_cons_of_ne_nil hne
  rcases hcases with ⟨rfl, rfl⟩ | ⟨rfl, rfl⟩ | ⟨rfl, rfl⟩
  · simp [escape?, hlen]
  · simp [escape?, hlen]
  · simp [escape?, hlen]

theorem escape?_of_octal (hlen : digits.length = 3) (hdigits : Writes 8 digits n) :
    escape? digits = if n ≤ 255 then ofNat? n else none := by
  obtain ⟨b, d, e, rfl⟩ := List.length_eq_three.mp hlen
  have hread := digits?_eq_some_iff.mpr hdigits
  -- An octal digit is not the letter that announces two digits of the other base.
  have hall : ∀ k : Fin 8, ¬ IsDigit 0x78 k.val := by decide +kernel
  have hx : b ≠ 0x78 := by
    rintro rfl
    obtain ⟨k, hk, hdigit⟩ := hdigits.exists_isDigit
    exact hall ⟨k, hk⟩ hdigit
  simp [escape?, hx, hread]

/-- The reader of escapes accepts exactly the escapes of the grammar. -/
theorem escape?_eq_some_iff : escape? digits = some c ↔ IsEscape (0x5C :: digits) c := by
  constructor
  · intro h
    match digits with
    | [] => simp [escape?] at h
    | [b] => exact IsEscape.letter (letterEscape?_eq_some_iff.mp h)
    | b :: d :: more =>
      have hnumber {count : Nat} (hmem : (b, count) ∈ numberEscapes)
          (hlen : (d :: more).length = count) : IsEscape (0x5C :: b :: d :: more) c := by
        rw [escape?_of_number hmem hlen] at h
        obtain ⟨n, hn, hc⟩ := Option.bind_eq_some_iff.mp h
        rw [digits?_eq_some_iff, ofNat?_eq_some_iff.mp hc] at hn
        exact IsEscape.number hmem hlen hn
      by_cases hx : b = 0x78 ∧ (d :: more).length = 2
      · exact hnumber (by rw [hx.1]; decide) hx.2
      by_cases hu : b = 0x75 ∧ (d :: more).length = 4
      · exact hnumber (by rw [hu.1]; decide) hu.2
      by_cases hU : b = 0x55 ∧ (d :: more).length = 8
      · exact hnumber (by rw [hU.1]; decide) hU.2
      rw [escape?, if_neg hx, if_neg hu, if_neg hU] at h
      split at h
      case isTrue hlen =>
        obtain ⟨n, hn, hc⟩ := Option.bind_eq_some_iff.mp h
        split at hc
        case isTrue hmax =>
          rw [ofNat?_eq_some_iff.mp hc] at hn hmax
          exact IsEscape.octal (by simp [hlen]) (digits?_eq_some_iff.mp hn) hmax
        case isFalse => simp at hc
      case isFalse => simp at h
      exact List.cons_ne_nil d more
  · intro h
    cases h with
    | letter hmem => exact letterEscape?_eq_some_iff.mpr hmem
    | number hmem hlen hdigits =>
      rw [escape?_of_number hmem hlen, digits?_eq_some_iff.mpr hdigits, Option.bind_some,
        ofNat?_eq_some_iff]
    | octal hlen hdigits hmax =>
      rw [escape?_of_octal hlen hdigits, if_pos hmax, ofNat?_eq_some_iff]

end Reading

section Parse

variable {argument rest : Bytes} {c : Char}

theorem parse_of_single (h : single? argument = some c) : parse argument = .ok c := by
  simp only [parse, h]

theorem parse_backslash (b : UInt8) (rest : Bytes) :
    parse (0x5C :: b :: rest) =
      match escape? (b :: rest) with
      | some c => .ok c
      | none => .error (.notSingle (0x5C :: b :: rest)) := by
  cases h : escape? (b :: rest) with
  | some c => simp only [parse, single?_backslash, h]
  | none => simp only [parse, single?_backslash, h]

/-- Whatever is refused, the error names the whole argument. -/
theorem parse_eq_error (argument : Bytes) (e : CharacterError) (h : parse argument = .error e) :
    e = .notSingle argument := by
  unfold parse at h
  repeat' split at h
  all_goals simp_all

theorem IsEscape.exists_eq (h : IsEscape argument c) : ∃ b more, argument = 0x5C :: b :: more := by
  cases h with
  | letter _ => exact ⟨_, _, rfl⟩
  | number _ _ _ => exact ⟨_, _, rfl⟩
  | octal hlen _ _ =>
    obtain ⟨b, d, e, rfl⟩ := List.length_eq_three.mp hlen
    exact ⟨_, _, rfl⟩

/-- Reading gives a character exactly where the argument denotes it. -/
theorem parse_eq_ok_iff : parse argument = .ok c ↔ Denotes argument c := by
  constructor
  · intro h
    unfold parse at h
    split at h
    case h_1 c' hsingle =>
      rw [single?_eq_some_iff, Utf8.encodeChar_eq_utf8EncodeChar] at hsingle
      rw [hsingle, Except.ok.inj h]
      exact Denotes.plain c
    case h_2 =>
      split at h
      case h_1 rest =>
        split at h
        case h_1 c' hescape =>
          rw [Except.ok.inj h] at hescape
          exact Denotes.escape (escape?_eq_some_iff.mp hescape)
        case h_2 => simp at h
      case h_2 => simp at h
  · intro h
    cases h with
    | plain =>
      apply parse_of_single
      rw [single?_eq_some_iff, Utf8.encodeChar_eq_utf8EncodeChar]
    | escape hescape =>
      obtain ⟨b, more, rfl⟩ := hescape.exists_eq
      rw [parse_backslash, escape?_eq_some_iff.mpr hescape]

/-- An argument that denotes no character is refused, and no other one is. -/
theorem parse_eq_error_iff :
    parse argument = .error (.notSingle argument) ↔ ∀ c, ¬ Denotes argument c := by
  constructor
  · intro h c hc
    rw [parse_eq_ok_iff.mpr hc] at h
    simp at h
  · intro h
    cases hparse : parse argument with
    | ok c => exact absurd (parse_eq_ok_iff.mp hparse) (h c)
    | error e => rw [parse_eq_error argument e hparse]

end Parse

/-- Arguments that come near a character and are none: nothing, several characters, bytes that are not
UTF-8, an escape with something behind it, and escapes whose number is too large or a surrogate. -/
inductive IllFormed : Bytes → Prop where
  | empty : IllFormed []
  | several {c d : Char} {cs : List Char} (h : c ≠ '\\') : IllFormed (Utf8.encode (c :: d :: cs))
  | notUtf8 {argument : Bytes} (h : ¬ argument.toByteArray.IsValidUTF8) : IllFormed argument
  | afterEscape {argument rest : Bytes} {c : Char} (h : IsEscape argument c) (hrest : rest ≠ []) :
      IllFormed (argument ++ rest)
  | noScalar {b : UInt8} {count : Nat} {digits : Bytes} {n : Nat} (h : (b, count) ∈ numberEscapes)
      (hlen : digits.length = count) (hdigits : Writes 16 digits n) (hn : ¬ n.isValidChar) :
      IllFormed (0x5C :: b :: digits)
  | octalTooLarge {digits : Bytes} {n : Nat} (hlen : digits.length = 3)
      (hdigits : Writes 8 digits n) (hn : 255 < n) : IllFormed (0x5C :: digits)

section IllFormed

variable {argument rest : Bytes} {c : Char} {b : UInt8}

/-- Every byte of an escape is ASCII. -/
theorem IsEscape.lt_of_mem (h : IsEscape argument c) : ∀ b ∈ argument, b.toNat < 0x80 := by
  have hback : (0x5C : UInt8).toNat < 0x80 := by decide
  cases h with
  | letter hmem =>
    have hall : ∀ e ∈ letterEscapes, e.1.toNat < 0x80 := by decide +kernel
    exact List.forall_mem_cons.mpr ⟨hback, List.forall_mem_singleton.mpr (hall _ hmem)⟩
  | number hmem _ hdigits =>
    have hall : ∀ e ∈ numberEscapes, e.1.toNat < 0x80 := by decide +kernel
    exact List.forall_mem_cons.mpr
      ⟨hback, List.forall_mem_cons.mpr ⟨hall _ hmem, hdigits.lt_of_mem⟩⟩
  | octal _ hdigits _ => exact List.forall_mem_cons.mpr ⟨hback, hdigits.lt_of_mem⟩

theorem Denotes.isValidUTF8 (h : Denotes argument c) : argument.toByteArray.IsValidUTF8 := by
  rw [← Utf8.isValid_iff_isValidUTF8, Utf8.isValid_iff_exists_encode]
  cases h with
  | plain =>
    refine ⟨[c], ?_⟩
    rw [Utf8.encode_cons, Utf8.encodeChar_eq_utf8EncodeChar]
    simp [Utf8.encode]
  | escape hescape => exact ⟨_, (Utf8.encode_of_ascii hescape.lt_of_mem).symm⟩

theorem denotes_backslash_iff :
    Denotes (0x5C :: b :: rest) c ↔ IsEscape (0x5C :: b :: rest) c := by
  rw [← parse_eq_ok_iff, parse_backslash, ← escape?_eq_some_iff]
  cases escape? (b :: rest) with
  | some d => simp
  | none => simp

def tailLength (b : UInt8) : Nat :=
  if b = 0x78 then 2 else if b = 0x75 then 4 else if b = 0x55 then 8
  else if Bytes.isDigit b then 2 else 0

/-- The byte after the backslash tells how long an escape is. -/
theorem IsEscape.length_eq (h : IsEscape (0x5C :: b :: rest) c) : rest.length = tailLength b := by
  cases h with
  | letter hmem =>
    have hall : ∀ e ∈ letterEscapes, tailLength e.1 = 0 := by decide +kernel
    exact (hall _ hmem).symm
  | number hmem hlen _ =>
    have hall : ∀ e ∈ numberEscapes, tailLength e.1 = e.2 := by decide +kernel
    rw [hlen, hall _ hmem]
  | octal hlen hdigits _ =>
    obtain ⟨k, hk, hdigit⟩ := hdigits.exists_isDigit
    have hall : ∀ b : UInt8, ∀ k : Fin 8, IsDigit b k → tailLength b = 2 :=
      Bytes.forall_of_fin (by decide +kernel)
    rw [hall b ⟨k, hk⟩ hdigit]
    simpa using hlen

theorem decode_backslash (rest : Bytes) : Utf8.decode (0x5C :: rest) = '\\' :: Utf8.decode rest :=
  Utf8.decode_of_step (Utf8.step_of_one rest (by decide))

/-- Several characters are no character, unless the first one is a backslash. -/
theorem not_denotes_several {d : Char} {cs : List Char} (h : c ≠ '\\') (e : Char) :
    ¬ Denotes (Utf8.encode (c :: d :: cs)) e := by
  intro hdenotes
  have hread := Utf8.decode_encode (c :: d :: cs)
  generalize hbytes : Utf8.encode (c :: d :: cs) = argument at hdenotes hread
  cases hdenotes with
  | plain =>
    -- A sequence of one character does not read as two.
    have hone := Utf8.decode_encode [e]
    rw [Utf8.encode_cons, Utf8.encodeChar_eq_utf8EncodeChar] at hone
    simp only [Utf8.encode, List.flatMap_nil, List.append_nil] at hone
    rw [hone] at hread
    simp at hread
  | escape hescape =>
    obtain ⟨b, more, rfl⟩ := hescape.exists_eq
    rw [decode_backslash, List.cons.injEq] at hread
    exact h hread.1.symm

/-- What comes near a character and is none is refused. -/
theorem parse_of_illFormed (h : IllFormed argument) :
    parse argument = .error (.notSingle argument) := by
  cases h with
  | empty => rfl
  | several hc => exact parse_eq_error_iff.mpr (not_denotes_several hc)
  | notUtf8 hinvalid => exact parse_eq_error_iff.mpr fun c hc => hinvalid hc.isValidUTF8
  | @afterEscape argument rest c hescape hrest =>
    apply parse_eq_error_iff.mpr
    intro d hd
    -- The byte after the backslash fixes how long an escape is.
    obtain ⟨b, more, rfl⟩ := hescape.exists_eq
    rw [List.cons_append, List.cons_append, denotes_backslash_iff] at hd
    have hshort := hescape.length_eq
    have hlong := hd.length_eq
    rw [List.length_append, hshort] at hlong
    exact hrest (List.length_eq_zero_iff.mp (by omega))
  | noScalar hmem hlen hdigits hn =>
    rw [parse_backslash, escape?_of_number hmem hlen, digits?_eq_some_iff.mpr hdigits,
      Option.bind_some, ofNat?, if_neg hn]
  | octalTooLarge hlen hdigits hn =>
    obtain ⟨b, d, e, rfl⟩ := List.length_eq_three.mp hlen
    rw [parse_backslash, escape?_of_octal hlen hdigits, if_neg (Nat.not_le_of_lt hn)]

end IllFormed

theorem isScalar_ofChar (c : Char) : Code.IsScalar (Code.ofChar c) := by
  have hvalid : (Code.ofChar c).toNat.isValidChar := c.valid
  exact Code.isScalar_iff.mpr ⟨Code.ofChar_nonneg c, hvalid⟩

/-- Every character can be given by eight hexadecimal digits. -/
theorem parse_encode_hexDigits (c : Char) :
    parse (Utf8.encode ('\\' :: 'U' :: Text.hexDigits 8 c.toNat)) = .ok c := by
  obtain ⟨hlen, hwrites⟩ := encode_hexDigits 8 c.toNat
  have hvalid : c.toNat.isValidChar := c.valid
  have hsmall : c.toNat % 16 ^ 8 = c.toNat := by
    unfold Nat.isValidChar at hvalid
    exact Nat.mod_eq_of_lt (by omega)
  have hbytes : Utf8.encode ('\\' :: 'U' :: Text.hexDigits 8 c.toNat) =
      0x5C :: 0x55 :: Utf8.encode (Text.hexDigits 8 c.toNat) := rfl
  rw [hsmall] at hwrites
  rw [hbytes, parse_eq_ok_iff]
  exact Denotes.escape (IsEscape.number (by decide) hlen hwrites)

/-- An argument is read as a character exactly if it denotes it, and refused exactly if it denotes
none. What is read is always a scalar value, and every scalar value is read from its UTF-8 sequence and
from its eight hexadecimal digits. The forms that come near a character are refused. The digits of an
escape may as well be shifted into a signed word of 32 bits, for no number wraps round to a
character. -/
theorem parse_accepts_exactly :
    (∀ (argument : Bytes) (c : Char), parse argument = .ok c ↔ Denotes argument c) ∧
      (∀ argument : Bytes,
        parse argument = .error (.notSingle argument) ↔ ∀ c, ¬ Denotes argument c) ∧
      (∀ r : Int, Code.IsScalar r ↔ ∃ argument c, parse argument = .ok c ∧ Code.ofChar c = r) ∧
      (∀ c : Char, parse (String.utf8EncodeChar c) = .ok c ∧
        parse (Utf8.encode ('\\' :: 'U' :: Text.hexDigits 8 c.toNat)) = .ok c) ∧
      (∀ argument : Bytes, IllFormed argument → parse argument = .error (.notSingle argument)) ∧
      ∀ ds : List Nat, (∀ d ∈ ds, d < 16) → ds.length ≤ 8 →
        if (Nat.ofDigits 16 ds.reverse).isValidChar then
          (ds.foldl shiftIn 0).toInt = (Nat.ofDigits 16 ds.reverse : Nat)
        else ¬ Code.IsScalar (ds.foldl shiftIn 0).toInt := by
  have hplain (c : Char) : parse (String.utf8EncodeChar c) = .ok c :=
    parse_eq_ok_iff.mpr (Denotes.plain c)
  refine ⟨fun _ _ => parse_eq_ok_iff, fun _ => parse_eq_error_iff, ?_, ?_,
    fun _ => parse_of_illFormed, fun _ => toInt_foldl_shiftIn⟩
  · intro r
    constructor
    · intro hr
      have hcode := Code.ofChar_toChar_eq r
      rw [if_pos hr] at hcode
      exact ⟨_, Code.toChar r, hplain _, hcode⟩
    · rintro ⟨argument, c, -, rfl⟩
      exact isScalar_ofChar c
  · intro c
    exact ⟨hplain c, parse_encode_hexDigits c⟩

/-- A surrogate is refused, and so is a number whose highest bit is the sign of a word. -/
theorem parse_accepts_exactly_of_surrogate :
    IllFormed (Bytes.ascii "\\ud800") ∧
      parse (Bytes.ascii "\\ud800") = .error (.notSingle (Bytes.ascii "\\ud800")) ∧
      (∀ d ∈ [8, 0, 0, 0, 0, 0, 4, 1], d < 16) ∧ [8, 0, 0, 0, 0, 0, 4, 1].length ≤ 8 ∧
      ¬ Code.IsScalar ([8, 0, 0, 0, 0, 0, 4, 1].foldl shiftIn 0).toInt := by
  have hdigits : Writes 16 (Bytes.ascii "d800") 0xD800 := digits?_eq_some_iff.mp (by decide +kernel)
  have hmem : ((0x75 : UInt8), 4) ∈ numberEscapes := by decide
  have hsurrogate : IllFormed (Bytes.ascii "\\ud800") :=
    IllFormed.noScalar hmem (by decide) hdigits (by decide)
  have hds : ∀ d ∈ [8, 0, 0, 0, 0, 0, 4, 1], d < 16 := by decide
  have hlen : [8, 0, 0, 0, 0, 0, 4, 1].length ≤ 8 := by decide
  obtain ⟨-, -, -, -, hill, hword⟩ := parse_accepts_exactly
  have hsign := hword _ hds hlen
  rw [if_neg (by decide)] at hsign
  exact ⟨hsurrogate, hill _ hsurrogate, hds, hlen, hsign⟩

end TextWalk.Character
