import TextWalk.Encoding.CodePage
import TextWalk.Encoding.Utf8

/-!
Character references in attribute values, such as `&amp;`, `&#45;` and `&#x2D;`. Only the named
references that write an ASCII character or white space, or a letter whose small form is ASCII,
are known by name: all others stay as written, and no label can tell the difference.
-/
namespace TextWalk.Markup

def namedReferences : List (String × List Nat) :=
  [("Tab", [0x09]), ("NewLine", [0x0A]), ("excl", [0x21]), ("QUOT", [0x22]), ("quot", [0x22]),
   ("num", [0x23]), ("dollar", [0x24]), ("percnt", [0x25]), ("AMP", [0x26]), ("amp", [0x26]),
   ("apos", [0x27]), ("lpar", [0x28]), ("rpar", [0x29]), ("ast", [0x2A]), ("midast", [0x2A]),
   ("plus", [0x2B]), ("comma", [0x2C]), ("period", [0x2E]), ("sol", [0x2F]), ("colon", [0x3A]),
   ("semi", [0x3B]), ("LT", [0x3C]), ("lt", [0x3C]), ("nvlt", [0x3C, 0x20D2]),
   ("equals", [0x3D]), ("bne", [0x3D, 0x20E5]), ("GT", [0x3E]), ("gt", [0x3E]),
   ("nvgt", [0x3E, 0x20D2]), ("quest", [0x3F]), ("commat", [0x40]), ("lbrack", [0x5B]),
   ("lsqb", [0x5B]), ("bsol", [0x5C]), ("rbrack", [0x5D]), ("rsqb", [0x5D]), ("Hat", [0x5E]),
   ("UnderBar", [0x5F]), ("lowbar", [0x5F]), ("DiacriticalGrave", [0x60]), ("grave", [0x60]),
   ("fjlig", [0x66, 0x6A]), ("lbrace", [0x7B]), ("lcub", [0x7B]), ("VerticalLine", [0x7C]),
   ("verbar", [0x7C]), ("vert", [0x7C]), ("rbrace", [0x7D]), ("rcub", [0x7D]),
   ("NonBreakingSpace", [0xA0]), ("nbsp", [0xA0]), ("Idot", [0x130]), ("ensp", [0x2002]),
   ("emsp", [0x2003]), ("emsp13", [0x2004]), ("emsp14", [0x2005]), ("numsp", [0x2007]),
   ("puncsp", [0x2008]), ("ThinSpace", [0x2009]), ("thinsp", [0x2009]),
   ("VeryThinSpace", [0x200A]), ("hairsp", [0x200A]), ("MediumSpace", [0x205F]),
   ("ThickSpace", [0x205F, 0x200A])]

def bareReferences : List String :=
  -- These names are known without their semicolon too.
  ["AMP", "GT", "LT", "QUOT", "amp", "gt", "lt", "nbsp", "quot"]

def named? (name : Bytes) : Option (List Char) :=
  let (stem, closed) :=
    match name.getLast? with
    | some 0x3B => (name.dropLast, true)
    | _ => (name, false)
  if closed || bareReferences.any (Bytes.ascii · == stem) then
    (namedReferences.find? fun entry => Bytes.ascii entry.1 == stem).map fun entry =>
      entry.2.map Char.ofNat
  else none

def numbered (n : Nat) : Char :=
  if 0x80 ≤ n ∧ n ≤ 0x9F then
    -- Numbers of control characters past ASCII are read in the Western code page.
    let c := CodePage.windows1252.decodeByte (UInt8.ofNat n)
    if c = Code.replacement then Char.ofNat n else c
  else if n ≠ 0 ∧ n.isValidChar then Char.ofNat n
  else Code.replacement

def digitsValue (base : Nat) (ds : Bytes) : Nat :=
  -- The value is kept to 32 bits.
  ds.foldl (fun n d => (base * n + (Bytes.hexDigit? d).getD 0) % 0x100000000) 0

def dropSemicolon : Bytes → Bool × Bytes
  | 0x3B :: rest => (true, rest)
  | rest => (false, rest)

def base : Bytes → Nat × Bytes
  | 0x78 :: rest => (16, rest)
  | 0x58 :: rest => (16, rest)
  | rest => (10, rest)

def isDigitOf (base : Nat) (b : UInt8) : Bool := (Bytes.hexDigit? b).any (· < base)

/-- Reads a numeric reference after its number sign: the character and what follows. A reference
of fewer than four bytes, counted from the ampersand with its semicolon, is none. -/
def numericReference? (bs : Bytes) : Option (Char × Bytes) :=
  let digits := (base bs).2.takeWhile (isDigitOf (base bs).1)
  let after := (dropSemicolon ((base bs).2.dropWhile (isDigitOf (base bs).1))).2
  if bs.length - after.length < 2 then none
  else some (numbered (digitsValue (base bs).1 digits), after)

def namedReference (bs : Bytes) : Bytes × Bytes :=
  let isNameByte := fun b => Bytes.isLetter b || Bytes.isDigit b
  let stem := bs.takeWhile isNameByte
  let (closed, after) := dropSemicolon (bs.dropWhile isNameByte)
  let name := if closed then stem ++ [0x3B] else stem
  let literal := 0x26 :: name
  -- Before an equals sign a name without semicolon stays as written.
  if !closed && after.head? == some 0x3D then (literal, after)
  else
    match named? name with
    | some cs => (Utf8.encode cs, after)
    | none => (literal, after)

theorem length_dropSemicolon_le (bs : Bytes) : (dropSemicolon bs).2.length ≤ bs.length := by
  unfold dropSemicolon
  split <;> simp

theorem length_base_le (bs : Bytes) : (base bs).2.length ≤ bs.length := by
  unfold base
  split <;> simp

theorem length_numericReference?_le {bs r : Bytes} {c : Char}
    (h : numericReference? bs = some (c, r)) : r.length ≤ bs.length := by
  unfold numericReference? at h
  simp only at h
  split at h
  · simp at h
  · have hr := congrArg Prod.snd (Option.some.inj h)
    simp only at hr
    rw [← hr]
    exact Nat.le_trans (length_dropSemicolon_le _)
      (Nat.le_trans (Bytes.length_dropWhile_le _ _) (length_base_le bs))

theorem length_namedReference_le (bs : Bytes) : (namedReference bs).2.length ≤ bs.length := by
  have h := Nat.le_trans (length_dropSemicolon_le _)
    (Bytes.length_dropWhile_le (fun b => Bytes.isLetter b || Bytes.isDigit b) bs)
  unfold namedReference
  simp only
  split
  · exact h
  · split <;> exact h

def reference (bs : Bytes) : Bytes × Bytes :=
  match bs with
  | 0x23 :: body =>
    if body.length < 2 then ([0x26], bs)
    else
      match numericReference? body with
      | some (c, after) => (Utf8.encodeChar c, after)
      | none => ([0x26], bs)
  | _ => namedReference bs

theorem length_reference_le (bs : Bytes) : (reference bs).2.length ≤ bs.length := by
  unfold reference
  split
  · split
    · exact Nat.le_refl _
    · split
      · rename_i h
        have := length_numericReference?_le h
        simp only [List.length_cons]
        omega
      · exact Nat.le_refl _
  · exact length_namedReference_le bs

def unescape : Bytes → Bytes
  | [] => []
  | b :: rest =>
    if b ≠ 0x26 then b :: unescape rest
    else (reference rest).1 ++ unescape (reference rest).2
termination_by bs => bs.length
decreasing_by
  · simp
  · have := length_reference_le rest
    simp only [List.length_cons]
    omega

end TextWalk.Markup
