import TextWalk.Bytes

namespace TextWalk.Markup

structure Attribute where
  name : Bytes
  value : Bytes
deriving DecidableEq, Repr

structure Tag where
  name : Bytes
  attributes : List Attribute
deriving DecidableEq, Repr

def isSpace (b : UInt8) : Bool :=
  b == 0x20 || b == 0x0A || b == 0x0D || b == 0x09 || b == 0x0C

def close : UInt8 := 0x3E

def slash : UInt8 := 0x2F

def isNameEnd (b : UInt8) : Bool := isSpace b || b == slash || b == close

def isAttributeNameEnd (b : UInt8) : Bool := isNameEnd b || b == 0x3D

def bareOrQuoted : Bytes → Option (Bytes × Bytes)
  | [] => none
  | b :: rest =>
    if b = 0x22 ∨ b = 0x27 then Bytes.cut? b rest
    else
      let isEnd := fun c => isSpace c || c == close
      match (b :: rest).dropWhile (!isEnd ·) with
      | [] => none
      | after => some ((b :: rest).takeWhile (!isEnd ·), after)

def attributeValue (bs : Bytes) : Option (Bytes × Bytes) :=
  match bs.dropWhile isSpace with
  | [] => none
  | b :: rest =>
    if b = 0x3D then bareOrQuoted (rest.dropWhile isSpace) else some ([], b :: rest)

theorem length_cut?_lt {sep : UInt8} {bs l r : Bytes} (h : Bytes.cut? sep bs = some (l, r)) :
    r.length < bs.length := by
  induction bs generalizing l r with
  | nil => simp [Bytes.cut?] at h
  | cons b bs ih =>
    simp only [Bytes.cut?] at h
    split at h
    · simp_all
    · obtain ⟨⟨l', r'⟩, hc, he⟩ := Option.map_eq_some_iff.mp h
      have := ih hc
      simp only [Prod.mk.injEq] at he
      simp only [List.length_cons, ← he.2]
      omega

theorem length_bareOrQuoted_le {bs v r : Bytes} (h : bareOrQuoted bs = some (v, r)) :
    r.length ≤ bs.length := by
  unfold bareOrQuoted at h
  split at h
  · simp at h
  · split at h
    · have := length_cut?_lt h
      simp only [List.length_cons]
      omega
    · simp only at h
      split at h
      · simp at h
      · have hr := congrArg Prod.snd (Option.some.inj h)
        simp only at hr
        rw [← hr]
        exact Bytes.length_dropWhile_le _ _

/-- What follows an attribute value is no longer than what follows the name. -/
theorem length_attributeValue_le {bs v r : Bytes} (h : attributeValue bs = some (v, r)) :
    r.length ≤ bs.length := by
  unfold attributeValue at h
  have h₁ := Bytes.length_dropWhile_le isSpace bs
  split at h
  · simp at h
  · rename_i b rest hd
    rw [hd] at h₁
    split at h
    · have h₂ := length_bareOrQuoted_le h
      have h₃ := Bytes.length_dropWhile_le isSpace rest
      simp only [List.length_cons] at h₁
      omega
    · have hr : b :: rest = r := congrArg Prod.snd (Option.some.inj h)
      rw [← hr]
      exact h₁

def readAttributes : Bytes → Option (List Attribute × Bytes)
  | [] => none
  | b :: rest =>
    if b = close then some ([], rest)
    else if isSpace b ∨ b = slash then readAttributes rest
    else
      -- The first byte belongs to the name whatever it is, also an equals sign.
      match _h : attributeValue (rest.dropWhile (!isAttributeNameEnd ·)) with
      | none => none
      | some (value, after) =>
        (readAttributes after).map fun (attributes, r) =>
          ({ name := Bytes.lower (b :: rest.takeWhile (!isAttributeNameEnd ·)), value := value } ::
            attributes, r)
termination_by bs => bs.length
decreasing_by
  · simp
  · have h₁ := length_attributeValue_le _h
    have h₂ := Bytes.length_dropWhile_le (!isAttributeNameEnd ·) rest
    simp only [List.length_cons]
    omega

def readTag (bs : Bytes) : Option (Tag × Bytes) :=
  (readAttributes (bs.dropWhile (!isNameEnd ·))).map fun (attributes, rest) =>
    ({ name := Bytes.lower (bs.takeWhile (!isNameEnd ·)), attributes := attributes }, rest)

theorem length_readAttributes_lt {bs r : Bytes} {as : List Attribute}
    (h : readAttributes bs = some (as, r)) : r.length < bs.length := by
  fun_induction readAttributes bs generalizing as r with
  | case1 => simp at h
  | case2 => simp_all
  | case3 b rest _ _ ih =>
    have := ih h
    simp only [List.length_cons]
    omega
  | case4 => simp at h
  | case5 b rest _ _ value after hv ih =>
    obtain ⟨⟨as', r'⟩, hr, he⟩ := Option.map_eq_some_iff.mp h
    have h₁ := ih hr
    have h₂ := length_attributeValue_le hv
    have h₃ := Bytes.length_dropWhile_le (!isAttributeNameEnd ·) rest
    simp only [Prod.mk.injEq] at he
    simp only [List.length_cons, ← he.2]
    omega

/-- Reading a tag consumes at least its closing bracket. -/
theorem length_readTag_lt {bs r : Bytes} {t : Tag} (h : readTag bs = some (t, r)) :
    r.length < bs.length := by
  obtain ⟨⟨as, r'⟩, hr, he⟩ := Option.map_eq_some_iff.mp h
  have h₁ := length_readAttributes_lt hr
  have h₂ := Bytes.length_dropWhile_le (!isNameEnd ·) bs
  simp only [Prod.mk.injEq] at he
  rw [← he.2]
  omega

end TextWalk.Markup
