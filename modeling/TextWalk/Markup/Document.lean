import TextWalk.Markup.RawText

namespace TextWalk.Markup

def skipPast (sep : UInt8) : Bytes → Bytes
  | [] => []
  | b :: rest => if b = sep then rest else skipPast sep rest

/-- What follows a comment, after its opening dashes. A bracket closes it after two dashes, after
two dashes and an exclamation mark, or right at the beginning. -/
def skipComment (dashes : Nat) (beginning : Bool) : Bytes → Bytes
  | [] => []
  | b :: rest =>
    if b = 0x2D then skipComment (dashes + 1) beginning rest
    else if b = close ∧ (2 ≤ dashes ∨ beginning) then rest
    else if b = 0x21 ∧ 2 ≤ dashes then
      match rest with
      | [] => []
      | c :: after =>
        if c = close then after
        else skipComment (if c = 0x2D then 1 else 0) false after
    else skipComment 0 false rest

theorem length_skipPast_le (sep : UInt8) (bs : Bytes) :
    (skipPast sep bs).length ≤ bs.length := by
  induction bs with
  | nil => exact Nat.le_refl _
  | cons b rest ih =>
    simp only [skipPast, List.length_cons]
    split <;> omega

theorem length_skipComment_le (dashes : Nat) (beginning : Bool) (bs : Bytes) :
    (skipComment dashes beginning bs).length ≤ bs.length := by
  fun_induction skipComment dashes beginning bs <;> simp_all <;> omega

def startTags : Bytes → List Tag
  | [] => []
  | b :: rest =>
    if b ≠ 0x3C then startTags rest
    else
      match rest with
      | [] => []
      | c :: after =>
        if Bytes.isLetter c then
          match _h : readTag (c :: after) with
          -- A tag that is not closed ends the document.
          | some (tag, r) => tag :: startTags (afterStart tag.name r)
          | none => []
        else if c = slash then
          match after with
          | [] => []
          | d :: more =>
            if Bytes.isLetter d then
              match _h : readTag (d :: more) with
              | some (_, r) => startTags r
              | none => []
            else startTags (skipPast close (d :: more))
        -- Comments, declarations and processing instructions are passed over.
        else if c = 0x21 then
          match _h : Bytes.dropPrefix? [0x2D, 0x2D] after with
          | some body => startTags (skipComment 0 true body)
          | none => startTags (skipPast close after)
        else if c = 0x3F then startTags (skipPast close after)
        -- An angle bracket before anything else is text.
        else startTags (c :: after)
termination_by bs => bs.length
decreasing_by
  · simp
  · have h₁ := length_readTag_lt _h
    have h₂ := length_afterStart_le tag.name r
    simp only [List.length_cons] at *
    omega
  · have h₁ := length_readTag_lt _h
    simp only [List.length_cons] at *
    omega
  · have h₁ := length_skipPast_le close (d :: more)
    simp only [List.length_cons] at *
    omega
  · have h₁ := Bytes.length_of_dropPrefix? _h
    have h₂ := length_skipComment_le 0 true body
    simp only [List.length_cons] at *
    omega
  · have h₁ := length_skipPast_le close after
    simp only [List.length_cons] at *
    omega
  · have h₁ := length_skipPast_le close after
    simp only [List.length_cons] at *
    omega
  · simp

end TextWalk.Markup
