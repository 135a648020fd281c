import TextWalk.Markup.Tag

namespace TextWalk.Markup

def nameThenEnd? (name bs : Bytes) : Option Bytes :=
  if Bytes.lower (bs.take name.length) = name then
    match bs.drop name.length with
    | b :: rest => if isNameEnd b then some rest else none
    | [] => none
  else none

def skipRawText (name : Bytes) : Bytes → Bytes
  | [] => []
  | b :: rest =>
    match rest with
    | c :: after =>
      -- The end tag itself is left to be read as a tag.
      if b = 0x3C ∧ c = slash ∧ (nameThenEnd? name after).isSome then b :: c :: after
      else skipRawText name (c :: after)
    | [] => []

/-- Where in a script the reading stands: plain, inside a comment, or inside a script nested in a
comment. `dashes` counts the dashes just read, up to two. -/
inductive ScriptState where
  | plain
  | comment (dashes : Nat)
  | nested (dashes : Nat)
deriving DecidableEq, Repr

def scriptName : Bytes := Bytes.ascii "script"

theorem length_nameThenEnd?_lt {name bs r : Bytes} (h : nameThenEnd? name bs = some r) :
    r.length < bs.length := by
  unfold nameThenEnd? at h
  split at h
  · split at h
    · rename_i b rest hd
      split at h
      · have hl := congrArg List.length hd
        simp only [List.length_drop, List.length_cons] at hl
        simp only [Option.some.injEq] at h
        subst h
        omega
      · simp at h
    · simp at h
  · simp at h

def skipScript : ScriptState → Bytes → Bytes
  | _, [] => []
  | .plain, b :: rest =>
    if b ≠ 0x3C then skipScript .plain rest
    else
      match rest with
      | [] => []
      | c :: after =>
        if c = slash then
          if (nameThenEnd? scriptName after).isSome then b :: c :: after
          else skipScript .plain after
        else
          match _h : Bytes.dropPrefix? [0x21, 0x2D, 0x2D] (c :: after) with
          -- The dashes that open a comment count for its end too.
          | some body => skipScript (.comment 2) body
          | none => skipScript .plain (c :: after)
  | .comment dashes, b :: rest =>
    if b = 0x2D then skipScript (.comment (min (dashes + 1) 2)) rest
    else if b = close ∧ dashes = 2 then skipScript .plain rest
    else if b ≠ 0x3C then skipScript (.comment 0) rest
    else
      match rest with
      | [] => []
      | c :: after =>
        if c = slash then
          if (nameThenEnd? scriptName after).isSome then b :: c :: after
          else skipScript (.comment 0) after
        else if Bytes.isLetter c then
          match _h : nameThenEnd? scriptName (c :: after) with
          -- From here on an end tag ends the inner script alone.
          | some inner => skipScript (.nested 0) inner
          | none => skipScript (.comment 0) (c :: after)
        else skipScript .plain (c :: after)
  | .nested dashes, b :: rest =>
    if b = 0x2D then skipScript (.nested (min (dashes + 1) 2)) rest
    else if b = close ∧ dashes = 2 then skipScript .plain rest
    else if b ≠ 0x3C then skipScript (.nested 0) rest
    else
      match rest with
      | [] => []
      | c :: after =>
        if c = slash then
          match _h : nameThenEnd? scriptName after with
          | some outer => skipScript (.comment 0) outer
          | none => skipScript (.nested 0) after
        else skipScript (.nested 0) (c :: after)
termination_by _ bs => bs.length
decreasing_by
  all_goals simp only [List.length_cons]
  any_goals omega
  · have := Bytes.length_of_dropPrefix? _h
    simp only [List.length_cons] at this
    omega
  · have := length_nameThenEnd?_lt _h
    simp only [List.length_cons] at this
    omega
  · have := length_nameThenEnd?_lt _h
    omega

def rawTextNames : List String :=
  ["iframe", "noembed", "noframes", "noscript", "style", "textarea", "title", "xmp"]

def afterStart (name : Bytes) (bs : Bytes) : Bytes :=
  if name = scriptName then skipScript .plain bs
  -- After this element there is no more markup.
  else if name = Bytes.ascii "plaintext" then []
  else if rawTextNames.any (Bytes.ascii · == name) then skipRawText name bs
  else bs

theorem length_skipRawText_le (name bs : Bytes) : (skipRawText name bs).length ≤ bs.length := by
  fun_induction skipRawText name bs
  all_goals simp only [List.length_nil, List.length_cons] at *
  all_goals omega

theorem length_skipScript_le (s : ScriptState) (bs : Bytes) :
    (skipScript s bs).length ≤ bs.length := by
  fun_induction skipScript s bs
  all_goals simp only [List.length_nil, List.length_cons] at *
  any_goals omega
  · rename_i h ih
    have := Bytes.length_of_dropPrefix? h
    simp only [List.length_cons] at this
    omega
  · rename_i h ih
    have := length_nameThenEnd?_lt h
    simp only [List.length_cons] at this
    omega
  · rename_i h ih
    have := length_nameThenEnd?_lt h
    omega

theorem length_afterStart_le (name bs : Bytes) : (afterStart name bs).length ≤ bs.length := by
  unfold afterStart
  split
  · exact length_skipScript_le _ _
  · split
    · simp
    · split
      · exact length_skipRawText_le _ _
      · exact Nat.le_refl _

end TextWalk.Markup
