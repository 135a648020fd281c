import TextWalk.Encoding.Utf8
import TextWalk.Text.Case
import TextWalk.Text.Space

/-!
Media types with parameters, such as `text/plain; charset=latin1`. A parameter may be written in
pieces (`charset*0`, `charset*1`) or percent-encoded (`charset*`); what such a form holds goes
before the plain parameter of the same name. A type that breaks the grammar is no type at all.
-/
namespace TextWalk

structure MediaType where
  name : List Char
  parameters : List (Bytes × Bytes)
deriving DecidableEq, Repr

namespace MediaType

def isSpecial (b : UInt8) : Bool := (Bytes.ascii "()<>@,;:\\\"/[]?=").contains b

def isTokenByte (b : UInt8) : Bool :=
  0x21 ≤ b.toNat && b.toNat ≤ 0x7E && !isSpecial b

def token (bs : Bytes) : Bytes × Bytes := (bs.takeWhile isTokenByte, bs.dropWhile isTokenByte)

def isTypeName (bs : Bytes) : Bool :=
  match token bs with
  | ([], _) => false
  | (_, []) => true
  | (_, slash :: rest) =>
    slash == 0x2F &&
      match token rest with
      | ([], _) => false
      | (_, after) => after.isEmpty

def dropSpace : Bytes → Bytes
  | [] => []
  | b :: rest =>
    match _h : Utf8.step b rest with
    | (some c, after) => if Text.isSpace c then dropSpace after else b :: rest
    | (none, _) => b :: rest
termination_by bs => bs.length
decreasing_by
  have := Utf8.length_step_le b rest
  simp only [_h, List.length_cons] at *
  omega

def quoted : Bytes → Option (Bytes × Bytes)
  | [] => none
  | b :: rest =>
    if b = 0x22 then some ([], rest)
    else if b = 0x0D ∨ b = 0x0A then none
    else
      match rest with
      | s :: after =>
        -- A backslash quotes special characters only and is literal before any other.
        if b = 0x5C ∧ isSpecial s then (quoted after).map fun (v, r) => (s :: v, r)
        else (quoted (s :: after)).map fun (v, r) => (b :: v, r)
      | [] => none

def value : Bytes → Option (Bytes × Bytes)
  | [] => none
  | b :: rest =>
    if b = 0x22 then quoted rest
    else
      match token (b :: rest) with
      | ([], _) => none
      | read => some read

def parameter : Bytes → Option ((Bytes × Bytes) × Bytes)
  | [] => none
  | semicolon :: rest =>
    if semicolon ≠ 0x3B then none
    else
      match token (dropSpace rest) with
      | ([], _) => none
      | (name, after) =>
        match dropSpace after with
        | [] => none
        | equals :: after =>
          if equals ≠ 0x3D then none
          else (value (dropSpace after)).map fun (v, r) => ((Bytes.lower name, v), r)

theorem length_dropSpace_le (bs : Bytes) : (dropSpace bs).length ≤ bs.length := by
  fun_induction dropSpace bs with
  | case1 => exact Nat.le_refl _
  | case2 b rest c after h _ ih =>
    have := Utf8.length_step_le b rest
    simp only [h] at this
    simp only [List.length_cons]
    omega
  | case3 => exact Nat.le_refl _
  | case4 => exact Nat.le_refl _

theorem length_quoted_lt {bs v r : Bytes} (h : quoted bs = some (v, r)) :
    r.length < bs.length := by
  fun_induction quoted bs generalizing v r with
  | case1 => simp at h
  | case2 rest => simp_all
  | case3 => simp at h
  | case4 b s after _ _ _ ih =>
    obtain ⟨⟨v', r'⟩, hq, he⟩ := Option.map_eq_some_iff.mp h
    have := ih hq
    simp only [Prod.mk.injEq] at he
    simp only [List.length_cons, ← he.2]
    omega
  | case5 b s after _ _ _ ih =>
    obtain ⟨⟨v', r'⟩, hq, he⟩ := Option.map_eq_some_iff.mp h
    have := ih hq
    simp only [Prod.mk.injEq] at he
    simp only [List.length_cons, ← he.2] at *
    omega
  | case6 => simp at h

theorem length_value_le {bs v r : Bytes} (h : value bs = some (v, r)) :
    r.length ≤ bs.length := by
  unfold value at h
  split at h
  · simp at h
  · split at h
    · have := length_quoted_lt h
      simp only [List.length_cons]
      omega
    · split at h
      · simp at h
      · have hr : r = (token _).2 := congrArg Prod.snd (Option.some.inj h).symm
        rw [hr]
        exact Bytes.length_dropWhile_le _ _

/-- Reading a parameter consumes at least its semicolon. -/
theorem length_parameter_lt {bs r : Bytes} {p : Bytes × Bytes} (h : parameter bs = some (p, r)) :
    r.length < bs.length := by
  unfold parameter at h
  split at h
  · simp at h
  · rename_i semicolon rest
    split at h
    · simp at h
    · split at h
      · simp at h
      · rename_i name after _ ht
        have h₁ : after.length ≤ rest.length := by
          have := congrArg Prod.snd ht
          simp only [token] at this
          rw [← this]
          exact Nat.le_trans (Bytes.length_dropWhile_le _ _) (length_dropSpace_le _)
        split at h
        · simp at h
        · rename_i equals after' hs
          have h₂ := length_dropSpace_le after
          rw [hs] at h₂
          split at h
          · simp at h
          · obtain ⟨⟨v, r'⟩, hv, he⟩ := Option.map_eq_some_iff.mp h
            have h₃ := length_value_le hv
            have h₄ := length_dropSpace_le after'
            simp only [Prod.mk.injEq] at he
            simp only [List.length_cons, ← he.2] at *
            omega

def readParameters (bs : Bytes) : Option (List (Bytes × Bytes)) :=
  match _h : dropSpace bs with
  | [] => some []
  | b :: rest =>
    match _hp : parameter (b :: rest) with
    | some (p, after) => (readParameters after).map (p :: ·)
    -- A lone semicolon at the end is let pass.
    | none => if Text.trim (Utf8.decode (b :: rest)) = [';'] then some [] else none
termination_by bs.length
decreasing_by
  have h₁ := length_dropSpace_le bs
  have h₂ := length_parameter_lt _hp
  simp only [_h] at *
  omega

def isConsistent (ps : List (Bytes × Bytes)) : Bool :=
  ps.all fun p => ps.all fun q => p.1 != q.1 || p.2 == q.2

def parse? (bs : Bytes) : Option MediaType :=
  let name := Text.lower (Text.trim (Utf8.decode (bs.takeWhile (· != 0x3B))))
  if isTypeName (Utf8.encode name) then
    match readParameters (bs.dropWhile (· != 0x3B)) with
    -- A name may stand twice with one value, but not with two.
    | some ps => if isConsistent ps then some { name := name, parameters := ps } else none
    | none => none
  else none

def percentDecode : Bytes → Option Bytes
  | [] => some []
  | b :: rest =>
    if b ≠ 0x25 then (percentDecode rest).map (b :: ·)
    else
      match rest with
      | x :: y :: after =>
        match Bytes.hexDigit? x, Bytes.hexDigit? y with
        | some h, some l => (percentDecode after).map (UInt8.ofNat (16 * h + l) :: ·)
        | _, _ => none
      | _ => none

/-- The value of an extended form: charset, language and percent-encoded text between single
quotes, where the charset is ASCII or UTF-8. -/
def extendedValue? (v : Bytes) : Option Bytes := do
  let (charset, rest) ← Bytes.cut? 0x27 v
  let (_, text) ← Bytes.cut? 0x27 rest
  let charset := Text.lower (Utf8.decode charset)
  if charset = "us-ascii".toList ∨ charset = "utf-8".toList then percentDecode text else none

def written? (m : MediaType) (name : Bytes) : Option Bytes :=
  (m.parameters.find? (·.1 == name)).map (·.2)

def piece? (m : MediaType) (name : Bytes) (n : Nat) : Option Bytes :=
  let numbered := name ++ Bytes.ascii ("*" ++ toString n)
  match m.written? numbered with
  | some v => some v
  | none =>
    (m.written? (numbered ++ [0x2A])).map fun v =>
      -- Only the first piece tells the charset. A malformed piece is empty.
      ((if n = 0 then extendedValue? v else percentDecode v).getD [])

def pieces (m : MediaType) (name : Bytes) : List Bytes :=
  (((List.range m.parameters.length).map (m.piece? name)).takeWhile Option.isSome).filterMap id

def parameter? (m : MediaType) (name : Bytes) : Option Bytes :=
  match m.written? (name ++ [0x2A]) with
  | some v => (extendedValue? v).or (m.written? name)
  | none =>
    match m.pieces name with
    | [] => m.written? name
    | ps => some ps.flatten

end MediaType

end TextWalk
