namespace TextWalk

abbrev Bytes := List UInt8

namespace Bytes

def ascii (s : String) : Bytes := s.toList.map fun c => UInt8.ofNat c.toNat

def lowerByte (b : UInt8) : UInt8 :=
  if 0x41 ≤ b.toNat ∧ b.toNat ≤ 0x5A then b + 0x20 else b

def lower (bs : Bytes) : Bytes := bs.map lowerByte

def isLetter (b : UInt8) : Bool :=
  let n := (lowerByte b).toNat
  0x61 ≤ n && n ≤ 0x7A

def isDigit (b : UInt8) : Bool := 0x30 ≤ b.toNat && b.toNat ≤ 0x39

def hexDigit? (b : UInt8) : Option Nat :=
  let n := b.toNat
  if 0x30 ≤ n ∧ n ≤ 0x39 then some (n - 0x30)
  else if 0x61 ≤ n ∧ n ≤ 0x66 then some (n - 0x61 + 10)
  else if 0x41 ≤ n ∧ n ≤ 0x46 then some (n - 0x41 + 10)
  else none

def dropPrefix? : Bytes → Bytes → Option Bytes
  | [], bs => some bs
  | _ :: _, [] => none
  | p :: ps, b :: bs => if p = b then dropPrefix? ps bs else none

def cut? (sep : UInt8) : Bytes → Option (Bytes × Bytes)
  | [] => none
  | b :: bs => if b = sep then some ([], bs) else (cut? sep bs).map fun (l, r) => (b :: l, r)

theorem toNat_ofNat {n : Nat} (h : n < 0x100) : (UInt8.ofNat n).toNat = n :=
  UInt8.toNat_ofNat_of_lt' h

/-- There are few enough bytes to go through them all. -/
theorem forall_of_fin {P : UInt8 → Prop} (h : ∀ n : Fin 0x100, P (UInt8.ofNat n)) (b : UInt8) :
    P b := by
  have hb := h ⟨b.toNat, b.toNat_lt⟩
  rwa [UInt8.ofNat_toNat] at hb

/-- Leaving out leading bytes never lengthens a byte string. -/
theorem length_dropWhile_le (p : UInt8 → Bool) (bs : Bytes) :
    (bs.dropWhile p).length ≤ bs.length :=
  (List.dropWhile_sublist p).length_le

theorem length_of_dropPrefix? {p bs rest : Bytes} (h : dropPrefix? p bs = some rest) :
    bs.length = p.length + rest.length := by
  induction p generalizing bs with
  | nil => simp_all [dropPrefix?]
  | cons x p ih =>
    cases bs with
    | nil => simp [dropPrefix?] at h
    | cons b bs =>
      simp only [dropPrefix?] at h
      split at h
      · have := ih h
        simp only [List.length_cons]
        omega
      · simp at h

end Bytes

end TextWalk
