import Mathlib.Data.List.Basic
import Mathlib.Data.List.Forall2
import Mathlib.Data.Nat.Digits.Defs
import Mathlib.Tactic.Ring
import TextWalk.Character
import TextWalk.Proofs.TextRoundTrip

namespace TextWalk.Character

def IsDigit (b : UInt8) (d : Nat) : Prop :=
  (Bytes.ascii "0123456789abcdef")[d]? = some b ∨ (Bytes.ascii "0123456789ABCDEF")[d]? = some b

instance (b : UInt8) (d : Nat) : Decidable (IsDigit b d) := inferInstanceAs (Decidable (_ ∨ _))

def Writes (base : Nat) (bs : Bytes) (n : Nat) : Prop :=
  ∃ ds, List.Forall₂ IsDigit bs ds ∧ (∀ d ∈ ds, d < base) ∧ n = Nat.ofDigits base ds.reverse

section Digits

variable {base n m d : Nat} {b : UInt8} {bs : Bytes}

theorem hexDigit?_eq_some_iff : Bytes.hexDigit? b = some d ↔ IsDigit b d := by
  constructor
  · intro h
    have hall : ∀ b : UInt8, ∀ d ∈ Bytes.hexDigit? b, IsDigit b d :=
      Bytes.forall_of_fin (by decide +kernel)
    exact hall b d h
  · intro h
    have hd : d < 16 := by
      rcases h with h | h
      · exact (List.getElem?_eq_some_iff.mp h).1
      · exact (List.getElem?_eq_some_iff.mp h).1
    have hsmall : ∀ d : Fin 16, ∀ b ∈ (Bytes.ascii "0123456789abcdef")[d.val]?,
        Bytes.hexDigit? b = some d.val := by decide +kernel
    have hcapital : ∀ d : Fin 16, ∀ b ∈ (Bytes.ascii "0123456789ABCDEF")[d.val]?,
        Bytes.hexDigit? b = some d.val := by decide +kernel
    rcases h with h | h
    · exact hsmall ⟨d, hd⟩ b h
    · exact hcapital ⟨d, hd⟩ b h

/-- Digits that are read one after the other write a number by the powers of the base. -/
theorem digitsAfter?_eq_some_iff :
    digitsAfter? base n bs = some m ↔ ∃ ds, List.Forall₂ IsDigit bs ds ∧ (∀ d ∈ ds, d < base) ∧
      m = n * base ^ ds.length + Nat.ofDigits base ds.reverse := by
  -- Induction on the digits: the number read so far counts once more for each that follows.
  induction bs generalizing n with
  | nil =>
    simp only [digitsAfter?, Option.some.injEq]
    constructor
    · rintro rfl
      exact ⟨[], List.Forall₂.nil, by simp, by simp⟩
    · rintro ⟨ds, hds, -, rfl⟩
      cases hds
      simp
  | cons b bs ih =>
    have hstep (d : Nat) (ds : List Nat) :
        n * base ^ (d :: ds).length + Nat.ofDigits base (d :: ds).reverse =
          (n * base + d) * base ^ ds.length + Nat.ofDigits base ds.reverse := by
      rw [List.reverse_cons, Nat.ofDigits_append, Nat.ofDigits_singleton, List.length_reverse,
        List.length_cons]
      ring
    constructor
    · intro h
      rw [digitsAfter?] at h
      split at h
      case h_1 d hd =>
        split at h
        case isTrue hlt =>
          obtain ⟨ds, hds, hbase, hm⟩ := ih.mp h
          refine ⟨d :: ds, List.Forall₂.cons (hexDigit?_eq_some_iff.mp hd) hds, ?_, ?_⟩
          · exact List.forall_mem_cons.mpr ⟨hlt, hbase⟩
          · rw [hstep, hm]
        case isFalse => simp at h
      case h_2 => simp at h
    · rintro ⟨ds, hds, hbase, hm⟩
      cases hds with
      | @cons _ d _ ds hd hds =>
        obtain ⟨hlt, hbase⟩ := List.forall_mem_cons.mp hbase
        rw [digitsAfter?, hexDigit?_eq_some_iff.mpr hd]
        simp only [hlt, ↓reduceIte]
        exact ih.mpr ⟨ds, hds, hbase, hm.trans (hstep d ds)⟩

/-- Reading digits gives the number that they write. -/
theorem digits?_eq_some_iff : digits? base bs = some n ↔ Writes base bs n := by
  rw [digits?, digitsAfter?_eq_some_iff, Writes]
  simp only [Nat.zero_mul, Nat.zero_add]

theorem Writes.exists_isDigit (h : Writes base (b :: bs) n) : ∃ d < base, IsDigit b d := by
  obtain ⟨ds, hds, hbase, -⟩ := h
  cases hds with
  | cons hd _ => exact ⟨_, (List.forall_mem_cons.mp hbase).1, hd⟩

theorem IsDigit.lt (h : IsDigit b d) : b.toNat < 0x80 := by
  have hall : ∀ b : UInt8, ∀ d ∈ Bytes.hexDigit? b, b.toNat < 0x80 :=
    Bytes.forall_of_fin (by decide +kernel)
  exact hall b d (hexDigit?_eq_some_iff.mpr h)

theorem Writes.lt_of_mem (h : Writes base bs n) : ∀ b ∈ bs, b.toNat < 0x80 := by
  obtain ⟨ds, hds, -, -⟩ := h
  induction hds with
  | nil => simp
  | cons hd _ ih => exact List.forall_mem_cons.mpr ⟨hd.lt, ih⟩

end Digits

section Written

variable {base n d : Nat} {b : UInt8} {bs : Bytes}

theorem Writes.concat (h : Writes base bs n) (hb : IsDigit b d) (hd : d < base) :
    Writes base (bs ++ [b]) (n * base + d) := by
  obtain ⟨ds, hds, hbase, rfl⟩ := h
  refine ⟨ds ++ [d], ?_, ?_, ?_⟩
  · exact List.rel_append hds (List.Forall₂.cons hb List.Forall₂.nil)
  · exact List.forall_mem_append.mpr ⟨hbase, List.forall_mem_singleton.mpr hd⟩
  · rw [List.reverse_append, List.reverse_singleton, List.singleton_append, Nat.ofDigits_cons]
    ring

theorem encode_hexDigit (h : d < 16) :
    ∃ b, Utf8.encode [Text.hexDigit d] = [b] ∧ IsDigit b d := by
  have hall : ∀ d : Fin 16,
      Utf8.encode [Text.hexDigit d] = [UInt8.ofNat (Text.hexDigit d).toNat] ∧
        IsDigit (UInt8.ofNat (Text.hexDigit d).toNat) d := by decide +kernel
  exact ⟨_, hall ⟨d, h⟩⟩

/-- The last hexadecimal digits of a number write its remainder. -/
theorem encode_hexDigits (count n : Nat) :
    (Utf8.encode (Text.hexDigits count n)).length = count ∧
      Writes 16 (Utf8.encode (Text.hexDigits count n)) (n % 16 ^ count) := by
  induction count generalizing n with
  | zero => exact ⟨rfl, [], List.Forall₂.nil, by simp, by simp [Nat.mod_one]⟩
  | succ count ih =>
    obtain ⟨hlen, hwrites⟩ := ih (n / 16)
    obtain ⟨b, hb, hdigit⟩ := encode_hexDigit (Nat.mod_lt n (by decide : 0 < 16))
    have happ : Utf8.encode (Text.hexDigits (count + 1) n) =
        Utf8.encode (Text.hexDigits count (n / 16)) ++ [b] := by
      rw [Text.hexDigits, Utf8.encode, List.flatMap_append, ← hb]
      rfl
    have hvalue : n % 16 ^ (count + 1) = n / 16 % 16 ^ count * 16 + n % 16 := by
      rw [Nat.pow_succ', Nat.mod_mul]
      ring
    rw [happ, hvalue, List.length_append, hlen]
    exact ⟨rfl, hwrites.concat hdigit (Nat.mod_lt n (by decide))⟩

end Written

def shiftIn (w : BitVec 32) (d : Nat) : BitVec 32 := w <<< 4 ||| BitVec.ofNat 32 d

/-- As long as there is room, a digit goes into the word as into a number. -/
theorem toNat_shiftIn {w : BitVec 32} {d : Nat} (hd : d < 16) (hw : w.toNat * 16 + d < 2 ^ 32) :
    (shiftIn w d).toNat = w.toNat * 16 + d := by
  have hshift : w.toNat <<< 4 < 2 ^ 32 := by
    rw [Nat.shiftLeft_eq]
    omega
  rw [shiftIn, BitVec.toNat_or, BitVec.toNat_shiftLeft, Nat.mod_eq_of_lt hshift, BitVec.toNat_ofNat,
    Nat.mod_eq_of_lt (by omega), ← Nat.shiftLeft_add_eq_or_of_lt hd, Nat.shiftLeft_eq]

/-- Eight digits fill the word, so that their number goes into it without wrapping round. -/
theorem toNat_foldl_shiftIn {ds : List Nat} (w : BitVec 32) (k : Nat) (hds : ∀ d ∈ ds, d < 16)
    (hw : w.toNat < 16 ^ k) (hlen : k + ds.length ≤ 8) :
    (ds.foldl shiftIn w).toNat = w.toNat * 16 ^ ds.length + Nat.ofDigits 16 ds.reverse := by
  -- Induction on the digits to come: with `k` digits in the word there is room for one more.
  induction ds generalizing w k with
  | nil => simp
  | cons d ds ih =>
    obtain ⟨hd, hds⟩ := List.forall_mem_cons.mp hds
    rw [List.length_cons] at hlen
    have hpow : 16 ^ (k + 1) ≤ 16 ^ 8 := Nat.pow_le_pow_right (by decide) (by omega)
    have hnext : w.toNat * 16 + d < 16 ^ (k + 1) := by
      rw [Nat.pow_succ]
      omega
    have hstep := toNat_shiftIn hd (Nat.lt_of_lt_of_le hnext hpow)
    have hrest := ih (shiftIn w d) (k + 1) hds (by rwa [hstep]) (by omega)
    rw [List.foldl_cons, hrest, hstep, List.reverse_cons, Nat.ofDigits_append,
      Nat.ofDigits_singleton, List.length_reverse, List.length_cons]
    ring

/-- A signed word that has taken up to eight digits holds their number if that is a character, and no
character otherwise. -/
theorem toInt_foldl_shiftIn {ds : List Nat} (hds : ∀ d ∈ ds, d < 16) (hlen : ds.length ≤ 8) :
    if (Nat.ofDigits 16 ds.reverse).isValidChar then
      (ds.foldl shiftIn 0).toInt = (Nat.ofDigits 16 ds.reverse : Nat)
    else ¬ Code.IsScalar (ds.foldl shiftIn 0).toInt := by
  have hzero : (0 : BitVec 32).toNat = 0 := rfl
  have hword := toNat_foldl_shiftIn 0 0 hds (by decide) (by omega)
  rw [hzero, Nat.zero_mul, Nat.zero_add] at hword
  rw [BitVec.toInt_eq_toNat_cond, hword]
  unfold Nat.isValidChar Code.IsScalar
  split
  · split <;> omega
  · split <;> omega

end TextWalk.Character
