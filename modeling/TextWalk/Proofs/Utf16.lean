import TextWalk.Encoding.Utf16

namespace TextWalk.Utf16

variable {order : ByteOrder} {n u v : Nat} {c : Char}

/-- A unit is read from the two bytes it is written as. -/
theorem exists_unitBytes (order : ByteOrder) (h : n < 0x10000) :
    ∃ b₁ b₂, unitBytes order n = [b₁, b₂] ∧ unit order b₁ b₂ = n := by
  have hlow : (UInt8.ofNat (n % 256)).toNat = n % 256 := Bytes.toNat_ofNat (by omega)
  have hhigh : (UInt8.ofNat (n / 256)).toNat = n / 256 := Bytes.toNat_ofNat (by omega)
  cases order with
  | little => exact ⟨_, _, rfl, by rw [unit, hlow, hhigh]; omega⟩
  | big => exact ⟨_, _, rfl, by rw [unit, hlow, hhigh]; omega⟩

/-- A unit that is no surrogate stands for a character alone, whatever follows. -/
theorem decode_unitBytes_append (rest : Bytes) (hu : u < 0x10000) (hhigh : isHigh u = false)
    (hlow : isLow u = false) :
    decode order (unitBytes order u ++ rest) = Char.ofNat u :: decode order rest := by
  obtain ⟨b₁, b₂, hbytes, hunit⟩ := exists_unitBytes order hu
  rw [hbytes, List.cons_append, List.cons_append, List.nil_append]
  -- The look at the next unit makes no difference, so every length of the rest gives the same.
  match rest with
  | [] => simp [decode, hunit, single, hhigh, hlow]
  | [b₃] => simp [decode, hunit, single, hhigh, hlow]
  | b₃ :: b₄ :: rest => simp [decode, hunit, single, hhigh, hlow]

/-- A pair of surrogates stands for one character. -/
theorem decode_pair_append (rest : Bytes) (hu : u < 0x10000) (hv : v < 0x10000)
    (hhigh : isHigh u = true) (hlow : isLow v = true) :
    decode order (unitBytes order u ++ (unitBytes order v ++ rest)) =
      Char.ofNat (0x10000 + (u - 0xD800) * 1024 + (v - 0xDC00)) :: decode order rest := by
  obtain ⟨b₁, b₂, hbytes, hunit⟩ := exists_unitBytes order hu
  obtain ⟨b₃, b₄, hbytes', hunit'⟩ := exists_unitBytes order hv
  rw [hbytes, hbytes']
  simp only [List.cons_append, List.nil_append]
  rw [decode, hunit, hunit', hhigh, hlow]
  simp [pair, hhigh]

/-- A character is read back from its units, whatever follows them. -/
theorem decode_encodeChar_append (order : ByteOrder) (c : Char) (rest : Bytes) :
    decode order (encodeChar order c ++ rest) = c :: decode order rest := by
  have hvalid : c.toNat < 0xD800 ∨ 0xDFFF < c.toNat ∧ c.toNat < 0x110000 := c.valid
  by_cases h : c.toNat < 0x10000
  · -- A character is no surrogate, so its unit stands alone.
    have hhigh : isHigh c.toNat = false := by simp [isHigh]; omega
    have hlow : isLow c.toNat = false := by simp [isLow]; omega
    rw [encodeChar, if_pos h, decode_unitBytes_append rest h hhigh hlow, Char.ofNat_toNat]
  · -- Twenty bits above the first plane are shared between the two halves.
    have hcode : 0x10000 + (0xD800 + (c.toNat - 0x10000) / 1024 - 0xD800) * 1024 +
        (0xDC00 + (c.toNat - 0x10000) % 1024 - 0xDC00) = c.toNat := by omega
    have hhigh : isHigh (0xD800 + (c.toNat - 0x10000) / 1024) = true := by simp [isHigh]; omega
    have hlow : isLow (0xDC00 + (c.toNat - 0x10000) % 1024) = true := by simp [isLow]; omega
    rw [encodeChar, if_neg h, List.append_assoc,
      decode_pair_append rest (by omega) (by omega) hhigh hlow, hcode, Char.ofNat_toNat]

theorem encode_cons (order : ByteOrder) (c : Char) (cs : List Char) :
    encode order (c :: cs) = encodeChar order c ++ encode order cs := rfl

/-- Reading undoes writing. -/
theorem decode_encode (order : ByteOrder) (cs : List Char) :
    decode order (encode order cs) = cs := by
  induction cs with
  | nil => rw [encode, List.flatMap_nil, decode]
  | cons c cs ih => rw [encode_cons, decode_encodeChar_append, ih]

end TextWalk.Utf16
