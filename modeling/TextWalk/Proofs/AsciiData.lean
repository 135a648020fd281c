import TextWalk.Proofs.Loading

namespace TextWalk

namespace Bytes

def chars (bs : Bytes) : List Char := bs.map fun b => Char.ofNat b.toNat

theorem toNat_ofNat_toNat (b : UInt8) : (Char.ofNat b.toNat).toNat = b.toNat := by
  have hb := b.toNat_lt
  exact Code.toNat_ofNat (Or.inl (by omega))

theorem map_ofChar_chars (bs : Bytes) :
    bs.chars.map Code.ofChar = bs.map fun b => (b.toNat : Code) := by
  rw [chars, List.map_map]
  apply List.map_congr_left
  intro b _
  exact congrArg Int.ofNat (toNat_ofNat_toNat b)

end Bytes

namespace Load

def named? (contentType : Bytes) : Option Encoding :=
  if isLabel contentType then Encoding.ofLabel? contentType else charsetEncoding? contentType

end Load

section Ascii

variable {data : Bytes} (hdata : ∀ b ∈ data, b.toNat < 0x80)
include hdata

/-- ASCII bytes are what UTF-8 writes for their characters. -/
theorem Utf8.encode_chars : Utf8.encode data.chars = data := Utf8.encode_of_ascii hdata

/-- All encodings but UTF-16 and the refused ones read ASCII bytes as their characters. -/
theorem Encoding.decode_of_ascii {e : Encoding}
    (he : e ∉ [.utf16 .little, .utf16 .big, .replacement]) : e.decode data = data.chars := by
  match e with
  | .asIs => exact Utf8.decode_of_ascii hdata
  | .utf8 =>
    have h := Utf8.decodeMaximal_encode data.chars
    rwa [Utf8.encode_chars hdata] at h
  | .utf16 .little => simp at he
  | .utf16 .big => simp at he
  | .replacement => simp at he
  | .userDefined =>
    apply List.map_congr_left
    intro b hb
    rw [Encoding.userDefinedChar, if_pos (hdata b hb)]
  | .codePage page =>
    apply List.map_congr_left
    intro b hb
    exact page.decodeByte_of_lt (hdata b hb)

namespace Load

theorem head?_chars_ne_mark : data.chars.head? ≠ some '\uFEFF' := by
  intro h
  rw [Bytes.chars, List.head?_map, Option.map_eq_some_iff] at h
  obtain ⟨b, hb, hmark⟩ := h
  have hlt := hdata b (List.mem_of_head? hb)
  rw [← Bytes.toNat_ofNat_toNat b, hmark] at hlt
  exact absurd hlt (by decide)

theorem not_hasMark_of_ascii : ¬ HasMark data := by
  rw [← Utf8.encode_chars hdata, hasMark_encode_iff]
  exact head?_chars_ne_mark hdata

theorem isValid_of_ascii : Utf8.isValid data = true := by
  have h := Utf8.isValid_encode data.chars
  rwa [Utf8.encode_chars hdata] at h

/-- The data settles the encoding by itself unless one is named: it is UTF-8 as a whole, so neither
markup nor a media type that breaks off has a say. -/
theorem encodingOf_of_ascii (contentType : Bytes) :
    encodingOf data contentType = (named? contentType).getD .asIs := by
  have hmark := markEncoding?_eq_none (not_hasMark_of_ascii hdata)
  have hsniff (contentType : Bytes) :
      sniff data contentType = (charsetEncoding? contentType).getD .asIs := by
    rw [sniff, hmark, Option.none_or, isValid_of_ascii hdata]
    cases charsetEncoding? contentType <;> rfl
  have hempty : charsetEncoding? [] = none := by decide +kernel
  rw [encodingOf, named?]
  split
  · rw [hsniff, hempty, Option.getD_none]
  · exact hsniff contentType

/-- ASCII data reads as its own bytes unless UTF-16 or a refused encoding is named. -/
theorem text_of_ascii {contentType : Bytes}
    (h : ∀ e ∈ named? contentType, e ∉ [.utf16 .little, .utf16 .big, .replacement]) :
    text data contentType = data.chars := by
  have hdecode : (encodingOf data contentType).decode data = data.chars := by
    apply Encoding.decode_of_ascii hdata
    rw [encodingOf_of_ascii hdata]
    cases hnamed : named? contentType with
    | none => decide
    | some e => exact h e hnamed
  rw [text, hdecode, dropMark_eq, if_neg (head?_chars_ne_mark hdata)]

end Load

end Ascii

namespace Buffer

/-- ASCII data is read as its own bytes under every content type, known or unknown, well-formed or
not, and whatever its markup declares, unless the label or the charset parameter names UTF-16 or an
encoding that is refused. -/
theorem load_of_ascii (data contentType : Bytes) (hdata : ∀ b ∈ data, b.toNat < 0x80)
    (h : ∀ e ∈ Load.named? contentType, e ∉ [.utf16 .little, .utf16 .big, .replacement]) :
    ∃ b, Buffer.load (.ok data) contentType = .ok b ∧
      b = ofCodes (data.map fun b => (b.toNat : Code)) ∧ b.size = data.length := by
  refine ⟨_, rfl, ?_, ?_⟩
  · rw [ofData, Load.text_of_ascii hdata h, ofChars, Bytes.map_ofChar_chars]
  · rw [ofData, Load.text_of_ascii hdata h]
    simp [size, ofChars, ofCodes, Bytes.chars]

/-- An HTML page that declares UTF-16 for itself while its media type names a code page, and a media
type that breaks off in the middle of naming UTF-16. -/
theorem load_of_ascii_page :
    (Load.named? (Bytes.ascii "text/html; charset=koi8-r") = some (.codePage .koi8r) ∧
      ∃ b, Buffer.load (.ok (Bytes.ascii "<meta charset=utf-16>"))
          (Bytes.ascii "text/html; charset=koi8-r") = .ok b ∧
        b = ofCodes ((Bytes.ascii "<meta charset=utf-16>").map fun b => (b.toNat : Code)) ∧
        b.size = 21) ∧
      Load.named? (Bytes.ascii "text/html; charset=\"utf-16le") = none ∧
      ∃ b, Buffer.load (.ok (Bytes.ascii "a,b")) (Bytes.ascii "text/html; charset=\"utf-16le") =
          .ok b ∧
        b = ofCodes [0x61, 0x2C, 0x62] ∧ b.size = 3 := by
  have hkoi : Load.named? (Bytes.ascii "text/html; charset=koi8-r") = some (.codePage .koi8r) := by
    decide +kernel
  have hbroken : Load.named? (Bytes.ascii "text/html; charset=\"utf-16le") = none := by
    decide +kernel
  refine ⟨⟨hkoi, load_of_ascii _ _ (by decide +kernel) ?_⟩, hbroken,
    load_of_ascii _ _ (by decide +kernel) ?_⟩
  · rw [hkoi]
    decide
  · rw [hbroken]
    decide

end Buffer

end TextWalk
