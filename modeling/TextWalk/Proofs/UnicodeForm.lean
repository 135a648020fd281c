import Mathlib.Data.List.TakeWhile
import TextWalk.Load
import TextWalk.Proofs.Utf8
import TextWalk.Proofs.Utf16

namespace TextWalk

namespace Text

/-- White space around a word is taken away, and nothing of the word. -/
theorem trim_append {left word right : List Char} (hleft : ∀ c ∈ left, isSpace c = true)
    (hword : ∀ c ∈ word, isSpace c = false) (hright : ∀ c ∈ right, isSpace c = true) :
    trim (left ++ word ++ right) = word := by
  have hkeep : ∀ (cs rest : List Char), cs ≠ [] → (∀ c ∈ cs, isSpace c = false) →
      (cs ++ rest).dropWhile isSpace = cs ++ rest := by
    rintro (_ | ⟨c, cs⟩) rest hne hcs
    · exact absurd rfl hne
    · exact List.dropWhile_cons_of_neg (by rw [hcs c List.mem_cons_self]; exact Bool.false_ne_true)
  rw [trim, List.append_assoc, List.dropWhile_append_of_pos hleft]
  by_cases hne : word = []
  · have hdrop : right.dropWhile isSpace = [] := List.dropWhile_eq_nil_iff.mpr hright
    rw [hne, List.nil_append, hdrop]
    rfl
  · have hback := hkeep word.reverse [] (by simpa using hne) (by simpa using hword)
    rw [List.append_nil] at hback
    rw [hkeep word right hne hword, List.reverse_append,
      List.dropWhile_append_of_pos (by simpa using hright), hback, List.reverse_reverse]

end Text

inductive UnicodeForm where
  | utf8
  | utf16 (order : ByteOrder)
deriving DecidableEq, Repr

namespace UnicodeForm

def encoding : UnicodeForm → Encoding
  | utf8 => .utf8
  | utf16 order => .utf16 order

def encode : UnicodeForm → List Char → Bytes
  | utf8, cs => Utf8.encode cs
  | utf16 order, cs => Utf16.encode order cs

def mark : UnicodeForm → Bytes
  | utf8 => [0xEF, 0xBB, 0xBF]
  | utf16 .little => [0xFF, 0xFE]
  | utf16 .big => [0xFE, 0xFF]

/-- The label names the form: it is one of its labels in the table, in any letter case and with
white space around it. -/
def Names (form : UnicodeForm) (label : Bytes) : Prop :=
  ∃ left word right : List Char,
    (∀ c ∈ left, Text.isSpace c = true) ∧ (∀ c ∈ right, Text.isSpace c = true) ∧
      (∃ labels name, (form.encoding, labels) ∈ Encoding.labels ∧ name ∈ labels ∧
        Text.lower word = name.toList) ∧
      label = Utf8.encode (left ++ word ++ right)

/-- Each form reads what it writes. -/
theorem decode_encode (form : UnicodeForm) (cs : List Char) :
    form.encoding.decode (form.encode cs) = cs := by
  cases form with
  | utf8 => exact Utf8.decodeMaximal_encode cs
  | utf16 order => exact Utf16.decode_encode order cs

/-- The mark of a form is what it writes for the mark character. -/
theorem mark_append_encode (form : UnicodeForm) (cs : List Char) :
    form.mark ++ form.encode cs = form.encode ('\uFEFF' :: cs) := by
  have hmark : form.mark = form.encode ['\uFEFF'] := by
    match form with
    | utf8 => decide
    | utf16 .little => decide
    | utf16 .big => decide
  rw [hmark]
  cases form with
  | utf8 => simp [encode, Utf8.encode]
  | utf16 order => simp [encode, Utf16.encode]

/-- The labels of a form in the table lead back to it, and hold neither a slash nor white space. -/
theorem table_labels (form : UnicodeForm) : ∀ entry ∈ Encoding.labels, entry.1 = form.encoding →
    ∀ name ∈ entry.2, Encoding.ofName? name.toList = some form.encoding ∧ name.toList ≠ [] ∧
      ∀ c ∈ name.toList, c ≠ '/' ∧ Text.isSpace c = false := by
  -- The test on characters is kept a Boolean one, so that only the label is run through.
  have htable : ∀ entry ∈ Encoding.labels, entry.1 = form.encoding →
      ∀ name ∈ entry.2, Encoding.ofName? name.toList = some form.encoding ∧ name.toList ≠ [] ∧
        (name.toList.all fun c => c != '/' && !Text.isSpace c) = true := by
    match form with
    | utf8 => decide +kernel
    | utf16 .little => decide +kernel
    | utf16 .big => decide +kernel
  intro entry hentry hform name hname
  obtain ⟨hlookup, hne, hall⟩ := htable entry hentry hform name hname
  refine ⟨hlookup, hne, ?_⟩
  intro c hc
  simpa using List.all_eq_true.mp hall c hc

section Names

variable {form : UnicodeForm} {label : Bytes}

theorem Names.isLabel (h : form.Names label) : Load.isLabel label = true := by
  obtain ⟨left, word, right, hleft, hright, ⟨labels, name, hrow, hname, hlower⟩, rfl⟩ := h
  obtain ⟨-, hne, hchars⟩ := table_labels form _ hrow rfl name hname
  have hword : word ≠ [] := by
    rintro rfl
    exact hne hlower.symm
  have hfull : Utf8.encode (left ++ word ++ right) ≠ [] :=
    Utf8.encode_ne_nil (by simp [hword])
  have hslash : (0x2F : UInt8) ∉ Utf8.encode (left ++ word ++ right) := by
    intro h
    have hmem : '/' ∈ left ++ word ++ right := Utf8.mem_of_mem_encode (by decide) h
    have hnospace : Text.isSpace '/' = false := by decide
    rw [List.mem_append, List.mem_append] at hmem
    rcases hmem with (hmem | hmem) | hmem
    · exact absurd (hleft _ hmem) (by rw [hnospace]; exact Bool.false_ne_true)
    · -- A slash is its own small letter, so the label in the table would hold it.
      have hlow : Text.lowerChar '/' = '/' := by decide +kernel
      have hin : '/' ∈ name.toList := by
        rw [← hlower, Text.lower, ← hlow]
        exact List.mem_map_of_mem hmem
      exact (hchars _ hin).1 rfl
    · exact absurd (hright _ hmem) (by rw [hnospace]; exact Bool.false_ne_true)
  rw [Load.isLabel, Bool.and_eq_true, Bool.not_eq_true', Bool.not_eq_true']
  exact ⟨List.isEmpty_eq_false_iff.mpr hfull, by simpa using hslash⟩

end Names

end UnicodeForm

end TextWalk
