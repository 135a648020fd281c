import TextWalk.Encoding.Basic
import TextWalk.Markup.Document
import TextWalk.Markup.Reference

namespace TextWalk.Markup

def charsetName : Bytes → Bytes
  | [] => []
  | b :: rest =>
    match _h : Bytes.dropPrefix? (Bytes.ascii "charset") (b :: rest) with
    | none => charsetName rest
    | some after =>
      match _hs : after.dropWhile isSpace with
      | [] => []
      | c :: value =>
        -- Without an equals sign it was only a word, and another one may follow.
        if c ≠ 0x3D then charsetName (c :: value)
        else
          match value.dropWhile isSpace with
          | [] => []
          | q :: body =>
            if q = 0x22 ∨ q = 0x27 then
              match Bytes.cut? q body with
              -- A quote that is not closed names nothing.
              | some (name, _) => name
              | none => []
            else (q :: body).takeWhile fun d => !(isSpace d || d == 0x3B)
termination_by bs => bs.length
decreasing_by
  · simp
  · have h₁ := Bytes.length_of_dropPrefix? _h
    have h₂ := Bytes.length_dropWhile_le isSpace after
    have h₃ : (Bytes.ascii "charset").length = 7 := by decide
    simp only [_hs, List.length_cons] at *
    omega

structure Declaration where
  /-- The tag stands for a content-type header. -/
  pragma : Bool := false
  encoding : Option Encoding := none
  /-- Whether the encoding counts only beside the header; unset while nothing was named. -/
  needsPragma : Option Bool := none
deriving DecidableEq, Repr

def Declaration.visit (d : Declaration) (a : Attribute) : Declaration :=
  let value := Bytes.lower (unescape a.value)
  if a.name = Bytes.ascii "http-equiv" then
    if value = Bytes.ascii "content-type" then { d with pragma := true } else d
  -- The first header value that names an encoding stays.
  else if a.name = Bytes.ascii "content" ∧ d.encoding = none then
    match charsetName value with
    | [] => d
    | name =>
      match Encoding.ofLabel? name with
      | some e => { d with encoding := some e, needsPragma := some true }
      | none => d
  -- A charset attribute replaces what was named before, also by nothing.
  else if a.name = Bytes.ascii "charset" then
    { d with encoding := Encoding.ofLabel? value, needsPragma := some false }
  else d

/-- The encoding a finished declaration stands for. A document that could be read so far is not in
UTF-16, whatever it says. -/
def Declaration.result? (d : Declaration) : Option Encoding :=
  match d.needsPragma with
  | none => none
  | some needed =>
    if needed && !d.pragma then none
    else
      d.encoding.map fun e =>
        match e with
        | .utf16 _ => .asIs
        | e => e

def Tag.encoding? (t : Tag) : Option Encoding :=
  if t.name = Bytes.ascii "meta" then
    -- Only the first attribute of each name counts.
    ((t.attributes.eraseDupsBy fun a b => a.name == b.name).foldl
      Declaration.visit {}).result?
  else none

def declaredEncoding? (bs : Bytes) : Option Encoding :=
  (startTags bs).findSome? Tag.encoding?

end TextWalk.Markup
