import TextWalk.Buffer.Basic
import TextWalk.Markup.Declaration
import TextWalk.MediaType

/-!
Loading: from bytes and a content type to a buffer. A charset label decides alone. Otherwise a byte
order mark decides, then the charset parameter of a media type, then whether all of the data is
UTF-8. Only then is the encoding guessed, from the document itself for `text/html` and as the
Western code page for anything else.
-/
namespace TextWalk

inductive LoadError where
  /-- The source failed before its end. -/
  | reading (cause : String)
deriving DecidableEq, Repr

def LoadError.message : LoadError → String
  | reading cause => "scanbuf: reading content: " ++ cause

namespace Load

def window : Nat := 1024

def marks : List (Bytes × Encoding) :=
  [([0xFE, 0xFF], .utf16 .big), ([0xFF, 0xFE], .utf16 .little), ([0xEF, 0xBB, 0xBF], .utf8)]

def markEncoding? (data : Bytes) : Option Encoding :=
  (marks.find? fun m => m.1.isPrefixOf data).map (·.2)

def charsetEncoding? (contentType : Bytes) : Option Encoding :=
  ((MediaType.parse? contentType).bind (·.parameter? (Bytes.ascii "charset"))).bind
    Encoding.ofLabel?

/-- Walks back over at most the given number of bytes, the last byte first, and gives what stands
before the first byte that is no continuation byte; nothing if an ASCII byte comes first. -/
def beforeLead? : Nat → Bytes → Option Bytes
  | n + 1, b :: rest =>
    if b.toNat < 0x80 then none
    else if b.toNat < 0xC0 then beforeLead? n rest
    else some rest
  | _, _ => none

def dropPartial (data : Bytes) : Bytes :=
  match beforeLead? 3 data.reverse with
  | some rest => rest.reverse
  | none => data

def guess (front : Bytes) : Encoding :=
  match Markup.declaredEncoding? front with
  | some e => e
  | none =>
    -- The front may end in the middle of a sequence, and ASCII alone is no sign of UTF-8.
    let whole := dropPartial front
    if whole.any (0x80 ≤ ·.toNat) && Utf8.isValid whole then .asIs
    else .codePage .windows1252

def isHtml (contentType : Bytes) : Bool :=
  (MediaType.parse? contentType).any (·.name == "text/html".toList)

def sniff (data contentType : Bytes) : Encoding :=
  match (markEncoding? data).or (charsetEncoding? contentType) with
  | some e => e
  | none =>
    if Utf8.isValid data then .asIs
    else if isHtml contentType then guess (data.take window)
    else .codePage .windows1252

def isLabel (contentType : Bytes) : Bool :=
  !contentType.isEmpty && !contentType.contains 0x2F

def encodingOf (data contentType : Bytes) : Encoding :=
  -- A label that is not known says nothing.
  if isLabel contentType then (Encoding.ofLabel? contentType).getD (sniff data [])
  else sniff data contentType

def dropMark : List Char → List Char
  | c :: cs => if c = '\uFEFF' then cs else c :: cs
  | [] => []

def text (data contentType : Bytes) : List Char :=
  dropMark ((encodingOf data contentType).decode data)

end Load

def Buffer.ofData (data contentType : Bytes) : Buffer :=
  .ofChars (Load.text data contentType)

def Buffer.load (source : Except String Bytes) (contentType : Bytes) : Except LoadError Buffer :=
  match source with
  | .ok data => .ok (.ofData data contentType)
  | .error cause => .error (.reading cause)

end TextWalk
