import TextWalk.Buffer.Basic
import TextWalk.Encoding.Utf8
import TextWalk.Normal.Segment

/-!
The composed normal form of bytes: each segment is decomposed, ordered and composed again. Bad
bytes separate what is around them. A sequence that the end cuts off, and what follows it, is not
touched.
-/
namespace TextWalk.Normal

def announced (b : UInt8) : Nat :=
  let n := b.toNat
  if n < 0xC2 then 1
  else if n < 0xE0 then 2
  else if n < 0xF0 then 3
  -- Lead bytes past the last plane ask for four bytes as well.
  else if n < 0xF8 then 4
  else 1

def splitCut : Bytes → Bytes × Bytes
  | [] => ([], [])
  | b :: rest =>
    -- The lead byte alone tells what is missing, whatever follows it.
    if (rest.take 3).length + 1 < announced b then ([], b :: rest)
    else
      let (whole, cut) := splitCut rest
      (b :: whole, cut)

def normalizeCodes (cs : List Nat) : List Nat :=
  (segments cs).flatMap fun segment => compose (order (decompose segment))

def normalize (bs : Bytes) : List Char :=
  let (whole, cut) := splitCut bs
  (normalizeCodes ((Utf8.decode whole).map Char.toNat)).map Char.ofNat ++ Utf8.decode cut

end TextWalk.Normal

namespace TextWalk

def Buffer.ofNormalized (bs : Bytes) : Buffer := .ofChars (Normal.normalize bs)

end TextWalk
