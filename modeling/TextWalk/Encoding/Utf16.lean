import TextWalk.Bytes
import TextWalk.Code

namespace TextWalk

inductive ByteOrder where
  | little
  | big
deriving DecidableEq, Repr

namespace Utf16

def unit : ByteOrder → UInt8 → UInt8 → Nat
  | .little, first, second => second.toNat * 256 + first.toNat
  | .big, first, second => first.toNat * 256 + second.toNat

def unitBytes : ByteOrder → Nat → Bytes
  | .little, n => [UInt8.ofNat (n % 256), UInt8.ofNat (n / 256)]
  | .big, n => [UInt8.ofNat (n / 256), UInt8.ofNat (n % 256)]

def isHigh (u : Nat) : Bool := 0xD800 ≤ u && u < 0xDC00

def isLow (u : Nat) : Bool := 0xDC00 ≤ u && u < 0xE000

def single (u : Nat) : Char :=
  if isHigh u || isLow u then Code.replacement else Char.ofNat u

def pair (high low : Nat) : Char :=
  if isHigh high then Char.ofNat (0x10000 + (high - 0xD800) * 1024 + (low - 0xDC00))
  else Code.replacement

/-- Reads text in a byte order. Any surrogate takes a second half after it along. -/
def decode (order : ByteOrder) : Bytes → List Char
  | [] => []
  | [_] => [Code.replacement]
  | b₁ :: b₂ :: b₃ :: b₄ :: rest =>
    let u := unit order b₁ b₂
    let v := unit order b₃ b₄
    if (isHigh u || isLow u) && isLow v then pair u v :: decode order rest
    else single u :: decode order (b₃ :: b₄ :: rest)
  | b₁ :: b₂ :: rest => single (unit order b₁ b₂) :: decode order rest

def encodeChar (order : ByteOrder) (c : Char) : Bytes :=
  let n := c.toNat
  if n < 0x10000 then unitBytes order n
  else
    unitBytes order (0xD800 + (n - 0x10000) / 1024) ++
      unitBytes order (0xDC00 + (n - 0x10000) % 1024)

def encode (order : ByteOrder) (cs : List Char) : Bytes := cs.flatMap (encodeChar order)

end Utf16

end TextWalk
