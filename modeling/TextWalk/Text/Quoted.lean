import TextWalk.Encoding.Utf8
import TextWalk.Text.Printable

namespace TextWalk.Text

def hexDigit (n : Nat) : Char := if n < 10 then Char.ofNat (0x30 + n) else Char.ofNat (0x57 + n)

def hexDigits : Nat → Nat → List Char
  | 0, _ => []
  | count + 1, n => hexDigits count (n / 16) ++ [hexDigit (n % 16)]

def controlLetter? : Nat → Option Char
  | 0x07 => some 'a'
  | 0x08 => some 'b'
  | 0x09 => some 't'
  | 0x0A => some 'n'
  | 0x0B => some 'v'
  | 0x0C => some 'f'
  | 0x0D => some 'r'
  | _ => none

def escapeByte (n : Nat) : List Char := '\\' :: 'x' :: hexDigits 2 n

def quoteChar (quote c : Char) : List Char :=
  let n := c.toNat
  if c = quote ∨ c = '\\' then ['\\', c]
  else if isPrintable c then [c]
  else
    match controlLetter? n with
    | some letter => ['\\', letter]
    | none =>
      if n < 0x20 ∨ n = 0x7F then escapeByte n
      else if n < 0x10000 then '\\' :: 'u' :: hexDigits 4 n
      else '\\' :: 'U' :: hexDigits 8 n

def quoteBytes : Bytes → List Char
  | [] => []
  | b :: rest =>
    match _h : Utf8.step b rest with
    | (some c, after) => quoteChar '"' c ++ quoteBytes after
    -- A byte of no valid sequence is written by its value.
    | (none, _) => escapeByte b.toNat ++ quoteBytes rest
termination_by bs => bs.length
decreasing_by
  · have := Utf8.length_step_le b rest
    simp only [_h, List.length_cons] at *
    omega
  · simp

def quoted (bs : Bytes) : String := String.ofList ('"' :: quoteBytes bs ++ ['"'])

def quotedChar (c : Char) : String := String.ofList ('\'' :: quoteChar '\'' c ++ ['\''])

def isRaw (c : Char) : Bool :=
  let n := c.toNat
  (0x20 ≤ n || n == 0x09) && n != 0x60 && n != 0x7F && n != 0xFEFF

/-- Bytes between back quotes where these can hold them, else in double quotes. -/
def backQuoted (bs : Bytes) : String :=
  if Utf8.isValid bs && (Utf8.decode bs).all isRaw then
    String.ofList ('\x60' :: Utf8.decode bs ++ ['\x60'])
  else quoted bs

end TextWalk.Text
