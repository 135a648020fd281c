import TextWalk.Text.Quoted

namespace TextWalk

inductive CharacterError where
  | notSingle (argument : Bytes)
deriving DecidableEq, Repr

def CharacterError.message : CharacterError → String
  | notSingle argument => "expected a single character, got " ++ Text.quoted argument

namespace Character

def single? : Bytes → Option Char
  | [] => none
  | b :: rest =>
    match Utf8.step b rest with
    | (some c, []) => some c
    | _ => none

def ofNat? (n : Nat) : Option Char := if n.isValidChar then some (Char.ofNat n) else none

def digitsAfter? (base n : Nat) : Bytes → Option Nat
  | [] => some n
  | b :: bs =>
    match Bytes.hexDigit? b with
    | some d => if d < base then digitsAfter? base (n * base + d) bs else none
    | none => none

def digits? (base : Nat) (bs : Bytes) : Option Nat := digitsAfter? base 0 bs

def letterEscape? (b : UInt8) : Option Char :=
  match b.toNat with
  | 0x61 => some '\x07'
  | 0x62 => some '\x08'
  | 0x66 => some '\x0C'
  | 0x6E => some '\n'
  | 0x72 => some '\r'
  | 0x74 => some '\t'
  | 0x76 => some '\x0B'
  | 0x5C => some '\\'
  | 0x27 => some '\''
  | _ => none

/-- The character of an escape, after its backslash: a letter, three octal digits up to the last
byte, or an x, u or U with two, four or eight hexadecimal digits. -/
def escape? : Bytes → Option Char
  | [] => none
  | [b] => letterEscape? b
  | b :: rest =>
    if b = 0x78 ∧ rest.length = 2 then (digits? 16 rest).bind ofNat?
    else if b = 0x75 ∧ rest.length = 4 then (digits? 16 rest).bind ofNat?
    else if b = 0x55 ∧ rest.length = 8 then (digits? 16 rest).bind ofNat?
    else if rest.length = 2 then
      (digits? 8 (b :: rest)).bind fun n => if n ≤ 255 then ofNat? n else none
    else none

def parse (argument : Bytes) : Except CharacterError Char :=
  -- A backslash alone is a character, so only what is longer can be an escape.
  match single? argument with
  | some c => .ok c
  | none =>
    match argument with
    | 0x5C :: rest =>
      match escape? rest with
      | some c => .ok c
      | none => .error (.notSingle argument)
    | _ => .error (.notSingle argument)

end Character

end TextWalk
