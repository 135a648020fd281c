import TextWalk.Bytes
import TextWalk.Text.Quoted

namespace TextWalk.Command

inductive Flag where
  | contentType
  | normalize
  | verbose
  | help
  | separators
  | raw
deriving DecidableEq, Repr

namespace Flag

def name : Flag → String
  | contentType => "content-type"
  | normalize => "normalize"
  | verbose => "verbose"
  | help => "help"
  | separators => "separators"
  | raw => "raw"

def letter? : Flag → Option Char
  | verbose => some 'v'
  | help => some 'h'
  | _ => none

def implied? : Flag → Option Bytes
  | normalize => some (Bytes.ascii "true")
  | help => some (Bytes.ascii "true")
  | raw => some (Bytes.ascii "true")
  | verbose => some (Bytes.ascii "+1")
  -- A flag that means nothing by itself takes the next argument.
  | contentType => none
  | separators => none

def label (f : Flag) : String :=
  match f.letter? with
  | some c => "-" ++ String.ofList [c] ++ ", --" ++ f.name
  | none => "--" ++ f.name

end Flag

structure Settings where
  contentType : Bytes := []
  normalize : Bool := false
  verbosity : Int := 0
  help : Bool := false
  separators : Bytes := []
  raw : Bool := false
deriving DecidableEq, Repr

inductive ValueFault where
  | notBoolean
  | notNumber
  | numberTooLarge
deriving DecidableEq, Repr

def ValueFault.message (value : Bytes) : ValueFault → String
  | notBoolean => "strconv.ParseBool: parsing " ++ Text.quoted value ++ ": invalid syntax"
  | notNumber => "strconv.ParseInt: parsing " ++ Text.quoted value ++ ": invalid syntax"
  | numberTooLarge => "strconv.ParseInt: parsing " ++ Text.quoted value ++ ": value out of range"

def boolean? (value : Bytes) : Option Bool :=
  if ["1", "t", "T", "TRUE", "true", "True"].any (Bytes.ascii · == value) then some true
  else if ["0", "f", "F", "FALSE", "false", "False"].any (Bytes.ascii · == value) then some false
  else none

def digitValue? (b : UInt8) : Option Nat :=
  if Bytes.isDigit b then some (b.toNat - 0x30)
  else if Bytes.isLetter b then some ((Bytes.lowerByte b).toNat - 0x61 + 10)
  else none

def wordLimit : Nat := 0x10000000000000000

def signLimit : Nat := 0x8000000000000000

/-- Reads digits after a number; underscores count for nothing. The number has to fit 64 bits, and
the first fault wins. -/
def readDigits (base n : Nat) : Bytes → Except ValueFault Nat
  | [] => .ok n
  | b :: rest =>
    if b = 0x5F then readDigits base n rest
    else
      match digitValue? b with
      | none => .error .notNumber
      | some d =>
        if base ≤ d then .error .notNumber
        else if wordLimit ≤ n * base + d then .error .numberTooLarge
        else readDigits base (n * base + d) rest

def basePrefix : Bytes → Nat × Bytes
  | 0x30 :: b :: d :: rest =>
    -- The letters b, o and x after the zero choose the base; without one the zero means octal.
    let letter := Bytes.lowerByte b
    if letter = 0x62 then (2, d :: rest)
    else if letter = 0x6F then (8, d :: rest)
    else if letter = 0x78 then (16, d :: rest)
    else (8, b :: d :: rest)
  | 0x30 :: rest => (8, rest)
  | bs => (10, bs)

def underscoresSeparate (afterDigit : Bool) : Bytes → Bool
  | [] => true
  | b :: rest =>
    -- An underscore stands between digits, or between the letter of the base and a digit.
    if b = 0x5F then afterDigit && !rest.isEmpty && underscoresSeparate false rest
    else underscoresSeparate true rest

def magnitude (bs : Bytes) : Except ValueFault Nat :=
  if bs.isEmpty then .error .notNumber
  else
    let (base, digits) := basePrefix bs
    match readDigits base 0 digits with
    | .error e => .error e
    | .ok n =>
      -- What chooses the base counts as a digit before the first underscore.
      if underscoresSeparate (base != 10) digits then .ok n else .error .notNumber

def integer (value : Bytes) : Except ValueFault Int :=
  let (negative, body) :=
    match value with
    | 0x2D :: rest => (true, rest)
    | 0x2B :: rest => (false, rest)
    | rest => (false, rest)
  match magnitude body with
  | .error e => .error e
  | .ok n =>
    if negative then
      if signLimit < n then .error .numberTooLarge else .ok (-Int.ofNat n)
    else if signLimit ≤ n then .error .numberTooLarge
    else .ok (Int.ofNat n)

def Settings.setTruth (value : Bytes) (update : Bool → Settings) : Except ValueFault Settings :=
  match boolean? value with
  | some v => .ok (update v)
  | none => .error .notBoolean

/-- The settings with a flag set to a value. The verbosity goes up by one for the value that the
flag means alone. -/
def Settings.set (s : Settings) (f : Flag) (value : Bytes) : Except ValueFault Settings :=
  match f with
  | .contentType => .ok { s with contentType := value }
  | .separators => .ok { s with separators := value }
  | .normalize => setTruth value fun v => { s with normalize := v }
  | .help => setTruth value fun v => { s with help := v }
  | .raw => setTruth value fun v => { s with raw := v }
  | .verbose =>
    if some value = Flag.verbose.implied? then .ok { s with verbosity := s.verbosity + 1 }
    else (integer value).map fun n => { s with verbosity := n }

inductive FlagError where
  | badSyntax (argument : Bytes)
  | unknownName (name : Bytes)
  | unknownLetter (letter : UInt8) (group : Bytes)
  | missingValue (argument : Bytes)
  | badValue (flag : Flag) (value : Bytes) (fault : ValueFault)
deriving DecidableEq, Repr

def shown (bs : Bytes) : String := String.ofList (Utf8.decode bs)

def FlagError.message : FlagError → String
  | badSyntax argument => "bad flag syntax: " ++ shown argument
  | unknownName name => "unknown flag: --" ++ shown name
  | unknownLetter letter group =>
    "unknown shorthand flag: " ++ Text.quotedChar (Char.ofNat letter.toNat) ++ " in -" ++
      shown group
  | missingValue argument => "flag needs an argument: " ++ shown argument
  | badValue flag value fault =>
    "invalid argument " ++ Text.quoted value ++ " for \"" ++ flag.label ++ "\" flag: " ++
      fault.message value

end TextWalk.Command
