import TextWalk.Text.Quoted

namespace TextWalk.Log

inductive Level where
  | warning
  | info
  | debug
deriving DecidableEq, Repr

namespace Level

def text : Level → String
  | warning => "warning"
  | info => "info"
  | debug => "debug"

def rank : Level → Nat
  | warning => 0
  | info => 1
  | debug => 2

/-- The least level that is written at a verbosity: warnings at zero, everything at any number but
zero and one. -/
def ofVerbosity (n : Int) : Level :=
  if n = 0 then warning else if n = 1 then info else debug

end Level

structure Record where
  level : Level
  message : String
  fields : List (String × Bytes)
deriving DecidableEq, Repr

def isBare (b : UInt8) : Bool :=
  Bytes.isLetter b || Bytes.isDigit b || (Bytes.ascii "-._/@^+").contains b

def value (bs : Bytes) : String :=
  if bs.all isBare then String.ofList (Utf8.decode bs) else Text.quoted bs

def Record.line (r : Record) : String :=
  "level=" ++ r.level.text ++ " msg=" ++ value (Bytes.ascii r.message) ++
    String.join (r.fields.map fun f => " " ++ f.1 ++ "=" ++ value f.2) ++ "\n"

def render (verbosity : Int) (records : List Record) : String :=
  String.join ((records.filter fun r =>
    r.level.rank ≤ (Level.ofVerbosity verbosity).rank).map Record.line)

end TextWalk.Log
