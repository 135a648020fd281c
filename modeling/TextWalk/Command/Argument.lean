import TextWalk.Command.Flag

namespace TextWalk.Command

def dash : UInt8 := 0x2D

def endOfFlags : Bytes := [dash, dash]

def flagOfName? (known : List Flag) (name : Bytes) : Option Flag :=
  known.find? fun f => Bytes.ascii f.name == name

def flagOfLetter? (known : List Flag) (letter : UInt8) : Option Flag :=
  known.find? fun f => f.letter? == some (Char.ofNat letter.toNat)

def setFlag (s : Settings) (f : Flag) (value : Bytes) : Except FlagError Settings :=
  match s.set f value with
  | .ok s => .ok s
  | .error fault => .error (.badValue f value fault)

def readGroup (known : List Flag) (s : Settings) : Bytes → Except FlagError Settings
  | [] => .ok s
  | letter :: rest =>
    -- A group that starts like this is meant for a test run and is passed over.
    if (Bytes.ascii "test.").isPrefixOf (letter :: rest) then .ok s
    else
      match flagOfLetter? known letter with
      | none => .error (.unknownLetter letter (letter :: rest))
      | some f =>
        match rest with
        -- A value after an equals sign ends the group.
        | 0x3D :: v :: value => setFlag s f (v :: value)
        | _ =>
          match setFlag s f (f.implied?.getD []) with
          | .ok s => readGroup known s rest
          | .error e => .error e

inductive LongFlag where
  /-- The flag with its value. -/
  | complete (flag : Flag) (value : Bytes)
  /-- The flag takes the next argument. -/
  | needsNext (flag : Flag)
deriving DecidableEq, Repr

def readLong (known : List Flag) (argument : Bytes) : Except FlagError LongFlag :=
  match argument.drop 2 with
  | [] => .error (.badSyntax argument)
  | b :: rest =>
    if b = dash ∨ b = 0x3D then .error (.badSyntax argument)
    else
      let body := b :: rest
      let (name, value?) :=
        match Bytes.cut? 0x3D body with
        | some (name, value) => (name, some value)
        | none => (body, none)
      match flagOfName? known name with
      | none => .error (.unknownName name)
      | some f =>
        -- A value after an equals sign goes before the implied one, also when it is empty.
        match value?.or f.implied? with
        | some value => .ok (.complete f value)
        | none => .ok (.needsNext f)

def isPositional : Bytes → Bool
  | b :: _ :: _ => b != dash
  -- A dash alone is positional too.
  | _ => true

def readArguments (known : List Flag) (s : Settings) :
    List Bytes → Except FlagError (Settings × List Bytes)
  | [] => .ok (s, [])
  | a :: rest =>
    if isPositional a then
      match readArguments known s rest with
      | .ok (s, ps) => .ok (s, a :: ps)
      | .error e => .error e
    -- Two dashes end the flags.
    else if a = endOfFlags then .ok (s, rest)
    else if endOfFlags.isPrefixOf a then
      match readLong known a with
      | .error e => .error e
      | .ok (.complete f value) =>
        match setFlag s f value with
        | .ok s => readArguments known s rest
        | .error e => .error e
      | .ok (.needsNext f) =>
        match rest with
        | [] => .error (.missingValue a)
        | value :: rest =>
          match setFlag s f value with
          | .ok s => readArguments known s rest
          | .error e => .error e
    else
      match readGroup known s (a.drop 1) with
      | .ok s => readArguments known s rest
      | .error e => .error e

end TextWalk.Command
