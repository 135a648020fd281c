import TextWalk.Command.Argument

/-!
Commands, and how the command is found among the arguments: it is the first argument that is
neither a flag nor the value of one. At this point only the flags common to all commands are known,
and any other flag is taken to need a value.
-/
namespace TextWalk.Command

/-- The commands; `root` stands for the program without a command. Below `completion` there are more,
one for each shell, and a hidden one answers a shell that completes a line; these are left out, and
`completion` stands for its page whatever follows it. -/
inductive Name where
  | root
  | find
  | fields
  | quoted
  | help
  | completion
deriving DecidableEq, Repr

namespace Name

def text : Name → String
  | root => "scanbuf"
  | find => "find"
  | fields => "fields"
  | quoted => "quoted"
  | help => "help"
  | completion => "completion"

def typed : List Name := [find, fields, quoted, help, completion]

def ofArgument? (a : Bytes) : Option Name := typed.find? fun n => Bytes.ascii n.text == a

def globalFlags : List Flag := [.contentType, .normalize, .verbose]

def flags : Name → List Flag
  | fields => globalFlags ++ [.help, .separators]
  | quoted => globalFlags ++ [.help, .raw]
  | _ => globalFlags ++ [.help]

end Name

/-- While the command is looked for, the argument takes the next one along. -/
def takesNext (a : Bytes) : Bool :=
  !a.contains 0x3D &&
    if endOfFlags.isPrefixOf a then
      !(Name.globalFlags.any fun f => f.implied?.isSome && Bytes.ascii f.name == a.drop 2)
    else
      match a with
      | [b, letter] =>
        b == dash &&
          !(Name.globalFlags.any fun f =>
            f.implied?.isSome && f.letter? == some (Char.ofNat letter.toNat))
      | _ => false

def isCandidate : Bytes → Bool
  | [] => false
  | b :: _ => b != dash

def candidate? : List Bytes → Option Bytes
  | [] => none
  | a :: rest =>
    if a = endOfFlags then none
    else if takesNext a then
      match rest with
      -- A flag that takes the last argument along ends the search.
      | _ :: b :: more => candidate? (b :: more)
      | _ => none
    else if isCandidate a then some a
    else candidate? rest

def withoutCommand (command : Bytes) : List Bytes → List Bytes
  | [] => []
  | a :: rest =>
    if a = endOfFlags then a :: rest
    else if takesNext a then
      match rest with
      | value :: more => a :: value :: withoutCommand command more
      | [] => [a]
    -- Of equal arguments the first one is the command.
    else if a = command ∧ isCandidate a then rest
    else a :: withoutCommand command rest

def resolve (args : List Bytes) : Except Bytes (Name × List Bytes) :=
  match candidate? args with
  | none => .ok (.root, args)
  | some typed =>
    match Name.ofArgument? typed with
    | some name => .ok (name, withoutCommand typed args)
    | none => .error typed

end TextWalk.Command
