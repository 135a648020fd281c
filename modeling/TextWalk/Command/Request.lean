import TextWalk.Character
import TextWalk.Command.Suggestion
import TextWalk.Command.Task

namespace TextWalk.Command

inductive Source where
  | standardInput
  | file (name : Bytes)
deriving DecidableEq, Repr

def Source.name : Source → Bytes
  | standardInput => Bytes.ascii "stdin"
  | file name => name

structure Job where
  task : Task
  source : Source
  settings : Settings
deriving DecidableEq, Repr

inductive Arity where
  | between (least most : Nat)
  | atMost (most : Nat)
deriving DecidableEq, Repr

def Arity.accepts (n : Nat) : Arity → Bool
  | between least most => least ≤ n && n ≤ most
  | atMost most => n ≤ most

inductive RequestError where
  | unknownCommand (typed : Bytes)
  | flag (error : FlagError)
  | argumentCount (arity : Arity) (received : Nat)
  | character (error : CharacterError)
deriving DecidableEq, Repr

inductive Request where
  | page (name : Name)
  | unknownTopic (topic : List Bytes)
  | job (job : Job)
deriving DecidableEq, Repr

def helpRequest (topic : List Bytes) : Request :=
  match resolve topic with
  | .ok (name, _) => .page name
  | .error _ => .unknownTopic topic

def sourceOf : List Bytes → Source
  | [] => .standardInput
  | name :: _ => .file name

def characterRequest (s : Settings) (args : List Bytes) (task : Char → Task) :
    Except RequestError Request :=
  match args with
  | [] => .error (.argumentCount (.between 1 2) 0)
  | first :: rest =>
    -- Arguments are counted before the character is read.
    if 1 < rest.length then .error (.argumentCount (.between 1 2) args.length)
    else
      match Character.parse first with
      | .error e => .error (.character e)
      | .ok c => .ok (.job { task := task c, source := sourceOf rest, settings := s })

def requestOf (s : Settings) (args : List Bytes) : Name → Except RequestError Request
  | .root => .ok (.page .root)
  | .completion => .ok (.page .completion)
  | .help => .ok (helpRequest args)
  | .find => characterRequest s args .find
  | .quoted => characterRequest s args fun c => .quoted c s.raw
  | .fields =>
    if 1 < args.length then .error (.argumentCount (.atMost 1) args.length)
    else
      .ok (.job
        { task := .fields (Utf8.decode s.separators), source := sourceOf args, settings := s })

/-- Reads an argument list. Flags come first, then the request for help, then the arguments. -/
def request (args : List Bytes) : Except RequestError Request :=
  match resolve args with
  | .error typed => .error (.unknownCommand typed)
  | .ok (name, rest) =>
    match readArguments name.flags {} rest with
    | .error e => .error (.flag e)
    | .ok (s, positional) => if s.help then .ok (.page name) else requestOf s positional name

def suggestionText (typed : Bytes) : String :=
  match suggestions typed with
  | [] => ""
  | names =>
    "\n\nDid you mean this?\n" ++ String.join (names.map fun n => "\t" ++ n.text ++ "\n")

def RequestError.message : RequestError → String
  | unknownCommand typed =>
    "unknown command " ++ Text.quoted typed ++ " for \"scanbuf\"" ++ suggestionText typed
  | flag error => error.message
  | argumentCount (.between least most) received =>
    "accepts between " ++ toString least ++ " and " ++ toString most ++ " arg(s), received " ++
      toString received
  | argumentCount (.atMost most) received =>
    "accepts at most " ++ toString most ++ " arg(s), received " ++ toString received
  | character error => error.message

def RequestError.hint : RequestError → String
  | unknownCommand _ => "Run 'scanbuf --help' for usage.\n"
  | _ => ""

end TextWalk.Command
