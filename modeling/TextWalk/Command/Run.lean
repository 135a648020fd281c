import TextWalk.Command.Help
import TextWalk.Command.Request
import TextWalk.FileTree
import TextWalk.Load
import TextWalk.Normal.Basic

namespace TextWalk.Command

structure Outcome where
  failed : Bool
  stdout : String
  stderr : String
deriving DecidableEq, Repr

inductive SourceFault where
  | cannotOpen (fault : OpenFault)
  | isDirectory
deriving DecidableEq, Repr

inductive JobError where
  | cannotOpen (name : Bytes) (fault : OpenFault)
  | cannotLoad (source : Source) (error : LoadError)
deriving DecidableEq, Repr

def JobError.message : JobError → String
  | cannotOpen name fault => "open " ++ shown name ++ ": " ++ fault.message
  | cannotLoad source error =>
    "could not load " ++ shown source.name ++ ": " ++ error.message

def Source.reading (source : Source) :
    Except SourceFault Bytes → Except JobError (Except String Bytes)
  | .ok data => .ok (.ok data)
  | .error (.cannotOpen fault) => .error (.cannotOpen source.name fault)
  -- A directory can be opened, and only reading it fails.
  | .error .isDirectory => .ok (.error ("read " ++ shown source.name ++ ": is a directory"))

def textBytes (b : Buffer) : Bytes := Utf8.encode (b.content.toList.map Code.toChar)

def Job.buffer (j : Job) (held : Except SourceFault Bytes) : Except JobError Buffer :=
  match j.source.reading held with
  | .error e => .error e
  | .ok reading =>
    match Buffer.load reading j.settings.contentType with
    | .error e => .error (.cannotLoad j.source e)
    -- What was loaded is normalized, and not the bytes of the source.
    | .ok b => .ok (if j.settings.normalize then .ofNormalized (textBytes b) else b)

def Job.loaded (j : Job) (b : Buffer) : Log.Record :=
  { level := .debug
    message := "loaded"
    fields :=
      [("normalize", Bytes.ascii (if j.settings.normalize then "true" else "false")),
       ("runes", countValue b.size),
       ("source", j.source.name)] }

def failure (message hint : String) : Outcome :=
  { failed := true, stdout := "", stderr := "Error: " ++ message ++ "\n" ++ hint }

def printed (page : String) : Outcome := { failed := false, stdout := page, stderr := "" }

def Job.run (j : Job) (held : Except SourceFault Bytes) : Outcome :=
  match j.buffer held with
  | .error e => failure e.message ""
  | .ok b =>
    let report := j.task.report b
    { failed := false
      stdout := report.output
      stderr := Log.render j.settings.verbosity (j.loaded b :: report.records) }

def unknownTopicPage (topic : List Bytes) : String :=
  "Unknown help topic [" ++ " ".intercalate (topic.map Text.backQuoted) ++ "]\n" ++
    unlines (rootUsage false)

def Source.held (stdin : Bytes) (files : FileTree) : Source → Except SourceFault Bytes
  | standardInput => .ok stdin
  | file name =>
    match files.openPath name with
    | .ok (.file content) => .ok content
    | .ok .directory => .error .isDirectory
    | .error fault => .error (.cannotOpen fault)

def Request.run (held : Source → Except SourceFault Bytes) : Request → Outcome
  | page name => printed name.page
  | unknownTopic topic => printed (unknownTopicPage topic)
  | job j => j.run (held j.source)

def runWith (args : List Bytes) (held : Source → Except SourceFault Bytes) : Outcome :=
  match request args with
  | .error e => failure e.message e.hint
  | .ok r => r.run held

def run (args : List Bytes) (stdin : Bytes) (files : FileTree) : Outcome :=
  runWith args (Source.held stdin files)

end TextWalk.Command
