import TextWalk.Command.Log
import TextWalk.Encoding.Utf8
import TextWalk.Scan.Listing

namespace TextWalk.Command

inductive Task where
  | find (occurrence : Char)
  | fields (separators : List Char)
  | quoted (quote : Char) (raw : Bool)
deriving DecidableEq, Repr

structure Report where
  output : String
  records : List Log.Record
deriving DecidableEq, Repr

def countValue (n : Nat) : Bytes := Bytes.ascii (toString n)

def stretchLine (s : Scan.Stretch) : String :=
  s.start.position ++ "\t" ++ Code.text s.codes ++ "\n"

def unterminated (r : Scan.QuotedRun) : Log.Record :=
  { level := .warning
    message := "unterminated quoted run"
    fields := [("cursor", Bytes.ascii r.start.text)] }

def Task.report (b : Buffer) : Task → Report
  | find c =>
    let found := Scan.occurrences (Code.ofChar c) b
    { output := String.join (found.map fun place => place.position ++ "\n")
      records :=
        [{ level := .info
           message := "find done"
           fields := [("char", Utf8.encode [c]), ("count", countValue found.length)] }] }
  | fields separators =>
    let found := Scan.fields (separators.map Code.ofChar) b
    { output := String.join (found.map stretchLine)
      records :=
        [{ level := .info
           message := "fields done"
           fields := [("count", countValue found.length)] }] }
  | quoted q raw =>
    let found := Scan.quotedRuns (Code.ofChar q) (!raw) b
    { output := String.join (found.map fun r => stretchLine r.toStretch)
      records := (found.filter (!·.closed)).map unterminated }

end TextWalk.Command
