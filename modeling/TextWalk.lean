import TextWalk.Buffer.Basic
import TextWalk.Buffer.Operation
import TextWalk.Buffer.Read
import TextWalk.Buffer.Skip
import TextWalk.Bytes
import TextWalk.Character
import TextWalk.Code
import TextWalk.Command.Argument
import TextWalk.Command.Flag
import TextWalk.Command.Help
import TextWalk.Command.Log
import TextWalk.Command.Name
import TextWalk.Command.Request
import TextWalk.Command.Run
import TextWalk.Command.Suggestion
import TextWalk.Command.Task
import TextWalk.Cursor
import TextWalk.Encoding.Basic
import TextWalk.Encoding.CodePage
import TextWalk.Encoding.Utf16
import TextWalk.Encoding.Utf8
import TextWalk.FileTree
import TextWalk.Load
import TextWalk.Main
import TextWalk.Markup.Declaration
import TextWalk.Markup.Document
import TextWalk.Markup.RawText
import TextWalk.Markup.Reference
import TextWalk.Markup.Tag
import TextWalk.MediaType
import TextWalk.Normal.Basic
import TextWalk.Normal.Composition
import TextWalk.Normal.Data.Class
import TextWalk.Normal.Data.Composite
import TextWalk.Normal.Data.Replacement
import TextWalk.Normal.Data.Spelling
import TextWalk.Normal.Decomposition
import TextWalk.Normal.Hangul
import TextWalk.Normal.Segment
import TextWalk.Proofs.AsciiData
import TextWalk.Proofs.CharacterParts
import TextWalk.Proofs.CharsetParameter
import TextWalk.Proofs.Fields
import TextWalk.Proofs.Indexing
import TextWalk.Proofs.Loading
import TextWalk.Proofs.NonInterference
import TextWalk.Proofs.NormalForm
import TextWalk.Proofs.Occurrences
import TextWalk.Proofs.Passage
import TextWalk.Proofs.Position
import TextWalk.Proofs.Places
import TextWalk.Proofs.PositionOrder
import TextWalk.Proofs.QuotedRuns
import TextWalk.Proofs.Reading
import TextWalk.Proofs.Session
import TextWalk.Proofs.TextRoundTrip
import TextWalk.Proofs.UnicodeForm
import TextWalk.Proofs.Utf16
import TextWalk.Proofs.Utf8
import TextWalk.Proofs.Walk
import TextWalk.Scan.Listing
import TextWalk.Text.Case
import TextWalk.Text.Printable
import TextWalk.Text.Quoted
import TextWalk.Text.Space
import TextWalk.Proofs.ReadExtent
import TextWalk.Proofs.CharacterGrammar
import TextWalk.Proofs.SkipExtent
import TextWalk.Proofs.FrontGuess
import TextWalk.Proofs.WholeParts
import TextWalk.Proofs.Recomposition
import TextWalk.Proofs.LongRuns
import TextWalk.Proofs.UnicodeStability
