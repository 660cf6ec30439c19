import Rerun.Backup
import Rerun.Checksum
import Rerun.Cli.Args
import Rerun.Cli.Grid
import Rerun.Cli.Json
import Rerun.Cli.LogFilter
import Rerun.Cli.Paint
import Rerun.Cli.Present
import Rerun.Cli.Run
import Rerun.Command
import Rerun.Config
import Rerun.Disk
import Rerun.Disk.Path
import Rerun.Error
import Rerun.Guard
import Rerun.Host
import Rerun.Keyword
import Rerun.Lex
import Rerun.Main
import Rerun.Patch
import Rerun.Script
import Rerun.Span
import Rerun.Statement
import Rerun.TableName
import Rerun.Text.Blank
import Rerun.Text.Utf8
import Rerun.Text.Width
import Rerun.Toml.Document
import Rerun.Toml.Scalar
import Rerun.Toml.Tree
import Rerun.Proofs.Lexing
import Rerun.Proofs.Lines
import Rerun.Proofs.LinePairs
import Rerun.Proofs.Phrases
import Rerun.Proofs.Guards
import Rerun.Proofs.LineEdits
import Rerun.Proofs.Turns
import Rerun.Proofs.Idempotence
import Rerun.Proofs.HiddenLines
import Rerun.Proofs.Spans
import Rerun.Proofs.NormalForm
import Rerun.Proofs.GuardLayout
import Rerun.Proofs.LinePatch
import Rerun.Proofs.SeparatePasses
import Rerun.Proofs.SpanLines
import Rerun.Proofs.DropSpans
import Rerun.Proofs.AlikeScans
import Rerun.Proofs.Outlines
import Rerun.Proofs.Concatenation
import Rerun.Proofs.Encoding
import Rerun.Proofs.Places
import Rerun.Proofs.Replacing
import Rerun.Proofs.Commands
import Rerun.Proofs.Safekeeping
import Rerun.Proofs.Settled
import Rerun.Proofs.DropLines
import Rerun.Proofs.Mending
import Rerun.Proofs.Contents
import Rerun.Proofs.LetterCase
import Rerun.Proofs.CaseBlind
import Rerun.Proofs.SpanExtents
import Rerun.Proofs.SpanEnds
import Rerun.Proofs.GuardCounts
import Rerun.Proofs.NamedTables
import Rerun.Proofs.ByteLexing
import Rerun.Proofs.WholeText
import Rerun.Proofs.NameReading
import Rerun.Proofs.QuotedNames
import Rerun.Proofs.NamePlaces
import Rerun.Proofs.GuardFinders
import Rerun.Proofs.GuardOffsets
import Rerun.Proofs.Layers
import Rerun.Proofs.LawfulHosts
