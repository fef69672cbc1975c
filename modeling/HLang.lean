import HLang.Artifacts
import HLang.Check
import HLang.Console.Command
import HLang.Console.FileStore
import HLang.Console.Host
import HLang.Diagnostic
import HLang.Fault
import HLang.Main
import HLang.Position
import HLang.Proofs.Acceptance
import HLang.Proofs.Grammar.Scope
import HLang.Proofs.Grammar.Tree
import HLang.Proofs.Session.Expressions
import HLang.Proofs.Session.Passing
import HLang.Proofs.Session.Statements
import HLang.Proofs.Source.Canonical
import HLang.Proofs.Source.Layout
import HLang.Proofs.Source.Lossless
import HLang.Proofs.Source.Quotes
import HLang.Proofs.Source.Rows
import HLang.Proofs.Token.Lexemes
import HLang.Session.Basic
import HLang.Session.Expression
import HLang.Session.Production
import HLang.Session.Progress
import HLang.Session.Stream
import HLang.Source.Clean
import HLang.Source.Spacing
import HLang.Statement
import HLang.Symbols
import HLang.Text.Decimal
import HLang.Text.Duration
import HLang.Text.Lines
import HLang.Text.Path
import HLang.Text.Printable
import HLang.Text.Quoted
import HLang.Text.Whitespace
import HLang.Token
import HLang.Token.Cursor
import HLang.Token.Kind
import HLang.Token.Lexeme
import HLang.Token.Report
import HLang.Token.Scan
import HLang.Validation
import HLang.Proofs.Grammar.Juncture
import HLang.Proofs.Session.Junctures
import HLang.Proofs.Run.Completed
import HLang.Proofs.Run.Viable
import HLang.Proofs.Run.Reported
import HLang.Proofs.Run.Declared
import HLang.Proofs.Session.Horizon
import HLang.Proofs.Run.Lookahead
import HLang.Proofs.Source.LineMap
import HLang.Proofs.Source.Places
import HLang.Proofs.Token.Spans
import HLang.Proofs.Check.Recheck
import HLang.Proofs.Check.Reformatted
import HLang.Proofs.Console.Command
import HLang.Proofs.Run.Relabelled
import HLang.Proofs.Session.Moves
import HLang.Proofs.Session.Branches
import HLang.Proofs.Run.Extended
import HLang.Proofs.Session.Offences
import HLang.Proofs.Run.Condemned
import HLang.Proofs.Session.Cuts
import HLang.Proofs.Run.Truncated
import HLang.Proofs.Grammar.Stem
import HLang.Proofs.Run.Covered
import HLang.Proofs.Session.Explained
import HLang.Proofs.Run.Described
import HLang.Proofs.Session.Unclosed
import HLang.Proofs.Run.Unclosed
import HLang.Proofs.Token.Munch
import HLang.Proofs.Source.KeptLines
import HLang.Proofs.Session.Frames
import HLang.Proofs.Session.Strides
import HLang.Proofs.Run.Bounded
import HLang.Proofs.Session.Worded
import HLang.Proofs.Run.Failing
import HLang.Proofs.Check.Rendered
import HLang.Proofs.Check.Pointed
import HLang.Proofs.Check.Accounts
import HLang.Proofs.Check.Decoded
import HLang.Proofs.Run.Unused
import HLang.Proofs.Source.Joined
import HLang.Proofs.Token.Joined
import HLang.Proofs.Session.Extents
import HLang.Proofs.Token.Offsets
