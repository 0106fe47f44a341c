import BoolWhile.Main
import BoolWhile.Recognition.File
import BoolWhile.Session
import BoolWhile.Proofs.Recognition.FirstViolation
import BoolWhile.Proofs.Recognition.SyntaxTree
import BoolWhile.Proofs.Tokens.Warnings
import BoolWhile.Proofs.Tokens.LongestMatch
import BoolWhile.Proofs.Tokens.Locality
import BoolWhile.Proofs.Tokens.RoundTrip
import BoolWhile.Proofs.Tokens.KeywordRules
import BoolWhile.Proofs.Recognition.Concatenation
import BoolWhile.Proofs.Recognition.ForeignTokens
import BoolWhile.Proofs.Command.Run
import BoolWhile.Proofs.Command.Formats
import BoolWhile.Proofs.Command.Independence
import BoolWhile.Proofs.Command.Silence
import BoolWhile.Proofs.Command.SingleFile
import BoolWhile.Proofs.Recognition.Repair
import BoolWhile.Proofs.Report.Lines
import BoolWhile.Proofs.Tokens.History
import BoolWhile.Proofs.Report.Place
import BoolWhile.Proofs.Recognition.Parts
import BoolWhile.Proofs.Statistics.Nodes
import BoolWhile.Proofs.Recognition.Boundary
import BoolWhile.Proofs.Recognition.Editing
import BoolWhile.Proofs.Report.Spelling
import BoolWhile.Proofs.Statistics.Union
import BoolWhile.Proofs.Command.FilesAlike
import BoolWhile.Proofs.Recognition.Depth
import BoolWhile.Proofs.Recognition.Interchange
import BoolWhile.Proofs.Recognition.Counters
import BoolWhile.Proofs.Recognition.Forward
import BoolWhile.Proofs.Tokens.Totality
import BoolWhile.Proofs.Tokens.Cuttings
