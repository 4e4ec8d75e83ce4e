import DeclLang.Diagnostic.Collectors
import DeclLang.Main
import DeclLang.Report.DocumentReader
import DeclLang.Report.Plain
import DeclLang.Source.GapGrammar
import DeclLang.Source.LexemeScan
import DeclLang.Source.OnePass
import DeclLang.Proofs.Declaration.FaultFree
import DeclLang.Proofs.Declaration.RoundTrip
import DeclLang.Proofs.Declaration.Statements
import DeclLang.Proofs.Declaration.Items
import DeclLang.Proofs.Declaration.Places
import DeclLang.Proofs.Declaration.Progress
import DeclLang.Proofs.Declaration.HardStop
import DeclLang.Proofs.Session.Coherence
import DeclLang.Proofs.Session.Gates
import DeclLang.Proofs.Source.FaultGrammar
import DeclLang.Proofs.Source.Account
import DeclLang.Proofs.Source.Occurrence
import DeclLang.Proofs.Source.Lines
import DeclLang.Proofs.Source.Layout
import DeclLang.Proofs.Source.ItemEnd
import DeclLang.Proofs.Source.Joining
import DeclLang.Proofs.Source.LineStyle
import DeclLang.Proofs.Source.Stopping
import DeclLang.Proofs.Analysis.FirstFailure
import DeclLang.Proofs.Analysis.SourceOrder
import DeclLang.Json.Grammar
import DeclLang.Proofs.Json.Reading
import DeclLang.Proofs.Json.Writing
import DeclLang.Proofs.Command.Source
import DeclLang.Proofs.Report.Document
import DeclLang.Proofs.Source.FailingLookUp
import DeclLang.Proofs.Analysis.NumberMismatch
import DeclLang.Proofs.Source.NumberMatch
import DeclLang.Proofs.Source.QuoteEnd
import DeclLang.Proofs.Literal.WholeValue
import DeclLang.Proofs.Validity.Reuse
import DeclLang.Proofs.Validity.Regrouping
import DeclLang.Proofs.Source.Relabeling
import DeclLang.Proofs.Diagnostic.Listing
import DeclLang.Proofs.Token.Table
import DeclLang.Proofs.Diagnostic.Collectors
import DeclLang.Source.Cursor
import DeclLang.Proofs.Source.CursorBounds
