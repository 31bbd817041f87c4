import HangulLint.Main
import HangulLint.Proofs.OrderIndependence
import HangulLint.Proofs.StandardRun
import HangulLint.Proofs.Chronicle
import HangulLint.Proofs.UnicodeForms
import HangulLint.Proofs.Interruption
import HangulLint.Proofs.WholeReport
import HangulLint.Proofs.Removal
import HangulLint.Proofs.Isolation
import HangulLint.Proofs.RegisterHistory
import HangulLint.Proofs.ReportReading
import HangulLint.Proofs.Widening
import HangulLint.Proofs.Refusal
import HangulLint.Proofs.Tally
import HangulLint.Proofs.ExactSelection
import HangulLint.Proofs.NewFile
import HangulLint.Proofs.OwnKeys
import HangulLint.Proofs.ReportName
import HangulLint.Proofs.SecondRun
import HangulLint.Proofs.Padding
import HangulLint.Proofs.FileScan
import HangulLint.Proofs.ExactDecoding
import HangulLint.Proofs.LogOrder
import HangulLint.Proofs.CommaLists
import HangulLint.Proofs.ExcludedWords
import HangulLint.Proofs.ReadableFiles
import HangulLint.Proofs.LineCore
import HangulLint.Proofs.ReportSeries
