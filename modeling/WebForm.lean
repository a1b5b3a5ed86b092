import WebForm.Document.Sample
import WebForm.Document.Schema
import WebForm.Form
import WebForm.Input
import WebForm.Main
import WebForm.Proofs.Document.Canonical
import WebForm.Proofs.Source.Determines
import WebForm.Proofs.Submission.Total
import WebForm.Service
import WebForm.Proofs.Source.Skeleton
import WebForm.Proofs.Source.Shape
import WebForm.Proofs.Source.Markup
import WebForm.Proofs.Submission.FieldWise
import WebForm.Proofs.Submission.Idempotent
import WebForm.Proofs.Pattern.Meaning
import WebForm.Proofs.Pattern.ClassText
import WebForm.Proofs.Pattern.Replacement
import WebForm.Proofs.Submission.NumberText
import WebForm.Proofs.Document.Outcome
import WebForm.Proofs.Source.Acceptance
import WebForm.Proofs.Submission.Verdict
import WebForm.Proofs.Submission.Agreement
import WebForm.Proofs.Schema.Canonical
import WebForm.Proofs.Number.Reading
import WebForm.Proofs.Submission.NumericVerdict
import WebForm.Proofs.Submission.Requiredness
import WebForm.Proofs.Submission.Messages
import WebForm.Proofs.Submission.Relaxation
import WebForm.Proofs.Submission.Format
import WebForm.Proofs.Command.ExitCode
import WebForm.Proofs.Document.Immaterial
import WebForm.Proofs.Json.RoundTrip
import WebForm.Proofs.Json.Newlines
