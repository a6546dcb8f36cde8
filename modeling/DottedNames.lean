import DottedNames.Main
import DottedNames.Proofs.MinimalRendering
import DottedNames.Proofs.JoinedTexts
import DottedNames.Proofs.InsertedValues
import DottedNames.Proofs.StrayBraces
import DottedNames.Proofs.UnquotedRendering
import DottedNames.Proofs.Verdict
import DottedNames.Proofs.Translation
import DottedNames.Proofs.CanonicalForm
import DottedNames.Proofs.BatchPrefix
import DottedNames.Proofs.Ancestors
import DottedNames.Proofs.ParsedNames
import DottedNames.Proofs.QuoteRuns
import DottedNames.Proofs.QuotedSegments
import DottedNames.Proofs.Rounds
import DottedNames.Proofs.Loading
