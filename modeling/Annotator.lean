import Annotator.Main
import Annotator.Proofs.Acceptance
import Annotator.Proofs.Balance
import Annotator.Proofs.CaseBlind
import Annotator.Proofs.Comments
import Annotator.Proofs.Entities
import Annotator.Proofs.Ink
import Annotator.Proofs.Lookup
import Annotator.Proofs.Nesting
import Annotator.Proofs.RoundTrip
import Annotator.Proofs.Selectors
import Annotator.Proofs.TagCounts
import Annotator.Proofs.Groups
import Annotator.Proofs.InertRules
import Annotator.Proofs.FailedRuns
import Annotator.Proofs.GroupNames
import Annotator.Proofs.Templates
import Annotator.Proofs.KnownWords
import Annotator.Proofs.NormalForm
import Annotator.Proofs.OpenComments
import Annotator.Proofs.SinglePass
import Annotator.Proofs.KeywordOrder
import Annotator.Proofs.LiteralKeywords
import Annotator.Proofs.FoundWords
import Annotator.Proofs.SettingLines
import Annotator.Proofs.Alternation
import Annotator.Proofs.Unescaping
import Annotator.Proofs.ClassWords
