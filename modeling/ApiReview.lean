import ApiReview.Document.Printing
import ApiReview.Main
import ApiReview.Proofs.Document.InlinePointers
import ApiReview.Proofs.Document.OwnPointers
import ApiReview.Proofs.Document.Segments
import ApiReview.Proofs.Document.Reading
import ApiReview.Proofs.Document.ReferenceChains
import ApiReview.Proofs.Review.CircularDependencies
import ApiReview.Proofs.Checks.Runs
import ApiReview.Proofs.Review.Filtering
import ApiReview.Proofs.Review.CheckOrder
import ApiReview.Proofs.Review.Histories
import ApiReview.Proofs.Review.WalkOrder
import ApiReview.Proofs.Review.DeclaredReferences
import ApiReview.Proofs.Review.UnresolvedReferences
import ApiReview.Proofs.Review.SelfReferringSchemas
import ApiReview.Proofs.Report.ExitCodes
import ApiReview.Proofs.Settings.LoadedAgain
import ApiReview.Proofs.Reading.JsonInputs
import ApiReview.Proofs.Reading.ReadsBack
import ApiReview.Proofs.Document.SchemaReading
import ApiReview.Proofs.Document.RoundTrip
import ApiReview.Proofs.Reading.JsonTexts
import ApiReview.Proofs.Reading.YamlTexts
import ApiReview.Proofs.Document.LoadedDocuments
import ApiReview.Proofs.Checks.SelfReferences
import ApiReview.Proofs.Checks.RedeclaredSchemas
import ApiReview.Proofs.Review.Reordering
import ApiReview.Proofs.Review.MistakenLoops
import ApiReview.Proofs.Text.Casing
import ApiReview.Proofs.Checks.TypeNames
import ApiReview.Proofs.Checks.OperationIdentifiers
import ApiReview.Proofs.Checks.PathParameters
import ApiReview.Proofs.Checks.Bodies
import ApiReview.Proofs.Checks.NormalizedNames
import ApiReview.Proofs.Checks.NameCollisions
import ApiReview.Proofs.Checks.RepeatedParameters
import ApiReview.Proofs.Checks.ComplexParameters
import ApiReview.Proofs.Checks.NodeLocations
import ApiReview.Proofs.Checks.EnumValues
import ApiReview.Proofs.Settings.ListVariables
import ApiReview.Proofs.Checks.ReservedNames
import ApiReview.Proofs.References.SearchTrail
import ApiReview.Proofs.Report.Agreement
import ApiReview.Proofs.Report.Documents
