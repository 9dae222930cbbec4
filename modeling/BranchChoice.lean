import BranchChoice.CommandLine.Markup
import BranchChoice.CommandLine.Program
import BranchChoice.Decision
import BranchChoice.Main
import BranchChoice.Rest.Stores
import BranchChoice.Settings
import BranchChoice.Store.Session
import BranchChoice.Proofs.Rounding
import BranchChoice.Proofs.Evaluation
import BranchChoice.Proofs.Selection
import BranchChoice.Proofs.Decision
import BranchChoice.Proofs.Session
import BranchChoice.Proofs.PatternReading
import BranchChoice.Proofs.Refusals
import BranchChoice.Proofs.SideEffects
import BranchChoice.Proofs.StableOrder
import BranchChoice.Proofs.StoreSelection
import BranchChoice.Proofs.NearestRank
import BranchChoice.Proofs.StrictEquality
import BranchChoice.Proofs.Spelling
import BranchChoice.Proofs.ShortestDecimal
import BranchChoice.Proofs.NumberText
import BranchChoice.Proofs.JsonText
import BranchChoice.Proofs.DocumentRows
import BranchChoice.Proofs.DocumentValues
import BranchChoice.Proofs.Heights
import BranchChoice.Proofs.RestAgreement
import BranchChoice.Proofs.DocumentBytes
import BranchChoice.Proofs.DocumentGrammar
import BranchChoice.Proofs.ContainerTexts
import BranchChoice.Proofs.Influence
import BranchChoice.Proofs.Isolation
import BranchChoice.Proofs.Calls
import BranchChoice.Proofs.Interleaving
import BranchChoice.Proofs.RequestOrder
import BranchChoice.Proofs.StoreFailures
import BranchChoice.Proofs.Connections
import BranchChoice.Proofs.WholeListings
import BranchChoice.Proofs.FormQueries
import BranchChoice.Proofs.LoggedDocuments
import BranchChoice.Proofs.Invocations
import BranchChoice.Proofs.AnswerDocuments
import BranchChoice.Proofs.IntactTexts
import BranchChoice.Proofs.DecisionRequests
import BranchChoice.Proofs.ShownPieces
import BranchChoice.Proofs.RunEndings
import BranchChoice.Proofs.ExplainedRuns
import BranchChoice.Proofs.TagFreeTexts
import BranchChoice.Proofs.ExactValue
import BranchChoice.Proofs.CanonicalEquality
import BranchChoice.Proofs.NumericOrder
import BranchChoice.Proofs.ExactShares
import BranchChoice.Proofs.CalendarDays
import BranchChoice.Proofs.NumberForms
import BranchChoice.Proofs.ListedActions
import BranchChoice.Proofs.ListingOrder
import BranchChoice.Proofs.WrittenNumbers
import BranchChoice.Proofs.LowerCase
import BranchChoice.Proofs.AbsentFields
import BranchChoice.Proofs.ScoringLaw
import BranchChoice.Proofs.Paths
import BranchChoice.Proofs.RequestFlaws
import BranchChoice.Proofs.Timestamps
import BranchChoice.Proofs.ExplainedDecisions
import BranchChoice.Proofs.Rereading
