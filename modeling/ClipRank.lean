import ClipRank.Main
import ClipRank.Startup
import ClipRank.Proofs.QuerySelection
import ClipRank.Proofs.JsonTokens
import ClipRank.Proofs.JsonReading
import ClipRank.Proofs.ObjectExtraction
import ClipRank.Proofs.Outcome
import ClipRank.Proofs.DoubleValue
import ClipRank.Proofs.WholeDoubles
import ClipRank.Proofs.NumberText
import ClipRank.Proofs.FilterGrammar
import ClipRank.Proofs.QueryGrammar
import ClipRank.Proofs.WeightsReload
import ClipRank.Proofs.Rounding
import ClipRank.Proofs.SignedDoubles
import ClipRank.Proofs.ScoreScale
import ClipRank.Proofs.ScoreRanking
import ClipRank.Proofs.TopLevelSpans
import ClipRank.Proofs.Magnitudes
import ClipRank.Proofs.RateBounds
import ClipRank.Proofs.ZeroSignals
import ClipRank.Proofs.RoundingError
import ClipRank.Proofs.WeightedMean
import ClipRank.Proofs.CompositeRange
import ClipRank.Proofs.QueryStages
import ClipRank.Proofs.PartialBatch
import ClipRank.Proofs.RecordRoundTrip
import ClipRank.Proofs.QueryRoundTrip
import ClipRank.Proofs.Metering
import ClipRank.Proofs.ServiceRuns
import ClipRank.Proofs.ServiceHistory
import ClipRank.Proofs.CounterBalance
import ClipRank.Proofs.Rescoring
import ClipRank.Proofs.SortedAnswers
import ClipRank.Proofs.UsableWeights
import ClipRank.Proofs.BalancedProfile
import ClipRank.Proofs.RecordFields
import ClipRank.Proofs.DisplayMetadata
import ClipRank.Proofs.LiteralParts
import ClipRank.Proofs.NearestDoubles
import ClipRank.Proofs.WholeNumbers
import ClipRank.Proofs.ExactNumbers
import ClipRank.Proofs.CheckedSums
import ClipRank.Proofs.CommentCredit
import ClipRank.Proofs.CalendarDates
import ClipRank.Proofs.TimestampText
import ClipRank.Proofs.ClockText
import ClipRank.Proofs.AgeFactors
import ClipRank.Proofs.TitleWords
import ClipRank.Proofs.ObjectMembers
import ClipRank.Proofs.RecordSpellings
import ClipRank.Proofs.DeliveredRecords
import ClipRank.Proofs.NumberFilters
import ClipRank.Proofs.MirroredSorts
import ClipRank.Proofs.EmptyAnswers
import ClipRank.Proofs.ExtendedNumbers
import ClipRank.Proofs.WeightProportions
import ClipRank.Proofs.ExplanationSums
import ClipRank.Proofs.ExplainedScores
import ClipRank.Proofs.SpanBytes
import ClipRank.Proofs.DurationGrammar
import ClipRank.Proofs.QuotedNumbers
