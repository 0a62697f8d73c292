import Widgetry.Service.Http
import Widgetry.Service.Latency
import Widgetry.Settings.EnvFile
import Widgetry.Settings.Origins
import Widgetry.Writer.Block
import Widgetry.Proofs.Openings
import Widgetry.Proofs.Conservation
import Widgetry.Proofs.OpenLists
import Widgetry.Proofs.QuizLines
import Widgetry.Proofs.Refusals
import Widgetry.Proofs.Requests
import Widgetry.Proofs.RoundTrip
import Widgetry.Proofs.WellFormed
import Widgetry.Proofs.Descriptors
import Widgetry.Proofs.Growth
import Widgetry.Proofs.QuizRoundTrip
import Widgetry.Proofs.ChartRoundTrip
import Widgetry.Proofs.ChartHeaders
import Widgetry.Proofs.FinishedQuizzes
import Widgetry.Proofs.CanonicalArrays
import Widgetry.Proofs.Spellings
import Widgetry.Proofs.OpenSpanReports
import Widgetry.Proofs.Transposition
import Widgetry.Proofs.FormRoundTrip
import Widgetry.Proofs.Completion
import Widgetry.Proofs.LineEnds
import Widgetry.Proofs.QuestionIds
import Widgetry.Proofs.CarriageReturns
import Widgetry.Proofs.BlankLines
import Widgetry.Proofs.RequestOrder
import Widgetry.Proofs.Averages
import Widgetry.Proofs.IntegerLiterals
import Widgetry.Proofs.SettingsRoundTrip
import Widgetry.Proofs.Letters
import Widgetry.Proofs.LastSettings
import Widgetry.Proofs.Nearest
import Widgetry.Proofs.LongestLiterals
import Widgetry.Proofs.WrittenFloats
