import Toolpath.Benchmark
import Toolpath.FileTree
import Toolpath.Main
import Toolpath.Proofs.DiagnosticKind
import Toolpath.Proofs.Reading
import Toolpath.Proofs.Effect
import Toolpath.Proofs.FeedInForce
import Toolpath.Proofs.SegmentIndex
import Toolpath.Proofs.Remembered
import Toolpath.Proofs.Accounting
import Toolpath.Proofs.Retrace
import Toolpath.Proofs.Characters
import Toolpath.Proofs.CommandWord
import Toolpath.Proofs.LastWord
import Toolpath.Proofs.Nearest
import Toolpath.Proofs.WordText
import Toolpath.Proofs.WrittenLine
import Toolpath.Proofs.EndPoint
import Toolpath.Proofs.Drift
import Toolpath.Proofs.MoveHistory
import Toolpath.Proofs.Isolation
import Toolpath.Proofs.NonNegative
import Toolpath.Proofs.RunTime
import Toolpath.Proofs.TwoRuns
import Toolpath.Proofs.Renumbering
import Toolpath.Proofs.Presentation
import Toolpath.Proofs.CoordinatesOnly
import Toolpath.Proofs.Utf8
import Toolpath.Proofs.FileLines
import Toolpath.Proofs.Newlines
import Toolpath.Proofs.Standstill
import Toolpath.Proofs.FixedPlaces
import Toolpath.Proofs.Approximation
import Toolpath.Proofs.ProgramText
import Toolpath.Proofs.Route
import Toolpath.Proofs.DecimalLine
import Toolpath.Proofs.SquareContour
import Toolpath.Proofs.Thousandths
import Toolpath.Proofs.PassCount
import Toolpath.Proofs.Legs
import Toolpath.Proofs.FacingRoute
import Toolpath.Proofs.PocketRoute
import Toolpath.Proofs.ArcSense
import Toolpath.Proofs.Corners
import Toolpath.Proofs.FileAccounts
import Toolpath.Proofs.PathText
import Toolpath.Proofs.TimeText
import Toolpath.Proofs.WrittenArguments
import Toolpath.Proofs.CodePart
import Toolpath.Proofs.Breakdown
import Toolpath.Proofs.MeasuredLength
