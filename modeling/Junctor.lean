import Junctor.BooleanFunction.Display
import Junctor.Comparison.Bench
import Junctor.Comparison.Entry
import Junctor.Failure
import Junctor.Formula.Sketch
import Junctor.Log.Elapsed
import Junctor.Log.Stopwatch
import Junctor.Proofs.Acceptance
import Junctor.Proofs.BasisForm
import Junctor.Proofs.Consistency
import Junctor.Proofs.Counterexamples
import Junctor.Proofs.DroppedRecords
import Junctor.Proofs.Duality
import Junctor.Proofs.ElapsedTimes
import Junctor.Proofs.Endings
import Junctor.Proofs.Enumeration
import Junctor.Proofs.Exports
import Junctor.Proofs.FormCosts
import Junctor.Proofs.FunctionNumbers
import Junctor.Proofs.Independence
import Junctor.Proofs.LogLevels
import Junctor.Proofs.NestedTraces
import Junctor.Proofs.NormalForms
import Junctor.Proofs.NumberComparison
import Junctor.Proofs.OwnVariables
import Junctor.Proofs.PartialAssignments
import Junctor.Proofs.PostorderWords
import Junctor.Proofs.PrintedTables
import Junctor.Proofs.RateLimits
import Junctor.Proofs.Refusals
import Junctor.Proofs.RenamedComparisons
import Junctor.Proofs.RepeatedNegation
import Junctor.Proofs.Spelling
import Junctor.Proofs.Substitution
import Junctor.Proofs.TextTokens
import Junctor.Proofs.WaitingOrder
import Junctor.Trace.Target
