import ConvexQP.Proofs.Scan.Choice
import ConvexQP.Proofs.Storage.Access
import ConvexQP.Proofs.Storage.Chunks
import ConvexQP.Proofs.Storage.Extension
import ConvexQP.Proofs.Storage.Growth
import ConvexQP.Proofs.Storage.HighWater
import ConvexQP.Proofs.Storage.Histories
import ConvexQP.Proofs.Storage.Ledger
import ConvexQP.Proofs.Storage.Listing
import ConvexQP.Proofs.Storage.PoolLedger
import ConvexQP.Proofs.Storage.Refinement
import ConvexQP.Proofs.WorkingSet.Membership
import ConvexQP.Sample.BoxLeastSquares
import ConvexQP.Sample.Portfolio
import ConvexQP.Sample.Run
import ConvexQP.Scan.MultiplierChoice
import ConvexQP.Scan.RatioTest
import ConvexQP.Scan.Violation
import ConvexQP.Solver.Session
import ConvexQP.Storage.Pool
import ConvexQP.Tensor.DenseAlgebra
import ConvexQP.Proofs.Solver.Frames
import ConvexQP.Proofs.Exact.Arithmetic
import ConvexQP.Proofs.Exact.Vector
import ConvexQP.Proofs.Exact.Elimination
import ConvexQP.Proofs.Exact.Systems
import ConvexQP.Proofs.Exact.Kkt
import ConvexQP.Proofs.Solver.Follows
import ConvexQP.Proofs.Solver.Reached
import ConvexQP.Proofs.Solver.Subproblem
import ConvexQP.Proofs.Solver.Passes
import ConvexQP.Proofs.Solver.Exact
import ConvexQP.Proofs.Solver.Optimality
import ConvexQP.Proofs.Solver.Progress
import ConvexQP.Proofs.Exact.Steps
import ConvexQP.Proofs.Solver.Feasibility
import ConvexQP.Proofs.Solver.StrictlyConvex
import ConvexQP.Proofs.LinearProgram.Answers
import ConvexQP.Proofs.PhaseOne.Reformulation
import ConvexQP.Proofs.PhaseOne.Search
import ConvexQP.Proofs.Solver.Start
import ConvexQP.Proofs.Scan.Violation
import ConvexQP.Proofs.Solver.Infeasible
import ConvexQP.Proofs.Solver.Alike
import ConvexQP.Proofs.Solver.AlikeRuns
import ConvexQP.Proofs.Solver.Forgetting
import ConvexQP.Proofs.Solver.Indifference
import ConvexQP.Proofs.Exact.Nonsingular
import ConvexQP.Proofs.Exact.Regular
import ConvexQP.Proofs.Solver.Blocking
import ConvexQP.Proofs.Exact.Leaving
import ConvexQP.Proofs.Solver.Release
import ConvexQP.Proofs.Scan.StepLength
import ConvexQP.Proofs.Floating.Differences
import ConvexQP.Proofs.Solver.Course
import ConvexQP.Proofs.Solver.Accounting
import ConvexQP.Proofs.Exact.Descent
import ConvexQP.Proofs.Solver.Descent
import ConvexQP.Proofs.Solver.Explained
import ConvexQP.Proofs.Exact.Widening
import ConvexQP.Proofs.Exact.Independence
import ConvexQP.Proofs.Solver.TightStart
import ConvexQP.Proofs.Solver.Restart
import ConvexQP.Proofs.Exact.SolvedArrays
import ConvexQP.Proofs.Solver.Finite
import ConvexQP.Proofs.Solver.Guard
import ConvexQP.Proofs.Solver.GivingUp
import ConvexQP.Proofs.Solver.Logged
import ConvexQP.Proofs.Solver.Retries
import ConvexQP.Proofs.Solver.Residuals
import ConvexQP.Proofs.Solver.Reuse
import ConvexQP.Proofs.Solver.Trimming
import ConvexQP.Proofs.Solver.Region
import ConvexQP.Proofs.Solver.DataModel
import ConvexQP.Proofs.Solver.Refused
import ConvexQP.Proofs.Storage.Slices
import ConvexQP.Proofs.Storage.PoolSlices
import ConvexQP.Proofs.Exact.Expansion
import ConvexQP.Proofs.Tensor.Rows
import ConvexQP.Proofs.Exact.Assembly
import ConvexQP.Proofs.Attempts
import ConvexQP.Proofs.Tensor.Stacking
import ConvexQP.Proofs.Floating.WholeNumbers
import ConvexQP.Proofs.Storage.Sources
import ConvexQP.Proofs.Storage.Kinds
import ConvexQP.Proofs.Storage.Norm
import ConvexQP.Proofs.Scan.FirstLeast
import ConvexQP.Proofs.Solver.Dropping
import ConvexQP.Proofs.WorkingSet.Tracking
import ConvexQP.Proofs.Floating.Order
import ConvexQP.Proofs.Settings.Validation
