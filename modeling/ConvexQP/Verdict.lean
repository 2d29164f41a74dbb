/-!
What is known of a point or of a whole run, ordered from worst to best.
-/
namespace ConvexQP

inductive Verdict where
  | infeasible
  | failed
  | approximate
  | feasible
  | optimal
  deriving Repr, DecidableEq

namespace Verdict

def rank : Verdict → Nat
  | infeasible => 0
  | failed => 1
  | approximate => 2
  | feasible => 3
  | optimal => 4

def name : Verdict → String
  | infeasible => "INFEASIBLE"
  | failed => "FAILED"
  | approximate => "APPROXIMATE"
  | feasible => "FEASIBLE"
  | optimal => "OPTIMAL"

def all : List Verdict := [infeasible, failed, approximate, feasible, optimal]

def ofName? (name : String) : Option Verdict := all.find? fun verdict => verdict.name == name

def isApproximate (verdict : Verdict) : Bool := decide (approximate.rank ≤ verdict.rank)
def isFeasible (verdict : Verdict) : Bool := decide (feasible.rank ≤ verdict.rank)
def isOptimal (verdict : Verdict) : Bool := verdict == optimal

end Verdict
end ConvexQP
