import ConvexQP.Scalar
import ConvexQP.Storage.SegmentedVector
import ConvexQP.Text.LowerCase
import ConvexQP.Datum

/-!
Settings of a solver: loose values with defaults, the validation that brings the numbers into their
ranges, and the configuration a solver works with. Validation reads the settings in a fixed order,
so of two bad settings the earlier one is reported.
-/
namespace ConvexQP

structure Settings where
  slackTolerance : Datum := .real 1e-8
  solutionTolerance : Datum := .real 1e-10
  pivotTolerance : Datum := .real 1e-12
  iterationLimit : Datum := .integer 1000
  timeLimit : Datum := .absent
  tracing : Datum := .flag false
  table : Datum := .flag false
  segmentCapacity : Datum := .integer 16384
  initialCapacity : Datum := .integer 16
  allocator : Datum := .text "heap"
  programTimeLimit : Datum := .absent
  programTolerance : Datum := .real 1e-9
  programPresolve : Datum := .flag true
  deriving Inhabited

/-- Settings whose numbers are in range. The rest is carried along as it was given. -/
structure ValidSettings where
  slackTolerance : Float
  solutionTolerance : Float
  pivotTolerance : Float
  iterationLimit : Int
  timeLimit : Option Float
  tracing : Datum
  table : Datum
  segmentCapacity : Datum
  initialCapacity : Datum
  allocator : AllocatorKind
  programTimeLimit : Option Float
  programTolerance : Float
  programPresolve : Datum

/-- The spacing of doubles at one. -/
def machineSpacing : Float := 2.220446049250313e-16

/-- The least feasibility tolerance a linear-programming solver takes. -/
def leastProgramTolerance : Float := 1e-10

def AllocatorKind.settingName : AllocatorKind → String
  | heap => "heap"
  | mapped => "mmap"

namespace Settings

def atLeast (floor : Float) (setting : Datum) : Except Error Float :=
  setting.toReal.map fun value => larger value floor

def limit : Datum → Except Error (Option Float)
  | .absent => .ok none
  | setting => (atLeast 0.0 setting).map some

def allocatorKind (setting : Datum) : Except Error AllocatorKind :=
  let name := Text.lowerCase setting.display
  match AllocatorKind.ofName? name with
  | some kind => .ok kind
  | none => .error (.unknownAllocatorSetting name)

def validate (settings : Settings) : Except Error ValidSettings := do
  let slackTolerance ← atLeast machineSpacing settings.slackTolerance
  let solutionTolerance ← atLeast machineSpacing settings.solutionTolerance
  let pivotTolerance ← atLeast 0.0 settings.pivotTolerance
  let iterationLimit ← settings.iterationLimit.toInteger
  let timeLimit ← limit settings.timeLimit
  let allocator ← allocatorKind settings.allocator
  let programTimeLimit ← limit settings.programTimeLimit
  let programTolerance ← atLeast leastProgramTolerance settings.programTolerance
  return {
    slackTolerance, solutionTolerance
    pivotTolerance := smaller pivotTolerance 1.0
    iterationLimit := max iterationLimit 1
    timeLimit, allocator, programTimeLimit, programTolerance
    tracing := settings.tracing
    table := settings.table
    segmentCapacity := settings.segmentCapacity
    initialCapacity := settings.initialCapacity
    programPresolve := settings.programPresolve }

end Settings

/-- Valid settings are settings again. -/
def ValidSettings.toSettings (valid : ValidSettings) : Settings where
  slackTolerance := .real valid.slackTolerance
  solutionTolerance := .real valid.solutionTolerance
  pivotTolerance := .real valid.pivotTolerance
  iterationLimit := .integer valid.iterationLimit
  timeLimit := valid.timeLimit.elim .absent .real
  tracing := valid.tracing
  table := valid.table
  segmentCapacity := valid.segmentCapacity
  initialCapacity := valid.initialCapacity
  allocator := .text valid.allocator.settingName
  programTimeLimit := valid.programTimeLimit.elim .absent .real
  programTolerance := .real valid.programTolerance
  programPresolve := valid.programPresolve

structure Config (R : Type) where
  slackTolerance : R
  solutionTolerance : R
  pivotTolerance : R
  iterationLimit : Nat
  timeLimit : Option R
  /-- Every step leaves notes. -/
  tracing : Bool
  /-- Every pass adds a line to the iteration table. -/
  table : Bool
  capacities : Capacities
  allocator : AllocatorKind
  programTimeLimit : Option R
  programTolerance : R
  programPresolve : Bool

/-- The configuration of valid settings, once the capacities of the buffers are read. -/
def Config.ofSettings (valid : ValidSettings) : Except Error (Config Float) := do
  let segment ← valid.segmentCapacity.toInteger
  let initial ← valid.initialCapacity.toInteger
  let capacities ← Capacities.check segment initial
  return {
    slackTolerance := valid.slackTolerance
    solutionTolerance := valid.solutionTolerance
    pivotTolerance := valid.pivotTolerance
    iterationLimit := valid.iterationLimit.toNat
    timeLimit := valid.timeLimit
    tracing := valid.tracing.truthy
    table := valid.table.truthy
    capacities
    allocator := valid.allocator
    programTimeLimit := valid.programTimeLimit
    programTolerance := valid.programTolerance
    programPresolve := valid.programPresolve.truthy }

end ConvexQP
