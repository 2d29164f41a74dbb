import ConvexQP.Error

/-!
The ledger of an allocator: the bytes of the blocks handed out and not yet given back, and, for
blocks that live in memory maps, the maps behind them. A map outlives its block until the next
`collect`.
-/
namespace ConvexQP

inductive AllocatorKind where
  | heap
  | mapped
  deriving Repr, DecidableEq

def AllocatorKind.ofName? : String → Option AllocatorKind
  | "heap" => some .heap
  | "mmap" => some .mapped
  | _ => none

structure Allocator where
  kind : AllocatorKind
  liveBytes : Int
  /-- Maps behind blocks in use. -/
  liveMaps : Nat
  /-- Maps whose block was released and which are not yet unmapped. -/
  retiredMaps : Nat
  deriving Repr, DecidableEq

namespace Allocator

def new (kind : AllocatorKind) : Allocator := ⟨kind, 0, 0, 0⟩

def ofName (name : String) : Except Error Allocator :=
  match AllocatorKind.ofName? name with
  | some kind => .ok (new kind)
  | none => .error (.unknownAllocatorKind name)

def allocate (allocator : Allocator) (bytes : Nat) : Allocator :=
  let counted := { allocator with liveBytes := allocator.liveBytes + bytes }
  match allocator.kind with
  | .heap => counted
  | .mapped => { counted with liveMaps := allocator.liveMaps + 1 }

def release (allocator : Allocator) (bytes : Nat) : Allocator :=
  let counted := { allocator with liveBytes := allocator.liveBytes - bytes }
  match allocator.kind with
  | .heap => counted
  | .mapped =>
    { counted with liveMaps := allocator.liveMaps - 1, retiredMaps := allocator.retiredMaps + 1 }

/-- Unmaps what was retired. -/
def collect (allocator : Allocator) : Allocator := { allocator with retiredMaps := 0 }

def openMaps (allocator : Allocator) : Nat := allocator.liveMaps + allocator.retiredMaps

end Allocator
end ConvexQP
