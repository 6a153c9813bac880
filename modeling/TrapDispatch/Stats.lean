import TrapDispatch.Error
import TrapDispatch.Vector

/-!
# Trap counters

Every counter is a 64-bit word that only goes up, modulo 2^64.
-/

namespace TrapDispatch

/-- Adds one to a counter; positions without a counter change nothing. -/
def bump {n : Nat} (counters : Vector UInt64 n) (index : Nat) : Vector UInt64 n :=
  if h : index < n then counters.set index (counters[index] + 1) else counters

theorem getElem_bump {n : Nat} (counters : Vector UInt64 n) (index i : Nat) (h : i < n) :
    (bump counters index)[i] = if index = i then counters[i] + 1 else counters[i] := by
  unfold bump
  split
  · rw [Vector.getElem_set]
    split <;> simp_all
  · split
    · omega
    · rfl

/-- Counters of a dispatcher. -/
structure Stats where
  exceptions : UInt64 := 0
  interrupts : UInt64 := 0
  syscalls : UInt64 := 0
  unassigned : UInt64 := 0
  perVector : Vector UInt64 256 := Vector.replicate 256 0
  spurious : UInt64 := 0
  unhandled : UInt64 := 0
  overruns : UInt64 := 0
  resolved : UInt64 := 0
  killed : UInt64 := 0
  perError : Vector UInt64 6 := Vector.replicate 6 0

namespace Stats

/-- Counts a trap by its vector, and by its class if the vector has a meaning. -/
def recordTrap (stats : Stats) (vector : UInt64) (trapClass : TrapClass) (assigned : Bool) :
    Stats :=
  let counted := { stats with perVector := bump stats.perVector vector.toNat }
  if assigned = false then { counted with unassigned := counted.unassigned + 1 }
  else match trapClass with
    | .exception => { counted with exceptions := counted.exceptions + 1 }
    | .interrupt => { counted with interrupts := counted.interrupts + 1 }
    | .software => { counted with syscalls := counted.syscalls + 1 }

/-- Counts an interrupt without a pending line. -/
def recordSpurious (stats : Stats) : Stats :=
  { stats with spurious := stats.spurious + 1 }

def recordUnhandled (stats : Stats) : Stats :=
  { stats with unhandled := stats.unhandled + 1 }

/-- Counts a handler that ran too long. -/
def recordOverrun (stats : Stats) : Stats :=
  { stats with overruns := stats.overruns + 1 }

/-- Counts a page fault that was resolved. -/
def recordResolved (stats : Stats) : Stats :=
  { stats with resolved := stats.resolved + 1 }

/-- Counts a thread that was terminated for a fault. -/
def recordKilled (stats : Stats) : Stats :=
  { stats with killed := stats.killed + 1 }

def recordError (stats : Stats) (code : ErrorCode) : Stats :=
  { stats with perError := bump stats.perError code.index.val }

/-- Traps taken on a vector; vectors without a counter have none. -/
def vectorCount (stats : Stats) (vector : UInt64) : UInt64 :=
  stats.perVector[vector.toNat]?.getD 0

/-- System calls that failed with a code. -/
def errorCount (stats : Stats) (code : ErrorCode) : UInt64 :=
  stats.perError[code.index]

def errorTotal (stats : Stats) : UInt64 :=
  stats.perError.toList.foldl (· + ·) 0

end Stats

/-- Whether a word is a power of two. -/
def isPowerOfTwo (n : UInt64) : Bool :=
  n ≠ 0 && n &&& (n - 1) = 0

end TrapDispatch
