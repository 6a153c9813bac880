import TrapDispatch.Encoding

/-!
# Vector tables

The table of an architecture is fixed by the address of its first trampoline.
Every slot is populated; a slot without a meaning is marked so and leads into
the same trampolines.
-/

namespace TrapDispatch

/-- The hardware trap table of one architecture. -/
structure VectorTable where
  arch : Arch
  base : UInt64
  deriving DecidableEq

namespace VectorTable

def size (table : VectorTable) : Nat :=
  table.arch.vectorCount

/-- The slot of a vector, wherever the table ends. -/
def slot (table : VectorTable) (vector : UInt64) : VectorEntry :=
  let info := table.arch.vectorInfo vector
  { vector
    trapClass := info.trapClass
    target := table.base + vector * table.arch.vectorStride
    minPrivilege := info.minPrivilege
    assigned := info.assigned }

/-- The entry of a vector; vectors past the end have none. -/
def lookup (table : VectorTable) (vector : UInt64) : Option VectorEntry :=
  if vector.toNat < table.size then some (table.slot vector) else none

theorem lookup_eq_none_iff (table : VectorTable) (vector : UInt64) :
    table.lookup vector = none ↔ table.size ≤ vector.toNat := by
  simp [lookup]

theorem eq_slot_of_lookup {table : VectorTable} {vector : UInt64} {entry : VectorEntry}
    (h : table.lookup vector = some entry) : entry = table.slot vector := by
  unfold lookup at h
  split at h
  · exact (Option.some.inj h).symm
  · cases h

/-- All entries, in the order of the vectors. -/
def entries (table : VectorTable) : List VectorEntry :=
  (List.range table.size).map fun vector => table.slot (UInt64.ofNat vector)

/-- Entries with a defined meaning. -/
def assignedCount (table : VectorTable) : Nat :=
  (table.entries.filter (·.assigned)).length

/-- The table as it appears in traces. -/
def trace (table : VectorTable) : String :=
  "VectorTable \x7b arch: " ++ table.arch.traceName
    ++ ", base: " ++ hexMarked table.base.toNat
    ++ s!", len: {table.size}" ++ " \x7d"

end VectorTable
end TrapDispatch
