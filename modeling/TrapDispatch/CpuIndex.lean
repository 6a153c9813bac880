/-!
# CPU indices

Hardware identifiers of processors can be sparse; dispatch state is kept under
dense indices, handed out in the order in which identifiers are first seen.
-/

namespace TrapDispatch

/-- Processors with dispatch state of their own. -/
def maxCpus : Nat := 8

/-- The tags that hold the indices. A tag is the identifier plus one, modulo
2^64, and the tag zero marks an index that is free. -/
structure CpuIndexMap where
  tags : Vector UInt64 maxCpus := Vector.replicate maxCpus 0

namespace CpuIndexMap

/-- Whether the index with this tag may be given to an identifier. -/
def fits (id tag : UInt64) : Bool :=
  tag = 0 || tag = id + 1

/-- The first index that is free or already the identifier's own, with the map
that has it claimed; nothing if all indices belong to others. -/
def indexOf (map : CpuIndexMap) (id : UInt64) : Option (Fin maxCpus × CpuIndexMap) :=
  match (List.finRange maxCpus).find? fun index => fits id map.tags[index] with
  | some index => some (index, { tags := map.tags.set index (id + 1) })
  | none => none

end CpuIndexMap
end TrapDispatch
