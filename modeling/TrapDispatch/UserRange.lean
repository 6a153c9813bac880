import TrapDispatch.Privilege

/-!
# User address windows

A thread may only hand over memory inside its window and below the top of the
user half. The guard decides this for a pointer and a length; a range that
wraps around the address space, or touches the kernel half, is refused.
-/

namespace TrapDispatch

/-- Half-open window of user addresses. -/
structure UserRange where
  start : UInt64
  stop : UInt64
  start_le_stop : start ≤ stop
  deriving DecidableEq

namespace UserRange

/-- Window between two addresses; an inverted pair gives an empty window. -/
def between (start stop : UInt64) : UserRange :=
  if h : start ≤ stop then ⟨start, stop, h⟩ else ⟨start, start, UInt64.le_refl start⟩

/-- Window of a base and a length, cut off at the last address. -/
def ofLength (start length : UInt64) : UserRange :=
  between start (if start + length < start then 0xFFFFFFFFFFFFFFFF else start + length)

instance : Inhabited UserRange := ⟨between 0 0⟩

/-- Whether an address lies in the window. -/
def contains (window : UserRange) (address : UInt64) : Bool :=
  window.start ≤ address && address < window.stop

theorem contains_iff (window : UserRange) (address : UInt64) :
    window.contains address = true ↔ window.start ≤ address ∧ address < window.stop := by
  simp [contains]

end UserRange

/-- Decides which memory a less privileged caller may name. -/
structure AddressGuard where
  window : UserRange
  userTop : UInt64

namespace AddressGuard

/-- Whether `[start, stop)` reaches the kernel half. -/
def overlapsKernel (userTop start stop : UInt64) : Bool :=
  userTop < stop || userTop ≤ start

/-- Whether `length` bytes at `pointer` may be used on behalf of a requester. -/
def isValid (guard : AddressGuard) (pointer length : UInt64) (requester : Privilege) : Bool :=
  let stop := pointer + length
  if requester = .monitor then false
  else if pointer = 0 then false
  else if stop < pointer then false
  else if overlapsKernel guard.userTop pointer stop then false
  else if length = 0 then guard.window.contains pointer
  else guard.window.start ≤ pointer && stop ≤ guard.window.stop

end AddressGuard
end TrapDispatch
