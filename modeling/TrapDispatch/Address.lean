import TrapDispatch.Text.Hexadecimal

/-!
# Virtual addresses

An address is a 64-bit word; it is printed with sixteen hexadecimal digits.
-/

namespace TrapDispatch

/-- A virtual address. -/
structure Address where
  word : UInt64
  deriving DecidableEq, Repr, Inhabited

namespace Address

def pageSize : UInt64 := 4096

/-- First address of the page that holds an address. -/
def page (address : Address) : UInt64 :=
  address.word &&& ~~~(pageSize - 1)

/-- Sixteen digits behind `0x`. -/
def text (address : Address) : String :=
  "0x" ++ hexPadded 16 address.word.toNat

/-- The address as it appears in traces. -/
def trace (address : Address) : String :=
  s!"VirtAddr({address.text})"

end Address

/-- What a memory access tried to do. -/
inductive Access where
  | read
  | write
  | execute
  deriving DecidableEq, Repr, Inhabited

def Access.name : Access → String
  | .read => "Read"
  | .write => "Write"
  | .execute => "Execute"

end TrapDispatch
