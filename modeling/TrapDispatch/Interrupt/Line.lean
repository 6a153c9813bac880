/-!
# Interrupt lines
-/

namespace TrapDispatch

/-- A line of an interrupt controller. -/
structure Irq where
  number : UInt32
  deriving DecidableEq, Repr, Inhabited

namespace Irq

def text (irq : Irq) : String :=
  s!"IRQ{irq.number}"

/-- The line as it appears in traces. -/
def trace (irq : Irq) : String :=
  s!"IrqNumber({irq.number})"

theorem eq_of_toNat {irq other : Irq} (h : irq.number.toNat = other.number.toNat) :
    irq = other := by
  cases irq
  cases other
  exact congrArg Irq.mk (UInt32.toNat_inj.mp h)

end Irq

/-- How a line signals. -/
inductive TriggerMode where
  | edge
  | level
  deriving DecidableEq, Repr, Inhabited

def TriggerMode.name : TriggerMode → String
  | .edge => "Edge"
  | .level => "Level"

end TrapDispatch
