import TrapDispatch.Interrupt.Line

/-!
# Interrupt controllers

The operations that the dispatcher needs of a controller, in whatever
computations its driver runs.
-/

namespace TrapDispatch

/-- Why a priority was not set. -/
inductive ControllerError where
  | priorityUnsupported
  | invalidIrq (irq : Irq)
  | invalidPriority (level : UInt8)
  deriving DecidableEq, Repr

def ControllerError.message : ControllerError → String
  | .priorityUnsupported => "per-line priority not supported"
  | .invalidIrq irq => s!"{irq.text} does not exist on this controller"
  | .invalidPriority level => s!"priority {level} out of range"

/-- A controller whose operations are computations in `m`. -/
structure Controller (m : Type → Type u) where
  name : String
  /-- How a line signals. -/
  triggerMode : Irq → m TriggerMode
  /-- The line behind a vector; none if the interrupt was spurious. -/
  pending : UInt64 → m (Option Irq)
  mask : Irq → m Unit
  unmask : Irq → m Unit
  acknowledge : Irq → m Unit
  endOfInterrupt : Irq → m Unit
  setPriority : Irq → UInt8 → m (Except ControllerError Unit)

end TrapDispatch
