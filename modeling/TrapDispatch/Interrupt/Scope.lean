import TrapDispatch.Interrupt.Controller
import TrapDispatch.Log.Record
import TrapDispatch.Log.Target
import TrapDispatch.Program

/-!
# Acknowledgement scopes

An interrupt is acknowledged and ended by the scope in which it is serviced, not
by its handler. Opening a scope masks the line and acknowledges it if it is
level-triggered. Closing acknowledges an edge-triggered line, ends the interrupt
and unmasks the line; it also happens when a panic unwinds through the scope.
-/

namespace TrapDispatch

/-- An open scope. -/
structure AckScope where
  irq : Irq
  mode : TriggerMode
  /-- Leave the line masked on closing. -/
  keepMasked : Bool := false
  deriving DecidableEq, Repr

namespace AckScope

variable {m : Type → Type u} [Monad m] [MonadRecord m]

def opened (controller : Controller m) (irq : Irq) : m AckScope := do
  let mode ← controller.triggerMode irq
  controller.mask irq
  if mode = .level then controller.acknowledge irq
  recordAt .trace LogTarget.acknowledge s!"{controller.name}: {irq.text} entered ({mode.name})"
  return { irq, mode }

def close (controller : Controller m) (scope : AckScope) : m Unit := do
  if scope.mode = .edge then controller.acknowledge scope.irq
  controller.endOfInterrupt scope.irq
  if scope.keepMasked = false then controller.unmask scope.irq
  recordAt .trace LogTarget.acknowledge s!"{controller.name}: {scope.irq.text} done"

/-- Services a line in an open scope, then closes it. The service may change how
the scope closes; a panic closes it as it was. -/
def servicing [MonadUnwind m] {α : Type} (controller : Controller m) (scope : AckScope)
    (service : m (α × AckScope)) : m α := do
  let (value, scope) ← onPanic service (scope.close controller)
  scope.close controller
  return value

end AckScope
end TrapDispatch
