import TrapDispatch.Frame.Text
import TrapDispatch.Interrupt.Scope
import TrapDispatch.Kernel.SystemCall

/-!
# Traps

A trap is accepted on an idle CPU, or while a handler runs with interrupts on;
anything else means that the masked part of the dispatch path has faulted. An
accepted trap is classified and sent on its way: page faults on user memory to
the memory manager, breakpoints past their instruction, interrupts to the handler
of their line, system calls to the table, and all else ends the thread or the
kernel. On the way out the CPU gets back the state it had.
-/

namespace TrapDispatch.Kernel

variable {σ : Type} (kernel : Kernel σ) (server : Server σ)

/-- Sets the dispatch state of a CPU. -/
def setState (cpu : Fin maxCpus) (state : DispatchState) (masked : Bool) : Dispatch σ Unit :=
  Dispatch.setSlot cpu fun slot => { slot with state, masked }

/-- Whether a trap may arrive in a slot. -/
def accepts (slot : CpuSlot) : Bool :=
  match slot.state with
  | .idle => true
  | .handlerRunning => !slot.masked
  | _ => false

/-- What is said of a trap that may not arrive. -/
def refusal (cpu : Fin maxCpus) (slot : CpuSlot) (frame : Frame) : String :=
  s!"cpu{cpu.val}: trap on vector {frame.vector} while {slot.state.name} "
    ++ "with interrupts masked\n" ++ frame.trace

/-- Refuses a trap that may not arrive; gives the slot as it is. -/
def acceptTrap (cpu : Fin maxCpus) : Dispatch σ CpuSlot := do
  let slot := (← Dispatch.machine).slots.get cpu
  let frame ← Dispatch.frame
  if accepts slot then return slot
  else Dispatch.fatal (refusal cpu slot frame)

def enterSlot (cpu : Fin maxCpus) : Dispatch σ Unit :=
  Dispatch.setSlot cpu fun slot =>
    { state := .trapEntered, masked := true, depth := slot.depth + 1 }

/-- Gives the slot back the state it had when the trap arrived. -/
def leaveSlot (cpu : Fin maxCpus) (outer : CpuSlot) : Dispatch σ Unit :=
  Dispatch.setSlot cpu fun slot =>
    { state := outer.state, masked := outer.masked, depth := slot.depth - 1 }

/-- Lets interrupts in while a computation runs. -/
def interruptible {α : Type} (cpu : Fin maxCpus) (body : Dispatch σ α) : Dispatch σ α := do
  setState cpu .handlerRunning false
  kernel.call server .enableInterrupts
  let value ← body
  kernel.call server .disableInterrupts
  setState cpu .handlerRunning true
  return value

/-- Lets the scheduler pick the context to return to. A terminated thread must
not be resumed. -/
def reschedule (reason : ScheduleReason) : Dispatch σ Unit := do
  match ← kernel.schedule server (← Dispatch.frame) reason with
  | .switch next => Dispatch.modifyFrame (·.switchTo next)
  | .continue =>
    if reason = .terminated then Dispatch.fatal "scheduler resumed a terminated thread"

/-- Ends the thread that raised a fault, or the kernel if the fault is its own.
The process is asked for its number only if the record is kept. -/
def fatalException (kind : ExceptionKind) : Dispatch σ Outcome := do
  let frame ← Dispatch.frame
  if kind.isAlwaysFatal ∨ frame.privilege ≠ .user then
    Dispatch.fatal (s!"{kind.trace} in {frame.privilege.name} mode at "
      ++ hexMarked frame.counter.toNat ++ "\n" ++ frame.trace)
  if (← Dispatch.machine).log.filter.admits .warn then
    let pid ← kernel.call server .pid
    recordAt .warn LogTarget.dispatch
      s!"pid {pid}: {kind.trace} at {hexMarked frame.counter.toNat}, terminating thread"
  kernel.call server (.terminate (.fault kind))
  Dispatch.count Stats.recordKilled
  kernel.reschedule server .terminated
  return .threadTerminated

/-- Faults through a vector without a meaning. -/
def defaultFault (cpu : Fin maxCpus) : Dispatch σ Outcome := do
  setState cpu .handlerRunning true
  let vector := (← Dispatch.frame).vector
  recordAt .warn LogTarget.dispatch s!"trap through unassigned vector {vector}"
  kernel.fatalException server (.other vector)

/-- Asks the memory manager about a fault on memory that the origin may name. -/
def resolve (address : Address) (access : Access) : Dispatch σ Bool := do
  let frame ← Dispatch.frame
  let window ← kernel.call server .userRange
  let guard : AddressGuard := ⟨window, frame.arch.userTop⟩
  if guard.isValid address.word 1 frame.privilege then
    kernel.call server (.resolveFault address access)
  else return false

/-- Handles a processor exception, with interrupts off throughout. -/
def exception (cpu : Fin maxCpus) (kind : ExceptionKind) : Dispatch σ Outcome := do
  setState cpu .handlerRunning true
  let frame ← Dispatch.frame
  match kind with
  | .pageFault address access =>
    if ← kernel.resolve server address access then
      Dispatch.count Stats.recordResolved
      return .resumed
    else kernel.fatalException server kind
  | .breakpoint =>
    recordAt .info LogTarget.dispatch
      s!"breakpoint at {hexMarked frame.counter.toNat} ({frame.privilege.name} mode)"
    Dispatch.modifyFrame (·.advance (breakpointLength frame))
    return .resumed
  | .debug =>
    recordAt .debug LogTarget.dispatch s!"debug trap at {hexMarked frame.counter.toNat}"
    return .resumed
  | kind => kernel.fatalException server kind

/-- Runs a device handler; gives the cycles that it took. -/
def timeDevice (irq : Irq) (handler : HandlerId) : Dispatch σ UInt64 := do
  let start ← kernel.call server .cycles
  kernel.call server (.device handler irq)
  return (← kernel.call server .cycles) - start

/-- Runs a device handler with interrupts on, and watches its budget. -/
def runDevice (cpu : Fin maxCpus) (irq : Irq) (handler : HandlerId) : Dispatch σ Unit := do
  let elapsed ← kernel.interruptible server cpu (kernel.timeDevice server irq handler)
  let budget := kernel.config.budget
  if 0 < budget ∧ budget < elapsed then
    Dispatch.count Stats.recordOverrun
    recordAt .warn LogTarget.dispatch
      s!"{irq.text}: handler ran {elapsed} cycles, budget {budget}"

/-- Applies the policy for lines without a handler. -/
def unhandled (scope : AckScope) : Dispatch σ AckScope := do
  let irq := scope.irq
  Dispatch.count Stats.recordUnhandled
  let total := (← Dispatch.machine).stats.unhandled
  if isPowerOfTwo total then
    recordAt .warn LogTarget.dispatch s!"{irq.text}: no handler ({total} unhandled so far)"
  match kernel.config.policy with
  | .recordAndContinue => return scope
  | .maskLine =>
    recordAt .warn LogTarget.dispatch s!"{irq.text}: masking line without a handler"
    return { scope with keepMasked := true }
  | .panic => Dispatch.fatal s!"{irq.text} has no handler"

/-- The enabled handler of a line. -/
def enabledHandler (irq : Irq) : Dispatch σ (Option HandlerEntry) := do
  let entry ← Dispatch.withRegistry fun registry => (registry.lookup irq, registry)
  Dispatch.note (.lookup irq entry)
  return entry.filter (·.enabled)

/-- Services a line within its scope; tells whether anyone claimed it. -/
def serviceLine (cpu : Fin maxCpus) (irq : Irq) (scope : AckScope) :
    Dispatch σ (Bool × AckScope) := do
  let entry ← enabledHandler irq
  if let some entry := entry then
    kernel.runDevice server cpu irq entry.handler
  if entry.isSome || kernel.config.isTimer irq then return (true, scope)
  else return (false, ← kernel.unhandled scope)

/-- Services a line within a scope that is open. -/
def serviceScope (cpu : Fin maxCpus) (scope : AckScope) : Dispatch σ Bool :=
  Dispatch.during (.scope scope.irq)
    (scope.servicing (kernel.controller server) (kernel.serviceLine server cpu scope.irq scope))

def interrupt (cpu : Fin maxCpus) : Dispatch σ Outcome := do
  let vector := (← Dispatch.frame).vector
  match ← kernel.call server (.pending vector) with
  | none =>
    Dispatch.count Stats.recordSpurious
    recordAt .warn LogTarget.dispatch
      s!"{kernel.services.controllerName}: spurious interrupt on vector {vector}"
    return .spurious
  | some irq =>
    let scope ← AckScope.opened (kernel.controller server) irq
    let handled ← kernel.serviceScope server cpu scope
    if kernel.config.isTimer irq then kernel.reschedule server .tick
    return if handled then .irqHandled irq else .unhandled irq

/-- Does what a system call has asked for: a reschedule goes before a switch. -/
def settle : Dispatch σ Unit := do
  match ← takeDeferred with
  | some reason => kernel.reschedule server reason
  | none =>
    match ← takeSwitch with
    | some next => Dispatch.modifyFrame (·.switchTo next)
    | none => return ()

/-- Handles a system call trap; the call runs with interrupts on, and its result
is written back before any reschedule. -/
def syscallTrap (cpu : Fin maxCpus) (convention : Convention) : Dispatch σ Outcome := do
  let frame ← Dispatch.frame
  let number := convention.numberIn frame
  let words := convention.argumentsIn frame
  let result ← kernel.interruptible server cpu (kernel.systemCall server number words)
  if let .error code := result then
    Dispatch.count (·.recordError code)
    recordAt .debug LogTarget.dispatch s!"syscall {number} failed: {code.message}"
  Dispatch.modifyFrame fun frame =>
    (frame.setReturnValue result.encode).advance convention.advance
  kernel.settle server
  return .syscall result

/-- Classifies a trap, counts it, and sends it on its way. -/
def route (cpu : Fin maxCpus) : Dispatch σ Outcome := do
  let frame ← Dispatch.frame
  match kernel.vectors.lookup frame.vector with
  | none =>
    Dispatch.count (·.recordTrap frame.vector .exception false)
    setState cpu .classified true
    kernel.defaultFault server cpu
  | some entry =>
    Dispatch.count (·.recordTrap entry.vector entry.trapClass entry.assigned)
    setState cpu .classified true
    match Cause.ofTrap frame entry with
    | .exception kind => kernel.exception server cpu kind
    | .interrupt => kernel.interrupt server cpu
    | .syscall convention => kernel.syscallTrap server cpu convention
    | .unassigned => kernel.defaultFault server cpu

/-- Sends a trap on its way, and gets ready to restore its context. -/
def serveTrap (cpu : Fin maxCpus) : Dispatch σ Outcome := do
  let outcome ← kernel.route server cpu
  setState cpu .restoring true
  let vector := (← Dispatch.frame).vector
  recordAt .trace LogTarget.dispatch s!"cpu{cpu.val}: vector {vector} -> {outcome.trace}"
  return outcome

/-- Carries out a trap that a CPU accepts in the slot `outer`. -/
def carryOut (cpu : Fin maxCpus) (outer : CpuSlot) : Dispatch σ Outcome := do
  enterSlot cpu
  let outcome ← kernel.serveTrap server cpu
  leaveSlot cpu outer
  return outcome

/-- Handles the trap whose frame is at hand. -/
def handleTrap : Dispatch σ Outcome := do
  let id ← kernel.call server .cpuId
  if h : id.toNat < maxCpus then
    let cpu : Fin maxCpus := ⟨id.toNat, h⟩
    let outer ← acceptTrap cpu
    let frame ← Dispatch.frame
    Dispatch.during (.trap cpu frame) (kernel.carryOut server cpu outer)
  else Dispatch.fatal s!"trap on cpu{id} beyond {maxCpus} supported"

end TrapDispatch.Kernel
