import TrapDispatch.Kernel.Machine

/-!
# System calls of a kernel

A call is looked up by number, then checked in order for privilege, shape and
pointers; only then does its handler run. What the handler asks for is served
here.
-/

namespace TrapDispatch.Kernel

variable {σ : Type} (kernel : Kernel σ) (server : Server σ)

def schedule (shown : Frame) (reason : ScheduleReason) : Dispatch σ NextContext :=
  kernel.call server (.schedule shown reason)

/-- Waits at the scheduler. A switch that the scheduler chooses is kept for later. -/
def wait (shown : Frame) : Dispatch σ (Except ErrorCode Unit) := do
  if let .switch next ← kernel.schedule server shown .blocked then
    Dispatch.modifyRequests (·.keepSwitch next)
  return .ok ()

/-- Waits at the scheduler, unless the call is interruptible and a signal is pending. -/
def block (shown : Frame) : Dispatch σ (Except ErrorCode Unit) := do
  if (← Dispatch.requests).interruptible then
    if ← kernel.call server .signalPending then return .error .eintr
  kernel.wait server shown

/-- Hands out the reschedule that was asked for, once. -/
def takeDeferred : Dispatch σ (Option ScheduleReason) := do
  let (deferred, rest) := (← Dispatch.requests).takeDeferred
  Dispatch.modifyRequests fun _ => rest
  return deferred

/-- Hands out the switch that was kept, once. -/
def takeSwitch : Dispatch σ (Option Frame) := do
  let (switch, rest) := (← Dispatch.requests).takeSwitch
  Dispatch.modifyRequests fun _ => rest
  return switch

/-- Replies to the requests of a handler. -/
def serveHandler : (op : HandlerRequest σ) → Dispatch σ op.Reply
  | .base op => server.reply op
  | .frame => Dispatch.frame
  | .setFrame frame => Dispatch.modifyFrame fun _ => frame
  | .block shown => kernel.block server shown
  | .defer reason => Dispatch.modifyRequests (·.defer reason)
  | .takeDeferred => takeDeferred
  | .takeSwitch => takeSwitch
  | .pid => kernel.call server .pid
  | .userRange => kernel.call server .userRange
  | .terminate reason => kernel.call server (.terminate reason)
  | .signalPending => kernel.call server .signalPending
  | .write file buffer => kernel.call server (.write file buffer)
  | .read file buffer => kernel.call server (.read file buffer)

def runHandler (descriptor : CallDescriptor σ) (arguments : Arguments) :
    Dispatch σ CallResult :=
  Dispatch.during (.handler descriptor.shape.number arguments)
    (Program.run (S := handlerSignature σ) (kernel.serveHandler server) server.bound
      (descriptor.handler arguments))

/-- The argument words a call uses, as they appear in traces. -/
def wordsTrace (shape : CallShape) (words : ArgumentWords) : String :=
  ", ".intercalate ((words.toList.take shape.width).map fun word => hexDigits word.toNat)

/-- Checks a system call and runs its handler. -/
def serveCall (number : UInt64) (words : ArgumentWords) (frame : Frame) :
    Dispatch σ CallResult := do
  match kernel.syscalls.lookup number with
  | none =>
    recordAt .debug LogTarget.syscall s!"syscall: unknown number {number}"
    return .error .enosys
  | some descriptor =>
    let shape := descriptor.shape
    let caller := frame.privilege
    if caller.permits shape.minPrivilege = false then
      recordAt .debug LogTarget.syscall s!"syscall: {shape.name} denied to {caller.name} caller"
      return .error .eperm
    match shape.check words with
    | .error code => return .error code
    | .ok () =>
      let window ← kernel.call server .userRange
      match shape.validate words ⟨window, frame.arch.userTop⟩ caller with
      | .error code => return .error code
      | .ok arguments =>
        recordAt .trace LogTarget.syscall s!"syscall: {shape.name}[{wordsTrace shape words}]"
        Dispatch.modifyRequests fun requests =>
          { requests with interruptible := shape.interruptible }
        kernel.runHandler server descriptor arguments

/-- Makes a system call on the frame of the trap. -/
def systemCall (number : UInt64) (words : ArgumentWords) : Dispatch σ CallResult := do
  let frame ← Dispatch.frame
  Dispatch.during (.systemCall number words frame) (kernel.serveCall server number words frame)

end TrapDispatch.Kernel
