import TrapDispatch.Config
import TrapDispatch.Error
import TrapDispatch.Interrupt.Controller
import TrapDispatch.Interrupt.Registry
import TrapDispatch.Program
import TrapDispatch.Stats
import TrapDispatch.Syscall.Argument
import TrapDispatch.UserRange
import TrapDispatch.Vector.Table

/-!
# Services of a kernel

The dispatcher is embedded in a kernel whose services it calls: the interrupt
controller, device handlers, the scheduler, the memory manager, the process, its
files, and the CPU. A service is a program. It keeps its own data in a world of
the kernel's choice, and may ask the dispatcher to take further traps, to change
registrations, or to tell its state.
-/

namespace TrapDispatch

/-- Why the scheduler is called. -/
inductive ScheduleReason where
  | tick
  | yield
  | blocked
  | terminated
  deriving DecidableEq, Repr, Inhabited

def ScheduleReason.name : ScheduleReason → String
  | .tick => "Tick"
  | .yield => "Yield"
  | .blocked => "Blocked"
  | .terminated => "Terminated"

/-- Context to resume after a scheduler call. -/
inductive NextContext where
  | continue
  | switch (next : Frame)
  deriving DecidableEq

/-- Why a thread ends. -/
inductive Termination where
  | exit (status : Int32)
  | fault (kind : ExceptionKind)
  deriving DecidableEq

/-- Progress of a read that does not wait. -/
inductive IoProgress where
  | done (count : UInt64)
  | wouldBlock
  deriving DecidableEq, Repr

/-- How a trap ended. -/
inductive Outcome where
  /-- The interrupted context goes on. -/
  | resumed
  | irqHandled (irq : Irq)
  /-- The controller had nothing pending. -/
  | spurious
  /-- No enabled handler claimed the line. -/
  | unhandled (irq : Irq)
  | syscall (result : CallResult)
  | threadTerminated
  deriving DecidableEq

/-- The outcome as it appears in traces. -/
def Outcome.trace : Outcome → String
  | .resumed => "Resumed"
  | .irqHandled irq => s!"IrqHandled({irq.trace})"
  | .spurious => "Spurious"
  | .unhandled irq => s!"Unhandled({irq.trace})"
  | .syscall result => s!"Syscall({result.trace})"
  | .threadTerminated => "ThreadTerminated"

/-- Position of a CPU in the dispatch path. -/
inductive DispatchState where
  | idle
  | trapEntered
  | classified
  | handlerRunning
  | restoring
  deriving DecidableEq, Repr, Inhabited

def DispatchState.name : DispatchState → String
  | .idle => "Idle"
  | .trapEntered => "TrapEntered"
  | .classified => "Classified"
  | .handlerRunning => "HandlerRunning"
  | .restoring => "Restoring"

/-- Dispatch state of one CPU. -/
structure CpuSlot where
  state : DispatchState := .idle
  /-- Whether the dispatch path holds interrupts off. -/
  masked : Bool := false
  /-- Traps in progress. -/
  depth : Nat := 0
  deriving DecidableEq, Repr, Inhabited

/-- Whether a slot is at a nesting depth already, if one is given. -/
def CpuSlot.reaches (slot : CpuSlot) (ceiling : Option Nat) : Bool :=
  ceiling.any (· ≤ slot.depth)

/-- What a system call has asked for, to be done once it has returned. -/
structure CallRequests where
  deferred : Option ScheduleReason := none
  switch : Option Frame := none
  /-- Whether a pending signal ends a wait of this call. -/
  interruptible : Bool := false
  deriving DecidableEq

namespace CallRequests

/-- Asks for a reschedule; one for a terminated thread is never replaced. -/
def defer (requests : CallRequests) (reason : ScheduleReason) : CallRequests :=
  if requests.deferred = some .terminated then requests
  else { requests with deferred := some reason }

/-- Keeps a switch for later; the latest wins. -/
def keepSwitch (requests : CallRequests) (next : Frame) : CallRequests :=
  { requests with switch := some next }

/-- Hands out the reschedule that was asked for. -/
def takeDeferred (requests : CallRequests) : Option ScheduleReason × CallRequests :=
  (requests.deferred, { requests with deferred := none })

/-- Hands out the switch that was kept. -/
def takeSwitch (requests : CallRequests) : Option Frame × CallRequests :=
  (requests.switch, { requests with switch := none })

end CallRequests

/-- What a call made outside of any trap leaves behind. -/
structure CallReport where
  result : CallResult
  requests : CallRequests
  frame : Frame

/-- Requests that every service can make. -/
inductive Request (σ : Type) where
  /-- The services' own data. -/
  | world
  | setWorld (world : σ)
  | log (record : Record)
  /-- Takes a trap with this frame on the current CPU. -/
  | trap (frame : Frame)
  /-- Takes a trap the way a trampoline does, through the installed dispatcher. -/
  | enter (frame : Frame)
  /-- Installs the dispatcher. -/
  | install
  /-- Runs a device handler. -/
  | invoke (handler : HandlerId) (irq : Irq)
  /-- Makes a system call with a frame, outside of any trap. -/
  | call (number : UInt64) (words : ArgumentWords) (frame : Frame)
  | register (irq : Irq) (driver : UInt32) (handler : HandlerId)
  | unregister (handle : RegistrationHandle)
  | setEnabled (handle : RegistrationHandle) (enabled : Bool)
  | lookup (irq : Irq)
  /-- Dispatch state of a CPU. -/
  | slot (cpu : UInt64)
  | stats
  /-- Configuration and vector table of the dispatcher. -/
  | settings

abbrev Request.Reply {σ : Type} : Request σ → Type
  | world => σ
  | setWorld _ => Unit
  | log _ => Unit
  | trap _ => Outcome × Frame
  | enter _ => Frame
  | install => Unit
  | invoke _ _ => Unit
  | call _ _ _ => CallReport
  | register _ _ _ => Except RegistryError RegistrationHandle
  | unregister _ => Except RegistryError Unit
  | setEnabled _ _ => Except RegistryError Unit
  | lookup _ => Option HandlerEntry
  | slot _ => CpuSlot
  | stats => Stats
  | settings => Config × VectorTable

abbrev serviceSignature (σ : Type) : Signature := ⟨Request σ, Request.Reply⟩

/-- A program of a service over the world `σ`. -/
abbrev ServiceProgram (σ : Type) := Program (serviceSignature σ)

namespace ServiceProgram

variable {σ : Type}

def ask (op : Request σ) : ServiceProgram σ op.Reply :=
  Program.ask (S := serviceSignature σ) op

instance : MonadRecord (ServiceProgram σ) := ⟨fun r => ask (.log r)⟩

def world : ServiceProgram σ σ := ask .world

def modifyWorld (change : σ → σ) : ServiceProgram σ Unit := do
  ask (.setWorld (change (← world)))

end ServiceProgram

/-- Calls that the dispatcher makes to the services. -/
inductive Call where
  | cpuId
  | enableInterrupts
  | disableInterrupts
  | cycles
  | triggerMode (irq : Irq)
  | pending (vector : UInt64)
  | mask (irq : Irq)
  | unmask (irq : Irq)
  | acknowledge (irq : Irq)
  | endOfInterrupt (irq : Irq)
  | device (handler : HandlerId) (irq : Irq)
  | schedule (shown : Frame) (reason : ScheduleReason)
  | resolveFault (address : Address) (access : Access)
  | pid
  | userRange
  | terminate (reason : Termination)
  | signalPending
  | write (file : UInt64) (buffer : UserBuffer)
  | read (file : UInt64) (buffer : UserBuffer)
  deriving DecidableEq

abbrev Call.Reply : Call → Type
  | cpuId => UInt64
  | enableInterrupts => Unit
  | disableInterrupts => Unit
  | cycles => UInt64
  | triggerMode _ => TriggerMode
  | pending _ => Option Irq
  | mask _ => Unit
  | unmask _ => Unit
  | acknowledge _ => Unit
  | endOfInterrupt _ => Unit
  | device _ _ => Unit
  | schedule _ _ => NextContext
  | resolveFault _ _ => Bool
  | pid => UInt64
  | userRange => UserRange
  | terminate _ => Unit
  | signalPending => Bool
  | write _ _ => CallResult
  | read _ _ => Except ErrorCode IoProgress

/-- The services of a kernel over the world `σ`. -/
structure Services (σ : Type) where
  /-- Name of the interrupt controller. -/
  controllerName : String
  /-- The program behind every call. -/
  perform : (c : Call) → ServiceProgram σ c.Reply

end TrapDispatch
