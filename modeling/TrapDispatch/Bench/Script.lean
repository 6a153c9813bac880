import TrapDispatch.Bench.Registers
import TrapDispatch.Encoding
import TrapDispatch.Kernel.Machine

/-!
# Scripts

What can be done on the bench, step by step, what a step gives, and what the
services note while it runs. Handlers and fault hooks are scripts too.
-/

namespace TrapDispatch.Bench

/-- Operations of the controller under test. -/
inductive ControlCall where
  | name
  | triggerMode (irq : Irq)
  | pending (vector : UInt64)
  | mask (irq : Irq)
  | unmask (irq : Irq)
  | acknowledge (irq : Irq)
  | endOfInterrupt (irq : Irq)
  | setPriority (irq : Irq) (level : UInt8)
  /-- The highest pending line of a GIC. -/
  | peek
  /-- The version of a GIC. -/
  | version
  /-- Whether a local line of a PLIC is masked. -/
  | isLocalMasked (irq : Irq)

/-- An access to the word-only block. -/
inductive WordAccess where
  | read8 (offset : UInt64)
  | write8 (offset : UInt64) (byte : UInt8)
  | read32 (offset : UInt64)
  | write32 (offset : UInt64) (word : UInt32)

/-- What a read of file 0 finds. -/
inductive ReadReply where
  | error (code : ErrorCode)
  | wouldBlock
  | data (bytes : List UInt8)

/-- One step of a script. -/
inductive Step where
  /-- Takes a trap, unless the CPU is at the nesting depth `ceiling` already. -/
  | trap (frame : Frame) (ceiling : Option Nat)
  /-- Captures a raw frame, takes the trap and restores. -/
  | trapRaw (raw : RawFrame) (ceiling : Option Nat)
  | enter (frame : Frame)
  | install
  | syscall (number : UInt64) (words : ArgumentWords) (frame : Frame)
  | probe (cpu : Option UInt64)
  | stats (vectors : List UInt64) (codes : List ErrorCode)
  | config (irqs : List Irq)
  | control (call : ControlCall)
  /-- Runs a script within an acknowledgement scope. -/
  | guard (irq : Irq) (keepMasked : Bool) (script : List Step)
  | set (block : String) (offset : UInt64) (word : UInt32)
  | onRead (block : String) (offset : UInt64) (word : UInt32)
  | queue (block : String) (offset : UInt64) (words : List UInt32)
  | io (access : WordAccess)
  | level (irq : Irq)
  | spurious (vector : UInt64)
  | register (spare : Bool) (irq : Irq) (driver : UInt32) (id : String) (script : List Step)
  | unregister (spare : Bool) (id : String)
  | enable (spare : Bool) (id : String) (on : Bool)
  | lookup (spare : Bool) (irq : Irq)
  | registered (spare : Bool) (irq : Irq)
  | same (id other : String)
  /-- Runs the handler that is registered for a line. -/
  | call (spare : Bool) (irq : Irq)
  | reply (next : NextContext)
  | back (address : UInt64)
  | onFault (script : List Step)
  | process (pid : Option UInt64) (window : Option UserRange) (signal : Option Bool)
  | cpu (id now pace : Option UInt64)
  | queueRead (reply : ReadReply)
  | queueWrite (result : CallResult)
  | poke (offset : UInt64) (bytes : List UInt8)
  | peek (offset : UInt64) (length : Nat)
  | panic (message : String)
  /-- The remaining steps work in system call handlers only. -/
  | block
  | defer (reason : ScheduleReason)
  | takeDeferred
  | takeSwitch
  | argBytes (index : Nat)
  | answer (value : UInt64)
  | fail (code : ErrorCode)

/-- What a step gives. -/
inductive Result where
  | nothing
  /-- A change was made. -/
  | accepted
  /-- The CPU was at the nesting depth already. -/
  | skipped
  /-- The handler of a line was run. -/
  | invoked
  /-- The line has no handler. -/
  | noHandler
  /-- No handle was ever kept under the name. -/
  | noHandle
  /-- There is no buffer, or it does not lie in user memory. -/
  | unmapped
  | text (value : String)
  | mode (mode : TriggerMode)
  | flag (value : Bool)
  | number (value : Nat)
  | word (value : UInt64)
  | bytes (value : List UInt8)
  | failure (message : String)
  | trapped (outcome : Outcome) (frame : Frame)
  | trappedRaw (outcome : Outcome) (dirty : Dirty) (raw : RawFrame)
  | frame (frame : Frame)
  | called (report : CallReport) (deferredAgain : Bool)
  | probed (slot : CpuSlot) (interrupts : Bool)
  | stats (stats : Stats) (vectors : List UInt64) (codes : List ErrorCode)
  | config (config : Config) (irqs : List Irq) (table : VectorTable)
  | registered (irq : Irq)
  | entry (entry : HandlerEntry)
  | deferred (reason : Option ScheduleReason)
  | switch (next : Option Frame)
  /-- The step did not end with a value. -/
  | stopped (stop : Stop) (frame : Option Frame)

/-- Calls that change a line. -/
inductive LineOperation where
  | mask
  | unmask
  | acknowledge
  | endOfInterrupt
  deriving DecidableEq, Repr

/-- Calls that change the local interrupts of a hart. -/
inductive LocalOperation where
  | enable
  | disable
  | clearPending
  deriving DecidableEq, Repr

/-- What the services note. -/
inductive Note where
  | read (block : String) (wide : Bool) (offset : UInt64) (value : UInt32)
  | written (block : String) (wide : Bool) (offset : UInt64) (value : UInt32)
  | localInterrupts (operation : LocalOperation) (bits : UInt64)
  | pending (vector : UInt64)
  | line (operation : LineOperation) (irq : Irq)
  | scheduled (shown : Frame) (reason : ScheduleReason)
  | fault (address : Address) (access : Access)
  | terminated (reason : Termination)
  | fileWritten (file : UInt64) (buffer : UserBuffer) (bytes : Option (List UInt8))
  | fileRead (file : UInt64) (buffer : UserBuffer)
  | interruptsOn
  | interruptsOff
  | handler (number : UInt64) (arguments : Arguments)
  | device (id : String) (irq : Irq)
  | scope (irq : Irq) (mode : TriggerMode)
  | step (step : Step) (result : Result)

end TrapDispatch.Bench
