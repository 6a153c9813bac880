import TrapDispatch.CpuIndex
import TrapDispatch.Kernel.Service
import TrapDispatch.Syscall.Table

/-!
# Machine state

What a dispatcher keeps between traps, and the computations in which it works.
The journal holds what is done in the order in which it ends. An activity carries
whatever was done in the course of it, and the dispatch states of the CPUs before
and after; one that a panic cuts short is kept as well. A panic leaves the state
as it was when it was raised.
-/

namespace TrapDispatch

/-- Dispatch states by CPU. -/
abbrev CpuSlots := Vector CpuSlot maxCpus

namespace CpuSlots

def idle : CpuSlots := Vector.replicate maxCpus {}

/-- The slot of a CPU; a CPU without one counts as idle. -/
def ofCpu (slots : CpuSlots) (cpu : UInt64) : CpuSlot :=
  slots[cpu.toNat]?.getD {}

def put (slots : CpuSlots) (cpu : Fin maxCpus) (slot : CpuSlot) : CpuSlots :=
  slots.set cpu.val slot cpu.isLt

theorem get_put (slots : CpuSlots) (cpu other : Fin maxCpus) (slot : CpuSlot) :
    (slots.put cpu slot).get other = if other = cpu then slot else slots.get other := by
  change (slots.set cpu.val slot cpu.isLt)[other.val] = if other = cpu then slot else slots[other.val]
  rw [Vector.getElem_set]
  simp only [Fin.ext_iff, eq_comm]

@[simp] theorem get_put_self (slots : CpuSlots) (cpu : Fin maxCpus) (slot : CpuSlot) :
    (slots.put cpu slot).get cpu = slot := by
  rw [get_put, if_pos rfl]

theorem get_put_ne (slots : CpuSlots) {cpu other : Fin maxCpus} (slot : CpuSlot)
    (h : other ≠ cpu) : (slots.put cpu slot).get other = slots.get other := by
  rw [get_put, if_neg h]

@[simp] theorem get_idle (cpu : Fin maxCpus) : idle.get cpu = {} := by
  change (Vector.replicate maxCpus ({} : CpuSlot))[cpu.val] = {}
  rw [Vector.getElem_replicate]

theorem ext_get {first second : CpuSlots} (h : ∀ cpu, first.get cpu = second.get cpu) :
    first = second :=
  Vector.ext fun index hindex => h ⟨index, hindex⟩

end CpuSlots

/-- What is done, and what came of it. -/
inductive Event where
  /-- A call to a service. -/
  | service (call : Call) (result : Except Stop call.Reply)
  /-- A trap, from the moment in which it was accepted on a CPU. -/
  | trap (cpu : Fin maxCpus) (frame : Frame) (result : Except Stop Outcome)
  /-- An acknowledgement scope, from its opening on. -/
  | scope (irq : Irq) (result : Except Stop Bool)
  /-- The registry was asked for the handler of a line. -/
  | lookup (irq : Irq) (entry : Option HandlerEntry)
  /-- A call of a service to the registry. -/
  | registry (call : RegistryCall) (reply : RegistryReply)
  /-- A system call, with the frame of its caller. -/
  | systemCall (number : UInt64) (words : ArgumentWords) (caller : Frame)
      (result : Except Stop CallResult)
  /-- The handler of a system call. -/
  | handler (number : UInt64) (arguments : Arguments) (result : Except Stop CallResult)
  /-- A service was told the dispatch state of a CPU. -/
  | told (cpu : UInt64) (slot : CpuSlot)

/-- An event with the dispatch states before and after it, and with what was done
in the course of it, newest first. -/
structure Activity where
  event : Event
  before : CpuSlots
  inner : List Activity
  after : CpuSlots

/-- State kept between traps. -/
structure Machine (σ : Type) where
  slots : CpuSlots := .idle
  stats : Stats := {}
  registry : Registry := {}
  /-- Whether the lock around the registry is taken. -/
  registryLocked : Bool := false
  /-- Whether the dispatcher has been installed behind the trampolines. -/
  installed : Bool := false
  log : LogBook := {}
  /-- Newest activity first. -/
  journal : List Activity := []
  /-- The services' own data. -/
  world : σ

/-- The machine with all CPUs idle and nothing in the journal. -/
def Machine.fresh {σ : Type} (machine : Machine σ) : Machine σ :=
  { machine with slots := .idle, journal := [] }

/-- The machine after an activity that began in `outer` and led to `inner`. -/
def Machine.closing {σ : Type} (outer inner : Machine σ) (event : Event) : Machine σ :=
  { inner with journal := ⟨event, outer.slots, inner.journal, inner.slots⟩ :: outer.journal }

/-- A dispatcher: its vector table, the services around it, the system calls and
the settings. -/
structure Kernel (σ : Type) where
  vectors : VectorTable
  services : Services σ
  syscalls : SyscallTable σ
  config : Config

/-- State during a trap: the frame and the requests of its system call, and the
machine. -/
structure Activation (σ : Type) where
  frame : Frame
  requests : CallRequests
  machine : Machine σ

/-- Computations of a dispatcher. -/
abbrev Dispatch (σ : Type) := EStateM Stop (Activation σ)

namespace Dispatch

variable {σ α : Type}

def frame : Dispatch σ Frame := return (← get).frame

def modifyFrame (change : Frame → Frame) : Dispatch σ Unit :=
  modify fun state => { state with frame := change state.frame }

def requests : Dispatch σ CallRequests := return (← get).requests

/-- Changes the requests of the system call. -/
def modifyRequests (change : CallRequests → CallRequests) : Dispatch σ Unit :=
  modify fun state => { state with requests := change state.requests }

def machine : Dispatch σ (Machine σ) := return (← get).machine

def modifyMachine (change : Machine σ → Machine σ) : Dispatch σ Unit :=
  modify fun state => { state with machine := change state.machine }

def count (change : Stats → Stats) : Dispatch σ Unit :=
  modifyMachine fun machine => { machine with stats := change machine.stats }

def setSlot (cpu : Fin maxCpus) (change : CpuSlot → CpuSlot) : Dispatch σ Unit :=
  modifyMachine fun machine =>
    { machine with slots := machine.slots.put cpu (change (machine.slots.get cpu)) }

/-- Writes an event in whose course nothing was done into the journal. -/
def note (event : Event) : Dispatch σ Unit :=
  modifyMachine fun machine => machine.closing { machine with journal := [] } event

/-- Runs a computation as an activity of the journal. -/
def during (event : Except Stop α → Event) (body : Dispatch σ α) : Dispatch σ α :=
  fun outer =>
    let close (result : Except Stop α) (inner : Activation σ) : Activation σ :=
      { inner with machine := outer.machine.closing inner.machine (event result) }
    match body { outer with machine.journal := [] } with
    | .ok value inner => .ok value (close (.ok value) inner)
    | .error stop inner => .error stop (close (.error stop) inner)

instance : MonadRecord (Dispatch σ) :=
  ⟨fun r => modifyMachine fun machine => { machine with log := machine.log.add r }⟩

/-- Leaves an error record and panics. -/
def fatal (text : String) : Dispatch σ α := do
  recordAt .error LogTarget.dispatch text
  throw (.panic text)

/-- Runs a computation on the registry with its lock taken. -/
def withRegistry (change : Registry → α × Registry) : Dispatch σ α := do
  if (← machine).registryLocked then throw .deadlock
  modifyMachine fun machine => { machine with registryLocked := true }
  let (value, registry) := change (← machine).registry
  modifyMachine fun machine => { machine with registry, registryLocked := false }
  return value

/-- Runs a computation on a frame of its own. Whatever happens, the machine keeps
what it did to it, and the caller's frame and requests come back. -/
def onFrame (frame : Frame) (body : Dispatch σ α) : Dispatch σ (α × Activation σ) :=
  fun outer =>
    match body { outer with frame, requests := {} } with
    | .ok value inner => .ok (value, inner) { outer with machine := inner.machine }
    | .error stop inner => .error stop { outer with machine := inner.machine }

end Dispatch

/-- What a dispatcher needs to run the programs of its services: replies to their
requests, and a bound on their repetitions. -/
structure Server (σ : Type) where
  reply : (op : Request σ) → Dispatch σ op.Reply
  bound : Nat

namespace Server

variable {σ α : Type}

/-- A server that replies to nothing. -/
def exhausted : Server σ := ⟨fun _ => throw .exhausted, 0⟩

def run (server : Server σ) (program : ServiceProgram σ α) : Dispatch σ α :=
  Program.run (S := serviceSignature σ) server.reply server.bound program

end Server

namespace Kernel

variable {σ : Type}

def call (kernel : Kernel σ) (server : Server σ) (c : Call) : Dispatch σ c.Reply :=
  Dispatch.during (.service c) (server.run (kernel.services.perform c))

/-- The controller, as the dispatcher calls it. -/
def controller (kernel : Kernel σ) (server : Server σ) : Controller (Dispatch σ) where
  name := kernel.services.controllerName
  triggerMode irq := kernel.call server (.triggerMode irq)
  pending vector := kernel.call server (.pending vector)
  mask irq := kernel.call server (.mask irq)
  unmask irq := kernel.call server (.unmask irq)
  acknowledge irq := kernel.call server (.acknowledge irq)
  endOfInterrupt irq := kernel.call server (.endOfInterrupt irq)
  setPriority _ _ := pure (.error .priorityUnsupported)

end Kernel
end TrapDispatch
