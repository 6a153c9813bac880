import TrapDispatch.Kernel.Trap
import TrapDispatch.Vector.Install

/-!
# Running a kernel

Services may ask for further traps, and those call services again. The recursion
is cut at a depth: a server of depth zero replies to nothing, and one more level
replies by means of the level below. A run that does not reach the bottom has the
same result at every greater depth.
-/

namespace TrapDispatch.Kernel

variable {σ : Type} (kernel : Kernel σ)

/-- Takes a trap the way a trampoline does. -/
def enter (server : Server σ) : Dispatch σ Unit := do
  if (← Dispatch.machine).installed then
    let _ ← kernel.handleTrap server
  else
    let vector := (← Dispatch.frame).vector
    Dispatch.fatal s!"trap on vector {vector} before a dispatch core was installed"

/-- Installs the dispatcher behind the trampolines; only the first time counts. -/
def install : Dispatch σ Unit := do
  if (← Dispatch.machine).installed then
    recordAt .warn LogTarget.dispatch "dispatch: a dispatch core is already installed"
  else
    Dispatch.modifyMachine fun machine => { machine with installed := true }
    record kernel.vectors.installRecord
    recordAt .debug LogTarget.dispatch s!"dispatch: installed for {kernel.vectors.arch.name}"

/-- Makes a call to the registry, and notes it with what came of it. -/
def callRegistry {α : Type} (call : RegistryCall) (reply : α → RegistryReply)
    (change : Registry → α × Registry) : Dispatch σ α := do
  let value ← Dispatch.withRegistry change
  Dispatch.note (.registry call (reply value))
  return value

def register (irq : Irq) (driver : UInt32) (handler : HandlerId) :
    Dispatch σ (Except RegistryError RegistrationHandle) := do
  let result ← callRegistry (.register irq driver handler) .ofIssue
    (·.registering irq driver handler)
  if let .ok _ := result then record (Registry.registeredRecord irq driver)
  return result

/-- Changes the registry by a call that it may refuse. -/
def changeRegistry (call : RegistryCall) (change : Registry → Except RegistryError Registry) :
    Dispatch σ (Except RegistryError Unit) :=
  callRegistry call .ofChange (·.changing change)

def unregister (handle : RegistrationHandle) : Dispatch σ (Except RegistryError Unit) := do
  let result ← changeRegistry (.unregister handle) (·.unregister handle)
  if let .ok _ := result then record (Registry.releasedRecord handle.irq)
  return result

def setEnabled (handle : RegistrationHandle) (enabled : Bool) :
    Dispatch σ (Except RegistryError Unit) :=
  changeRegistry (.setEnabled handle enabled) (·.setEnabled handle enabled)

/-- The registration of a line. -/
def lookup (irq : Irq) : Dispatch σ (Option HandlerEntry) :=
  callRegistry (.lookup irq) .found fun registry => (registry.lookup irq, registry)

/-- Tells the dispatch state of a CPU. -/
def tellSlot (cpu : UInt64) : Dispatch σ CpuSlot := do
  let slot := (← Dispatch.machine).slots.ofCpu cpu
  Dispatch.note (.told cpu slot)
  return slot

/-- Replies to the requests of services, by means of a server one level below. -/
def reply (deeper : Server σ) : (op : Request σ) → Dispatch σ op.Reply
  | .world => return (← Dispatch.machine).world
  | .setWorld world => Dispatch.modifyMachine fun machine => { machine with world }
  | .log r => record r
  | .trap frame => do
    let (outcome, inner) ← Dispatch.onFrame frame (kernel.handleTrap deeper)
    return (outcome, inner.frame)
  | .enter frame => do
    let (_, inner) ← Dispatch.onFrame frame (kernel.enter deeper)
    return inner.frame
  | .install => kernel.install
  | .invoke handler irq => deeper.run (kernel.services.perform (.device handler irq))
  | .call number words frame => do
    let (result, inner) ← Dispatch.onFrame frame (kernel.systemCall deeper number words)
    return { result, requests := inner.requests, frame := inner.frame }
  | .register irq driver handler => register irq driver handler
  | .unregister handle => unregister handle
  | .setEnabled handle enabled => setEnabled handle enabled
  | .lookup irq => lookup irq
  | .slot cpu => tellSlot cpu
  | .stats => return (← Dispatch.machine).stats
  | .settings => return (kernel.config, kernel.vectors)

/-- The server of a depth. -/
def server : Nat → Server σ
  | 0 => .exhausted
  | depth + 1 => ⟨fun op => kernel.reply (server depth) op, depth + 1⟩

/-- How a run ended: with a value or not, and the frame and machine it left. -/
structure Completion (σ α : Type) where
  result : Except Stop α
  frame : Frame
  machine : Machine σ

def complete {α : Type} (body : Dispatch σ α) (frame : Frame) (machine : Machine σ) :
    Completion σ α :=
  match body { frame, requests := {}, machine } with
  | .ok value state => ⟨.ok value, state.frame, state.machine⟩
  | .error stop state => ⟨.error stop, state.frame, state.machine⟩

/-- Takes a trap, with services nested no deeper than `depth`. -/
def takeTrap (depth : Nat) (frame : Frame) (machine : Machine σ) : Completion σ Outcome :=
  complete (kernel.handleTrap (kernel.server depth)) frame machine

/-- Runs a service program outside of any trap. -/
def runService {α : Type} (depth : Nat) (program : ServiceProgram σ α) (machine : Machine σ) :
    Completion σ α :=
  complete ((kernel.server depth).run program) default machine

def createdRecord : Record :=
  { level := .debug
    target := LogTarget.dispatch
    text := s!"dispatch: {kernel.vectors.size} vectors on {kernel.vectors.arch.name}, "
      ++ s!"controller {kernel.services.controllerName}, "
      ++ s!"{kernel.syscalls.toList.length} syscalls" }

end TrapDispatch.Kernel
