import TrapDispatch.Interrupt.Registers
import TrapDispatch.Kernel.Server

/-!
# Kernels over hardware

The driver of a controller works on registers, which the other services of a kernel do not
reach. Where a kernel is wired to hardware, its world is that of the hardware beside that of
the services: the driver sees the one, and services and handlers see the other.
-/

namespace TrapDispatch

variable {η τ α : Type}

/-- A request of services that are beside hardware. -/
def Request.beside : (op : Request τ) → ServiceProgram (η × τ) op.Reply
  | .world => do return (← ServiceProgram.world).2
  | .setWorld inner => ServiceProgram.modifyWorld fun worlds => (worlds.1, inner)
  | .log r => ServiceProgram.ask (.log r)
  | .trap frame => ServiceProgram.ask (.trap frame)
  | .enter frame => ServiceProgram.ask (.enter frame)
  | .install => ServiceProgram.ask .install
  | .invoke handler irq => ServiceProgram.ask (.invoke handler irq)
  | .call number words frame => ServiceProgram.ask (.call number words frame)
  | .register irq driver handler => ServiceProgram.ask (.register irq driver handler)
  | .unregister handle => ServiceProgram.ask (.unregister handle)
  | .setEnabled handle enabled => ServiceProgram.ask (.setEnabled handle enabled)
  | .lookup irq => ServiceProgram.ask (.lookup irq)
  | .slot cpu => ServiceProgram.ask (.slot cpu)
  | .stats => ServiceProgram.ask .stats
  | .settings => ServiceProgram.ask .settings

/-- A program of such services. -/
def ServiceProgram.beside (program : ServiceProgram τ α) : ServiceProgram (η × τ) α :=
  Program.translate (S := serviceSignature τ) (T := serviceSignature (η × τ)) Request.beside program

/-- A request of system call handlers that are beside hardware. -/
def HandlerRequest.beside : (op : HandlerRequest τ) → HandlerProgram (η × τ) op.Reply
  | .base op =>
    Program.translate (S := serviceSignature (η × τ)) (T := handlerSignature (η × τ))
      (fun op => HandlerProgram.ask (.base op)) op.beside
  | .frame => HandlerProgram.ask .frame
  | .setFrame next => HandlerProgram.ask (.setFrame next)
  | .block shown => HandlerProgram.ask (.block shown)
  | .defer reason => HandlerProgram.ask (.defer reason)
  | .takeDeferred => HandlerProgram.ask .takeDeferred
  | .takeSwitch => HandlerProgram.ask .takeSwitch
  | .pid => HandlerProgram.ask .pid
  | .userRange => HandlerProgram.ask .userRange
  | .terminate reason => HandlerProgram.ask (.terminate reason)
  | .signalPending => HandlerProgram.ask .signalPending
  | .write file buffer => HandlerProgram.ask (.write file buffer)
  | .read file buffer => HandlerProgram.ask (.read file buffer)

/-- A system call whose handler is beside hardware. -/
def CallDescriptor.beside (descriptor : CallDescriptor τ) : CallDescriptor (η × τ) where
  shape := descriptor.shape
  handler arguments :=
    Program.translate (S := handlerSignature τ) (T := handlerSignature (η × τ))
      HandlerRequest.beside (descriptor.handler arguments)

def SyscallTable.beside (table : SyscallTable τ) : SyscallTable (η × τ) where
  slots := table.slots.map (Option.map CallDescriptor.beside)

theorem SyscallTable.lookup_beside (table : SyscallTable τ) (number : UInt64) :
    (table.beside (η := η)).lookup number = (table.lookup number).map CallDescriptor.beside := by
  unfold lookup beside
  rw [Vector.getElem?_map]
  cases table.slots[number.toNat]? with
  | none => rfl
  | some slot => rfl

/-- Services whose controller is that of a driver. -/
def Services.wired (services : Services τ) (driver : Controller (ServiceProgram (η × τ))) :
    Services (η × τ) where
  controllerName := driver.name
  perform
    | .triggerMode irq => driver.triggerMode irq
    | .pending vector => driver.pending vector
    | .mask irq => driver.mask irq
    | .unmask irq => driver.unmask irq
    | .acknowledge irq => driver.acknowledge irq
    | .endOfInterrupt irq => driver.endOfInterrupt irq
    | c => (services.perform c).beside

/-- A kernel whose controller is that of a driver. -/
def Kernel.wired (kernel : Kernel τ) (driver : Controller (ServiceProgram (η × τ))) :
    Kernel (η × τ) where
  vectors := kernel.vectors
  services := kernel.services.wired driver
  syscalls := kernel.syscalls.beside
  config := kernel.config

/-- An access of a driver to its hardware. -/
def onHardware (access : StateM η α) : ServiceProgram (η × τ) α := do
  let worlds ← ServiceProgram.world
  ServiceProgram.ask (.setWorld ((access worlds.1).2, worlds.2))
  return (access worlds.1).1

/-- Registers of the hardware, as a driver reaches them. -/
def RegisterBlock.wired (block : RegisterBlock (StateM η)) :
    RegisterBlock (ServiceProgram (η × τ)) where
  read32 offset := onHardware (block.read32 offset)
  write32 offset word := onHardware (block.write32 offset word)
  read8 offset := onHardware (block.read8 offset)
  write8 offset byte := onHardware (block.write8 offset byte)

end TrapDispatch
