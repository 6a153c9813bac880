import TrapDispatch.Bench.World
import TrapDispatch.Interrupt.Apic
import TrapDispatch.Interrupt.Gic
import TrapDispatch.Interrupt.Pic
import TrapDispatch.Interrupt.Plic

/-!
# Hosts of scripts

A script runs as part of a service or of a system call handler. Its host says how
requests are made there, and what a handler can do beyond them. The register
blocks and the controllers of the bench are built on a host.
-/

namespace TrapDispatch.Bench

/-- Where a script runs. -/
structure Host (S : Signature) where
  ask : (op : Request World) → Program S op.Reply
  /-- The requests and the arguments of a system call handler. -/
  handler : Option (((op : HandlerRequest World) → Program S op.Reply) × Arguments)

namespace Host

variable {S : Signature} (host : Host S)

def service : Host (serviceSignature World) where
  ask := ServiceProgram.ask
  handler := none

/-- The host of a system call handler. -/
def call (arguments : Arguments) : Host (handlerSignature World) where
  ask op := HandlerProgram.ask (.base op)
  handler := some (HandlerProgram.ask, arguments)

def world : Program S World := host.ask .world

def modify (change : World → World) : Program S Unit := do
  let world ← host.world
  host.ask (.setWorld (change world))

/-- Changes the world and gives a value. -/
def modifyGet {α : Type} (change : World → α × World) : Program S α := do
  let (value, world) := change (← host.world)
  host.ask (.setWorld world)
  return value

def note (n : Note) : Program S Unit :=
  host.modify (·.note n)

def block (name : String) : RegisterBlock (Program S) where
  read32 offset := host.modifyGet (·.read32 name offset)
  write32 offset word := host.modify (·.write32 name offset word)
  read8 offset := host.modifyGet (·.read8 name offset)
  write8 offset byte := host.modify (·.write8 name offset byte)

/-- Computations on a host leave records through it. -/
abbrev recorder : MonadRecord (Program S) := ⟨fun r => host.ask (.log r)⟩

/-- The controller that notes its calls. -/
def recordingController (base : UInt64) : Controller (Program S) where
  name := "fake"
  triggerMode irq := do
    return if (← host.world).levelLines.contains irq then .level else .edge
  pending vector := do
    host.note (.pending vector)
    if (← host.world).spuriousVectors.contains vector || vector < base then return none
    return some ⟨(vector - base).toUInt32⟩
  mask irq := host.note (.line .mask irq)
  unmask irq := host.note (.line .unmask irq)
  acknowledge irq := host.note (.line .acknowledge irq)
  endOfInterrupt irq := host.note (.line .endOfInterrupt irq)
  setPriority _ _ := pure (.error .priorityUnsupported)

/-- A GIC over the blocks of the bench. -/
def gic (version3 : Bool) : Gic (Program S) where
  distributor := host.block "dist"
  redistributor := if version3 then some (host.block "redist") else none
  cpuInterface := host.block "gicc"

/-- A PLIC over the blocks of the bench. -/
def plic (context : UInt64) : Plic (Program S) where
  registers := host.block "plic"
  hart :=
    { enable := fun bits => host.note (.localInterrupts .enable bits)
      disable := fun bits => host.note (.localInterrupts .disable bits)
      clearPending := fun bits => host.note (.localInterrupts .clearPending bits) }
  context
  localMasked :=
    { get := do return (← host.world).localMasked
      set := fun bits => host.modify fun world => { world with localMasked := bits } }

def controller (kind : ControllerKind) : Controller (Program S) :=
  letI := host.recorder
  match kind with
  | .recording base => host.recordingController base
  | .pic offset wordsOnly =>
    let io := host.block "io"
    Pic.controller (if wordsOnly then io.wordsOnly else io) offset
  | .apic => Apic.controller (host.block "lapic") (host.block "ioapic")
  | .gic version3 => (host.gic version3).controller
  | .plic context => (host.plic context).controller

end Host

def ControllerKind.name (kind : ControllerKind) : String :=
  (Host.service.controller kind).name

end TrapDispatch.Bench
