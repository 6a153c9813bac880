import TrapDispatch.Interrupt.Controller
import TrapDispatch.Interrupt.Registers
import TrapDispatch.Log.Record
import TrapDispatch.Log.Target

/-!
# The 8259 pair

Lines 0 to 7 are those of the master chip, 8 to 15 those of the slave, which is
cascaded on the master's line 2. Lines 7 and 15 are raised spuriously when a
request drops too early; their in-service bit is then clear. A spurious line 15
still needs an end of interrupt on the master, which forwarded it.
-/

namespace TrapDispatch.Pic

/-- Lines of the pair. -/
def lineCount : UInt32 := 16

/-- Ports of the chips. -/
def masterCommand : UInt64 := 0x20
def masterData : UInt64 := 0x21
def slaveCommand : UInt64 := 0xA0
def slaveData : UInt64 := 0xA1

/-- Command that ends the interrupt in service. -/
def endCommand : UInt8 := 0x20

/-- Command that selects the in-service register for the next read. -/
def readInService : UInt8 := 0x0B

/-- Mask bit of the cascade input. -/
def cascadeBit : UInt8 := 0x04

/-- Mask port of a line and its bit there. -/
def maskBit (line : UInt32) : UInt64 × UInt8 :=
  if line < 8 then (masterData, (1 : UInt8) <<< line.toUInt8)
  else (slaveData, (1 : UInt8) <<< (line - 8).toUInt8)

variable {m : Type → Type u} [Monad m] (io : RegisterBlock m)

/-- Whether line 7 of a chip is in service. -/
def lastInService (command : UInt64) : m Bool := do
  io.write8 command readInService
  return (← io.read8 command) &&& 0x80 ≠ 0

/-- The line behind a vector. -/
def pending [MonadRecord m] (offset vector : UInt64) : m (Option Irq) := do
  if vector < offset then return none
  let line := (vector - offset).toUInt32
  if lineCount ≤ line then return none
  if line = 7 then
    if ← lastInService io masterCommand then return some ⟨line⟩
    recordAt .warn LogTarget.pic "8259: spurious IRQ7"
    return none
  if line = 15 then
    if ← lastInService io slaveCommand then return some ⟨line⟩
    recordAt .warn LogTarget.pic "8259: spurious IRQ15"
    io.write8 masterCommand endCommand
    return none
  return some ⟨line⟩

/-- Sets the mask bit of a line. -/
def mask (irq : Irq) : m Unit := do
  if irq.number < lineCount then
    let (port, bit) := maskBit irq.number
    io.write8 port ((← io.read8 port) ||| bit)

/-- Clears the mask bit of a line; a slave line opens the cascade input too. -/
def unmask (irq : Irq) : m Unit := do
  if irq.number < lineCount then
    let (port, bit) := maskBit irq.number
    io.write8 port ((← io.read8 port) &&& ~~~bit)
    if 8 ≤ irq.number then
      io.write8 masterData ((← io.read8 masterData) &&& ~~~cascadeBit)

/-- Ends the interrupt on the chips that took part. -/
def endOfInterrupt (irq : Irq) : m Unit := do
  if 8 ≤ irq.number then io.write8 slaveCommand endCommand
  io.write8 masterCommand endCommand

/-- The driver of a pair whose lines arrive on the vectors from `offset`. -/
def controller [MonadRecord m] (offset : UInt64) : Controller m where
  name := "8259"
  triggerMode _ := pure .edge
  pending := pending io offset
  mask := mask io
  unmask := unmask io
  acknowledge _ := pure ()
  endOfInterrupt := endOfInterrupt io
  setPriority _ _ := pure (.error .priorityUnsupported)

end TrapDispatch.Pic
