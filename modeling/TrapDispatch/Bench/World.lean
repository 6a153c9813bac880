import TrapDispatch.Bench.Script

/-!
# The world of the bench

The data of the bench's services: register banks, the marks of the recording
controller, the queues from which scheduler and files reply, user memory, the CPU
and the handlers that scripts have registered.
-/

namespace TrapDispatch.Bench

/-- The controller under test. -/
inductive ControllerKind where
  /-- Notes every call; line `n` arrives on vector `base + n`. -/
  | recording (base : UInt64)
  | pic (offset : UInt64) (wordsOnly : Bool)
  | apic
  | gic (version3 : Bool)
  | plic (context : UInt64)

/-- First address of user memory. -/
def userMemoryBase : UInt64 := 0x2000000000

/-- Bytes of user memory. -/
def userMemorySize : UInt64 := 0x10000

/-- Data of the services. -/
structure World where
  banks : List (String × Bank) := []
  levelLines : List Irq := []
  spuriousVectors : List UInt64 := []
  localMasked : UInt64 := 0
  replies : List NextContext := []
  backedPages : List UInt64 := []
  onFault : List Step := []
  pid : UInt64
  window : UserRange
  signal : Bool := false
  writeResults : List CallResult := []
  readReplies : List ReadReply := []
  userMemory : ByteMemory := {}
  cpuId : UInt64 := 0
  interrupts : Bool := false
  now : UInt64 := 0
  /-- Cycles that pass at every look at the counter. -/
  pace : UInt64 := 1
  /-- Name and script of every device handler, by its number. -/
  handlers : List (String × List Step) := []
  handles : List (String × RegistrationHandle) := []
  /-- A registry that the dispatcher does not know. -/
  spare : Registry := {}
  /-- Newest note first. -/
  notes : List Note := []

namespace World

def note (world : World) (n : Note) : World :=
  { world with notes := n :: world.notes }

def bank (world : World) (block : String) : Bank :=
  (world.banks.lookup block).getD {}

/-- Replaces the register bank of a block. -/
def withBank (world : World) (block : String) (bank : Bank) : World :=
  { world with banks := (block, bank) :: world.banks.filter (·.1 != block) }

def read32 (world : World) (block : String) (offset : UInt64) : UInt32 × World :=
  let (word, bank) := (world.bank block).read32 offset
  (word, (world.withBank block bank).note (.read block true offset word))

def read8 (world : World) (block : String) (offset : UInt64) : UInt8 × World :=
  let (byte, bank) := (world.bank block).read8 offset
  (byte, (world.withBank block bank).note (.read block false offset byte.toUInt32))

def write32 (world : World) (block : String) (offset : UInt64) (word : UInt32) : World :=
  (world.withBank block ((world.bank block).write32 offset word)).note
    (.written block true offset word)

def write8 (world : World) (block : String) (offset : UInt64) (byte : UInt8) : World :=
  (world.withBank block ((world.bank block).write8 offset byte)).note
    (.written block false offset byte.toUInt32)

/-- Offset in user memory of a buffer that lies in it. -/
def offsetOf? (buffer : UserBuffer) : Option UInt64 :=
  if userMemoryBase ≤ buffer.address ∧ buffer.address - userMemoryBase ≤ userMemorySize
      ∧ buffer.length ≤ userMemorySize - (buffer.address - userMemoryBase) then
    some (buffer.address - userMemoryBase)
  else none

/-- Bytes of user memory from an offset on. -/
def bytesAt (world : World) (offset : UInt64) (length : Nat) : List UInt8 :=
  (List.range length).map fun i => world.userMemory.get (offset + UInt64.ofNat i)

/-- The bytes of a buffer, if it is empty or lies in user memory. -/
def bytesOf? (world : World) (buffer : UserBuffer) : Option (List UInt8) :=
  if buffer.length = 0 then some []
  else (offsetOf? buffer).map fun offset => world.bytesAt offset buffer.length.toNat

/-- Writes bytes to user memory from an offset on. -/
def poke (world : World) (offset : UInt64) (bytes : List UInt8) : World :=
  { world with
    userMemory := (bytes.foldl (fun (memory, place) byte => (memory.set place byte, place + 1))
      (world.userMemory, offset)).1 }

def handle? (world : World) (id : String) : Option RegistrationHandle :=
  world.handles.lookup id

/-- Keeps a handle under a name; an older one is replaced. -/
def keepHandle (world : World) (id : String) (handle : RegistrationHandle) : World :=
  { world with handles := (id, handle) :: world.handles }

end World
end TrapDispatch.Bench
