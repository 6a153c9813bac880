import TrapDispatch.Interrupt.Registers

/-!
# Scripted registers

A register bank over plain memory, in which reads of chosen offsets give values
that were prepared: first those of a queue, then a fixed one.
-/

namespace TrapDispatch.Bench

/-- A register bank. -/
structure Bank where
  memory : ByteMemory := {}
  /-- Values of the next reads, by offset, in order. -/
  queued : List (UInt64 × UInt32) := []
  /-- Values of all further reads, by offset. -/
  fixed : List (UInt64 × UInt32) := []

namespace Bank

/-- Takes the first prepared value of an offset out of a queue. -/
def takeQueued (offset : UInt64) :
    List (UInt64 × UInt32) → Option (UInt32 × List (UInt64 × UInt32))
  | [] => none
  | (key, value) :: rest =>
    if key = offset then some (value, rest)
    else (takeQueued offset rest).map fun (found, others) => (found, (key, value) :: others)

/-- A prepared value of an offset, if there is one. -/
def prepared (bank : Bank) (offset : UInt64) : Option (UInt32 × Bank) :=
  match takeQueued offset bank.queued with
  | some (value, queued) => some (value, { bank with queued })
  | none => (bank.fixed.lookup offset).map fun value => (value, bank)

def read32 (bank : Bank) (offset : UInt64) : UInt32 × Bank :=
  (bank.prepared offset).getD (bank.memory.read32 offset, bank)

/-- Reads a byte; of a prepared value the low one. -/
def read8 (bank : Bank) (offset : UInt64) : UInt8 × Bank :=
  match bank.prepared offset with
  | some (value, bank) => (value.toUInt8, bank)
  | none => (bank.memory.get offset, bank)

def write32 (bank : Bank) (offset : UInt64) (word : UInt32) : Bank :=
  { bank with memory := bank.memory.write32 offset word }

def write8 (bank : Bank) (offset : UInt64) (byte : UInt8) : Bank :=
  { bank with memory := bank.memory.set offset byte }

/-- Prepares a value for all further reads of an offset. -/
def fix (bank : Bank) (offset : UInt64) (value : UInt32) : Bank :=
  { bank with fixed := (offset, value) :: bank.fixed }

/-- Prepares values for the next reads of an offset. -/
def queue (bank : Bank) (offset : UInt64) (values : List UInt32) : Bank :=
  { bank with queued := bank.queued ++ values.map fun value => (offset, value) }

end Bank
end TrapDispatch.Bench
