/-!
# Device registers

A register block is read and written in bytes and in 32-bit words. A block that
only has word accesses gets byte accesses from them: a byte is cut out of its
word, and written by writing the word back with one byte changed. Plain
little-endian memory has both.
-/

namespace TrapDispatch

/-- Access to the registers of a device, by offset. -/
structure RegisterBlock (m : Type → Type u) where
  read32 : UInt64 → m UInt32
  write32 : UInt64 → UInt32 → m Unit
  read8 : UInt64 → m UInt8
  write8 : UInt64 → UInt8 → m Unit

/-- Offset of the word that holds a byte. -/
def wordOffset (offset : UInt64) : UInt64 :=
  offset &&& ~~~3

/-- Place of a byte in its word, in bits. -/
def laneShift (offset : UInt64) : UInt32 :=
  ((offset &&& 3) * 8).toUInt32

/-- The byte of a word at a place. -/
def laneByte (word shift : UInt32) : UInt8 :=
  (word >>> shift).toUInt8

/-- A word with the byte at a place replaced. -/
def withLaneByte (word shift : UInt32) (byte : UInt8) : UInt32 :=
  (word &&& ~~~((0xFF : UInt32) <<< shift)) ||| (byte.toUInt32 <<< shift)

/-- A block whose byte accesses go through its words. -/
def RegisterBlock.ofWords {m : Type → Type u} [Monad m] (read32 : UInt64 → m UInt32)
    (write32 : UInt64 → UInt32 → m Unit) : RegisterBlock m where
  read32 := read32
  write32 := write32
  read8 offset := do
    let word ← read32 (wordOffset offset)
    return laneByte word (laneShift offset)
  write8 offset byte := do
    let word ← read32 (wordOffset offset)
    write32 (wordOffset offset) (withLaneByte word (laneShift offset) byte)

/-- The same block without its own byte accesses. -/
def RegisterBlock.wordsOnly {m : Type → Type u} [Monad m] (block : RegisterBlock m) :
    RegisterBlock m :=
  .ofWords block.read32 block.write32

/-- Little-endian bytes of a word. -/
def wordBytes (word : UInt32) : List UInt8 :=
  [word.toUInt8, (word >>> 8).toUInt8, (word >>> 16).toUInt8, (word >>> 24).toUInt8]

/-- The word of four little-endian bytes. -/
def wordOfBytes (b0 b1 b2 b3 : UInt8) : UInt32 :=
  b0.toUInt32 ||| (b1.toUInt32 <<< 8) ||| (b2.toUInt32 <<< 16) ||| (b3.toUInt32 <<< 24)

/-- Byte-addressed memory, zero where nothing was written. -/
structure ByteMemory where
  cells : List (UInt64 × UInt8) := []

namespace ByteMemory

def get (memory : ByteMemory) (address : UInt64) : UInt8 :=
  (memory.cells.lookup address).getD 0

/-- Replaces the pair of a key, or adds one at the end. -/
def replace (address : UInt64) (byte : UInt8) : List (UInt64 × UInt8) → List (UInt64 × UInt8)
  | [] => [(address, byte)]
  | cell :: rest =>
    if address == cell.1 then (address, byte) :: rest else cell :: replace address byte rest

def set (memory : ByteMemory) (address : UInt64) (byte : UInt8) : ByteMemory :=
  { cells := replace address byte memory.cells }

theorem lookup_replace (address other : UInt64) (byte : UInt8) (cells : List (UInt64 × UInt8)) :
    (replace address byte cells).lookup other =
      if other = address then some byte else cells.lookup other := by
  induction cells with
  | nil =>
    by_cases h : other = address
    · simp [replace, h]
    · simp [replace, List.lookup_cons, h, beq_false_of_ne h]
  | cons cell rest ih =>
    obtain ⟨key, value⟩ := cell
    by_cases h : address = key
    · subst h
      by_cases hc : other = address
      · simp [replace, hc]
      · simp [replace, List.lookup_cons, hc, beq_false_of_ne hc]
    · by_cases hc : other = key
      · subst hc
        simp [replace, h, Ne.symm h]
      · simp [replace, List.lookup_cons, h, beq_false_of_ne hc, ih]

@[simp] theorem get_set (memory : ByteMemory) (address other : UInt64) (byte : UInt8) :
    (memory.set address byte).get other = if other = address then byte else memory.get other := by
  simp only [get, set, lookup_replace]
  split <;> rfl

def read32 (memory : ByteMemory) (address : UInt64) : UInt32 :=
  wordOfBytes (memory.get address) (memory.get (address + 1)) (memory.get (address + 2))
    (memory.get (address + 3))

def write32 (memory : ByteMemory) (address : UInt64) (word : UInt32) : ByteMemory :=
  (((memory.set address word.toUInt8).set (address + 1) (word >>> 8).toUInt8).set (address + 2)
    (word >>> 16).toUInt8).set (address + 3) (word >>> 24).toUInt8

/-- Memory as a register block of its own. -/
def block : RegisterBlock (StateM ByteMemory) where
  read32 offset := fun memory => (memory.read32 offset, memory)
  write32 offset word := fun memory => ((), memory.write32 offset word)
  read8 offset := fun memory => (memory.get offset, memory)
  write8 offset byte := fun memory => ((), memory.set offset byte)

end ByteMemory
end TrapDispatch
