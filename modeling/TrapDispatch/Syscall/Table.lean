import TrapDispatch.Syscall.Handler

/-!
# The system call table

A fixed number of slots, indexed by call number. Every entry fits the argument
registers, declares at least as many arguments as it requires, and sits in the
slot of its number.
-/

namespace TrapDispatch

/-- Slots of the table. -/
def maxSyscalls : Nat := 64

/-- A call with its implementation. -/
structure CallDescriptor (σ : Type) where
  shape : CallShape
  handler : CallHandler σ

/-- Why a call was not added. -/
inductive TableError where
  | numberOutOfRange (number : UInt64)
  | duplicate (number : UInt64)
  | badArguments (number : UInt64)
  deriving DecidableEq, Repr

def TableError.message : TableError → String
  | .numberOutOfRange number => s!"syscall {number} outside the table"
  | .duplicate number => s!"syscall {number} defined twice"
  | .badArguments number => s!"syscall {number} has an invalid argument list"

/-- Calls by number. -/
structure SyscallTable (σ : Type) where
  slots : Vector (Option (CallDescriptor σ)) maxSyscalls := Vector.replicate maxSyscalls none

namespace SyscallTable

variable {σ : Type}

def lookup (table : SyscallTable σ) (number : UInt64) : Option (CallDescriptor σ) :=
  (table.slots[number.toNat]?).join

def insert (table : SyscallTable σ) (descriptor : CallDescriptor σ) :
    Except TableError (SyscallTable σ) :=
  let shape := descriptor.shape
  if argumentRegisters < shape.width ∨ shape.arguments.length < shape.required then
    .error (.badArguments shape.number)
  else if h : shape.number.toNat < maxSyscalls then
    if (table.slots[shape.number.toNat]).isSome then .error (.duplicate shape.number)
    else .ok { slots := table.slots.set shape.number.toNat (some descriptor) }
  else .error (.numberOutOfRange shape.number)

/-- The calls in the order of their numbers. -/
def toList (table : SyscallTable σ) : List (CallDescriptor σ) :=
  table.slots.toList.filterMap id

def isEmpty (table : SyscallTable σ) : Bool :=
  table.slots.toList.all Option.isNone

/-- Adds those calls that are not refused, in order; tells how each fared. -/
def insertEach (table : SyscallTable σ) :
    List (CallDescriptor σ) → List (Except TableError Unit) × SyscallTable σ
  | [] => ([], table)
  | descriptor :: rest =>
    match table.insert descriptor with
    | .ok table =>
      let (results, table) := table.insertEach rest
      (.ok () :: results, table)
    | .error why =>
      let (results, table) := table.insertEach rest
      (.error why :: results, table)

/-- Adds calls in order, up to the first that is refused. -/
def insertAll (table : SyscallTable σ) (descriptors : List (CallDescriptor σ)) :
    Except TableError (SyscallTable σ) :=
  descriptors.foldlM insert table

end SyscallTable

namespace CallDescriptor

variable {σ : Type}

def exit : CallDescriptor σ :=
  { shape := { number := 0, name := "exit", arguments := [.int], required := 1 }
    handler := .exit }

def write : CallDescriptor σ :=
  { shape := { number := 1, name := "write", arguments := [.int, .buffer .read], required := 2 }
    handler := .write }

def read : CallDescriptor σ :=
  { shape :=
      { number := 2, name := "read", arguments := [.int, .buffer .write], required := 2
        interruptible := true }
    handler := .read }

def yield : CallDescriptor σ :=
  { shape := { number := 3, name := "yield" }, handler := .yield }

def getpid : CallDescriptor σ :=
  { shape := { number := 4, name := "getpid" }, handler := .getpid }

/-- The calls that every kernel has. -/
def builtin : List (CallDescriptor σ) :=
  [exit, write, read, yield, getpid]

end CallDescriptor

/-- The table of the calls that every kernel has. -/
def SyscallTable.builtin {σ : Type} : Except TableError (SyscallTable σ) :=
  insertAll {} CallDescriptor.builtin

end TrapDispatch
