/-!
# Instruction-set architectures

The constants by which the supported architectures differ.
-/

namespace TrapDispatch

/-- Supported instruction sets. -/
inductive Arch where
  | x86_64
  | aarch64
  | riscv64
  deriving DecidableEq, Repr, Inhabited

namespace Arch

def name : Arch → String
  | x86_64 => "x86_64"
  | aarch64 => "aarch64"
  | riscv64 => "riscv64"

def traceName : Arch → String
  | x86_64 => "X86_64"
  | aarch64 => "Aarch64"
  | riscv64 => "Riscv64"

/-- General registers saved in a frame. -/
def registerCount : Arch → Nat
  | x86_64 => 15
  | aarch64 => 31
  | riscv64 => 31

/-- Position of the system call return register among the saved registers. -/
def returnRegister : Arch → Fin 31
  | x86_64 => 0
  | aarch64 => 0
  | riscv64 => 9

theorem returnRegister_lt (arch : Arch) : arch.returnRegister.val < arch.registerCount := by
  cases arch <;> decide

/-- First address above the user half of the address space. -/
def userTop : Arch → UInt64
  | x86_64 => 0x0000800000000000
  | aarch64 => 0x0001000000000000
  | riscv64 => 0x0000004000000000

/-- Slots of the hardware vector table. -/
def vectorCount : Arch → Nat
  | x86_64 => 256
  | aarch64 => 16
  | riscv64 => 32

theorem vectorCount_le (arch : Arch) : arch.vectorCount ≤ 256 := by
  cases arch <;> decide

/-- Bytes between trampoline entry points; zero if all vectors share one. -/
def vectorStride : Arch → UInt64
  | x86_64 => 16
  | aarch64 => 0x80
  | riscv64 => 0

end Arch
end TrapDispatch
