import TrapDispatch.Log.Record
import TrapDispatch.Log.Target
import TrapDispatch.Vector.Table

/-!
# Records of vector tables

What the log says when a table is built, and when its base is written into the
vector base register of the processor.
-/

namespace TrapDispatch.VectorTable

def builtRecord (table : VectorTable) : Record :=
  { level := .debug
    target := LogTarget.vector
    text := s!"{table.arch.name}: vector table at {hexMarked table.base.toNat}, "
      ++ s!"{table.size} slots, {table.assignedCount} assigned" }

/-- Record left by installing a table. The place of the encoded gates is not told;
a base without the alignment its register asks for is refused. -/
def installRecord (table : VectorTable) : Record :=
  let base := hexMarked table.base.toNat
  let say (level : Level) (text : String) : Record :=
    { level, target := LogTarget.encoding table.arch.name, text }
  match table.arch with
  | .x86_64 => say .debug "x86_64: IDT at ADDR, 256 gates"
  | .aarch64 =>
    if table.base % Arm.tableAlignment ≠ 0 then
      say .error s!"aarch64: vector base {base} is not 2 KiB aligned, not installed"
    else say .debug s!"aarch64: VBAR_EL1 <- {base}"
  | .riscv64 => say .debug s!"riscv64: stvec <- {base} (direct)"

end TrapDispatch.VectorTable
