import TrapDispatch.Proofs.Bookkeeping
import TrapDispatch.Proofs.Nesting

/-!
# Classes of traps

A trap is counted by the class of its slot in the vector table, and goes the way that its
encoding tells. The two agree on interrupts and on slots without a meaning. A system call has a
slot of its own on x86_64 and RISC-V; on AArch64 it comes through the slot of all synchronous
exceptions, is told apart by the syndrome only, and is counted as an exception.
-/

namespace TrapDispatch

def Arch.counterOf (arch : Arch) : Cause → Counter
  | .exception _ => .exceptions
  | .interrupt => .interrupts
  | .syscall _ => if arch = .aarch64 then .exceptions else .syscalls
  | .unassigned => .unassigned

theorem Arch.minPrivilege_of_software (arch : Arch) (vector : UInt64) :
    (arch.vectorInfo vector).trapClass = .software →
      (arch.vectorInfo vector).minPrivilege = .user := by
  cases arch with
  | x86_64 =>
    change (X86.vectorInfo vector).trapClass = _ → (X86.vectorInfo vector).minPrivilege = _
    unfold X86.vectorInfo
    repeat' split
    all_goals simp [VectorInfo.defined, VectorInfo.undefined]
  | aarch64 =>
    change (Arm.vectorInfo vector).trapClass = _ → (Arm.vectorInfo vector).minPrivilege = _
    unfold Arm.vectorInfo
    repeat' split
    all_goals simp [VectorInfo.defined, VectorInfo.undefined]
  | riscv64 =>
    change (RiscV.vectorInfo vector).trapClass = _ → (RiscV.vectorInfo vector).minPrivilege = _
    unfold RiscV.vectorInfo
    dsimp only
    repeat' split
    all_goals simp [VectorInfo.defined, VectorInfo.undefined]

def Arm.EntryKind.trapClass : EntryKind → TrapClass
  | .sync | .systemError => .exception
  | .irq | .fiq => .interrupt

theorem Arm.trapClass_of_assigned (vector : UInt64) :
    (vectorInfo vector).assigned = true →
      (vectorInfo vector).trapClass = (EntryKind.ofVector vector).trapClass := by
  unfold vectorInfo
  cases EntryKind.ofVector vector <;> dsimp only
  all_goals
    repeat' split
    all_goals simp [VectorInfo.defined, VectorInfo.undefined, EntryKind.trapClass]

section

variable {frame : Frame} {entry : VectorEntry}

theorem X86.counterOf_decode :
    Arch.x86_64.counterOf (decode frame entry) = .ofClass entry.trapClass true := by
  unfold decode
  cases entry.trapClass <;> rfl

theorem RiscV.counterOf_decode :
    Arch.riscv64.counterOf (decode frame entry) = .ofClass entry.trapClass true := by
  unfold decode
  cases entry.trapClass <;> rfl

theorem Arm.counterOf_decode
    (h : entry.trapClass = (EntryKind.ofVector entry.vector).trapClass) :
    Arch.aarch64.counterOf (decode frame entry) = .ofClass entry.trapClass true := by
  have hsync : Arch.aarch64.counterOf (decodeSync frame) = .exceptions := by
    unfold decodeSync
    split <;> rfl
  rw [h]
  unfold decode
  cases EntryKind.ofVector entry.vector with
  | sync => exact hsync
  | irq | fiq | systemError => rfl

/-- A trap is counted as its cause, if it is of the architecture of the table. -/
theorem Cause.counterOf_ofTrap {table : VectorTable}
    (hentry : table.lookup frame.vector = some entry) (harch : frame.arch = table.arch) :
    table.arch.counterOf (Cause.ofTrap frame entry) = .ofClass entry.trapClass entry.assigned := by
  have hslot : entry = table.slot frame.vector := VectorTable.eq_slot_of_lookup hentry
  have hlevel :
      ¬ (entry.trapClass = .software ∧ frame.privilege.rank < entry.minPrivilege.rank) := by
    rintro ⟨hclass, hrank⟩
    rw [hslot] at hclass hrank
    have hmin : (table.slot frame.vector).minPrivilege = .user :=
      table.arch.minPrivilege_of_software frame.vector hclass
    rw [hmin] at hrank
    exact Nat.not_lt_zero _ hrank
  unfold Cause.ofTrap
  cases hassigned : entry.assigned with
  | false => rfl
  | true =>
    rw [if_neg (by simp), if_neg hlevel]
    cases hframe : frame.arch with
    | x86_64 =>
      rw [← harch, hframe]
      exact X86.counterOf_decode
    | aarch64 =>
      rw [hslot] at hassigned ⊢
      have hinfo : (Arm.vectorInfo frame.vector).assigned = true := by
        change (table.arch.vectorInfo frame.vector).assigned = true at hassigned
        rwa [← harch, hframe] at hassigned
      rw [← harch, hframe]
      apply Arm.counterOf_decode
      change (table.arch.vectorInfo frame.vector).trapClass = _
      rw [← harch, hframe]
      exact Arm.trapClass_of_assigned frame.vector hinfo
    | riscv64 =>
      rw [← harch, hframe]
      exact RiscV.counterOf_decode

end

namespace Cause

def isException : Cause → Bool
  | exception _ => true
  | _ => false

def isInterrupt : Cause → Bool
  | interrupt => true
  | _ => false

def isSyscall : Cause → Bool
  | syscall _ => true
  | _ => false

def isUnassigned : Cause → Bool
  | unassigned => true
  | _ => false

end Cause

namespace Kernel

variable {σ α : Type} (kernel : Kernel σ)

/-- Whether all traps that have ended are of the architecture of the table. -/
def OfTable (moments : List Moment) : Prop :=
  ∀ x ∈ endings moments, x.event.frame?.all (fun frame => frame.arch = kernel.vectors.arch) = true

/-- How many traps of a kind have ended, modulo 2^64. -/
def decoded (kind : Cause → Bool) (moments : List Moment) : UInt64 :=
  ended (fun x => x.event.frame?.any fun frame => kind (kernel.cause frame)) moments

/-- The counters of the classes after some moments, in terms of what the traps in them were
decoded as. -/
structure ClassCounts (before after : Stats) (moments : List Moment) : Prop where
  interrupts : after.interrupts = before.interrupts + kernel.decoded Cause.isInterrupt moments
  unassigned : after.unassigned = before.unassigned + kernel.decoded Cause.isUnassigned moments
  syscalls : after.syscalls = before.syscalls +
    kernel.decoded (fun cause => kernel.vectors.arch != .aarch64 && cause.isSyscall) moments
  exceptions : after.exceptions = before.exceptions + kernel.decoded (fun cause =>
    cause.isException || kernel.vectors.arch == .aarch64 && cause.isSyscall) moments
  /-- A trap that has returned has an outcome of its kind. -/
  outcomes : ∀ x ∈ endings moments, kernel.Fits x

variable {kernel}

theorem classCounter_eq {frame : Frame} (harch : frame.arch = kernel.vectors.arch) :
    kernel.classCounter frame = kernel.vectors.arch.counterOf (kernel.cause frame) := by
  unfold classCounter cause
  cases hentry : kernel.vectors.lookup frame.vector with
  | none => rfl
  | some entry => exact (Cause.counterOf_ofTrap hentry harch).symm

theorem entriesOf_class {x : Activity} {counter : Counter} (harrival : counter.isOfArrival = true)
    (hvector : ∀ number, Counter.vectorEntry number counter = 0) :
    kernel.entriesOf x counter =
      if x.event.frame?.any (fun frame => counter = kernel.classCounter frame) then 1 else 0 := by
  cases hframe : x.event.frame? with
  | none => exact kernel.entriesOf_of_isOfArrival hframe harrival
  | some frame =>
    obtain ⟨cpu, result, hx⟩ := Event.exists_of_frame? hframe
    unfold entriesOf arrivalEntries Counter.entry
    rw [hx]
    simp only [hvector, resultEntries_of_isOfArrival result harrival, UInt64.add_zero,
      Option.any_some, decide_eq_true_eq]

/-- The counter of a class has gone up by the traps whose cause is counted in it. -/
theorem Balanced.class_eq {new : List Activity} {a b : Machine σ} (h : kernel.Balanced new a b)
    (htable : kernel.OfTable (history new)) (counter : Counter) {kind : Cause → Bool}
    (harrival : counter.isOfArrival = true)
    (hvector : ∀ number, Counter.vectorEntry number counter = 0)
    (hkind : ∀ cause, kind cause = decide (counter = kernel.vectors.arch.counterOf cause)) :
    b.stats.read counter = a.stats.read counter + kernel.decoded kind (history new) := by
  rw [h.arrivals counter harrival]
  refine congrArg _ (kernel.total_eq_ofNat fun x hx => ?_)
  rw [entriesOf_class harrival hvector]
  have hx := htable x hx
  cases hframe : x.event.frame? with
  | none => rfl
  | some frame =>
    rw [hframe, Option.all_some, decide_eq_true_eq] at hx
    simp only [Option.any_some, classCounter_eq hx, hkind]

end Kernel

/-- The counters of the classes follow what traps were decoded as, in every run in which they
are of the architecture of the table, and whether or not they return; a system call on AArch64
is counted as an exception. -/
theorem class_counters_follow_causes {σ α : Type} (kernel : Kernel σ) (depth : Nat)
    (program : ServiceProgram σ α) {machine : Machine σ} (hjournal : machine.journal = []) :
    let last := (kernel.runService depth program machine).machine
    kernel.OfTable (history last.journal) →
      kernel.ClassCounts machine.stats last.stats (history last.journal) := by
  intro last htable
  have hbooks : kernel.Balanced last.journal machine last :=
    kernel.runService_books depth program hjournal
  have hclass := hbooks.class_eq htable
  refine ⟨hclass .interrupts rfl (fun _ => rfl) ?_, hclass .unassigned rfl (fun _ => rfl) ?_,
    hclass .syscalls rfl (fun _ => rfl) ?_, hclass .exceptions rfl (fun _ => rfl) ?_, hbooks.fits⟩
  all_goals
    generalize kernel.vectors.arch = arch
    intro cause
    cases arch <;> cases cause <;> rfl

def Kernel.onArm : Kernel Unit :=
  { Kernel.plain ⟨3⟩ (pure ()) with vectors := ⟨.aarch64, 0⟩ }

/-- One `svc` from user mode. -/
def supervisorCall : ServiceProgram Unit Unit := do
  let frame := { (default : Frame) with arch := .aarch64, vector := 8, syndrome := 0x54000000 }
  let _ ← ServiceProgram.ask (.trap frame)

def supervisorCallRun : Kernel.Completion Unit Unit :=
  Kernel.onArm.runService 2 supervisorCall { world := () }

/-- The trap is decoded as a system call, and is counted as an exception. -/
theorem supervisor_call_counts_as_exception :
    Kernel.onArm.decoded Cause.isSyscall (history supervisorCallRun.machine.journal) = 1 ∧
      supervisorCallRun.machine.stats.syscalls = 0 ∧
      supervisorCallRun.machine.stats.exceptions = 1 := by
  have htable : Kernel.onArm.OfTable (history supervisorCallRun.machine.journal) := by
    unfold Kernel.OfTable
    decide +kernel
  have hcounts : Kernel.onArm.ClassCounts {} supervisorCallRun.machine.stats
      (history supervisorCallRun.machine.journal) :=
    class_counters_follow_causes Kernel.onArm 2 supervisorCall rfl htable
  refine ⟨by decide +kernel, ?_, ?_⟩
  · rw [hcounts.syscalls]
    decide +kernel
  · rw [hcounts.exceptions]
    decide +kernel

end TrapDispatch
