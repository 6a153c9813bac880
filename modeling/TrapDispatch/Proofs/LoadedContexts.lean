import TrapDispatch.Encoding

/-!
# Loaded contexts

A context that goes on in the frame of another trap brings all its registers with it, its level
and its place, and leaves there how that trap was entered. Nothing of what that trap had
interrupted comes back.
-/

namespace TrapDispatch

theorem UInt64.outside_or_inside (word field : UInt64) :
    (word &&& ~~~field) ||| (word &&& field) = word := by
  apply UInt64.eq_of_toBitVec_eq
  ext i hi
  simp only [UInt64.toBitVec_or, UInt64.toBitVec_and, UInt64.toBitVec_not, BitVec.getElem_or,
    BitVec.getElem_and, BitVec.getElem_not]
  cases word.toBitVec[i] <;> cases field.toBitVec[i] <;> rfl

theorem UInt64.outside_eq {word field : UInt64} (h : word &&& field = 0) :
    word &&& ~~~field = word := by
  have hword := UInt64.outside_or_inside word field
  rw [h, UInt64.or_zero] at hword
  exact hword

theorem UInt64.or_eq {word field : UInt64} (h : word &&& field = field) :
    word ||| field = word := by
  have hword := UInt64.outside_or_inside word field
  rw [h] at hword
  rw [← hword, UInt64.or_assoc, UInt64.or_self]

theorem UInt64.outside_and (word field : UInt64) : (word &&& ~~~field) &&& field = 0 := by
  apply UInt64.eq_of_toBitVec_eq
  ext i hi
  simp only [UInt64.toBitVec_and, UInt64.toBitVec_not, BitVec.getElem_and, BitVec.getElem_not]
  simp

theorem UInt64.or_and (word field : UInt64) : (word ||| field) &&& field = field := by
  apply UInt64.eq_of_toBitVec_eq
  ext i hi
  simp only [UInt64.toBitVec_or, UInt64.toBitVec_and, BitVec.getElem_or, BitVec.getElem_and]
  cases word.toBitVec[i] <;> cases field.toBitVec[i] <;> rfl

/-- A field keeps its bits where others are cleared that are not its own. -/
theorem UInt64.outside_and_apart {other field : UInt64} (h : other &&& field = 0)
    (word : UInt64) : (word &&& ~~~other) &&& field = word &&& field := by
  have hbits : field &&& ~~~other = field := UInt64.outside_eq (by rw [UInt64.and_comm, h])
  rw [UInt64.and_assoc, UInt64.and_comm (~~~other), hbits]

theorem UInt64.or_and_apart {other field : UInt64} (h : other &&& field = 0) (word : UInt64) :
    (word ||| other) &&& field = word &&& field := by
  apply UInt64.eq_of_toBitVec_eq
  have hbits : other.toBitVec &&& field.toBitVec = 0#64 := congrArg UInt64.toBitVec h
  rw [UInt64.toBitVec_and, UInt64.toBitVec_or, UInt64.toBitVec_and, BitVec.and_or_distrib_right,
    hbits, BitVec.or_zero]

namespace Arm

theorem level_shift (status : UInt64) : ((status >>> 2) &&& 3) <<< 2 = status &&& levelField := by
  have hbits : ∀ word mask : BitVec 64, ((word >>> 2) &&& mask) <<< 2 = word &&& (mask <<< 2) := by
    intro word mask
    apply BitVec.eq_of_getLsbD_eq
    intro i hi
    simp only [BitVec.getLsbD_and, BitVec.getLsbD_shiftLeft, BitVec.getLsbD_ushiftRight, hi,
      decide_true, Bool.true_and]
    by_cases hlow : i < 2
    · simp [hlow]
    · rw [Nat.add_sub_cancel' (Nat.not_lt.mp hlow)]
      simp [hlow]
  apply UInt64.eq_of_toBitVec_eq
  exact hbits status.toBitVec 3

/-- The status word with which a context goes on at a level. -/
def statusAt (level : Privilege) (status : UInt64) : UInt64 :=
  (status &&& ~~~levelField) ||| ((if level = .user then (0 : UInt64) else 1) <<< 2)

theorem RawFrame.level_eq {raw : RawFrame} (h : raw.privilege ≠ .monitor) :
    (raw.spsr >>> 2) &&& 3 = if raw.privilege = .user then 0 else 1 := by
  have hlt : ((raw.spsr >>> 2) &&& 3).toNat < 4 := by
    rw [UInt64.toNat_and]
    exact Nat.lt_succ_of_le Nat.and_le_right
  unfold RawFrame.privilege Privilege.ofExceptionLevel at h ⊢
  generalize (raw.spsr >>> 2) &&& 3 = level at hlt h ⊢
  have hcases : level = 0 ∨ level = 1 ∨ level = 2 ∨ level = 3 := by
    simp only [← UInt64.toNat_inj]
    change level.toNat = 0 ∨ level.toNat = 1 ∨ level.toNat = 2 ∨ level.toNat = 3
    omega
  rcases hcases with rfl | rfl | rfl | rfl
  · rfl
  · rfl
  · exact absurd rfl h
  · exact absurd rfl h

/-- A status word of user or kernel level has its level in it already. -/
theorem RawFrame.statusAt_privilege {raw : RawFrame} (h : raw.privilege ≠ .monitor) :
    statusAt raw.privilege raw.spsr = raw.spsr := by
  unfold statusAt
  rw [← level_eq h, level_shift, UInt64.outside_or_inside]

def RawFrame.resuming (raw : RawFrame) (next : Frame) : RawFrame :=
  { raw with
    registers := next.registers
    elr := next.counter
    sp := next.stack
    spsr := statusAt next.privilege next.status }

/-- The registers of an interrupted context, with those of another frame that say how its
trap was entered. -/
def RawFrame.resumedIn (context raw : RawFrame) : RawFrame :=
  { context with
    esr := raw.esr
    far := raw.far
    vector := raw.vector }

theorem RawFrame.resuming_capture {context : RawFrame} (h : context.privilege ≠ .monitor)
    (raw : RawFrame) : raw.resuming context.capture = context.resumedIn raw :=
  congrArg (fun spsr => { context with spsr, esr := raw.esr, far := raw.far, vector := raw.vector })
    (statusAt_privilege h)

theorem level_statusAt (level : Privilege) (status : UInt64) :
    (statusAt level status >>> 2) &&& 3 = if level = .user then 0 else 1 := by
  have hbits : ∀ word field : BitVec 64,
      (((word &&& ~~~(12#64)) ||| (field <<< 2)) >>> 2) &&& 3#64 = field &&& 3#64 := by
    intro word field
    apply BitVec.eq_of_getLsbD_eq
    intro i hi
    rcases i with _ | _ | i
    · simp
    · simp
    · have hhigh : (3#64).getLsbD (i + 2) = false := by
        rw [BitVec.getLsbD_ofNat, Nat.testBit_add_one, Nat.testBit_add_one]
        simp
      simp only [BitVec.getLsbD_and, hhigh, Bool.and_false]
  have hfield : ∀ field : UInt64,
      (((status &&& ~~~levelField) ||| (field <<< 2)) >>> 2) &&& 3 = field &&& 3 :=
    fun field => UInt64.eq_of_toBitVec_eq (hbits status.toBitVec field.toBitVec)
  unfold statusAt
  rw [hfield]
  split <;> rfl

theorem RawFrame.privilege_resuming (raw : RawFrame) {next : Frame}
    (h : next.privilege ≠ .monitor) : (raw.resuming next).privilege = next.privilege := by
  have hlevel := level_statusAt next.privilege next.status
  unfold privilege resuming
  simp only [hlevel]
  generalize next.privilege = level at h
  cases level with
  | monitor => exact absurd rfl h
  | _ => rfl

end Arm

namespace RiscV

theorem and_previousSupervisor (status : UInt64) :
    status &&& previousSupervisor = 0 ∨ status &&& previousSupervisor = previousSupervisor := by
  have hbits : status.toBitVec &&& BitVec.twoPow 64 8 =
      if status.toBitVec.getLsbD 8 then BitVec.twoPow 64 8 else 0#64 := BitVec.and_twoPow _ _
  cases hbit : status.toBitVec.getLsbD 8 with
  | false =>
    rw [hbit] at hbits
    exact Or.inl (UInt64.eq_of_toBitVec_eq hbits)
  | true =>
    rw [hbit] at hbits
    exact Or.inr (UInt64.eq_of_toBitVec_eq hbits)

def statusAt (level : Privilege) (status : UInt64) : UInt64 :=
  if level = .user then status &&& ~~~previousSupervisor else status ||| previousSupervisor

theorem RawFrame.statusAt_privilege (raw : RawFrame) :
    statusAt raw.privilege raw.sstatus = raw.sstatus := by
  unfold statusAt RawFrame.privilege
  rcases and_previousSupervisor raw.sstatus with h | h
  · rw [h]
    exact UInt64.outside_eq h
  · rw [h]
    exact UInt64.or_eq h

def sp : Nat := 1

theorem sp_lt : sp < 31 := by
  decide

def a0 : Nat := 9

theorem a0_lt : a0 < 31 := by
  decide

/-- The frame once it goes on in another context. The stack pointer is one of its
registers. -/
def RawFrame.resuming (raw : RawFrame) (next : Frame) : RawFrame :=
  { raw with
    registers := next.registers.set sp next.stack sp_lt
    sepc := next.counter
    sstatus := statusAt next.privilege next.status }

def RawFrame.resumedIn (context raw : RawFrame) : RawFrame :=
  { context with
    scause := raw.scause
    stval := raw.stval
    parcel := raw.parcel }

theorem RawFrame.resuming_capture (context raw : RawFrame) :
    raw.resuming context.capture = context.resumedIn raw := by
  have hregisters :
      context.registers.set sp (context.registers.get ⟨sp, sp_lt⟩) sp_lt = context.registers :=
    Vector.set_getElem_self sp_lt
  have hstatus := context.statusAt_privilege
  change { raw with
    registers := context.registers.set sp (context.registers.get ⟨sp, sp_lt⟩) sp_lt
    sepc := context.sepc
    sstatus := statusAt context.privilege context.sstatus } = context.resumedIn raw
  rw [hregisters, hstatus]
  rfl

theorem level_statusAt (level : Privilege) (status : UInt64) :
    statusAt level status &&& previousSupervisor = 0 ↔ level = .user := by
  unfold statusAt
  split
  next h =>
    rw [UInt64.outside_and]
    exact iff_of_true rfl h
  next h =>
    rw [UInt64.or_and]
    exact iff_of_false (by decide) h

theorem RawFrame.privilege_resuming (raw : RawFrame) {next : Frame}
    (h : next.privilege ≠ .monitor) : (raw.resuming next).privilege = next.privilege := by
  have hlevel := level_statusAt next.privilege next.status
  unfold privilege resuming
  simp only [ne_eq, hlevel]
  generalize next.privilege = level at h
  cases level with
  | monitor => exact absurd rfl h
  | _ => rfl

end RiscV

namespace X86

def selectors (level : Privilege) : UInt64 × UInt64 :=
  if level = .user then (userCode, userData) else (kernelCode, kernelData)

namespace RawFrame

theorem leading_capture (raw : RawFrame) : leading raw.capture = raw.registers := by
  ext i hi
  have hget : (leading raw.capture)[i] = (raw.registers ++ Vector.replicate 16 (0 : UInt64))[i] :=
    Vector.getElem_ofFn hi
  rw [hget, Vector.getElem_append_left hi]

/-- The frame once it goes on in another context. The flag that is always one is set. -/
def resuming (raw : RawFrame) (next : Frame) : RawFrame :=
  { raw.withRegisters (leading next) with
    rip := next.counter
    rsp := next.stack
    rflags := next.status ||| reservedFlag
    cs := (selectors next.privilege).1
    ss := (selectors next.privilege).2 }

theorem restore_switchTo (raw : RawFrame) (before next : Frame) :
    raw.restore (before.switchTo next) = raw.resuming next := by
  unfold restore resuming selectors
  by_cases h : next.privilege = .user
  · simp [Frame.switchTo, h, leading]
  · simp [Frame.switchTo, h, leading]

def resumedIn (context raw : RawFrame) : RawFrame :=
  { context with
    rflags := context.rflags ||| reservedFlag
    cs := (selectors context.privilege).1
    ss := (selectors context.privilege).2
    cr2 := raw.cr2
    vector := raw.vector
    errorCode := raw.errorCode }

theorem resuming_capture (context raw : RawFrame) :
    raw.resuming context.capture = context.resumedIn raw := by
  unfold resuming
  rw [leading_capture]
  rfl

theorem registers_resuming (raw : RawFrame) (next : Frame) :
    (raw.resuming next).registers = leading next := by
  unfold resuming
  generalize leading next = values
  exact registers_withRegisters raw values

theorem privilege_resuming (raw : RawFrame) {next : Frame} (h : next.privilege ≠ .monitor) :
    (raw.resuming next).privilege = next.privilege := by
  have hlevel : ∀ level : Privilege, level ≠ .monitor →
      Privilege.ofRing ((selectors level).1 &&& 3).toUInt8 = level := by
    intro level hlevel
    cases level with
    | monitor => exact absurd rfl hlevel
    | _ => rfl
  exact hlevel next.privilege h

end RawFrame

end X86

namespace RawFrame

def arch : RawFrame → Arch
  | x86 _ => .x86_64
  | arm _ => .aarch64
  | riscV _ => .riscv64

@[simp] theorem arch_capture (raw : RawFrame) : raw.capture.arch = raw.arch := by
  cases raw <;> rfl

@[simp] theorem privilege_capture (raw : RawFrame) : raw.capture.privilege = raw.privilege := by
  cases raw <;> rfl

/-- The frame once it goes on in another context: with all registers of that context, at
its level, and with what says how the trap was entered as it is. -/
def resuming (next : Frame) : RawFrame → RawFrame
  | x86 raw => x86 (raw.resuming next)
  | arm raw => arm (raw.resuming next)
  | riscV raw => riscV (raw.resuming next)

@[simp] theorem arch_resuming (raw : RawFrame) (next : Frame) :
    (raw.resuming next).arch = raw.arch := by
  cases raw <;> simp only [resuming, arch]

/-- Nothing of the frame that a context replaces comes back. -/
theorem restore_switchTo (raw : RawFrame) (before next : Frame) :
    raw.restore (before.switchTo next) = raw.resuming next := by
  cases raw with
  | x86 raw => exact congrArg x86 (raw.restore_switchTo before next)
  | arm raw => rfl
  | riscV raw => rfl

theorem resuming_dirty (raw : RawFrame) (next : Frame) (dirty : Dirty) :
    raw.resuming { next with dirty } = raw.resuming next := by
  cases raw <;> rfl

/-- The registers of an interrupted context in the frame of another trap of its
architecture. -/
def resumedIn : RawFrame → RawFrame → RawFrame
  | x86 context, x86 raw => x86 (context.resumedIn raw)
  | arm context, arm raw => arm (context.resumedIn raw)
  | riscV context, riscV raw => riscV (context.resumedIn raw)
  | _, raw => raw

/-- A captured context that goes on in another frame of its architecture is the context
itself, but for what says how that trap was entered. -/
theorem resuming_capture {context raw : RawFrame} (harch : context.arch = raw.arch)
    (hlevel : context.privilege ≠ .monitor) :
    raw.resuming context.capture = context.resumedIn raw := by
  cases context with
  | x86 context =>
    cases raw with
    | x86 raw => exact congrArg x86 (X86.RawFrame.resuming_capture context raw)
    | _ => cases harch
  | arm context =>
    cases raw with
    | arm raw => exact congrArg arm (Arm.RawFrame.resuming_capture hlevel raw)
    | _ => cases harch
  | riscV context =>
    cases raw with
    | riscV raw => exact congrArg riscV (RiscV.RawFrame.resuming_capture context raw)
    | _ => cases harch

theorem returnValue_resuming {next : Frame} {raw : RawFrame} (harch : next.arch = raw.arch) :
    (raw.resuming next).capture.returnValue = next.returnValue := by
  have hleft : ∀ {frame : Frame} {arch : Arch}, frame.arch = arch →
      frame.returnValue = frame.registers[arch.returnRegister] := by
    rintro frame _ rfl
    rfl
  rw [hleft harch]
  cases raw with
  | x86 raw =>
    rw [hleft (arch_capture _)]
    have hregisters : ((x86 raw).resuming next).capture.registers =
        X86.RawFrame.leading next ++ Vector.replicate 16 (0 : UInt64) :=
      congrArg (· ++ Vector.replicate 16 (0 : UInt64)) (raw.registers_resuming next)
    simp only [hregisters]
    change (X86.RawFrame.leading next ++ Vector.replicate 16 (0 : UInt64))[0] = next.registers[0]
    rw [Vector.getElem_append_left (by decide)]
    exact Vector.getElem_ofFn _
  | arm raw => rfl
  | riscV raw =>
    rw [hleft (arch_capture _)]
    exact Vector.getElem_set_ne RiscV.sp_lt RiscV.a0_lt (by decide)

theorem counter_resuming (raw : RawFrame) (next : Frame) :
    (raw.resuming next).capture.counter = next.counter := by
  cases raw <;> rfl

theorem privilege_resuming (raw : RawFrame) {next : Frame} (h : next.privilege ≠ .monitor) :
    (raw.resuming next).privilege = next.privilege := by
  cases raw with
  | x86 raw => exact raw.privilege_resuming h
  | arm raw => exact raw.privilege_resuming h
  | riscV raw => exact raw.privilege_resuming h

end RawFrame

/-- Whether the context that restoring a frame loads is the one given, whichever trap it is restored
for. -/
def Frame.Loads (last next : Frame) : Prop :=
  ∀ raw : RawFrame, raw.restore last = raw.resuming next

theorem Frame.loads_switchTo (before next : Frame) : (before.switchTo next).Loads next :=
  fun raw => raw.restore_switchTo before next

/-- What a frame that was switched loads is in it. -/
theorem Frame.loads_self {frame : Frame} (h : frame.dirty.context = true) : frame.Loads frame := by
  have hswitched : frame.switchTo frame = frame := by
    obtain ⟨arch, registers, counter, stack, status, privilege, vector, syndrome, fault,
      ⟨returned, moved, context⟩⟩ := frame
    cases h
    rfl
  have hloads := loads_switchTo frame frame
  rw [hswitched] at hloads
  exact hloads

end TrapDispatch
