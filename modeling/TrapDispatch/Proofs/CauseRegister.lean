import TrapDispatch.Proofs.Classes
import TrapDispatch.Proofs.Conventions

/-!
# The cause register

What a RISC-V trap is classified as follows from the value of its cause register, and from
nothing else but the address or the parcel that comes with it. The vector keeps all of that
value as long as it lies in the table, so that no two values meet in a slot.
-/

namespace TrapDispatch

variable {σ : Type}

namespace RiscV

theorem and_interruptFlag (word : UInt64) :
    word &&& interruptFlag = 0 ∨ word &&& interruptFlag = interruptFlag := by
  have hbits : word.toBitVec &&& BitVec.twoPow 64 63 =
      if word.toBitVec.getLsbD 63 then BitVec.twoPow 64 63 else 0#64 := BitVec.and_twoPow _ _
  cases hbit : word.toBitVec.getLsbD 63 with
  | false =>
    rw [hbit] at hbits
    exact Or.inl (UInt64.eq_of_toBitVec_eq hbits)
  | true =>
    rw [hbit] at hbits
    exact Or.inr (UInt64.eq_of_toBitVec_eq hbits)

def interruptWord (code : UInt64) : UInt64 :=
  code ||| interruptFlag

/-- The ways in which a cause is folded onto a vector. -/
inductive Folds (cause : UInt64) : UInt64 → Prop where
  | exception (h : cause < interruptBase) : Folds cause cause
  | interrupt (code : UInt64) (hcode : code < interruptBase) (h : cause = interruptWord code) :
    Folds cause (interruptBase + code)
  | outside (h : interruptBase ≤ cause &&& ~~~interruptFlag) : Folds cause vectorLimit

theorem folds_vectorOfCause (cause : UInt64) : Folds cause (vectorOfCause cause) := by
  unfold vectorOfCause
  dsimp only
  by_cases hcode : cause &&& ~~~interruptFlag < interruptBase
  · rw [if_pos hcode]
    rcases and_interruptFlag cause with hflag | hflag
    · have hcause : cause &&& ~~~interruptFlag = cause := UInt64.outside_eq hflag
      rw [hcause] at hcode
      rw [if_neg (Decidable.not_not.mpr hflag), hcause, UInt64.zero_add]
      exact .exception hcode
    · have hcause := UInt64.outside_or_inside cause interruptFlag
      rw [hflag] at hcause
      rw [if_pos (by rw [hflag]; decide)]
      exact .interrupt _ hcode hcause.symm
  · rw [if_neg hcode]
    exact .outside (UInt64.not_lt.mp hcode)

/-- The cause that a vector of the table stands for. -/
def causeOfVector (vector : UInt64) : UInt64 :=
  if vector < interruptBase then vector else interruptWord (vector - interruptBase)

theorem toNat_interruptBase_add {code : UInt64} (h : code < interruptBase) :
    (interruptBase + code).toNat = 16 + code.toNat := by
  have hlt : code.toNat < 16 := UInt64.lt_iff_toNat_lt.mp h
  have hfits : interruptBase.toNat + code.toNat < UInt64.size :=
    Nat.lt_trans (Nat.add_lt_add_left hlt _) (by decide)
  rw [UInt64.toNat_add, Nat.mod_eq_of_lt hfits]
  rfl

theorem interruptBase_le_add {code : UInt64} (h : code < interruptBase) :
    interruptBase ≤ interruptBase + code := by
  rw [UInt64.le_iff_toNat_le, toNat_interruptBase_add h]
  exact Nat.le_add_right 16 _

theorem add_lt_vectorLimit {code : UInt64} (h : code < interruptBase) :
    interruptBase + code < vectorLimit := by
  have hlt : code.toNat < 16 := UInt64.lt_iff_toNat_lt.mp h
  rw [UInt64.lt_iff_toNat_lt, toNat_interruptBase_add h]
  exact Nat.add_lt_add_left hlt 16

theorem add_sub_interruptBase (code : UInt64) : interruptBase + code - interruptBase = code := by
  rw [UInt64.add_comm, UInt64.add_sub_cancel]

/-- The vector keeps the cause, unless it lies outside of the table. -/
theorem causeOfVector_vectorOfCause {cause : UInt64} (h : vectorOfCause cause < vectorLimit) :
    causeOfVector (vectorOfCause cause) = cause := by
  have hfolds := folds_vectorOfCause cause
  generalize vectorOfCause cause = vector at hfolds h
  cases hfolds with
  | exception hcause => exact if_pos hcause
  | interrupt code hcode hcause =>
    unfold causeOfVector
    rw [if_neg (UInt64.not_lt.mpr (interruptBase_le_add hcode)), add_sub_interruptBase, hcause]
  | outside _ => exact absurd h (by decide)

theorem eq_of_vectorOfCause_eq {first second : UInt64}
    (h : vectorOfCause first = vectorOfCause second) (hlt : vectorOfCause first < vectorLimit) :
    first = second := by
  have hsecond := causeOfVector_vectorOfCause (h ▸ hlt)
  rw [← h, causeOfVector_vectorOfCause hlt] at hsecond
  exact hsecond

def ExceptionCause.code : ExceptionCause → UInt64
  | instructionMisaligned => 0
  | instructionAccess => 1
  | illegalInstruction => 2
  | breakpoint => 3
  | loadMisaligned => 4
  | loadAccess => 5
  | storeMisaligned => 6
  | storeAccess => 7
  | callFromUser => 8
  | callFromSupervisor => 9
  | instructionPage => 12
  | loadPage => 13
  | storePage => 15

theorem ExceptionCause.code_of_ofCode {code : UInt64} {cause : ExceptionCause}
    (h : ofCode code = some cause) : code = cause.code := by
  unfold ofCode at h
  split at h
  case h_14 => cases h
  all_goals
    cases h
    apply UInt64.toNat_inj.mp
    assumption

def knownCauses : List UInt64 :=
  [0, 1, 2, 3, 4, 5, 6, 7, 8, 12, 13, 15,
    interruptFlag + 1, interruptFlag + 5, interruptFlag + 9]

theorem forall_known {property : UInt64 → Prop} [DecidablePred property]
    (h : knownCauses.all (fun cause => decide (property cause)) = true) :
    ∀ cause ∈ knownCauses, property cause :=
  fun cause hmem => of_decide_eq_true (List.all_eq_true.mp h cause hmem)

/-- What the cause register says of a trap. -/
inductive RawFrame.Means (raw : RawFrame) : Cause → Prop where
  | call (h : raw.scause = 8) : Means raw (.syscall ecallConvention)
  | interrupt (h : raw.scause = interruptFlag + 1 ∨ raw.scause = interruptFlag + 5 ∨
      raw.scause = interruptFlag + 9) : Means raw .interrupt
  | execute (h : raw.scause = 12) : Means raw (.exception (.pageFault ⟨raw.stval⟩ .execute))
  | read (h : raw.scause = 13) : Means raw (.exception (.pageFault ⟨raw.stval⟩ .read))
  | write (h : raw.scause = 15) : Means raw (.exception (.pageFault ⟨raw.stval⟩ .write))
  | alignment (h : raw.scause = 0 ∨ raw.scause = 4 ∨ raw.scause = 6) :
    Means raw (.exception .alignment)
  | generalProtection (h : raw.scause = 1 ∨ raw.scause = 5 ∨ raw.scause = 7) :
    Means raw (.exception .generalProtection)
  | illegalInstruction (h : raw.scause = 2) : Means raw (.exception .illegalInstruction)
  | breakpoint (h : raw.scause = 3) : Means raw (.exception .breakpoint)
  | unknown (h : raw.scause ∉ knownCauses) : Means raw .unassigned

section

variable {kernel : Kernel σ} {raw : RawFrame}

/-- A trap through the slot of its vector is decoded if the slot is assigned. -/
theorem cause_capture (harch : kernel.vectors.arch = .riscv64)
    (hlt : vectorOfCause raw.scause < vectorLimit) :
    kernel.cause raw.capture =
      if (vectorInfo (vectorOfCause raw.scause)).assigned then
        decode raw.capture (kernel.vectors.slot (vectorOfCause raw.scause))
      else .unassigned := by
  have hlookup : kernel.vectors.lookup raw.capture.vector =
      some (kernel.vectors.slot (vectorOfCause raw.scause)) := by
    refine if_pos ?_
    unfold VectorTable.size
    rw [harch]
    exact UInt64.lt_iff_toNat_lt.mp hlt
  have hassigned : (kernel.vectors.slot (vectorOfCause raw.scause)).assigned =
      (vectorInfo (vectorOfCause raw.scause)).assigned := by
    change (kernel.vectors.arch.vectorInfo _).assigned = _
    rw [harch]
    rfl
  rw [Kernel.cause_of_lookup hlookup]
  unfold Cause.ofTrap
  rw [hassigned]
  cases hslot : (vectorInfo (vectorOfCause raw.scause)).assigned with
  | false => rfl
  | true =>
    rw [if_neg (by simp), if_pos rfl, if_neg]
    · rfl
    · rintro ⟨hclass, hrank⟩
      have hmin : (kernel.vectors.slot (vectorOfCause raw.scause)).minPrivilege = .user :=
        kernel.vectors.arch.minPrivilege_of_software _ hclass
      rw [hmin] at hrank
      exact Nat.not_lt_zero _ hrank

theorem means_pageFault {access : Access} (hcode : raw.scause ≠ 3)
    (h : raw.Means (.exception (.pageFault ⟨raw.stval⟩ access))) :
    raw.Means (.exception (.pageFault ⟨raw.capture.faultAddress⟩ access)) := by
  have hfault : raw.capture.faultAddress = raw.stval := if_neg hcode
  rw [hfault]
  exact h

theorem means_of_exception (harch : kernel.vectors.arch = .riscv64) {exception : ExceptionCause}
    (h : raw.scause = exception.code) : raw.Means (kernel.cause raw.capture) := by
  have hcode : vectorOfCause exception.code = exception.code := by
    cases exception <;> decide
  have hvector : vectorOfCause raw.scause = exception.code := by
    rw [h, hcode]
  have hlt : vectorOfCause raw.scause < vectorLimit := by
    rw [hvector]
    cases exception <;> decide
  rw [cause_capture harch hlt, hvector]
  obtain ⟨⟨arch, base⟩, services, syscalls, config⟩ := kernel
  cases harch
  cases exception with
  | instructionMisaligned => exact .alignment (.inl h)
  | loadMisaligned => exact .alignment (.inr (.inl h))
  | storeMisaligned => exact .alignment (.inr (.inr h))
  | instructionAccess => exact .generalProtection (.inl h)
  | loadAccess => exact .generalProtection (.inr (.inl h))
  | storeAccess => exact .generalProtection (.inr (.inr h))
  | illegalInstruction => exact .illegalInstruction h
  | breakpoint => exact .breakpoint h
  | callFromUser => exact .call h
  | callFromSupervisor => exact .unknown (by rw [h]; decide)
  | instructionPage => exact means_pageFault (by rw [h]; decide) (.execute h)
  | loadPage => exact means_pageFault (by rw [h]; decide) (.read h)
  | storePage => exact means_pageFault (by rw [h]; decide) (.write h)

theorem means_of_reserved (harch : kernel.vectors.arch = .riscv64)
    (hcode : raw.scause < interruptBase) (hvector : vectorOfCause raw.scause = raw.scause)
    (h : ExceptionCause.ofCode raw.scause = none) : raw.Means (kernel.cause raw.capture) := by
  have hlt : vectorOfCause raw.scause < vectorLimit := by
    rw [hvector]
    exact UInt64.lt_trans hcode (by decide)
  have hinfo : vectorInfo raw.scause = .undefined := by
    unfold vectorInfo
    rw [if_neg (UInt64.not_le.mpr hcode), h]
  have hknown : ∀ cause ∈ knownCauses, cause < interruptBase →
      ExceptionCause.ofCode cause ≠ none := forall_known (by decide)
  rw [cause_capture harch hlt, hvector, hinfo]
  exact .unknown fun hmem => hknown raw.scause hmem hcode h

/-- Whether an interrupt code is one that reaches supervisor mode. -/
def IsInterruptCode (code : UInt64) : Prop :=
  code = InterruptCause.software.code ∨ code = InterruptCause.timer.code ∨
    code = InterruptCause.external.code

instance (code : UInt64) : Decidable (IsInterruptCode code) := by
  unfold IsInterruptCode
  infer_instance

theorem means_of_interrupt (harch : kernel.vectors.arch = .riscv64) {code : UInt64}
    (hcode : code < interruptBase) (h : raw.scause = interruptWord code)
    (hvector : vectorOfCause raw.scause = interruptBase + code) :
    raw.Means (kernel.cause raw.capture) := by
  have hinfo : vectorInfo (interruptBase + code) =
      if IsInterruptCode code then .defined .interrupt .kernel else .undefined := by
    unfold vectorInfo
    rw [if_pos (interruptBase_le_add hcode), add_sub_interruptBase]
    rfl
  rw [cause_capture harch (hvector ▸ add_lt_vectorLimit hcode), hvector, hinfo]
  by_cases hknown : IsInterruptCode code
  · rw [if_pos hknown]
    have hdecode : decode raw.capture (kernel.vectors.slot (interruptBase + code)) = .interrupt := by
      have hclass : (kernel.vectors.slot (interruptBase + code)).trapClass = .interrupt := by
        change (kernel.vectors.arch.vectorInfo _).trapClass = _
        rw [harch]
        change (vectorInfo (interruptBase + code)).trapClass = _
        rw [hinfo, if_pos hknown]
        rfl
      unfold decode
      rw [hclass]
    change raw.Means (decode raw.capture (kernel.vectors.slot (interruptBase + code)))
    rw [hdecode]
    apply RawFrame.Means.interrupt
    rw [h]
    rcases hknown with rfl | rfl | rfl
    · exact .inl (by decide)
    · exact .inr (.inl (by decide))
    · exact .inr (.inr (by decide))
  · rw [if_neg hknown]
    refine .unknown fun hmem => hknown ?_
    have hcodes : ∀ cause ∈ knownCauses, interruptBase ≤ vectorOfCause cause →
        IsInterruptCode (vectorOfCause cause - interruptBase) := forall_known (by decide)
    have hcause := hcodes raw.scause hmem
    rw [hvector, add_sub_interruptBase] at hcause
    exact hcause (interruptBase_le_add hcode)

theorem means_of_outside (harch : kernel.vectors.arch = .riscv64)
    (hvector : vectorOfCause raw.scause = vectorLimit) : raw.Means (kernel.cause raw.capture) := by
  have hlookup : kernel.vectors.lookup raw.capture.vector = none := by
    rw [VectorTable.lookup_eq_none_iff]
    unfold VectorTable.size
    rw [harch]
    exact UInt64.le_iff_toNat_le.mp (UInt64.le_of_eq hvector.symm)
  have hknown : ∀ cause ∈ knownCauses, vectorOfCause cause ≠ vectorLimit :=
    forall_known (by decide)
  rw [Kernel.cause_of_lookup_eq_none hlookup]
  exact .unknown fun hmem => hknown raw.scause hmem hvector

/-- What the cause register says of a trap is what the trap is classified as. -/
theorem means_cause (harch : kernel.vectors.arch = .riscv64) :
    raw.Means (kernel.cause raw.capture) := by
  have hfolds := folds_vectorOfCause raw.scause
  generalize hvector : vectorOfCause raw.scause = vector at hfolds
  cases hfolds with
  | exception hcode =>
    cases hexception : ExceptionCause.ofCode raw.scause with
    | none => exact means_of_reserved harch hcode hvector hexception
    | some exception =>
      exact means_of_exception harch (ExceptionCause.code_of_ofCode hexception)
  | interrupt code hcode hcause => exact means_of_interrupt harch hcode hcause hvector
  | outside _ => exact means_of_outside harch hvector

theorem RawFrame.Means.eq_unassigned {cause : Cause} (h : raw.scause ∉ knownCauses)
    (hmeans : raw.Means cause) : cause = .unassigned := by
  cases hmeans <;> simp_all [knownCauses]

/-- The cause register says one thing only. -/
theorem RawFrame.Means.unique {first second : Cause} (hfirst : raw.Means first)
    (hsecond : raw.Means second) : first = second := by
  by_cases hknown : raw.scause ∈ knownCauses
  · cases hfirst with
    | unknown h => exact absurd hknown h
    | _ =>
      cases hsecond with
      | unknown h => exact absurd hknown h
      | _ => grind [interruptFlag]
  · rw [hfirst.eq_unassigned hknown, hsecond.eq_unassigned hknown]

end

theorem instructionLength_toUInt16 (parcel : UInt64) :
    instructionLength parcel.toUInt16 = if parcel &&& 3 = 3 then 4 else 2 := by
  have hbits : parcel.toUInt16 &&& 3 = 3 ↔ parcel &&& 3 = 3 := by
    have hlow : ∀ word : Nat, word &&& 3 = word % 4 := fun word =>
      Nat.and_two_pow_sub_one_eq_mod word 2
    rw [← UInt16.toNat_inj, ← UInt64.toNat_inj, UInt16.toNat_and, UInt64.toNat_and]
    change (parcel.toNat % 65536) &&& 3 = 3 ↔ parcel.toNat &&& 3 = 3
    rw [hlow, hlow]
    omega
  unfold instructionLength
  simp only [hbits]

def RawFrame.breakpointBytes (raw : RawFrame) : UInt64 :=
  if raw.parcel &&& 3 = 3 then 4 else 2

theorem RawFrame.breakpointLength_capture {raw : RawFrame} (h : raw.scause = 3) :
    breakpointLength raw.capture = raw.breakpointBytes := by
  have hparcel : raw.capture.faultAddress = raw.parcel := if_pos h
  change instructionLength raw.capture.faultAddress.toUInt16 = _
  rw [hparcel]
  exact instructionLength_toUInt16 raw.parcel

end RiscV

namespace Kernel

variable (kernel : Kernel σ) (server : Server σ) (cpu : Fin maxCpus)

/-- Counts a trap, and sends it the way of a cause. -/
def sendAs (frame : Frame) (cause : Cause) : Dispatch σ Outcome := do
  Dispatch.count (kernel.arrived frame)
  setState cpu .classified true
  kernel.direct server cpu cause

theorem route_eq_sendAs (state : Activation σ) :
    kernel.route server cpu state =
      kernel.sendAs server cpu state.frame (kernel.cause state.frame) state := by
  rw [route_eq]
  rfl

theorem sendAs_breakpoint (state : Activation σ) : ∃ last,
    kernel.sendAs server cpu state.frame (.exception .breakpoint) state = .ok .resumed last ∧
      last.frame = state.frame.advance (breakpointLength state.frame) :=
  ⟨_, rfl, rfl⟩

end Kernel

structure RiscV.RawFrame.Sent (raw : RawFrame) (kernel : Kernel σ) (server : Server σ)
    (cpu : Fin maxCpus) (state : Activation σ) : Prop where
  /-- The trap is classified as its cause register says. -/
  classified : ∀ cause, kernel.cause raw.capture = cause ↔ raw.Means cause
  /-- It goes the way of that cause; the default fault handler is that of unknown ones. -/
  routed : ∀ cause, raw.Means cause →
    kernel.route server cpu state = kernel.sendAs server cpu raw.capture cause state
  breakpoint : raw.scause = 3 → ∃ last, kernel.route server cpu state = .ok .resumed last ∧
    last.frame = raw.capture.advance raw.breakpointBytes
  /-- No other cause has its vector, if that is one of the table. -/
  unshared : ∀ other, vectorOfCause other = vectorOfCause raw.scause →
    vectorOfCause raw.scause < 32 → other = raw.scause

/-- RISC-V traps are classified exactly by their cause registers, for all values of these, and
of the other registers of the frame. -/
theorem riscV_causes_are_told_apart (kernel : Kernel σ) (server : Server σ) (cpu : Fin maxCpus)
    (raw : RiscV.RawFrame) (state : Activation σ) (harch : kernel.vectors.arch = .riscv64)
    (hframe : state.frame = raw.capture) : raw.Sent kernel server cpu state := by
  have hmeans : raw.Means (kernel.cause raw.capture) := RiscV.means_cause harch
  have hrouted : ∀ cause, raw.Means cause →
      kernel.route server cpu state = kernel.sendAs server cpu raw.capture cause state := by
    intro cause hcause
    rw [kernel.route_eq_sendAs, hframe, hmeans.unique hcause]
  refine ⟨fun cause => ?_, hrouted, fun h => ?_, fun other h hlt => ?_⟩
  · constructor
    · rintro rfl
      exact hmeans
    · exact hmeans.unique
  · obtain ⟨last, hlast, hcounter⟩ := kernel.sendAs_breakpoint server cpu state
    rw [hframe] at hlast hcounter
    rw [RiscV.RawFrame.breakpointLength_capture h] at hcounter
    exact ⟨last, (hrouted _ (.breakpoint h)).trans hlast, hcounter⟩
  · exact RiscV.eq_of_vectorOfCause_eq h (h ▸ hlt)

def Kernel.onRiscV : Kernel Unit :=
  { Kernel.plain ⟨3⟩ (pure ()) with vectors := ⟨.riscv64, 0⟩ }

/-- An interrupt with the code of a system call. -/
def RiscV.unknownInterrupt : RawFrame :=
  { scause := interruptFlag + 8 }

/-- It is taken for neither of the two. -/
theorem unknown_interrupt_is_unassigned :
    Kernel.onRiscV.cause RiscV.unknownInterrupt.capture = .unassigned ∧
      ∀ other, RiscV.vectorOfCause other = 24 → other = RiscV.unknownInterrupt.scause := by
  have hsent : RiscV.unknownInterrupt.Sent Kernel.onRiscV (Kernel.onRiscV.server 0) ⟨0, by decide⟩
      ⟨RiscV.unknownInterrupt.capture, {}, { world := () }⟩ :=
    riscV_causes_are_told_apart Kernel.onRiscV (Kernel.onRiscV.server 0) ⟨0, by decide⟩
      RiscV.unknownInterrupt ⟨RiscV.unknownInterrupt.capture, {}, { world := () }⟩ rfl rfl
  exact ⟨(hsent.classified _).mpr (.unknown (by decide)), fun other h =>
    hsent.unshared other (h.trans (by decide)) (by decide)⟩

end TrapDispatch
