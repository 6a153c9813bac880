import TrapDispatch.Interrupt.Apic
import TrapDispatch.Interrupt.Gic
import TrapDispatch.Interrupt.Pic
import TrapDispatch.Interrupt.Plic
import TrapDispatch.Proofs.ControllerCalls
import TrapDispatch.Proofs.WordAccess

/-!
# Drivers over blocks alike

A driver reaches its registers by their accesses alone. Over blocks whose accesses are alike, all
its operations are alike, so it answers any call alike and leaves alike what it works on.
-/

namespace TrapDispatch

inductive ControllerReply where
  | mode (mode : TriggerMode)
  | line (irq : Option Irq)
  | done
  | priority (result : Except ControllerError Unit)

namespace Controller

def answer {m : Type → Type u} [Monad m] (controller : Controller m) :
    ControllerCall → m ControllerReply
  | .triggerMode irq => return .mode (← controller.triggerMode irq)
  | .pending vector => return .line (← controller.pending vector)
  | .mask irq => do
    controller.mask irq
    return .done
  | .unmask irq => do
    controller.unmask irq
    return .done
  | .acknowledge irq => do
    controller.acknowledge irq
    return .done
  | .endOfInterrupt irq => do
    controller.endOfInterrupt irq
    return .done
  | .setPriority irq level => return .priority (← controller.setPriority irq level)

structure Alike {σ : Type} (same : σ → σ → Prop) (one other : Controller (StateM σ)) : Prop where
  triggerMode : ∀ irq, TrapDispatch.Alike same (one.triggerMode irq) (other.triggerMode irq)
  pending : ∀ vector, TrapDispatch.Alike same (one.pending vector) (other.pending vector)
  mask : ∀ irq, TrapDispatch.Alike same (one.mask irq) (other.mask irq)
  unmask : ∀ irq, TrapDispatch.Alike same (one.unmask irq) (other.unmask irq)
  acknowledge : ∀ irq, TrapDispatch.Alike same (one.acknowledge irq) (other.acknowledge irq)
  endOfInterrupt : ∀ irq,
    TrapDispatch.Alike same (one.endOfInterrupt irq) (other.endOfInterrupt irq)
  setPriority : ∀ irq level,
    TrapDispatch.Alike same (one.setPriority irq level) (other.setPriority irq level)

theorem Alike.answer {σ : Type} {same : σ → σ → Prop} {one other : Controller (StateM σ)}
    (h : one.Alike same other) (call : ControllerCall) :
    TrapDispatch.Alike same (one.answer call) (other.answer call) := by
  cases call with
  | triggerMode irq => exact (h.triggerMode irq).bind fun _ => .pure _
  | pending vector => exact (h.pending vector).bind fun _ => .pure _
  | mask irq => exact (h.mask irq).bind fun _ => .pure _
  | unmask irq => exact (h.unmask irq).bind fun _ => .pure _
  | acknowledge irq => exact (h.acknowledge irq).bind fun _ => .pure _
  | endOfInterrupt irq => exact (h.endOfInterrupt irq).bind fun _ => .pure _
  | setPriority irq level => exact (h.setPriority irq level).bind fun _ => .pure _

end Controller

variable {σ : Type} {same : σ → σ → Prop} {io io' : RegisterBlock (StateM σ)}

/-! ### The 8259 pair -/

namespace Pic

section

variable (h : io.Alike same io')

include h

theorem alike_lastInService (command : UInt64) :
    Alike same (lastInService io command) (lastInService io' command) :=
  (h.write8 _ _).bind fun _ => (h.read8 _).bind fun _ => .pure _

theorem alike_revise (port : UInt64) (change : UInt8 → UInt8) :
    Alike same (io.read8 port >>= fun byte => io.write8 port (change byte))
      (io'.read8 port >>= fun byte => io'.write8 port (change byte)) :=
  (h.read8 _).bind fun _ => h.write8 _ _

theorem alike_mask (irq : Irq) : Alike same (mask io irq) (mask io' irq) := by
  unfold mask
  exact .ite (alike_revise h _ _) (.pure _)

theorem alike_unmask (irq : Irq) : Alike same (unmask io irq) (unmask io' irq) := by
  unfold unmask
  refine .ite ?_ (.pure _)
  refine (h.read8 _).bind fun _ => (h.write8 _ _).bind fun _ => ?_
  exact .ite (alike_revise h _ _) (.pure _)

theorem alike_endOfInterrupt (irq : Irq) :
    Alike same (endOfInterrupt io irq) (endOfInterrupt io' irq) := by
  unfold endOfInterrupt
  exact .ite ((h.write8 _ _).bind fun _ => h.write8 _ _) (h.write8 _ _)

variable [MonadRecord (StateM σ)]
  (hrecord : ∀ level target text, Alike same (recordAt level target text : StateM σ Unit)
    (recordAt level target text))

include hrecord

theorem alike_pending (offset vector : UInt64) :
    Alike same (pending io offset vector) (pending io' offset vector) := by
  unfold pending
  refine .ite (.pure _) (.ite (.pure _) (.ite ?_ (.ite ?_ (.pure _))))
  · refine (alike_lastInService h _).bind fun _ => .ite (.pure _) ?_
    exact (hrecord _ _ _).bind fun _ => .pure _
  · refine (alike_lastInService h _).bind fun _ => .ite (.pure _) ?_
    exact (hrecord _ _ _).bind fun _ => (h.write8 _ _).bind fun _ => .pure _

theorem alike_controller (offset : UInt64) :
    (controller io offset).Alike same (controller io' offset) where
  triggerMode _ := .pure _
  pending := alike_pending h hrecord offset
  mask := alike_mask h
  unmask := alike_unmask h
  acknowledge _ := .pure _
  endOfInterrupt := alike_endOfInterrupt h
  setPriority _ _ := .pure _

end

end Pic

/-! ### The local and the I/O APIC -/

namespace Apic

section

variable (h : io.Alike same io')

include h

theorem alike_updateRedirection (irq : Irq) (change : UInt32 → UInt32) :
    Alike same (updateRedirection io irq change) (updateRedirection io' irq change) :=
  (h.write32 _ _).bind fun _ => (h.read32 _).bind fun _ => h.write32 _ _

theorem alike_triggerMode (irq : Irq) : Alike same (triggerMode io irq) (triggerMode io' irq) := by
  unfold triggerMode
  refine .ite (.pure _) ?_
  exact ((h.write32 _ _).bind fun _ => h.read32 _).bind fun _ => .pure _

theorem alike_controller {localApic localApic' : RegisterBlock (StateM σ)}
    (hlocal : localApic.Alike same localApic') :
    (controller localApic io).Alike same (controller localApic' io') where
  triggerMode := alike_triggerMode h
  pending _ := .pure _
  mask irq := .ite (alike_updateRedirection h irq _) (.pure _)
  unmask irq := .ite (alike_updateRedirection h irq _) (.pure _)
  acknowledge _ := .pure _
  endOfInterrupt _ := hlocal.write32 _ _
  setPriority _ _ := .pure _

end

end Apic

/-! ### The generic interrupt controller -/

namespace Gic

/-- Whether two controllers are of one version, and all their blocks are alike. -/
structure Alike (same : σ → σ → Prop) (one other : Gic (StateM σ)) : Prop where
  distributor : one.distributor.Alike same other.distributor
  redistributor : Option.Rel (RegisterBlock.Alike same) one.redistributor other.redistributor
  cpuInterface : one.cpuInterface.Alike same other.cpuInterface

section

variable {gic gic' : Gic (StateM σ)} (h : gic.Alike same gic')

include h

theorem Alike.isSome_redistributor : gic.redistributor.isSome = gic'.redistributor.isSome := by
  obtain ⟨distributor, redistributor, interface⟩ := gic
  obtain ⟨distributor', redistributor', interface'⟩ := gic'
  cases h.redistributor <;> rfl

theorem Alike.name_eq : gic.name = gic'.name := by
  unfold Gic.name
  rw [h.isSome_redistributor]

theorem Alike.bank (irq : Irq) : ∃ block block' base, gic.bank irq = (block, base) ∧
    gic'.bank irq = (block', base) ∧ block.Alike same block' := by
  obtain ⟨distributor, redistributor, interface⟩ := gic
  obtain ⟨distributor', redistributor', interface'⟩ := gic'
  unfold Gic.bank
  cases h.redistributor with
  | none => exact ⟨_, _, _, rfl, rfl, h.distributor⟩
  | some hblock =>
    dsimp only
    split
    · exact ⟨_, _, _, rfl, rfl, hblock⟩
    · exact ⟨_, _, _, rfl, rfl, h.distributor⟩

theorem alike_peek : TrapDispatch.Alike same gic.peek gic'.peek :=
  (h.cpuInterface.read32 _).bind fun _ => .pure _

theorem alike_writeEnableBit (irq : Irq) (array : UInt64) :
    TrapDispatch.Alike same (gic.writeEnableBit irq array) (gic'.writeEnableBit irq array) := by
  obtain ⟨block, block', base, hbank, hbank', hblock⟩ := h.bank irq
  unfold writeEnableBit
  rw [hbank, hbank']
  exact hblock.write32 _ _

theorem alike_triggerMode (irq : Irq) :
    TrapDispatch.Alike same (gic.triggerMode irq) (gic'.triggerMode irq) := by
  obtain ⟨block, block', base, hbank, hbank', hblock⟩ := h.bank irq
  unfold triggerMode
  rw [hbank, hbank']
  exact .ite (.pure _) ((hblock.read32 _).bind fun _ => .pure _)

theorem alike_setPriority (irq : Irq) (level : UInt8) :
    TrapDispatch.Alike same (gic.setPriority irq level) (gic'.setPriority irq level) := by
  obtain ⟨block, block', base, hbank, hbank', hblock⟩ := h.bank irq
  unfold setPriority
  rw [hbank, hbank']
  refine .ite (.pure _) ?_
  exact (hblock.read32 _).bind fun _ => (hblock.write32 _ _).bind fun _ => .pure _

variable [MonadRecord (StateM σ)]
  (hrecord : ∀ level target text, TrapDispatch.Alike same
    (recordAt level target text : StateM σ Unit) (recordAt level target text))

include hrecord

theorem alike_pending : TrapDispatch.Alike same gic.pending gic'.pending := by
  unfold pending
  refine (alike_peek h).bind fun peeked => ?_
  cases peeked with
  | none => exact .pure _
  | some _ =>
    refine (h.cpuInterface.read32 _).bind fun word => .ite ?_ (.pure _)
    rw [h.name_eq]
    exact (hrecord _ _ _).bind fun _ => .pure _

theorem alike_controller : gic.controller.Alike same gic'.controller where
  triggerMode := alike_triggerMode h
  pending _ := alike_pending h hrecord
  mask irq := .ite (alike_writeEnableBit h irq clearEnable) (.pure _)
  unmask irq := .ite (alike_writeEnableBit h irq setEnable) (.pure _)
  acknowledge _ := .pure _
  endOfInterrupt _ := h.cpuInterface.write32 _ _
  setPriority := alike_setPriority h

end

end Gic

/-! ### CLINT and PLIC -/

namespace Plic

/-- Whether the registers of two controllers are alike, and all else is as in the other. -/
structure Alike (same : σ → σ → Prop) (one other : Plic (StateM σ)) : Prop where
  registers : one.registers.Alike same other.registers
  enable : ∀ flag, TrapDispatch.Alike same (one.hart.enable flag) (other.hart.enable flag)
  disable : ∀ flag, TrapDispatch.Alike same (one.hart.disable flag) (other.hart.disable flag)
  clearPending : ∀ flag,
    TrapDispatch.Alike same (one.hart.clearPending flag) (other.hart.clearPending flag)
  context : one.context = other.context
  get : TrapDispatch.Alike same one.localMasked.get other.localMasked.get
  set : ∀ flags, TrapDispatch.Alike same (one.localMasked.set flags) (other.localMasked.set flags)

section

variable {plic plic' : Plic (StateM σ)} (h : plic.Alike same plic')

include h

theorem alike_setEnabled (irq : Irq) (enabled : Bool) :
    TrapDispatch.Alike same (plic.setEnabled irq enabled) (plic'.setEnabled irq enabled) := by
  have hword : ∀ source, plic.enableWord source = plic'.enableWord source := by
    intro source
    unfold enableWord
    rw [h.context]
  unfold setEnabled
  rw [hword]
  refine .ite ((h.registers.read32 _).bind fun _ => h.registers.write32 _ _) ?_
  cases localFlag irq with
  | none => exact .pure _
  | some flag =>
    refine h.get.bind fun masked => .ite ?_ ?_
    · exact (h.set _).bind fun _ => h.enable flag
    · exact (h.set _).bind fun _ => h.disable flag

theorem alike_localPending (cause : RiscV.InterruptCause) :
    TrapDispatch.Alike same (plic.localPending cause) (plic'.localPending cause) := by
  refine .bind ?_ fun _ => .pure _
  unfold isLocalMasked
  cases localFlag (localLine cause) with
  | none => exact .pure _
  | some flag => exact h.get.bind fun _ => .pure _

theorem claimRegister_eq : plic.claimRegister = plic'.claimRegister := by
  unfold claimRegister
  rw [h.context]

theorem alike_pending (vector : UInt64) :
    TrapDispatch.Alike same (plic.pending vector) (plic'.pending vector) := by
  unfold pending
  rw [claimRegister_eq h]
  refine .ite (.pure _) (.ite ?_ (.ite ?_ (.ite ?_ (.pure _))))
  · exact (h.registers.read32 _).bind fun _ => .pure _
  · exact alike_localPending h .timer
  · exact alike_localPending h .software

theorem alike_setPriority (irq : Irq) (level : UInt8) :
    TrapDispatch.Alike same (plic.setPriority irq level) (plic'.setPriority irq level) := by
  unfold setPriority
  refine .ite (.pure _) (.ite (.pure _) (.ite (.pure _) ?_))
  exact (h.registers.write32 _ _).bind fun _ => .pure _

theorem alike_controller : plic.controller.Alike same plic'.controller where
  triggerMode _ := .pure _
  pending := alike_pending h
  mask irq := alike_setEnabled h irq false
  unmask irq := alike_setEnabled h irq true
  acknowledge _ := .ite (h.clearPending _) (.pure _)
  endOfInterrupt irq := by
    change TrapDispatch.Alike same (plic.endOfInterrupt irq) (plic'.endOfInterrupt irq)
    unfold endOfInterrupt
    rw [claimRegister_eq h]
    exact .ite (h.registers.write32 _ _) (.pure _)
  setPriority := alike_setPriority h

end

end Plic
end TrapDispatch
