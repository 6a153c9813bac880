import TrapDispatch.Proofs.GicLines
import TrapDispatch.Proofs.Nesting
import TrapDispatch.Proofs.UnclaimedLines

/-!
# Lines and special numbers

The interface of a CPU tells a number. Those up to 1019 are of lines, and 1020 to 1023 have special
meanings. The driver takes 1023 for nothing pending, and all others for lines: it names 1020 to 1022
as well, cannot mask them, and ends them. Every other number that it names is that of a line, which
is masked when a trap returns that has left it unhandled, if that is the policy.
-/

namespace TrapDispatch

open ControllerCall

variable {η τ : Type}

/-- Whether a number is one of those with special meanings that the driver takes for a line. -/
def Irq.IsReserved (irq : Irq) : Prop :=
  1020 ≤ irq.number ∧ irq.number ≤ 1022

namespace Gic

def wired (gic : Gic (StateM η)) : Gic (ServiceProgram (η × τ)) where
  distributor := gic.distributor.wired
  redistributor := gic.redistributor.map RegisterBlock.wired
  cpuInterface := gic.cpuInterface.wired

section

variable {gic : Gic (StateM η)}

theorem bank_wired (irq : Irq) :
    (gic.wired (τ := τ)).bank irq = ((gic.bank irq).1.wired, (gic.bank irq).2) := by
  unfold bank wired
  cases gic.redistributor with
  | none => rfl
  | some redistributor =>
    simp only [Option.map_some]
    split <;> rfl

theorem mirrors_writeEnableBit (irq : Irq) (array : UInt64) :
    Mirrors ((gic.wired (τ := τ)).writeEnableBit irq array) (gic.writeEnableBit irq array) := by
  unfold writeEnableBit
  rw [bank_wired]
  exact mirrors_onHardware _

theorem mirrors_triggerMode (irq : Irq) :
    Mirrors ((gic.wired (τ := τ)).triggerMode irq) (gic.triggerMode irq) := by
  unfold triggerMode
  rw [bank_wired]
  refine .ite (mirrors_pure _) ?_
  exact (mirrors_onHardware _).bind fun word => mirrors_pure _

theorem mirrors_peek : Mirrors (gic.wired (τ := τ)).peek gic.peek :=
  (mirrors_onHardware _).bind fun _ => mirrors_pure _

variable [MonadRecord (StateM η)] (hdrops : ∀ r, (record r : StateM η Unit) = pure ())

include hdrops

theorem mirrors_pending : Mirrors (gic.wired (τ := τ)).pending gic.pending := by
  refine mirrors_peek.bind fun peeked => ?_
  cases peeked with
  | none => exact mirrors_pure _
  | some _ =>
    refine (mirrors_onHardware _).bind fun word => .ite ?_ (mirrors_pure _)
    exact (mirrors_dropped hdrops _ _ _ _).bind fun _ => mirrors_pure _

theorem mirrors_controller : (gic.wired (τ := τ)).controller.Mirrors gic.controller where
  triggerMode := mirrors_triggerMode
  pending _ := mirrors_pending hdrops
  mask irq := .ite (mirrors_writeEnableBit irq clearEnable) (mirrors_pure ())
  unmask irq := .ite (mirrors_writeEnableBit irq setEnable) (mirrors_pure ())
  acknowledge _ := mirrors_pure ()
  endOfInterrupt _ := mirrors_onHardware _

end

end Gic

namespace GicBoard

section

variable (board : GicBoard)

def peeked : UInt32 :=
  board.answers board.touches Gic.pendingOffset &&& Gic.lineField

def taken : UInt32 :=
  board.answers (.interface Gic.pendingOffset :: board.touches) Gic.acknowledgeOffset &&&
    Gic.lineField

/-- The line that the interface names, unless it says that nothing is pending. -/
def named : Option Irq :=
  if board.peeked = Gic.spuriousLine ∨ board.taken = Gic.spuriousLine then none
  else some ⟨board.taken⟩

end

/-- What it means for the lines of a board that one is named. -/
structure Identifies (version : GicVersion) (board : GicBoard) : Prop where
  /-- A line is that which is handed out, whatever was pending before. -/
  named : ∀ vector, ((driver version).pending vector board).1 = board.named
  /-- Nothing is ended by asking for it. -/
  asked : ∀ vector, ∃ new,
    ((driver version).pending vector board).2 = { board with touches := new ++ board.touches } ∧
      .interface Gic.endOffset ∉ new
  /-- A line is accepted, unless its number is reserved. -/
  accepted : ∀ irq, board.named = some irq → ¬ irq.IsReserved → irq.number ≤ Gic.maxLine
  /-- A line that is accepted is masked and unmasked by its bit. -/
  masks : ∀ irq later, irq.number ≤ Gic.maxLine → (driver version).mask irq later =
    ((), (later.switched version irq false).touched
      (.write (home version irq) (wordOf version .clearEnable irq) (Gateways.bit irq.number)))
  unmasks : ∀ irq later, irq.number ≤ Gic.maxLine → (driver version).unmask irq later =
    ((), (later.switched version irq true).touched
      (.write (home version irq) (wordOf version .setEnable irq) (Gateways.bit irq.number)))
  /-- A reserved number is not. -/
  reserved : ∀ irq later, irq.IsReserved →
    (driver version).mask irq later = ((), later) ∧ (driver version).unmask irq later = ((), later)

/-- What an interrupt has done to the lines of a board, as its outcome tells it. -/
structure Told (version : GicVersion) (policy : UnhandledPolicy) (board after : GicBoard)
    (outcome : Outcome) : Prop where
  interrupt : outcome.isOfInterrupt = true
  named : board.named = outcome.line?
  /-- Nothing is done for a number that says that nothing is pending. -/
  spurious : outcome = .spurious → ∃ new,
    after = { board with touches := new ++ board.touches } ∧ .interface Gic.endOffset ∉ new
  /-- A line that nobody handles is disabled if that is the policy. -/
  disabled : ∀ irq, outcome = .unhandled irq → ¬ irq.IsReserved → policy = .maskLine →
    after.enabled version irq = false
  /-- Nothing is disabled for a reserved number, which is ended like that of a line. -/
  ended : ∀ irq, outcome = .unhandled irq → irq.IsReserved → after.enables = board.enables ∧
    ∃ new, after.touches = new ++ board.touches ∧ .interface Gic.endOffset ∈ new

section

variable {board start : GicBoard} {version : GicVersion} {irq : Irq} {calls : List ControllerCall}

theorem isReserved_of_line (hle : irq.number ≤ Gic.lineField) (hnot : irq.number ≠ Gic.spuriousLine)
    (hmore : ¬ irq.number ≤ Gic.maxLine) : irq.IsReserved := by
  unfold Irq.IsReserved
  rw [UInt32.le_iff_toNat_le] at hle hmore ⊢
  rw [UInt32.le_iff_toNat_le]
  have hne := mt UInt32.toNat_inj.mp hnot
  simp only [Gic.lineField, Gic.spuriousLine, Gic.maxLine, UInt32.reduceToNat] at *
  omega

theorem maxLine_lt (h : irq.IsReserved) : Gic.maxLine < irq.number := by
  have hle := h.1
  rw [UInt32.le_iff_toNat_le] at hle
  rw [UInt32.lt_iff_toNat_lt]
  exact hle

theorem accepted_of_named (h : board.named = some irq) (hnot : ¬ irq.IsReserved) :
    irq.number ≤ Gic.maxLine := by
  unfold named at h
  split at h
  · cases h
  next hpending =>
    obtain ⟨-, htaken⟩ := not_or.mp hpending
    obtain rfl := Option.some.inj h
    have hle : board.taken ≤ Gic.lineField := by
      rw [UInt32.le_iff_toNat_le, taken, UInt32.toNat_and]
      exact Nat.and_le_right
    exact of_not_not fun hmore => hnot (isReserved_of_line hle htaken hmore)

/-- Both registers are read, unless the first says that nothing is pending. -/
theorem pending_eq (vector : UInt64) :
    ((driver version).pending vector board).1 = board.named ∧ ∃ new,
      ((driver version).pending vector board).2 = { board with touches := new ++ board.touches } ∧
        .interface Gic.endOffset ∉ new := by
  have hpeek : (gic version).peek board =
      (if board.peeked = Gic.spuriousLine then none else some ⟨board.peeked⟩,
        board.touched (.interface Gic.pendingOffset)) := rfl
  change ((gic version).pending board).1 = _ ∧ ∃ new, ((gic version).pending board).2 = _ ∧ _
  unfold Gic.pending named
  rw [Controller.bind_apply, hpeek]
  by_cases hpeeked : board.peeked = Gic.spuriousLine
  · rw [if_pos hpeeked, if_pos (.inl hpeeked)]
    exact ⟨rfl, [_], rfl, by simp [Gic.endOffset, Gic.pendingOffset]⟩
  have hnew : .interface Gic.endOffset ∉
      [GicTouch.interface Gic.acknowledgeOffset, .interface Gic.pendingOffset] := by
    simp [Gic.endOffset, Gic.acknowledgeOffset, Gic.pendingOffset]
  have htake : ((gic version).cpuInterface.read32 Gic.acknowledgeOffset
      (board.touched (.interface Gic.pendingOffset))).1 &&& Gic.lineField = board.taken := rfl
  rw [if_neg hpeeked]
  dsimp only
  rw [Controller.bind_apply, htake]
  by_cases htaken : board.taken = Gic.spuriousLine
  · rw [if_pos htaken, if_pos (.inr htaken)]
    exact ⟨rfl, _, rfl, hnew⟩
  · rw [if_neg htaken, if_neg (not_or.mpr ⟨hpeeked, htaken⟩)]
    exact ⟨rfl, _, rfl, hnew⟩

/-- A named line is known by its number, and masked if it is accepted. -/
theorem identifies (version : GicVersion) (board : GicBoard) : board.Identifies version where
  named vector := (pending_eq vector).1
  asked vector := (pending_eq vector).2
  accepted _ := accepted_of_named
  masks _ _ := mask_eq
  unmasks _ _ := unmask_eq
  reserved _ _ h := ⟨(refused (maxLine_lt h)).1, (refused (maxLine_lt h)).2.1⟩

theorem after_touching (h : ∀ call ∈ calls, ∀ board : GicBoard, board.effect version call = board) :
    ∃ new, (driver version).after start calls = { start with touches := new ++ start.touches } := by
  induction calls using List.reverseRecOn with
  | nil => exact ⟨[], rfl⟩
  | append_singleton calls call ih =>
    obtain ⟨older, holder⟩ := ih fun earlier hmem => h earlier (by simp [hmem])
    obtain ⟨newer, hnewer, -⟩ :=
      @next_eq ((driver version).after start calls) version call
    refine ⟨newer ++ older, ?_⟩
    rw [Controller.after_concat, hnewer, h call (by simp), holder, List.append_assoc]

theorem effect_reserved (h : irq.IsReserved) (keepMasked : Bool) :
    ∀ call ∈ Controller.passing keepMasked irq, ∀ board : GicBoard,
      board.effect version call = board := by
  have hnot := UInt32.not_le.mpr (maxLine_lt h)
  intro call hcall board
  cases keepMasked <;> simp only [Controller.passing, List.mem_append, List.mem_cons,
    List.not_mem_nil, or_false, if_true, if_false, Bool.false_eq_true] at hcall
  · rcases hcall with (rfl | rfl | rfl | rfl) | rfl <;> simp [effect, hnot]
  · rcases hcall with rfl | rfl | rfl | rfl <;> simp [effect, hnot]

/-- A reserved number that is passed over is only ended. -/
theorem passing_reserved (h : irq.IsReserved) (keepMasked : Bool) : ∃ new,
    (driver version).after start (Controller.passing keepMasked irq) =
      { start with touches := new ++ start.touches } ∧ .interface Gic.endOffset ∈ new := by
  let before : List ControllerCall := [.triggerMode irq, .mask irq, .acknowledge irq]
  let later : List ControllerCall := if keepMasked then [] else [.unmask irq]
  have hcalls : Controller.passing keepMasked irq = before ++ .endOfInterrupt irq :: later := rfl
  have heffect := @effect_reserved version irq h keepMasked
  obtain ⟨older, holder⟩ := @after_touching start version before
    fun call hmem => heffect call (by simp [hcalls, hmem])
  obtain ⟨newer, hnewer⟩ := @after_touching
    (((driver version).after start before).touched (.interface Gic.endOffset)) version later
    fun call hmem => heffect call (by simp [hcalls, hmem])
  have hafter : (driver version).after start (Controller.passing keepMasked irq) =
      (driver version).after
        (((driver version).after start before).touched (.interface Gic.endOffset)) later := by
    rw [hcalls]
    exact List.foldl_append
  refine ⟨newer ++ .interface Gic.endOffset :: older, ?_, by simp⟩
  rw [hafter, hnewer, holder]
  simp [touched]

theorem told_of_reports {policy : UnhandledPolicy} {vector : UInt64} {after : GicBoard}
    {outcome : Outcome}
    (h : (driver version).Reports policy vector board after outcome) :
    Told version policy board after outcome := by
  obtain ⟨hnamed, new, hboard, hnew⟩ := @pending_eq board version vector
  have hpassed : ∀ irq, outcome = .unhandled irq → after = (driver version).after
      { board with touches := new ++ board.touches }
      (Controller.passing (decide (policy = .maskLine)) irq) := by
    intro irq houtcome
    rw [h.unhandled irq houtcome, hboard]
    exact Controller.passOver_eq (fun _ => rfl) _ _ _ _
  refine ⟨h.interrupt, hnamed.symm.trans h.named, fun houtcome => ?_,
    fun irq houtcome hnot hpolicy => ?_, fun irq houtcome hreserved => ?_⟩
  · exact ⟨new, (h.spurious houtcome).trans hboard, hnew⟩
  · have haccepted : irq.number ≤ Gic.maxLine := by
      refine @accepted_of_named board irq ?_ hnot
      rw [← hnamed, h.named, houtcome]
      rfl
    rw [hpassed irq houtcome, decide_eq_true hpolicy, enabled_after haccepted]
    simp [Controller.passing, lastSwitched, last, List.findSome?_cons, switch?]
  · obtain ⟨newer, hafter, hmem⟩ := passing_reserved hreserved _
    rw [hpassed irq houtcome, hafter]
    exact ⟨rfl, newer ++ new, by simp, by simp [hmem]⟩

end

end GicBoard

/-- Whatever the registers hold, a number that is not reserved is that of a line that the driver
masks and unmasks, and such a line is disabled when a trap returns that has left it unhandled, if
that is the policy. Where nothing is pending, or nothing is handed out, nothing is ended. Reserved
numbers are named like lines and ended, but not disabled. -/
theorem unhandled_lines_are_disabled (kernel : Kernel τ) (version : GicVersion) (depth : Nat)
    (cpu : Fin maxCpus) (outer : CpuSlot) (state : Activation (GicBoard × τ)) :
    let wired := kernel.wired (GicBoard.gic version).wired.controller
    state.hardware.Identifies version ∧
      (wired.cause state.frame = .interrupt → ∀ outcome after,
        wired.carryOut (wired.server depth) cpu outer state = .ok outcome after →
          GicBoard.Told version kernel.config.policy state.hardware after.hardware outcome) := by
  intro wired
  refine ⟨GicBoard.identifies version _, fun hcause outcome after hrun => ?_⟩
  have hdrops : ∀ r, (record r : StateM GicBoard Unit) = pure () := fun _ => rfl
  obtain ⟨hreports, -⟩ := reports_of_carryOut hdrops (Gic.mirrors_controller hdrops)
    (Phases.tells_reply wired depth) hcause hrun
  exact GicBoard.told_of_reports hreports

/-- A board with all lines enabled, and one number in all registers of its interface. -/
def GicBoard.telling (number : UInt32) : GicBoard where
  enables _ _ := 0xFFFFFFFF
  words _ _ := 0
  answers _ _ := number
  touches := []

def Kernel.masking : Kernel Unit :=
  { Kernel.plain ⟨3⟩ (pure ()) with vectors := ⟨.aarch64, 0⟩, config := { policy := .maskLine } }

def Activation.telling (number : UInt32) : Activation (GicBoard × Unit) :=
  ⟨{ Frame.fresh .aarch64 .user with vector := 9 }, {}, { world := (.telling number, ()) }⟩

def numberRun (number : UInt32) :
    EStateM.Result Stop (Activation (GicBoard × Unit)) Outcome :=
  (Kernel.masking.wired (GicBoard.gic .v2).wired.controller).carryOut
    ((Kernel.masking.wired (GicBoard.gic .v2).wired.controller).server 1) ⟨0, maxCpus_pos⟩ {}
    (.telling number)

/-- Line 40 is disabled. Number 1021 is not, but ended. -/
theorem line_40_is_disabled :
    (∃ after, numberRun 40 = .ok (.unhandled ⟨40⟩) after ∧
      after.hardware.enabled .v2 ⟨40⟩ = false) ∧
    ∃ after, numberRun 1021 = .ok (.unhandled ⟨1021⟩) after ∧
      after.hardware.enables = (GicBoard.telling 1021).enables ∧
      .interface Gic.endOffset ∈ after.hardware.touches := by
  constructor
  · obtain ⟨after, hrun⟩ := exists_of_returned?
      (show returned? (numberRun 40) = some (.unhandled ⟨40⟩) by decide +kernel)
    obtain ⟨-, htold⟩ := unhandled_lines_are_disabled Kernel.masking .v2 1 ⟨0, by decide⟩ {}
      (.telling 40)
    refine ⟨after, hrun, ?_⟩
    exact (htold (by decide) _ _ hrun).disabled _ rfl (by unfold Irq.IsReserved; decide) rfl
  · obtain ⟨after, hrun⟩ := exists_of_returned?
      (show returned? (numberRun 1021) = some (.unhandled ⟨1021⟩) by decide +kernel)
    obtain ⟨-, htold⟩ := unhandled_lines_are_disabled Kernel.masking .v2 1 ⟨0, by decide⟩ {}
      (.telling 1021)
    obtain ⟨henables, new, htouches, hended⟩ :=
      (htold (by decide) _ _ hrun).ended _ rfl (by unfold Irq.IsReserved; decide)
    refine ⟨after, hrun, henables, ?_⟩
    rw [htouches]
    exact List.mem_append_left _ hended

end TrapDispatch
