import TrapDispatch.Proofs.HardwareAccounts
import TrapDispatch.Proofs.Nesting
import TrapDispatch.Proofs.PicLines

/-!
# Ends of interrupts on the 8259 pair

Whatever services and handlers do, and however interrupts are nested, a chip is told that an
interrupt has ended once for each line of its own that was serviced, the master also after each
line of the slave and after each spurious line 15, and that in the order in which these ended.
-/

namespace TrapDispatch

variable {η τ α : Type}

namespace Pic

section

variable {io : RegisterBlock (StateM η)}

theorem mirrors_lastInService (command : UInt64) :
    Mirrors (lastInService (io.wired (τ := τ)) command) (lastInService io command) :=
  (mirrors_onHardware _).bind fun _ => (mirrors_onHardware _).bind fun _ => mirrors_pure _

theorem mirrors_revise (port : UInt64) (change : UInt8 → UInt8) :
    Mirrors ((io.wired (τ := τ)).read8 port >>= fun byte => (io.wired).write8 port (change byte))
      (io.read8 port >>= fun byte => io.write8 port (change byte)) :=
  (mirrors_onHardware _).bind fun _ => mirrors_onHardware _

theorem mirrors_mask (irq : Irq) : Mirrors (mask (io.wired (τ := τ)) irq) (mask io irq) := by
  unfold mask
  exact .ite (mirrors_revise _ _) (mirrors_pure _)

theorem mirrors_unmask (irq : Irq) : Mirrors (unmask (io.wired (τ := τ)) irq) (unmask io irq) := by
  unfold unmask
  refine .ite ?_ (mirrors_pure _)
  refine (mirrors_onHardware _).bind fun _ => (mirrors_onHardware _).bind fun _ => ?_
  exact .ite (mirrors_revise _ _) (mirrors_pure _)

theorem mirrors_endOfInterrupt (irq : Irq) :
    Mirrors (endOfInterrupt (io.wired (τ := τ)) irq) (endOfInterrupt io irq) := by
  unfold endOfInterrupt
  exact .ite ((mirrors_onHardware _).bind fun _ => mirrors_onHardware _) (mirrors_onHardware _)

variable [MonadRecord (StateM η)] (hdrops : ∀ r, (record r : StateM η Unit) = pure ())

include hdrops

theorem mirrors_pending (offset vector : UInt64) :
    Mirrors (pending (io.wired (τ := τ)) offset vector) (pending io offset vector) := by
  unfold pending
  have hspurious : ∀ text, Mirrors
      (recordAt .warn LogTarget.pic text : ServiceProgram (η × τ) Unit)
      (recordAt .warn LogTarget.pic text) :=
    fun text => mirrors_dropped hdrops _ _ text text
  refine .ite (mirrors_pure _) (.ite (mirrors_pure _) (.ite ?_ (.ite ?_ (mirrors_pure _))))
  · refine (mirrors_lastInService _).bind fun serving => .ite (mirrors_pure _) ?_
    exact (hspurious _).bind fun _ => mirrors_pure _
  · refine (mirrors_lastInService _).bind fun serving => .ite (mirrors_pure _) ?_
    exact (hspurious _).bind fun _ => (mirrors_onHardware _).bind fun _ => mirrors_pure _

/-- The driver does in a kernel what it does by itself. -/
theorem mirrors_controller (offset : UInt64) :
    (controller (io.wired (τ := τ)) offset).Mirrors (controller io offset) where
  triggerMode _ := mirrors_pure _
  pending := mirrors_pending hdrops offset
  mask := mirrors_mask
  unmask := mirrors_unmask
  acknowledge _ := mirrors_pure _
  endOfInterrupt := mirrors_endOfInterrupt

end

end Pic

namespace PicBoard

/-- The chips on which interrupts are ended. -/
def account (offset : UInt64) : Account PicBoard where
  Entry := PicChip
  entries := ends
  ended := ended
  spared := spared offset

def settled (offset : UInt64) (moments : List Moment) : List PicChip :=
  (account offset).settled moments

theorem ends_append (board : PicBoard) (new : List PicAccess) :
    { board with accesses := new ++ board.accesses }.ends =
      new.filterMap PicAccess.end? ++ board.ends :=
  List.filterMap_append

theorem ends_mask (offset : UInt64) (irq : Irq) (board : PicBoard) :
    ((driver offset).mask irq board).2.ends = board.ends := by
  by_cases h : irq.number < Pic.lineCount
  · rw [mask_eq h, revise_eq]
    exact (ends_append (board.setMask _ _) _).trans (by rw [filterMap_end?_revise]; rfl)
  · rw [(beyond (UInt32.not_lt.mp h)).1]

theorem ends_unmask (offset : UInt64) (irq : Irq) (board : PicBoard) :
    ((driver offset).unmask irq board).2.ends = board.ends := by
  by_cases h : irq.number < Pic.lineCount
  · obtain ⟨new, hboard, hnew⟩ := @unmask_board irq offset h board
    rw [hboard, ends, List.filterMap_append, hnew]
    rfl
  · rw [(beyond (UInt32.not_lt.mp h)).2]

theorem keeps_account (offset : UInt64) : (account offset).Keeps (driver offset) where
  triggerMode _ _ := rfl
  pending vector board := by
    rw [pending_eq]
    refine (ends_append board _).trans ?_
    rw [ends_asking]
    cases board.named offset vector <;> rfl
  mask := ends_mask offset
  unmask := ends_unmask offset
  acknowledge _ _ := rfl
  endOfInterrupt irq board := by
    obtain ⟨new, hboard, hnew⟩ := @endOfInterrupt_eq offset irq board
    rw [hboard]
    exact (ends_append board new).trans (by rw [hnew]; rfl)

/-- What an interrupt does to the pair, in view of its outcome. -/
structure Concludes (offset : UInt64) (outcome : Outcome) (state after : Activation (PicBoard × τ)) :
    Prop where
  interrupt : outcome.isOfInterrupt = true
  /-- Its line is that behind its vector, unless the chip denies that. -/
  named : state.hardware.named offset state.frame.vector = outcome.line?
  /-- It is ended once on each chip of its line, or spared. -/
  settles : (account offset).Settles outcome state after
  /-- A spared one leaves all masks, and only a line 15 is ended, on the master. -/
  spurious : outcome = .spurious → after.hardware.masks = state.hardware.masks ∧
    after.hardware.ends = spared offset state.frame.vector ++ state.hardware.ends

theorem concludes_of_reports {offset : UInt64} {policy : UnhandledPolicy} {outcome : Outcome}
    {state after : Activation (PicBoard × τ)} (hsettles : (account offset).Settles outcome state after)
    (h : (driver offset).Reports policy state.frame.vector state.hardware after.hardware outcome) :
    Concludes offset outcome state after := by
  have hnamed : state.hardware.named offset state.frame.vector = outcome.line? := by
    rw [← h.named, pending_eq]
  refine ⟨h.interrupt, hnamed, hsettles, fun houtcome => ?_⟩
  have hnone : state.hardware.named offset state.frame.vector = none := by
    rw [hnamed, houtcome]
    rfl
  rw [h.spurious houtcome, pending_eq]
  refine ⟨rfl, (ends_append state.hardware _).trans ?_⟩
  rw [ends_asking, if_pos hnone]

end PicBoard

/-- In a whole run, with traps in each other as deep as they may be, interrupts are ended in the
order in which their scopes are closed, each once on the chip of its line, and a line of the slave
on the master after that. A spurious line 15 is ended on the master alone, a spurious line 7 not
at all, and neither changes a mask. Any sequence of calls leaves every line masked as it was asked
for last, where line 2 is opened with each line of the slave. -/
theorem interrupts_end_on_their_chips (kernel : Kernel τ) (offset : UInt64) (depth : Nat)
    (program : ServiceProgram τ α) (machine : Machine (PicBoard × τ)) :
    let wired := kernel.wired (Pic.controller PicBoard.io.wired offset)
    let run := wired.runService depth program.beside machine.fresh
    run.machine.world.1.ends =
        PicBoard.settled offset (history run.machine.journal) ++ machine.world.1.ends ∧
      (∀ cpu outer state outcome after, wired.cause state.frame = .interrupt →
        wired.carryOut (wired.server depth) cpu outer state = .ok outcome after →
          PicBoard.Concludes offset outcome state after) ∧
      ∀ start calls,
        PicBoard.MasksAsAsked offset start ((PicBoard.driver offset).after start calls) calls := by
  intro wired run
  have hdrops : ∀ r, (record r : StateM PicBoard Unit) = pure () := fun _ => rfl
  have hdriver : (Pic.controller (PicBoard.io.wired (τ := τ)) offset).Mirrors
      (PicBoard.driver offset) := Pic.mirrors_controller hdrops offset
  have hkeeps := PicBoard.keeps_account offset
  refine ⟨?_, fun cpu outer state outcome after hcause hrun => ?_, PicBoard.masks_as_asked offset⟩
  · exact Account.entries_runService hdrops kernel hdriver hkeeps depth program machine
  · obtain ⟨hreports, -⟩ := reports_of_carryOut hdrops hdriver (Phases.tells_reply wired depth)
      hcause hrun
    refine PicBoard.concludes_of_reports ?_ hreports
    exact Account.settles_carryOut _ hdrops kernel hdriver hkeeps depth hcause hrun

/-- A pair that never has its lines 7 and 15 in service. -/
def PicBoard.quiet : PicBoard where
  masks _ := 0
  answers _ _ := 0
  accesses := []

/-- A device whose first interrupt is itself interrupted, by a line that has dropped. -/
def droppedDevice : ServiceProgram Bool Unit := do
  if ← ServiceProgram.world then
    ServiceProgram.ask (.setWorld false)
    trapOn 47

def Kernel.cascaded : Kernel (PicBoard × Bool) :=
  (Kernel.plain ⟨12⟩ droppedDevice).wired (Pic.controller PicBoard.io.wired 32)

def cascadedRun : Kernel.Completion (PicBoard × Bool) Unit :=
  Kernel.cascaded.runService 3 (trapOn 44).beside (Machine.attached ⟨12⟩ (.quiet, true)).fresh

def droppedRun : EStateM.Result Stop (Activation (PicBoard × Bool)) Outcome :=
  Kernel.cascaded.carryOut (Kernel.cascaded.server 3) ⟨0, maxCpus_pos⟩ {}
    ⟨{ (default : Frame) with vector := 47 }, {}, { world := (.quiet, false) }⟩

/-- Line 12 is ended on both chips, after the interrupt within it on the master alone. -/
theorem line_12_ends_on_both_chips :
    cascadedRun.machine.world.1.ends = [.master, .slave, .master] ∧
      PicBoard.settled 32 (history cascadedRun.machine.journal) = [.master, .slave, .master] ∧
      ∃ after, droppedRun = .ok .spurious after ∧ after.hardware.masks = PicBoard.quiet.masks ∧
        after.hardware.ends = [.master] := by
  have hends : cascadedRun.machine.world.1.ends = [.master, .slave, .master] := by
    decide +kernel
  obtain ⟨hsettled, hconcludes, -⟩ := interrupts_end_on_their_chips
    (Kernel.plain ⟨12⟩ droppedDevice) 32 3 (trapOn 44) (Machine.attached ⟨12⟩ (.quiet, true))
  obtain ⟨after, hrun⟩ := exists_of_returned?
    (show returned? droppedRun = some .spurious by decide +kernel)
  refine ⟨hends, ?_, after, hrun, (hconcludes _ _ _ _ _ (by decide) hrun).spurious rfl⟩
  have hstart : (Machine.attached ⟨12⟩ (PicBoard.quiet, true)).world.1.ends = [] := by
    decide +kernel
  rw [hstart, List.append_nil] at hsettled
  rw [← hends]
  unfold cascadedRun Kernel.cascaded
  exact hsettled.symm

end TrapDispatch
