import TrapDispatch.Proofs.Calm

/-!
# Outcomes of traps

What kinds of values a computation can return, told by its last steps. Of all traps only
those that make a system call have its result for an outcome.
-/

namespace TrapDispatch

variable {σ α : Type} {kernel : Kernel σ} {server : Server σ} {cpu : Fin maxCpus}

theorem RunsAt.giving {spec : RunSpec σ α} {property : α → Prop} {body : Dispatch σ α}
    {state : Activation σ} (h : RunsAt spec body state)
    (hgives : Law.Gives property body) :
    RunsAt (fun new result after => spec new result after ∧ ∀ value, result = .ok value → property value)
      body state := by
  cases hrun : body state with
  | ok value after =>
    obtain ⟨new, hnew, hspec⟩ := h.returned hrun
    refine runsAt_of_ok new hrun hnew ⟨hspec, ?_⟩
    rintro _ ⟨⟩
    exact hgives _ _ _ hrun
  | error stop after =>
    obtain ⟨new, hnew, hspec⟩ := h.stopped hrun
    exact runsAt_of_error new hrun hnew ⟨hspec, fun value hvalue => by cases hvalue⟩

def Outcome.IsCall (outcome : Outcome) : Prop :=
  ∃ result, outcome = .syscall result

def Outcome.isOfInterrupt : Outcome → Bool
  | .irqHandled _ | .unhandled _ | .spurious => true
  | _ => false

theorem Outcome.not_isCall {outcome : Outcome} (h : outcome.isOfInterrupt = true) :
    ¬ outcome.IsCall := by
  rintro ⟨result, rfl⟩
  cases h

def Cause.admits : Cause → Outcome → Bool
  | .interrupt, outcome => outcome.isOfInterrupt
  | .syscall _, .syscall _ => true
  | .exception _, .resumed | .exception _, .threadTerminated => true
  | .unassigned, .threadTerminated => true
  | _, _ => false

namespace Kernel

open Law

section

variable {property : Outcome → Prop}

theorem fatalException_gives (hended : property .threadTerminated) (kind : ExceptionKind) :
    Law.Gives property (kernel.fatalException server kind) := by
  have hend : Law.Gives property (do
      kernel.call server (.terminate (.fault kind))
      Dispatch.count Stats.recordKilled
      kernel.reschedule server .terminated
      return Outcome.threadTerminated) :=
    gives_next fun _ => gives_next fun _ => gives_next fun _ => gives_pure hended
  unfold Kernel.fatalException
  refine gives_next fun frame => gives_ite (gives_next fun _ => ?_) ?_
  · exact gives_next fun machine => gives_ite (gives_next fun pid => gives_next fun _ => hend) hend
  · exact gives_next fun machine => gives_ite (gives_next fun pid => gives_next fun _ => hend) hend

theorem defaultFault_gives (hended : property .threadTerminated) :
    Law.Gives property (kernel.defaultFault server cpu) := by
  unfold Kernel.defaultFault
  exact gives_next fun _ => gives_next fun frame => gives_next fun _ => fatalException_gives hended _

/-- An exception resumes or ends its thread. -/
theorem exception_gives (hresumed : property .resumed) (hended : property .threadTerminated)
    (kind : ExceptionKind) : Law.Gives property (kernel.exception server cpu kind) := by
  unfold Kernel.exception
  refine gives_next fun _ => gives_next fun frame => ?_
  cases kind with
  | pageFault address access =>
    refine gives_next fun resolved => gives_ite ?_ (fatalException_gives hended _)
    exact gives_next fun _ => gives_pure hresumed
  | breakpoint => exact gives_next fun _ => gives_next fun _ => gives_pure hresumed
  | debug => exact gives_next fun _ => gives_pure hresumed
  | _ => exact fatalException_gives hended _

theorem syscallTrap_gives (hcall : ∀ result, property (.syscall result)) (convention : Convention) :
    Law.Gives property (kernel.syscallTrap server cpu convention) := by
  unfold Kernel.syscallTrap
  refine gives_next fun frame => gives_next fun result => ?_
  have hend : Law.Gives property (do
      Dispatch.modifyFrame fun frame =>
        (frame.setReturnValue result.encode).advance convention.advance
      kernel.settle server
      return Outcome.syscall result) :=
    gives_next fun _ => gives_next fun _ => gives_pure (hcall result)
  cases result with
  | ok value => exact hend
  | error code => exact gives_next fun _ => gives_next fun _ => hend

end

theorem interrupt_gives :
    Law.Gives (fun outcome => outcome.isOfInterrupt = true) (kernel.interrupt server cpu) := by
  unfold Kernel.interrupt
  refine gives_next fun frame => gives_next fun pending => ?_
  cases pending with
  | none => exact gives_next fun _ => gives_next fun _ => gives_pure rfl
  | some irq =>
    refine gives_next fun scope => gives_next fun handled => gives_when (gives_pure ?_)
    cases handled <;> rfl

end Kernel

end TrapDispatch
