import TrapDispatch.Proofs.Conduct

/-!
# Ways of a trap

The steps that a trap, an acknowledgement scope and a system call are put together from.
What all of these steps obey, the whole obeys, whichever way the trap goes.
-/

namespace TrapDispatch

namespace Call

/-- Calls that are made while the dispatcher holds interrupts off. -/
def isMasked : Call → Bool
  | triggerMode _ | pending _ | mask _ | unmask _ | acknowledge _ | endOfInterrupt _ => true
  | schedule _ _ | resolveFault _ _ | pid | userRange | terminate _ => true
  | cpuId | enableInterrupts | disableInterrupts | cycles | device _ _ => false
  | signalPending | write _ _ | read _ _ => false

def ends? : Call → Option Irq
  | endOfInterrupt irq | unmask irq => some irq
  | _ => none

end Call

namespace CpuSlots

/-- The slots once a trap is entered. -/
def entering (slots : CpuSlots) (cpu : Fin maxCpus) : CpuSlots :=
  slots.put cpu { state := .trapEntered, masked := true, depth := (slots.get cpu).depth + 1 }

/-- The slots once a trap that was accepted in the slot `outer` is left. -/
def leaving (slots : CpuSlots) (cpu : Fin maxCpus) (outer : CpuSlot) : CpuSlots :=
  slots.put cpu
    { state := outer.state, masked := outer.masked, depth := (slots.get cpu).depth - 1 }

end CpuSlots

namespace Law

variable {σ : Type} {law : Law σ} {kernel : Kernel σ} {server : Server σ} {cpu : Fin maxCpus}

/-- What a law has to say of the steps of a trap for the way of every trap to obey it. -/
structure Routes (law : Law σ) (kernel : Kernel σ) (server : Server σ) (cpu : Fin maxCpus) :
    Prop where
  quiet : law.Quiet
  state : ∀ state, state ≠ .idle → law.Obeys (Kernel.setState cpu state true)
  call : ∀ c : Call, c.isMasked = true → c.ends? = none → law.Obeys (kernel.call server c)
  scope : ∀ scope, law.Obeys (kernel.serviceScope server cpu scope)
  systemCall : ∀ number words,
    law.Obeys (kernel.interruptible server cpu (kernel.systemCall server number words))

theorem acceptTrap_of_accepts {state : Activation σ}
    (h : Kernel.accepts (state.machine.slots.get cpu) = true) :
    Kernel.acceptTrap cpu state = .ok (state.machine.slots.get cpu) state := by
  have hframe : Kernel.acceptTrap cpu state =
      (if Kernel.accepts (state.machine.slots.get cpu) then
        pure (state.machine.slots.get cpu)
      else Dispatch.fatal (Kernel.refusal cpu (state.machine.slots.get cpu) state.frame) :
        Dispatch σ CpuSlot) state := rfl
  rw [hframe, if_pos h]
  rfl

theorem acceptTrap_of_refuses {state : Activation σ}
    (h : Kernel.accepts (state.machine.slots.get cpu) = false) :
    Kernel.acceptTrap cpu state =
      let text := Kernel.refusal cpu (state.machine.slots.get cpu) state.frame
      .error (.panic text)
        { state with machine.log := state.machine.log.add ⟨.error, LogTarget.dispatch, text⟩ } := by
  have hframe : Kernel.acceptTrap cpu state =
      (if Kernel.accepts (state.machine.slots.get cpu) then
        pure (state.machine.slots.get cpu)
      else Dispatch.fatal (Kernel.refusal cpu (state.machine.slots.get cpu) state.frame) :
        Dispatch σ CpuSlot) state := rfl
  rw [hframe, if_neg (by simp [h])]
  rfl

theorem obeys_acceptTrap {next : CpuSlot → Dispatch σ Outcome} (hlooks : law.discipline.Looking)
    (hnext : ∀ state : Activation σ, Kernel.accepts (state.machine.slots.get cpu) = true →
      LeadsAt law.returns law.stops (next (state.machine.slots.get cpu)) state) :
    law.Obeys (Kernel.acceptTrap cpu >>= next) := by
  intro state
  by_cases haccepts : Kernel.accepts (state.machine.slots.get cpu) = true
  · unfold LeadsAt
    rw [Dispatch.bind_of_ok (acceptTrap_of_accepts haccepts)]
    exact hnext state haccepts
  · have hrefuses : Kernel.accepts (state.machine.slots.get cpu) = false := by simpa using haccepts
    have hrefused := acceptTrap_of_refuses hrefuses
    have hfatal := hlooks.fatal (α := CpuSlot)
      (Kernel.refusal cpu (state.machine.slots.get cpu) state.frame) state
    exact leadsAt_of_error (Dispatch.bind_of_error hrefused) (hfatal.stopped rfl)

namespace Routes

theorem commons (h : law.Routes kernel server cpu) : law.discipline.Commons kernel server where
  plain := h.quiet.plain
  call c hc := by
    cases c <;> first | exact h.call _ rfl rfl | cases hc

theorem interrupt (h : law.Routes kernel server cpu) :
    law.Obeys (kernel.interrupt server cpu) := by
  refine h.commons.interrupt (fun vector => h.call (.pending vector) rfl rfl) (fun irq => ?_) h.scope
  exact ⟨h.quiet.plain.toLooking, h.call (.triggerMode irq) rfl rfl, h.call (.mask irq) rfl rfl,
    h.call (.acknowledge irq) rfl rfl⟩

theorem serveTrap (h : law.Routes kernel server cpu) :
    law.Obeys (kernel.serveTrap server cpu) := by
  have hways : law.discipline.Ways kernel server cpu :=
    ⟨h.commons, h.state, obeys_bind (h.state _ (by decide)) fun _ => h.interrupt, h.systemCall⟩
  exact hways.serveTrap

end Routes

/-- A trap is entered, served under watch, and left. -/
theorem Routes.carryOut {watch : Watch} (h : watch.law.Routes kernel server cpu)
    (outer : CpuSlot) : Leads
      (Follows watch.good (fun past slots => watch.holds past (slots.entering cpu))
        fun past before now after => ∃ last, watch.holds now last ∧
          watch.same past (before.entering cpu) now last ∧ after = last.leaving cpu outer)
      (Follows watch.good (fun past slots => watch.holds past (slots.entering cpu))
        fun _ _ now after => watch.wreck now after)
      (kernel.carryOut server cpu outer) := by
  have hleave : ∀ outcome, Leads
      (Follows watch.good watch.holds fun past before now after =>
        now = past ∧ after = before.leaving cpu outer)
      (Follows watch.good watch.holds fun _ _ _ _ => False)
      (do Kernel.leaveSlot cpu outer; return outcome : Dispatch σ Outcome) := by
    intro outcome
    refine leads_bind (leads_setSlot cpu _) (fun _ => leads_pure outcome)
      (fun _ _ _ _ _ _ => trivial) ?_ (fun _ _ _ _ _ h => h.elim) fun _ _ _ _ _ _ _ _ h => h
    rintro past before now after later last - ⟨rfl, rfl⟩ ⟨rfl, rfl⟩
    exact ⟨rfl, rfl⟩
  have hserve := h.serveTrap
  rw [Watch.obeys_iff] at hserve
  have hrest : Leads
      (Follows watch.good watch.holds fun past before now after =>
        ∃ last, watch.holds now last ∧ watch.same past before now last ∧
          after = last.leaving cpu outer)
      (Follows watch.good watch.holds fun _ _ now after => watch.wreck now after)
      (do
        let outcome ← kernel.serveTrap server cpu
        Kernel.leaveSlot cpu outer
        return outcome) := by
    refine leads_bind hserve hleave (fun _ _ _ _ _ h => h.1) ?_ (fun _ _ _ _ _ h => h)
      fun _ _ _ _ _ _ _ _ h => h.elim
    rintro past before now after later last - ⟨hholds, hsame⟩ ⟨rfl, rfl⟩
    exact ⟨after, hholds, hsame, rfl⟩
  unfold Kernel.carryOut Kernel.enterSlot
  refine leads_bind (leads_setSlot cpu _) (fun _ => hrest) ?_ ?_ (fun _ _ _ _ _ h => h.elim) ?_
  · rintro past before now after hholds ⟨rfl, rfl⟩
    exact hholds
  · rintro past before now after later last - ⟨rfl, rfl⟩ h
    exact h
  · rintro past before now after later last - - h
    exact h

/-- Traps obey a law if calls do, and every trap that is accepted. -/
theorem obeys_handleTrap (hlooks : law.discipline.Looking)
    (hcall : law.Obeys (kernel.call server .cpuId))
    (htrap : ∀ cpu (state : Activation σ), Kernel.accepts (state.machine.slots.get cpu) = true →
      LeadsAt law.returns law.stops (Dispatch.during (.trap cpu state.frame)
        (kernel.carryOut server cpu (state.machine.slots.get cpu))) state) :
    law.Obeys (kernel.handleTrap server) := by
  unfold Kernel.handleTrap
  apply obeys_bind hcall
  intro id
  split
  case isFalse => exact hlooks.fatal _
  case isTrue hid =>
    exact obeys_acceptTrap hlooks fun state haccepts => htrap ⟨UInt64.toNat id, hid⟩ state haccepts

theorem watched_handleTrap {watch : Watch} (hcall : watch.law.Obeys (kernel.call server .cpuId))
    (htrap : ∀ cpu outer frame, Kernel.accepts outer = true → Leads
      (Follows watch.good (fun past slots => slots.get cpu = outer ∧ watch.holds past slots)
        fun past before now after => watch.holds now after ∧ watch.same past before now after)
      (Follows watch.good (fun past slots => slots.get cpu = outer ∧ watch.holds past slots)
        fun _ _ now after => watch.wreck now after)
      (Dispatch.during (.trap cpu frame) (kernel.carryOut server cpu outer))) :
    watch.law.Obeys (kernel.handleTrap server) := by
  refine obeys_handleTrap watch.quiet.plain.toLooking hcall fun cpu state haccepts => ?_
  have hrun := htrap cpu (state.machine.slots.get cpu) state.frame haccepts state
  exact hrun.mono (fun _ h => h.weaken fun _ h => ⟨rfl, h⟩) fun _ h => h.weaken fun _ h => ⟨rfl, h⟩

/-- What a law has to say of the calls that close an acknowledgement scope. -/
structure Closes (law : Law σ) (kernel : Kernel σ) (server : Server σ) (irq : Irq) : Prop where
  quiet : law.Quiet
  acknowledge : law.Obeys (kernel.call server (.acknowledge irq))
  endOfInterrupt : law.Obeys (kernel.call server (.endOfInterrupt irq))
  unmask : law.Obeys (kernel.call server (.unmask irq))

theorem Closes.close {scope : AckScope} (h : law.Closes kernel server scope.irq) :
    law.Obeys (scope.close (kernel.controller server)) := by
  have hcloses : law.discipline.Closes kernel server scope.irq :=
    ⟨h.quiet.plain.toLooking, h.acknowledge, h.endOfInterrupt, h.unmask⟩
  exact hcloses.close

/-- What a law has to say of the steps of an acknowledgement scope; `after` is the law
of what runs once the scope was cut short. -/
structure Scopes (law after : Law σ) (kernel : Kernel σ) (server : Server σ) (cpu : Fin maxCpus)
    (irq : Irq) : Prop where
  closes : law.Closes kernel server irq
  closesAfter : after.Closes kernel server irq
  unwinds : law.Unwinds after
  lookup : ∀ entry, law.Obeys (Dispatch.note (σ := σ) (.lookup irq entry))
  device : ∀ handler,
    law.Obeys (kernel.interruptible server cpu (kernel.timeDevice server irq handler))

namespace Scopes

variable {after : Law σ} {irq : Irq}

theorem quiet (h : law.Scopes after kernel server cpu irq) : law.Quiet :=
  h.closes.quiet

theorem serviceLine (h : law.Scopes after kernel server cpu irq) (scope : AckScope) :
    law.Obeys (kernel.serviceLine server cpu irq scope) := by
  refine law.discipline.serviceLine h.quiet.plain.toObserving ?_ h.device
  unfold Kernel.enabledHandler
  apply obeys_bind (h.quiet.withRegistry _)
  intro entry
  exact obeys_bind (h.lookup entry) fun _ => obeys_pure _

theorem serviceLine_irq (irq : Irq) (scope : AckScope) :
    Gives (fun result => result.2.irq = scope.irq)
      (kernel.serviceLine server cpu irq scope) := by
  have hunhandled : Gives (fun after => after.irq = scope.irq) (kernel.unhandled scope) := by
    unfold Kernel.unhandled
    refine gives_next fun _ => gives_next fun machine => ?_
    apply gives_when
    cases kernel.config.policy with
    | recordAndContinue => exact gives_pure rfl
    | maskLine => exact gives_next fun _ => gives_pure rfl
    | panic => exact gives_fatal _
  have hclaim : ∀ claimed : Bool, Gives (fun result => result.2.irq = scope.irq)
      (if claimed then pure (true, scope) else do return (false, ← kernel.unhandled scope)) := by
    intro claimed
    refine gives_ite (gives_pure rfl) ?_
    exact gives_bind hunhandled fun _ hirq => gives_pure hirq
  unfold Kernel.serviceLine
  apply gives_next
  intro entry
  cases entry with
  | some entry => exact gives_next fun _ => hclaim _
  | none => exact hclaim _

/-- The whole of a scope obeys the law, also where a panic closes it. -/
theorem servicing {scope : AckScope} (h : law.Scopes after kernel server cpu scope.irq) :
    law.Obeys (scope.servicing (kernel.controller server)
      (kernel.serviceLine server cpu scope.irq scope)) := by
  have hservice := obeys_unwinding h.unwinds (h.serviceLine scope) h.closesAfter.close
  unfold AckScope.servicing
  apply obeys_bind_gives (gives_unwinding (serviceLine_irq scope.irq scope)) hservice
  rintro ⟨claimed, last⟩ hirq
  rw [← hirq] at h
  exact obeys_bind h.closes.close fun _ => obeys_pure _

end Scopes

/-- What a law has to say of the calls of system call handlers. -/
structure Handles (law : Law σ) (kernel : Kernel σ) (server : Server σ) : Prop where
  quiet : law.Quiet
  unwinds : law.Unwinds law
  serves : law.Serves server
  call : ∀ c : Call, c.isProcess = true → law.Obeys (kernel.call server c)

namespace Handles

theorem calls (h : law.Handles kernel server) : law.discipline.Calls kernel server :=
  ⟨h.quiet.plain.toMending, h.call⟩

theorem serveCall (h : law.Handles kernel server)
    (hhandler : ∀ number arguments (body : Dispatch σ CallResult), law.Obeys body →
      law.Obeys (Dispatch.during (.handler number arguments) body))
    (number : UInt64) (words : ArgumentWords) (frame : Frame) :
    law.Obeys (kernel.serveCall server number words frame) := by
  refine h.calls.serveCall (fun descriptor arguments _ => ?_) words frame
  exact hhandler _ _ _ ((resilient h.unwinds).run (S := handlerSignature σ)
    (fun op => h.calls.serveHandler op fun inner _ => h.serves inner) _)

theorem systemCall {outer : Law σ} (h : law.Handles kernel server)
    (hhandler : ∀ number arguments (body : Dispatch σ CallResult), law.Obeys body →
      law.Obeys (Dispatch.during (.handler number arguments) body))
    (hcall : ∀ number words frame (body : Dispatch σ CallResult), law.Obeys body →
      outer.Obeys (Dispatch.during (.systemCall number words frame) body))
    (number : UInt64) (words : ArgumentWords) :
    outer.Obeys (kernel.systemCall server number words) := by
  unfold Kernel.systemCall
  apply obeys_bind obeys_frame
  intro frame
  exact hcall number words frame _ (h.serveCall hhandler number words frame)

end Handles

end Law
end TrapDispatch
