import TrapDispatch.Kernel.Wiring
import TrapDispatch.Proofs.Law

/-!
# Beside the hardware

Most of what a kernel does leaves its hardware alone: only the driver of the controller reaches
that, and it is called only in the course of an interrupt. A discipline that does not mind what is
done beside the hardware is kept by whole runs if it is kept by interrupts.
-/

namespace TrapDispatch

variable {η τ σ α : Type}

/-- Whether requests for the world are served as they should be, if any are. -/
def Tells (serve : (op : Request σ) → Dispatch σ op.Reply) : Prop :=
  (∀ op, serve op = throw .exhausted) ∨
    (serve .world = do return (← Dispatch.machine).world) ∧
    (∀ world, serve (.setWorld world) =
      Dispatch.modifyMachine fun machine => { machine with world }) ∧
    ∀ r, serve (.log r) = record r

def Call.isDriven : Call → Bool
  | .triggerMode _ | .pending _ | .mask _ | .unmask _ | .acknowledge _ | .endOfInterrupt _ => true
  | _ => false

/-- Whether an event is neither a call to the driver of the controller nor the scope of a line. -/
def Event.isBeside : Event → Bool
  | .service c _ => !c.isDriven
  | .scope _ _ => false
  | _ => true

namespace Discipline

/-- Whether a discipline does not mind what is done beside the hardware. -/
structure Beside (rule : Discipline (η × τ)) : Prop where
  resilient : rule.Resilient
  plain : rule.Plain
  deadlock : ∀ {α : Type}, rule.Keeps (throw .deadlock : Dispatch (η × τ) α)
  modifyMachine : ∀ {change : Machine (η × τ) → Machine (η × τ)},
    (∀ machine, (change machine).journal = machine.journal) →
    (∀ machine, (change machine).world.1 = machine.world.1) →
    rule.Keeps (Dispatch.modifyMachine change)
  onFrame : ∀ {α : Type} {frame : Frame} {body : Dispatch (η × τ) α}, rule.Keeps body →
    rule.Keeps (Dispatch.onFrame frame body)
  during : ∀ {α : Type} {event : Except Stop α → Event} {body : Dispatch (η × τ) α},
    (∀ result, (event result).isBeside = true) → rule.Keeps body →
    rule.Keeps (Dispatch.during event body)
  note : ∀ {event : Event}, event.isBeside = true → rule.Keeps (Dispatch.note event)

/-- Whether the discipline is kept by the replies of a server that is beside the hardware. -/
structure Attended (rule : Discipline (η × τ)) (server : Server (η × τ)) : Prop where
  tells : Tells server.reply
  serves : ∀ op, (∀ world, op ≠ .setWorld world) → rule.Keeps (server.reply op)

namespace Beside

variable {rule : Discipline (η × τ)} {kernel : Kernel τ} {cpu : Fin maxCpus}
  {driver : Controller (ServiceProgram (η × τ))} {server : Server (η × τ)}

section

variable (h : rule.Beside)

include h

theorem withRegistry (change : Registry → α × Registry) :
    rule.Keeps (Dispatch.withRegistry change) :=
  h.plain.withRegistry h.deadlock (h.modifyMachine (fun _ => rfl) fun _ => rfl)
    fun _ => h.modifyMachine (fun _ => rfl) fun _ => rfl

theorem setSlot (cpu : Fin maxCpus) (change : CpuSlot → CpuSlot) :
    rule.Keeps (Dispatch.setSlot cpu change) :=
  h.modifyMachine (fun _ => rfl) fun _ => rfl

theorem acceptTrap (cpu : Fin maxCpus) : rule.Keeps (Kernel.acceptTrap cpu) := by
  unfold Kernel.acceptTrap
  refine rule.bind h.plain.machine fun machine => rule.bind h.plain.frame fun frame => ?_
  exact rule.ite (rule.pure _) (h.plain.fatal _)

end

section

variable (h : rule.Beside) (hserver : rule.Attended server)

include h hserver

theorem replace (inner : τ) : rule.Keeps (server.reply .world >>= fun worlds =>
    server.reply (.setWorld (worlds.1, inner))) := by
  rcases hserver.tells with hnothing | ⟨hworld, hset, -⟩
  · simp only [hnothing]
    exact rule.bind h.resilient.exhausted fun _ => h.resilient.exhausted
  · have hchange : (server.reply .world >>= fun worlds =>
        server.reply (.setWorld (worlds.1, inner))) = Dispatch.modifyMachine fun machine =>
          { machine with world := (machine.world.1, inner) } := by
      rw [hworld]
      simp only [hset]
      rfl
    rw [hchange]
    exact h.modifyMachine (fun _ => rfl) fun _ => rfl

theorem request (op : Request τ) (bound : Nat) :
    rule.Keeps (Program.run (S := serviceSignature (η × τ)) server.reply bound
      (Request.beside op)) := by
  cases op with
  | setWorld inner =>
    change rule.Keeps (server.reply .world >>= fun worlds =>
      server.reply (.setWorld (worlds.1, inner)) >>= Pure.pure)
    simp only [bind_pure]
    exact h.replace hserver inner
  | world => exact rule.bind (hserver.serves _ (by simp)) fun _ => rule.pure _
  | _ => exact rule.bind (hserver.serves _ (by simp)) fun _ => rule.pure _

theorem program (program : ServiceProgram τ α) : rule.Keeps (server.run program.beside) := by
  unfold Server.run ServiceProgram.beside
  rw [Program.run_translate]
  exact h.resilient.run (S := serviceSignature τ) (fun op => h.request hserver op _) program

theorem call {c : Call} (hc : c.isDriven = false) :
    rule.Keeps ((kernel.wired driver).call server c) := by
  have hperform : (kernel.wired driver).services.perform c =
      (kernel.services.perform c).beside := by
    cases c <;> first | rfl | cases hc
  unfold Kernel.call
  rw [hperform]
  exact h.during (by simp [Event.isBeside, hc]) (h.program hserver _)

theorem interruptible (cpu : Fin maxCpus) {body : Dispatch (η × τ) α} (hbody : rule.Keeps body) :
    rule.Keeps ((kernel.wired driver).interruptible server cpu body) :=
  rule.interruptible (fun _ => h.setSlot cpu _) (h.call hserver rfl) (h.call hserver rfl) hbody

theorem calls : rule.Calls (kernel.wired driver) server where
  mends := h.plain.toMending
  call c hc := h.call hserver (by cases c <;> first | rfl | cases hc)

theorem commons : rule.Commons (kernel.wired driver) server where
  plain := h.plain
  call c hc := h.call hserver (by cases c <;> first | rfl | cases hc)

theorem handlerRequest (op : HandlerRequest τ) (bound : Nat) :
    rule.Keeps (Program.run (S := handlerSignature (η × τ))
      ((kernel.wired driver).serveHandler server) bound op.beside) := by
  have hcalls : rule.Calls (kernel.wired driver) server := h.calls hserver
  cases op with
  | base op =>
    have hserve : (fun op : Request (η × τ) => Program.run (S := handlerSignature (η × τ))
        ((kernel.wired driver).serveHandler server) bound (HandlerProgram.ask (.base op))) =
        server.reply := by
      funext op
      exact bind_pure (server.reply op)
    change rule.Keeps (Program.run _ _ (Program.translate _ _))
    rw [Program.run_translate, hserve]
    exact h.request hserver op bound
  | _ => exact rule.bind (hcalls.serveHandler _ (by simp)) fun _ => rule.pure _

theorem systemCall (number : UInt64) (words : ArgumentWords) :
    rule.Keeps ((kernel.wired driver).systemCall server number words) := by
  have hcalls : rule.Calls (kernel.wired driver) server := h.calls hserver
  have hserve : ∀ frame,
      rule.Keeps ((kernel.wired driver).serveCall server number words frame) := by
    refine hcalls.serveCall (fun descriptor arguments hlookup => ?_) words
    refine h.during (fun _ => rfl) ?_
    have hbeside := hlookup.symm.trans (kernel.syscalls.lookup_beside number)
    obtain ⟨original, -, rfl⟩ := Option.map_eq_some_iff.mp hbeside.symm
    change rule.Keeps (Program.run _ _ (Program.translate _ _))
    rw [Program.run_translate]
    exact h.resilient.run (S := handlerSignature τ) (fun op => h.handlerRequest hserver op _) _
  unfold Kernel.systemCall
  exact rule.bind h.plain.frame fun frame => h.during (fun _ => rfl) (hserve frame)

theorem serviceLine (cpu : Fin maxCpus) (irq : Irq) (scope : AckScope) :
    rule.Keeps ((kernel.wired driver).serviceLine server cpu irq scope) := by
  have hentry : rule.Keeps (Kernel.enabledHandler irq) :=
    Discipline.enabledHandler (h.withRegistry _) fun _ => h.note rfl
  refine Discipline.serviceLine h.plain.toObserving hentry fun handler => ?_
  exact h.interruptible hserver cpu
    (rule.timeDevice (h.call hserver rfl) (h.call hserver rfl))

variable (hinterrupt : ∀ cpu, rule.Keeps ((kernel.wired driver).interrupt server cpu))

include hinterrupt

theorem carryOut (cpu : Fin maxCpus) (outer : CpuSlot) :
    rule.Keeps ((kernel.wired driver).carryOut server cpu outer) := by
  have hways : rule.Ways (kernel.wired driver) server cpu :=
    { common := h.commons hserver
      state := fun state _ => h.setSlot cpu _
      interrupt := rule.bind (h.setSlot cpu _) fun _ => hinterrupt cpu
      systemCall := fun number words =>
        h.interruptible hserver cpu (h.systemCall hserver number words) }
  unfold Kernel.carryOut Kernel.enterSlot Kernel.leaveSlot
  refine rule.bind (h.setSlot cpu _) fun _ => rule.bind hways.serveTrap fun outcome => ?_
  exact rule.bind (h.setSlot cpu _) fun _ => rule.pure _

theorem handleTrap : rule.Keeps ((kernel.wired driver).handleTrap server) := by
  unfold Kernel.handleTrap
  refine rule.bind (h.call hserver rfl) fun id => ?_
  split
  · refine rule.bind (h.acceptTrap _) fun outer => rule.bind h.plain.frame fun frame => ?_
    exact h.during (fun _ => rfl) (h.carryOut hserver hinterrupt _ outer)
  · exact h.plain.fatal _

theorem replies : rule.Replies (kernel.wired driver) server where
  mends := h.plain.toMending
  onFrame := h.onFrame
  install := h.modifyMachine (fun _ => rfl) fun _ => rfl
  tellSlot _ := h.plain.tellSlot fun _ => h.note rfl
  registry _ := Discipline.callRegistry (h.withRegistry _) fun _ => h.note rfl
  trap := h.handleTrap hserver hinterrupt
  systemCall := h.systemCall hserver
  invoke _ _ := h.program hserver _

end

/-- At every depth of nesting, the discipline is kept by what services are replied, if interrupts
keep it at the level below. -/
theorem attends (h : rule.Beside)
    (hinterrupt : ∀ server, rule.Attended server →
      ∀ cpu, rule.Keeps ((kernel.wired driver).interrupt server cpu)) (depth : Nat) :
    rule.Attended ((kernel.wired driver).server depth) := by
  induction depth with
  | zero => exact ⟨.inl fun _ => rfl, fun _ _ => h.resilient.exhausted⟩
  | succ depth ih =>
    refine ⟨.inr ⟨rfl, fun _ => rfl, fun _ => rfl⟩, fun op hop => ?_⟩
    exact (h.replies ih (hinterrupt _ ih)).reply op fun world hworld => absurd hworld (hop world)

end Beside
end Discipline
end TrapDispatch
