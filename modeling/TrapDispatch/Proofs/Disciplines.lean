import TrapDispatch.Kernel.Server

/-!
# Disciplines

A discipline is something that may be asked of computations, such that a whole keeps it
if its parts do. The dispatcher puts the same parts together whatever is asked of them:
the ways that a trap can go, the checks and the handler of a system call, and the
replies to the services. What is said here of any discipline holds of every one that is
kept by the calls and the scopes at the bottom.
-/

namespace TrapDispatch

/-- Something that may be asked of computations. -/
structure Discipline (σ : Type) where
  Keeps : {α : Type} → Dispatch σ α → Prop
  pure {α : Type} (value : α) : Keeps (Pure.pure value : Dispatch σ α)
  panic {α : Type} (message : String) : Keeps (throw (.panic message) : Dispatch σ α)
  bind {α β : Type} {body : Dispatch σ α} {next : α → Dispatch σ β} :
    Keeps body → (∀ value, Keeps (next value)) → Keeps (body >>= next)

namespace Discipline

section

variable {σ α : Type} {rule : Discipline σ}

theorem ite {c : Prop} {_ : Decidable c} {first second : Dispatch σ α} (hfirst : rule.Keeps first)
    (hsecond : rule.Keeps second) : rule.Keeps (if c then first else second) := by
  split
  · exact hfirst
  · exact hsecond

theorem when {c : Prop} {_ : Decidable c} {step : Dispatch σ Unit} {next : Unit → Dispatch σ α}
    (hstep : rule.Keeps step) (hnext : rule.Keeps (next ())) :
    rule.Keeps (if c then step >>= next else next ()) :=
  rule.ite (rule.bind hstep fun _ => hnext) hnext

end

/-- What the requests of programs are put together from. -/
structure Resilient {σ : Type} (rule : Discipline σ) : Prop where
  exhausted : ∀ {α : Type}, rule.Keeps (throw .exhausted : Dispatch σ α)
  unwinding : ∀ {α : Type} {body : Dispatch σ α} {cleanup : Dispatch σ Unit}, rule.Keeps body →
    rule.Keeps cleanup → rule.Keeps (TrapDispatch.unwinding body cleanup)

namespace Resilient

variable {σ α : Type} {rule : Discipline σ}

theorem repeated (h : rule.Resilient) {body : Dispatch σ (Option α)} (hbody : rule.Keeps body)
    (bound : Nat) : rule.Keeps (repeated body bound) := by
  induction bound with
  | zero => exact h.exhausted
  | succ bound ih =>
    apply rule.bind hbody
    intro value
    cases value with
    | none => exact ih
    | some value => exact rule.pure value

/-- A program keeps a discipline if every reply to its requests does. -/
theorem run {S : Signature} {serve : (op : S.Op) → Dispatch σ (S.Reply op)} {bound : Nat}
    (h : rule.Resilient) (hserve : ∀ op, rule.Keeps (serve op)) (program : Program S α) :
    rule.Keeps (program.run serve bound) := by
  induction program with
  | done value => exact rule.pure value
  | panic message => exact rule.panic message
  | request op next ih => exact rule.bind (hserve op) ih
  | onPanic body cleanup next hbody hcleanup ih =>
    exact rule.bind (h.unwinding hbody hcleanup) ih
  | untilSome body next hbody ih => exact rule.bind (h.repeated hbody bound) ih

end Resilient

/-- Whether a discipline is kept by the steps that only look at what is there, and change
nothing but the log. -/
structure Looking {σ : Type} (rule : Discipline σ) : Prop where
  frame : rule.Keeps Dispatch.frame
  requests : rule.Keeps Dispatch.requests
  machine : rule.Keeps Dispatch.machine
  record : ∀ r, rule.Keeps (TrapDispatch.record r)

namespace Looking

variable {σ α : Type} {rule : Discipline σ}

theorem recordAt (h : rule.Looking) (level : Level) (target text : String) :
    rule.Keeps (TrapDispatch.recordAt level target text : Dispatch σ Unit) :=
  h.record _

theorem fatal (h : rule.Looking) (text : String) :
    rule.Keeps (Dispatch.fatal text : Dispatch σ α) :=
  rule.bind (h.recordAt _ _ _) fun _ => rule.panic _

theorem withRegistry (h : rule.Looking) {change : Registry → α × Registry}
    (hlocked : rule.Keeps (throw .deadlock : Dispatch σ α))
    (htake : rule.Keeps
      (Dispatch.modifyMachine fun machine => { machine with registryLocked := true }))
    (hgive : ∀ registry, rule.Keeps
      (Dispatch.modifyMachine fun machine => { machine with registry, registryLocked := false })) :
    rule.Keeps (Dispatch.withRegistry change) := by
  unfold Dispatch.withRegistry
  refine rule.bind h.machine fun machine => rule.ite hlocked (rule.bind htake fun _ => ?_)
  refine rule.bind h.machine fun machine => rule.bind (hgive _) fun _ => ?_
  exact rule.pure _

theorem tellSlot (h : rule.Looking) {cpu : UInt64}
    (hnote : ∀ slot, rule.Keeps (Dispatch.note (.told cpu slot))) :
    rule.Keeps (Kernel.tellSlot cpu) := by
  unfold Kernel.tellSlot
  exact rule.bind h.machine fun machine => rule.bind (hnote _) fun _ => rule.pure _

end Looking

/-- Whether a discipline is also kept by changes to the counters. -/
structure Observing {σ : Type} (rule : Discipline σ) : Prop extends rule.Looking where
  count : ∀ change, rule.Keeps (Dispatch.count change)

namespace Observing

variable {σ α : Type} {rule : Discipline σ}

theorem unhandled (h : rule.Observing) {kernel : Kernel σ} (scope : AckScope) :
    rule.Keeps (kernel.unhandled scope) := by
  unfold Kernel.unhandled
  apply rule.bind (h.count _)
  intro _
  apply rule.bind h.machine
  intro machine
  refine rule.when (h.recordAt _ _ _) ?_
  cases kernel.config.policy with
  | recordAndContinue => exact rule.pure _
  | maskLine => exact rule.bind (h.recordAt _ _ _) fun _ => rule.pure _
  | panic => exact h.fatal _

theorem claim (h : rule.Observing) {kernel : Kernel σ} (claimed : Bool) (scope : AckScope) :
    rule.Keeps (if claimed then Pure.pure (true, scope) else do
      return (false, ← kernel.unhandled scope)) :=
  rule.ite (rule.pure _) (rule.bind (h.unhandled scope) fun _ => rule.pure _)

end Observing

theorem enabledHandler {σ : Type} {rule : Discipline σ} {irq : Irq}
    (hregistry : rule.Keeps (Dispatch.withRegistry fun registry => (registry.lookup irq, registry)))
    (hnote : ∀ entry, rule.Keeps (Dispatch.note (.lookup irq entry))) :
    rule.Keeps (Kernel.enabledHandler irq) := by
  unfold Kernel.enabledHandler
  exact rule.bind hregistry fun entry => rule.bind (hnote entry) fun _ => rule.pure _

theorem callRegistry {σ α : Type} {rule : Discipline σ} {call : RegistryCall}
    {reply : α → RegistryReply} {change : Registry → α × Registry}
    (hregistry : rule.Keeps (Dispatch.withRegistry change))
    (hnote : ∀ value, rule.Keeps (Dispatch.note (.registry call (reply value)))) :
    rule.Keeps (Kernel.callRegistry call reply change) := by
  unfold Kernel.callRegistry
  exact rule.bind hregistry fun value => rule.bind (hnote value) fun _ => rule.pure _


/-- Whether a discipline is kept by such steps and by changes to the frame of a trap and to the
requests of its system call. -/
structure Mending {σ : Type} (rule : Discipline σ) : Prop extends rule.Looking where
  modifyFrame : ∀ change, rule.Keeps (Dispatch.modifyFrame change)
  modifyRequests : ∀ change, rule.Keeps (Dispatch.modifyRequests change)

namespace Mending

variable {σ α : Type} {rule : Discipline σ}

theorem takeDeferred (h : rule.Mending) : rule.Keeps Kernel.takeDeferred := by
  unfold Kernel.takeDeferred
  apply rule.bind h.requests
  intro requests
  exact rule.bind (h.modifyRequests _) fun _ => rule.pure _

theorem takeSwitch (h : rule.Mending) : rule.Keeps Kernel.takeSwitch := by
  unfold Kernel.takeSwitch
  apply rule.bind h.requests
  intro requests
  exact rule.bind (h.modifyRequests _) fun _ => rule.pure _

end Mending

structure Plain {σ : Type} (rule : Discipline σ) : Prop extends rule.Observing, rule.Mending

section

variable {σ α : Type} {rule : Discipline σ} {kernel : Kernel σ} {server : Server σ}
  {cpu : Fin maxCpus} {irq : Irq}

theorem interruptible {body : Dispatch σ α}
    (hstate : ∀ masked, rule.Keeps (Kernel.setState cpu .handlerRunning masked))
    (henable : rule.Keeps (kernel.call server .enableInterrupts))
    (hdisable : rule.Keeps (kernel.call server .disableInterrupts)) (hbody : rule.Keeps body) :
    rule.Keeps (kernel.interruptible server cpu body) := by
  unfold Kernel.interruptible
  apply rule.bind (hstate false)
  intro _
  apply rule.bind henable
  intro _
  apply rule.bind hbody
  intro value
  apply rule.bind hdisable
  intro _
  exact rule.bind (hstate true) fun _ => rule.pure value

theorem timeDevice {handler : HandlerId} (hcycles : rule.Keeps (kernel.call server .cycles))
    (hdevice : rule.Keeps (kernel.call server (.device handler irq))) :
    rule.Keeps (kernel.timeDevice server irq handler) := by
  unfold Kernel.timeDevice
  apply rule.bind hcycles
  intro start
  apply rule.bind hdevice
  intro _
  exact rule.bind hcycles fun stop => rule.pure _

theorem runDevice {handler : HandlerId} (hlooks : rule.Observing)
    (hdevice : rule.Keeps (kernel.interruptible server cpu (kernel.timeDevice server irq handler))) :
    rule.Keeps (kernel.runDevice server cpu irq handler) := by
  unfold Kernel.runDevice
  apply rule.bind hdevice
  intro elapsed
  refine rule.ite ?_ (rule.pure _)
  exact rule.bind (hlooks.count _) fun _ => hlooks.recordAt _ _ _

theorem serviceLine {scope : AckScope} (hlooks : rule.Observing)
    (hentry : rule.Keeps (Kernel.enabledHandler irq))
    (hdevice : ∀ handler,
      rule.Keeps (kernel.interruptible server cpu (kernel.timeDevice server irq handler))) :
    rule.Keeps (kernel.serviceLine server cpu irq scope) := by
  unfold Kernel.serviceLine
  apply rule.bind hentry
  intro entry
  cases entry with
  | some entry =>
    exact rule.bind (runDevice hlooks (hdevice entry.handler)) fun _ => hlooks.claim _ scope
  | none => exact hlooks.claim _ scope

end

/-- What the opening of the scope of a line is put together from. -/
structure Opens {σ : Type} (rule : Discipline σ) (kernel : Kernel σ) (server : Server σ)
    (irq : Irq) : Prop where
  looks : rule.Looking
  triggerMode : rule.Keeps (kernel.call server (.triggerMode irq))
  mask : rule.Keeps (kernel.call server (.mask irq))
  acknowledge : rule.Keeps (kernel.call server (.acknowledge irq))

theorem Opens.opened {σ : Type} {rule : Discipline σ} {kernel : Kernel σ} {server : Server σ}
    {irq : Irq} (h : rule.Opens kernel server irq) :
    rule.Keeps (AckScope.opened (kernel.controller server) irq) := by
  unfold AckScope.opened
  apply rule.bind h.triggerMode
  intro mode
  apply rule.bind h.mask
  intro _
  refine rule.when h.acknowledge ?_
  exact rule.bind (h.looks.recordAt _ _ _) fun _ => rule.pure _

structure Closes {σ : Type} (rule : Discipline σ) (kernel : Kernel σ) (server : Server σ)
    (irq : Irq) : Prop where
  looks : rule.Looking
  acknowledge : rule.Keeps (kernel.call server (.acknowledge irq))
  endOfInterrupt : rule.Keeps (kernel.call server (.endOfInterrupt irq))
  unmask : rule.Keeps (kernel.call server (.unmask irq))

theorem Closes.close {σ : Type} {rule : Discipline σ} {kernel : Kernel σ} {server : Server σ}
    {scope : AckScope} (h : rule.Closes kernel server scope.irq) :
    rule.Keeps (scope.close (kernel.controller server)) := by
  unfold AckScope.close
  refine rule.when h.acknowledge ?_
  apply rule.bind h.endOfInterrupt
  intro _
  exact rule.when h.unmask (h.looks.recordAt _ _ _)

end Discipline

def Call.isProcess : Call → Bool
  | .schedule _ _ | .pid | .userRange | .terminate _ | .signalPending | .write _ _ | .read _ _ =>
    true
  | _ => false

/-- Calls that a trap makes when it is not about an interrupt. -/
def Call.isCommon : Call → Bool
  | .schedule _ _ | .resolveFault _ _ | .pid | .userRange | .terminate _ => true
  | _ => false

namespace Discipline

section

variable {σ : Type} {rule : Discipline σ} {kernel : Kernel σ} {server : Server σ}

theorem Mending.reschedule (h : rule.Mending)
    (hschedule : ∀ frame reason, rule.Keeps (kernel.call server (.schedule frame reason)))
    (reason : ScheduleReason) : rule.Keeps (kernel.reschedule server reason) := by
  unfold Kernel.reschedule
  apply rule.bind h.frame
  intro frame
  apply rule.bind (hschedule frame reason)
  intro next
  cases next with
  | «continue» => exact rule.ite (h.fatal _) (rule.pure _)
  | switch next => exact h.modifyFrame _

theorem Mending.settle (h : rule.Mending)
    (hschedule : ∀ frame reason, rule.Keeps (kernel.call server (.schedule frame reason))) :
    rule.Keeps (kernel.settle server) := by
  unfold Kernel.settle
  apply rule.bind h.takeDeferred
  intro deferred
  cases deferred with
  | some reason => exact h.reschedule hschedule reason
  | none =>
    apply rule.bind h.takeSwitch
    intro switch
    cases switch with
    | some next => exact h.modifyFrame _
    | none => exact rule.pure _

end

/-- What a trap does whichever way it goes. -/
structure Commons {σ : Type} (rule : Discipline σ) (kernel : Kernel σ) (server : Server σ) :
    Prop where
  plain : rule.Plain
  call : ∀ c : Call, c.isCommon = true → rule.Keeps (kernel.call server c)

namespace Commons

variable {σ : Type} {rule : Discipline σ} {kernel : Kernel σ} {server : Server σ}

theorem reschedule (h : rule.Commons kernel server) (reason : ScheduleReason) :
    rule.Keeps (kernel.reschedule server reason) :=
  h.plain.toMending.reschedule (fun _ _ => h.call _ rfl) reason

theorem fatalException (h : rule.Commons kernel server) (kind : ExceptionKind) :
    rule.Keeps (kernel.fatalException server kind) := by
  unfold Kernel.fatalException
  apply rule.bind h.plain.frame
  intro frame
  refine rule.when (h.plain.fatal _) ?_
  apply rule.bind h.plain.machine
  intro machine
  have hend : rule.Keeps (do
      kernel.call server (.terminate (.fault kind))
      Dispatch.count Stats.recordKilled
      kernel.reschedule server .terminated
      return Outcome.threadTerminated) := by
    apply rule.bind (h.call _ rfl)
    intro _
    apply rule.bind (h.plain.count _)
    intro _
    exact rule.bind (h.reschedule _) fun _ => rule.pure _
  refine rule.ite ?_ hend
  apply rule.bind (h.call _ rfl)
  intro pid
  exact rule.bind (h.plain.recordAt _ _ _) fun _ => hend

theorem resolve (h : rule.Commons kernel server) (address : Address) (access : Access) :
    rule.Keeps (kernel.resolve server address access) := by
  unfold Kernel.resolve
  apply rule.bind h.plain.frame
  intro frame
  apply rule.bind (h.call _ rfl)
  intro window
  exact rule.ite (h.call _ rfl) (rule.pure _)

theorem interrupt (h : rule.Commons kernel server) {cpu : Fin maxCpus}
    (hpending : ∀ vector, rule.Keeps (kernel.call server (.pending vector)))
    (hopens : ∀ irq, rule.Opens kernel server irq)
    (hscope : ∀ scope, rule.Keeps (kernel.serviceScope server cpu scope)) :
    rule.Keeps (kernel.interrupt server cpu) := by
  unfold Kernel.interrupt
  apply rule.bind h.plain.frame
  intro frame
  apply rule.bind (hpending frame.vector)
  intro pending
  cases pending with
  | none =>
    apply rule.bind (h.plain.count _)
    intro _
    exact rule.bind (h.plain.recordAt _ _ _) fun _ => rule.pure _
  | some irq =>
    apply rule.bind (hopens irq).opened
    intro scope
    apply rule.bind (hscope scope)
    intro handled
    exact rule.when (h.reschedule _) (rule.pure _)

end Commons

/-- What the ways of a trap are put together from. -/
structure Ways {σ : Type} (rule : Discipline σ) (kernel : Kernel σ) (server : Server σ)
    (cpu : Fin maxCpus) : Prop where
  common : rule.Commons kernel server
  state : ∀ state, state ≠ .idle → rule.Keeps (Kernel.setState cpu state true)
  /-- An interrupt, from its classification on. -/
  interrupt : rule.Keeps (do Kernel.setState cpu .classified true; kernel.interrupt server cpu)
  systemCall : ∀ number words,
    rule.Keeps (kernel.interruptible server cpu (kernel.systemCall server number words))

namespace Ways

variable {σ : Type} {rule : Discipline σ} {kernel : Kernel σ} {server : Server σ}
  {cpu : Fin maxCpus}

theorem defaultFault (h : rule.Ways kernel server cpu) :
    rule.Keeps (kernel.defaultFault server cpu) := by
  unfold Kernel.defaultFault
  apply rule.bind (h.state _ (by decide))
  intro _
  apply rule.bind h.common.plain.frame
  intro frame
  exact rule.bind (h.common.plain.recordAt _ _ _) fun _ => h.common.fatalException _

theorem exception (h : rule.Ways kernel server cpu) (kind : ExceptionKind) :
    rule.Keeps (kernel.exception server cpu kind) := by
  unfold Kernel.exception
  apply rule.bind (h.state _ (by decide))
  intro _
  apply rule.bind h.common.plain.frame
  intro frame
  cases kind with
  | pageFault address access =>
    apply rule.bind (h.common.resolve address access)
    intro resolved
    refine rule.ite ?_ (h.common.fatalException _)
    exact rule.bind (h.common.plain.count _) fun _ => rule.pure _
  | breakpoint =>
    apply rule.bind (h.common.plain.recordAt _ _ _)
    intro _
    exact rule.bind (h.common.plain.modifyFrame _) fun _ => rule.pure _
  | debug => exact rule.bind (h.common.plain.recordAt _ _ _) fun _ => rule.pure _
  | _ => exact h.common.fatalException _

theorem syscallTrap (h : rule.Ways kernel server cpu) (convention : Convention) :
    rule.Keeps (kernel.syscallTrap server cpu convention) := by
  unfold Kernel.syscallTrap
  apply rule.bind h.common.plain.frame
  intro frame
  apply rule.bind (h.systemCall _ _)
  intro result
  have hend : rule.Keeps (do
      Dispatch.modifyFrame fun frame =>
        (frame.setReturnValue result.encode).advance convention.advance
      kernel.settle server
      return Outcome.syscall result) := by
    apply rule.bind (h.common.plain.modifyFrame _)
    intro _
    have hsettle := h.common.plain.toMending.settle fun frame reason => h.common.call _ rfl
    exact rule.bind hsettle fun _ => rule.pure _
  cases result with
  | ok value => exact hend
  | error code =>
    apply rule.bind (h.common.plain.count _)
    intro _
    exact rule.bind (h.common.plain.recordAt _ _ _) fun _ => hend

theorem route (h : rule.Ways kernel server cpu) : rule.Keeps (kernel.route server cpu) := by
  unfold Kernel.route
  apply rule.bind h.common.plain.frame
  intro frame
  split
  · apply rule.bind (h.common.plain.count _)
    intro _
    exact rule.bind (h.state _ (by decide)) fun _ => h.defaultFault
  next entry _ =>
    apply rule.bind (h.common.plain.count _)
    intro _
    -- An interrupt is taken together with its classification.
    cases Cause.ofTrap frame entry with
    | interrupt => exact h.interrupt
    | exception kind => exact rule.bind (h.state _ (by decide)) fun _ => h.exception kind
    | syscall convention =>
      exact rule.bind (h.state _ (by decide)) fun _ => h.syscallTrap convention
    | unassigned => exact rule.bind (h.state _ (by decide)) fun _ => h.defaultFault

theorem serveTrap (h : rule.Ways kernel server cpu) :
    rule.Keeps (kernel.serveTrap server cpu) := by
  unfold Kernel.serveTrap
  apply rule.bind h.route
  intro outcome
  apply rule.bind (h.state _ (by decide))
  intro _
  apply rule.bind h.common.plain.frame
  intro frame
  exact rule.bind (h.common.plain.recordAt _ _ _) fun _ => rule.pure outcome

end Ways

/-- What system calls and the requests of their handlers are put together from. -/
structure Calls {σ : Type} (rule : Discipline σ) (kernel : Kernel σ) (server : Server σ) :
    Prop where
  mends : rule.Mending
  call : ∀ c : Call, c.isProcess = true → rule.Keeps (kernel.call server c)

namespace Calls

variable {σ : Type} {rule : Discipline σ} {kernel : Kernel σ} {server : Server σ}

theorem wait (h : rule.Calls kernel server) (shown : Frame) :
    rule.Keeps (kernel.wait server shown) := by
  unfold Kernel.wait
  apply rule.bind (h.call (.schedule shown .blocked) rfl)
  intro next
  cases next with
  | «continue» => exact rule.pure _
  | switch next => exact rule.bind (h.mends.modifyRequests _) fun _ => rule.pure _

theorem block (h : rule.Calls kernel server) (shown : Frame) :
    rule.Keeps (kernel.block server shown) := by
  unfold Kernel.block
  apply rule.bind h.mends.requests
  intro requests
  refine rule.ite ?_ (h.wait shown)
  apply rule.bind (h.call .signalPending rfl)
  intro signalled
  exact rule.ite (rule.pure _) (h.wait shown)

theorem serveHandler (h : rule.Calls kernel server) (op : HandlerRequest σ)
    (hbase : ∀ inner, op = .base inner → rule.Keeps (server.reply inner)) :
    rule.Keeps (kernel.serveHandler server op) := by
  cases op with
  | base op => exact hbase op rfl
  | frame => exact h.mends.frame
  | setFrame frame => exact h.mends.modifyFrame fun _ => frame
  | block shown => exact h.block shown
  | defer reason => exact h.mends.modifyRequests (·.defer reason)
  | takeDeferred => exact h.mends.takeDeferred
  | takeSwitch => exact h.mends.takeSwitch
  | pid => exact h.call .pid rfl
  | userRange => exact h.call .userRange rfl
  | terminate reason => exact h.call (.terminate reason) rfl
  | signalPending => exact h.call .signalPending rfl
  | write file buffer => exact h.call (.write file buffer) rfl
  | read file buffer => exact h.call (.read file buffer) rfl

theorem serveCall (h : rule.Calls kernel server) {number : UInt64}
    (hhandler : ∀ descriptor arguments, kernel.syscalls.lookup number = some descriptor →
      rule.Keeps (kernel.runHandler server descriptor arguments))
    (words : ArgumentWords) (frame : Frame) :
    rule.Keeps (kernel.serveCall server number words frame) := by
  unfold Kernel.serveCall
  split
  · exact rule.bind (h.mends.recordAt _ _ _) fun _ => rule.pure _
  next descriptor hlookup =>
    refine rule.ite ?_ ?_
    · exact rule.bind (h.mends.recordAt _ _ _) fun _ => rule.pure _
    split
    · exact rule.pure _
    apply rule.bind (h.call .userRange rfl)
    intro window
    split
    · exact rule.pure _
    next arguments _ =>
      apply rule.bind (h.mends.recordAt _ _ _)
      intro _
      apply rule.bind (h.mends.modifyRequests _)
      intro _
      exact hhandler descriptor arguments hlookup

end Calls
end Discipline

/-- Whether a change of the registry, with what is replied to it, is that of a call. -/
def RegistryCall.Makes {α : Type} (call : RegistryCall) (reply : α → RegistryReply)
    (change : Registry → α × Registry) : Prop :=
  ∀ registry, registry.perform call = (reply (change registry).1, (change registry).2)

namespace Discipline

/-- What the replies to services are put together from. -/
structure Replies {σ : Type} (rule : Discipline σ) (kernel : Kernel σ) (server : Server σ) :
    Prop where
  mends : rule.Mending
  onFrame : ∀ {α : Type} {frame : Frame} {body : Dispatch σ α}, rule.Keeps body →
    rule.Keeps (Dispatch.onFrame frame body)
  install : rule.Keeps (Dispatch.modifyMachine fun machine => { machine with installed := true })
  tellSlot : ∀ cpu, rule.Keeps (Kernel.tellSlot cpu)
  registry : ∀ {α : Type} {call : RegistryCall} {reply : α → RegistryReply}
    {change : Registry → α × Registry}, call.Makes reply change →
    rule.Keeps (Kernel.callRegistry call reply change)
  trap : rule.Keeps (kernel.handleTrap server)
  systemCall : ∀ number words, rule.Keeps (kernel.systemCall server number words)
  invoke : ∀ handler irq, rule.Keeps (server.run (kernel.services.perform (.device handler irq)))

namespace Replies

variable {σ : Type} {rule : Discipline σ} {kernel : Kernel σ} {server : Server σ}

theorem enter (h : rule.Replies kernel server) : rule.Keeps (kernel.enter server) := by
  unfold Kernel.enter
  apply rule.bind h.mends.machine
  intro machine
  refine rule.ite ?_ ?_
  · exact rule.bind h.trap fun _ => rule.pure _
  · exact rule.bind h.mends.frame fun _ => h.mends.fatal _

theorem installs (h : rule.Replies kernel server) : rule.Keeps kernel.install := by
  unfold Kernel.install
  apply rule.bind h.mends.machine
  intro machine
  apply rule.ite (h.mends.recordAt _ _ _)
  refine rule.bind h.install fun _ => ?_
  exact rule.bind (h.mends.record _) fun _ => h.mends.recordAt _ _ _

theorem register (h : rule.Replies kernel server) (irq : Irq) (driver : UInt32)
    (handler : HandlerId) : rule.Keeps (Kernel.register irq driver handler) := by
  unfold Kernel.register
  apply rule.bind (h.registry fun registry => registry.perform_register irq driver handler)
  intro result
  cases result with
  | ok handle => exact rule.bind (h.mends.record _) fun _ => rule.pure _
  | error why => exact rule.pure _

theorem unregister (h : rule.Replies kernel server) (handle : RegistrationHandle) :
    rule.Keeps (Kernel.unregister handle) := by
  unfold Kernel.unregister Kernel.changeRegistry
  apply rule.bind (h.registry fun registry => registry.perform_unregister handle)
  intro result
  cases result with
  | ok done => exact rule.bind (h.mends.record _) fun _ => rule.pure _
  | error why => exact rule.pure _

/-- One level of a server, where the world of the services may be given special care. -/
theorem reply (h : rule.Replies kernel server) (op : Request σ)
    (hworld : ∀ world, op = .setWorld world →
      rule.Keeps (Dispatch.modifyMachine fun machine => { machine with world })) :
    rule.Keeps (kernel.reply server op) := by
  cases op with
  | world => exact rule.bind h.mends.machine fun machine => rule.pure machine.world
  | setWorld world => exact hworld world rfl
  | log r => exact h.mends.record r
  | trap frame =>
    unfold Kernel.reply
    exact rule.bind (h.onFrame h.trap) fun _ => rule.pure _
  | enter frame =>
    unfold Kernel.reply
    exact rule.bind (h.onFrame h.enter) fun _ => rule.pure _
  | install => exact h.installs
  | invoke handler irq => exact h.invoke handler irq
  | call number words frame =>
    unfold Kernel.reply
    exact rule.bind (h.onFrame (h.systemCall number words)) fun _ => rule.pure _
  | register irq driver handler => exact h.register irq driver handler
  | unregister handle => exact h.unregister handle
  | setEnabled handle enabled =>
    exact h.registry fun registry => registry.perform_setEnabled handle enabled
  | lookup irq => exact h.registry fun registry => rfl
  | slot cpu => exact h.tellSlot cpu
  | stats => exact rule.bind h.mends.machine fun machine => rule.pure machine.stats
  | settings =>
    unfold Kernel.reply
    exact rule.pure _

end Replies

/-- The replies at every depth of nesting, if those of one level keep the discipline where
those of the level below do. -/
theorem serves {σ : Type} {rule : Discipline σ} {kernel : Kernel σ} (hresilient : rule.Resilient)
    (hreplies : ∀ server : Server σ, (∀ op, rule.Keeps (server.reply op)) →
      rule.Replies kernel server)
    (hworld : ∀ world, rule.Keeps (Dispatch.modifyMachine fun machine => { machine with world }))
    (depth : Nat) (op : Request σ) : rule.Keeps ((kernel.server depth).reply op) := by
  -- The traps that a service raises are served by the level below its own.
  induction depth generalizing op with
  | zero => exact hresilient.exhausted
  | succ depth ih => exact (hreplies _ ih).reply op fun world _ => hworld world

end Discipline
end TrapDispatch
