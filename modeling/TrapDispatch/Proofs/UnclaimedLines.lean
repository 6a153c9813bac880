import TrapDispatch.Proofs.Bookkeeping
import TrapDispatch.Proofs.ControllerCalls
import TrapDispatch.Proofs.LineOutcomes
import TrapDispatch.Proofs.PlainDrivers

/-!
# Lines that nobody claims

An interrupt for which no handler runs does to the hardware what its driver does alone: it is
spurious, and the controller was only asked for a line; or its line was opened and closed, and
stays masked if that is the policy.
-/

namespace TrapDispatch

variable {σ η τ α : Type}

namespace Bond

/-- The world is left as it is. -/
def inert : Bond σ where
  relates a b := b.machine.world = a.machine.world
  refl _ := rfl
  trans hfirst hsecond := hsecond.trans hfirst

theorem inert_modifyMachine {change : Machine σ → Machine σ}
    (hworld : ∀ machine, (change machine).world = machine.world) :
    inert.Keeps (Dispatch.modifyMachine change) := by
  rintro state _ _ ⟨⟩
  exact hworld state.machine

theorem inert_observing : (inert (σ := σ)).discipline.Observing :=
  ⟨⟨keeps_frame, keeps_requests, keeps_machine, fun _ => inert_modifyMachine fun _ => rfl⟩,
    fun _ => inert_modifyMachine fun _ => rfl⟩

theorem inert_enabledHandler (irq : Irq) :
    inert.Keeps (Kernel.enabledHandler (σ := σ) irq) := by
  refine Discipline.enabledHandler (inert_observing.withRegistry (keeps_throw _) ?_ ?_) fun _ => ?_
  · exact inert_modifyMachine fun _ => rfl
  · exact fun _ => inert_modifyMachine fun _ => rfl
  · exact inert_modifyMachine fun _ => rfl

end Bond

/-- A run that returns did not need its cleanup. -/
theorem ok_of_unwinding {body : Dispatch σ α} {cleanup : Dispatch σ Unit} {value : α}
    {state after : Activation σ} (h : unwinding body cleanup state = .ok value after) :
    body state = .ok value after := by
  unfold unwinding at h
  split at h
  · split at h <;> cases h
  · exact h

def returned? {ε σ α : Type} : EStateM.Result ε σ α → Option α
  | .ok value _ => some value
  | .error _ _ => none

theorem exists_of_returned? {ε σ α : Type} {run : EStateM.Result ε σ α} {value : α}
    (h : returned? run = some value) : ∃ after, run = .ok value after := by
  cases run with
  | ok _ after => exact ⟨after, by rw [Option.some.inj h]⟩
  | error => cases h

def Outcome.line? : Outcome → Option Irq
  | .irqHandled irq | .unhandled irq => some irq
  | _ => none

section

variable {kernel : Kernel σ} {server : Server σ} {state after : Activation σ} {cpu : Fin maxCpus}

theorem Kernel.scope_of_unhandled {scope last : AckScope}
    (hrun : kernel.unhandled scope state = .ok last after) :
    last = { scope with
      keepMasked := scope.keepMasked || decide (kernel.config.policy = .maskLine) } := by
  have hdecides : Emits (kernel.Decides scope) (kernel.unhandled scope) := emits_unhandled scope
  obtain ⟨-, -, ⟨-, hlast | ⟨-, message, hstop⟩⟩⟩ := (hdecides state).returned hrun
  · exact Except.ok.inj hlast
  · cases hstop

theorem Kernel.unclaimed_of_serviceLine {irq : Irq} {mode : TriggerMode} {last : AckScope}
    (hrun : kernel.serviceLine server cpu irq { irq, mode } state = .ok (false, last) after) :
    kernel.config.isTimer irq = false ∧ after.machine.world = state.machine.world ∧
      last = { irq, mode, keepMasked := decide (kernel.config.policy = .maskLine) } := by
  unfold Kernel.serviceLine at hrun
  obtain ⟨entry, middle, hentry, hrun⟩ := Dispatch.exists_of_bind hrun
  have hmiddle : middle.machine.world = state.machine.world :=
    Bond.inert_enabledHandler irq _ _ _ hentry
  cases entry with
  | some entry =>
    obtain ⟨_, _, -, hrun⟩ := Dispatch.exists_of_bind hrun
    cases hrun
  | none =>
    change (if kernel.config.isTimer irq then pure (true, _) else do
      return (false, ← kernel.unhandled _) : Dispatch σ (Bool × AckScope)) middle = _ at hrun
    split at hrun
    · cases hrun
    next htimer =>
      obtain ⟨scope, _, hpolicy, hpure⟩ := Dispatch.exists_of_bind hrun
      cases hpure
      have hafter : after.machine.world = middle.machine.world :=
        Bond.inert_observing.unhandled _ _ _ _ hpolicy
      refine ⟨Bool.eq_false_iff.mpr htimer, hafter.trans hmiddle, ?_⟩
      simpa using Kernel.scope_of_unhandled hpolicy

end

structure Activation.Alike (a b : Activation σ) : Prop where
  frame : b.frame = a.frame
  journal : b.machine.journal = a.machine.journal
  world : b.machine.world = a.machine.world

theorem Kernel.exists_interrupt {kernel : Kernel σ} {server : Server σ} {cpu : Fin maxCpus}
    {outer : CpuSlot} {state after : Activation σ} {outcome : Outcome}
    (hcause : kernel.cause state.frame = .interrupt)
    (hrun : kernel.carryOut server cpu outer state = .ok outcome after) :
    ∃ inner last, state.Alike inner ∧ last.Alike after ∧
      kernel.interrupt server cpu inner = .ok outcome last := by
  rw [Kernel.carryOut_eq] at hrun
  unfold Kernel.conduct at hrun
  rw [hcause] at hrun
  obtain ⟨_, inner, hstate, hrun⟩ := Dispatch.exists_of_bind hrun
  obtain ⟨_, last, hinterrupt, hrun⟩ := Dispatch.exists_of_bind hrun
  obtain ⟨_, _, hrestoring, hrun⟩ := Dispatch.exists_of_bind hrun
  obtain ⟨_, _, hframe, hrun⟩ := Dispatch.exists_of_bind hrun
  obtain ⟨_, _, hrecord, hrun⟩ := Dispatch.exists_of_bind hrun
  obtain ⟨_, _, hleave, hpure⟩ := Dispatch.exists_of_bind hrun
  cases hstate
  cases hrestoring
  cases hframe
  cases hrecord
  cases hleave
  cases hpure
  refine ⟨_, last, ?_, ⟨rfl, rfl, rfl⟩, hinterrupt⟩
  exact ⟨rfl, rfl, rfl⟩

/-- What an interrupt that returns has gone through. -/
inductive Kernel.Interrupts (kernel : Kernel σ) (server : Server σ) (cpu : Fin maxCpus)
    (state after : Activation σ) : Outcome → Prop where
  | spurious {asked : Activation σ}
      (pending : kernel.call server (.pending state.frame.vector) state = .ok none asked)
      (alike : asked.Alike after) : Interrupts kernel server cpu state after .spurious
  | line {irq : Irq} {mode : TriggerMode} {handled : Bool} {asked opened serviced : Activation σ}
      (pending : kernel.call server (.pending state.frame.vector) state = .ok (some irq) asked)
      (opening : AckScope.opened (kernel.controller server) irq asked = .ok { irq, mode } opened)
      (scope : kernel.serviceScope server cpu { irq, mode } opened = .ok handled serviced)
      (tick : (if kernel.config.isTimer irq then kernel.reschedule server .tick else pure ())
        serviced = .ok () after) :
      Interrupts kernel server cpu state after
        (if handled then .irqHandled irq else .unhandled irq)

theorem Kernel.interrupts_of_run {kernel : Kernel σ} {server : Server σ} {cpu : Fin maxCpus}
    {state after : Activation σ} {outcome : Outcome}
    (hrun : kernel.interrupt server cpu state = .ok outcome after) :
    kernel.Interrupts server cpu state after outcome := by
  unfold Kernel.interrupt at hrun
  obtain ⟨_, _, hframe, hrun⟩ := Dispatch.exists_of_bind hrun
  cases hframe
  obtain ⟨named, asked, hasked, hrun⟩ := Dispatch.exists_of_bind hrun
  cases named with
  | none =>
    obtain ⟨_, _, hcount, hrun⟩ := Dispatch.exists_of_bind hrun
    obtain ⟨_, _, hrecord, hpure⟩ := Dispatch.exists_of_bind hrun
    cases hcount
    cases hrecord
    cases hpure
    exact .spurious hasked ⟨rfl, rfl, rfl⟩
  | some irq =>
    obtain ⟨scope, opened, hopened, hrun⟩ := Dispatch.exists_of_bind hrun
    obtain ⟨handled, serviced, hserviced, htick⟩ := Dispatch.exists_of_bind hrun
    obtain ⟨mode, rfl⟩ := opened_gives irq _ _ _ hopened
    change (if kernel.config.isTimer irq then kernel.reschedule server .tick >>= fun _ => pure _
      else pure _ : Dispatch σ Outcome) serviced = _ at htick
    split at htick
    next htimer =>
      obtain ⟨_, _, hreschedule, hpure⟩ := Dispatch.exists_of_bind htick
      cases hpure
      exact .line hasked hopened hserviced (by rw [if_pos htimer]; exact hreschedule)
    next htimer =>
      cases htick
      exact .line hasked hopened hserviced (by rw [if_neg htimer]; rfl)

/-- An acknowledgement scope in which nothing is done. -/
def Controller.passOver {m : Type → Type u} [Monad m] [MonadRecord m] (controller : Controller m)
    (keepMasked : Bool) (irq : Irq) : m Unit := do
  let scope ← AckScope.opened controller irq
  AckScope.close controller { scope with keepMasked }

/-- The calls of such a scope, whichever way the line signals. -/
def Controller.passing (keepMasked : Bool) (irq : Irq) : List ControllerCall :=
  [.triggerMode irq, .mask irq, .acknowledge irq, .endOfInterrupt irq] ++
    if keepMasked then [] else [.unmask irq]

/-- Either mode has the line acknowledged once between being masked and ended. -/
theorem AckScope.calls_eq (irq : Irq) (mode : TriggerMode) (keepMasked : Bool) :
    openingCalls irq mode ++ closingCalls { irq, mode, keepMasked } =
      Controller.passing keepMasked irq := by
  cases mode <;> rfl

theorem Controller.passOver_eq [MonadRecord (StateM η)]
    (hdrops : ∀ r, (record r : StateM η Unit) = pure ()) (plain : Controller (StateM η))
    (keepMasked : Bool) (irq : Irq) (hardware : η) :
    (plain.passOver keepMasked irq hardware).2 = plain.after hardware (passing keepMasked irq) := by
  unfold passOver
  rw [bind_apply, opened_eq hdrops, close_eq hdrops, ← AckScope.calls_eq irq, after, after, after,
    List.foldl_append]

def Call.isPending : Call → Bool
  | .pending _ => true
  | _ => false

/-- Whether nothing was done between two states but asking for a line. -/
def Activation.OnlyAsks (state after : Activation σ) : Prop :=
  ∃ new, after.machine.journal = new ++ state.machine.journal ∧ Simple Call.isPending new

/-- What the outcome of an interrupt says of the hardware, in terms of the driver alone. -/
structure Controller.Reports [MonadRecord (StateM η)] (plain : Controller (StateM η))
    (policy : UnhandledPolicy) (vector : UInt64) (before after : η) (outcome : Outcome) : Prop where
  interrupt : outcome.isOfInterrupt = true
  named : (plain.pending vector before).1 = outcome.line?
  spurious : outcome = .spurious → after = (plain.pending vector before).2
  unhandled : ∀ irq, outcome = .unhandled irq →
    after = (plain.passOver (decide (policy = .maskLine)) irq (plain.pending vector before).2).2

section

variable {kernel : Kernel τ} {driver : Controller (ServiceProgram (η × τ))}
  {plain : Controller (StateM η)} {server : Server (η × τ)} {cpu : Fin maxCpus}
  [MonadRecord (StateM η)] (hdrops : ∀ r, (record r : StateM η Unit) = pure ())
  (hdriver : driver.Mirrors plain) (htells : Tells server.reply)

include hdrops hdriver htells

/-- A scope in which nobody claims the line is passed over. -/
theorem passOver_of_serviceScope {irq : Irq} {mode : TriggerMode} {state after : Activation (η × τ)}
    (hrun : (kernel.wired driver).serviceScope server cpu { irq, mode } state = .ok false after) :
    kernel.config.isTimer irq = false ∧ after.hardware =
      (AckScope.close plain
        { irq, mode, keepMasked := decide (kernel.config.policy = .maskLine) } state.hardware).2 := by
  unfold Kernel.serviceScope at hrun
  obtain ⟨inner, hinner, rfl⟩ := Dispatch.exists_of_during hrun
  unfold AckScope.servicing at hinner
  obtain ⟨⟨claimed, last⟩, middle, hservice, hinner⟩ := Dispatch.exists_of_bind hinner
  obtain ⟨_, _, hclose, hpure⟩ := Dispatch.exists_of_bind hinner
  cases hpure
  obtain ⟨htimer, hworld, rfl⟩ := Kernel.unclaimed_of_serviceLine (ok_of_unwinding hservice)
  have hcloses : ∀ scope : AckScope, Performs (Idles server.reply) Call.isControl
      (scope.close ((kernel.wired driver).controller server)) (scope.close plain) :=
    fun _ => performs_close hdrops hdriver htells
  obtain ⟨-, -, -, -, hafter⟩ := (hcloses _).returned hclose
  have hmiddle : middle.hardware = state.hardware := congrArg Prod.fst hworld
  rw [hmiddle] at hafter
  exact ⟨htimer, hafter⟩

theorem reports_of_interrupt {state after : Activation (η × τ)} {outcome : Outcome}
    (hrun : (kernel.wired driver).interrupt server cpu state = .ok outcome after) :
    plain.Reports kernel.config.policy state.frame.vector state.hardware after.hardware outcome ∧
      (outcome = .spurious → state.OnlyAsks after) := by
  have hpending := performs_call kernel Call.isPending htells
    (c := .pending state.frame.vector) rfl (hdriver.pending state.frame.vector)
  have hopens : ∀ irq, Performs (Idles server.reply) Call.isControl
      (AckScope.opened ((kernel.wired driver).controller server) irq)
      (AckScope.opened plain irq) :=
    fun _ => performs_opened hdrops hdriver htells
  cases Kernel.interrupts_of_run hrun with
  | spurious hasked halike =>
    obtain ⟨new, hnew, hsimple, hnamed, hmiddle⟩ := hpending.returned hasked
    have hafter : after.hardware = (plain.pending state.frame.vector state.hardware).2 :=
      (congrArg Prod.fst halike.world).trans hmiddle
    exact ⟨⟨rfl, hnamed.symm, fun _ => hafter, fun _ h => by cases h⟩,
      fun _ => ⟨new, halike.journal.trans hnew, hsimple⟩⟩
  | @line irq mode handled asked opened serviced hasked hopened hserviced htick =>
    obtain ⟨-, -, -, hnamed, hmiddle⟩ := hpending.returned hasked
    cases handled with
    | true => exact ⟨⟨rfl, hnamed.symm, by simp, by simp⟩, by simp⟩
    | false =>
      obtain ⟨_, -, -, hscope, hboard⟩ := (hopens irq).returned hopened
      obtain ⟨htimer, hafter⟩ := passOver_of_serviceScope hdrops hdriver htells hserviced
      have hspared : ¬ (kernel.wired driver).config.isTimer irq = true := Bool.eq_false_iff.mp htimer
      rw [if_neg hspared] at htick
      cases htick
      refine ⟨⟨rfl, hnamed.symm, by simp, ?_⟩, by simp⟩
      rintro _ ⟨⟩
      have hpassed : ∀ hardware : η, (plain.passOver (decide (kernel.config.policy = .maskLine)) irq
          hardware).2 = (AckScope.close plain { (AckScope.opened plain irq hardware).1 with
            keepMasked := decide (kernel.config.policy = .maskLine) }
            (AckScope.opened plain irq hardware).2).2 := fun _ => rfl
      rw [hpassed, ← hmiddle, ← hscope, ← hboard]
      exact hafter

/-- A trap that is classified as an interrupt tells by its outcome what it did to the hardware:
if it is spurious, or if nobody has claimed its line. In one that is spurious nothing else is
done. -/
theorem reports_of_carryOut {outer : CpuSlot} {state after : Activation (η × τ)}
    {outcome : Outcome} (hcause : (kernel.wired driver).cause state.frame = .interrupt)
    (hrun : (kernel.wired driver).carryOut server cpu outer state = .ok outcome after) :
    plain.Reports kernel.config.policy state.frame.vector state.hardware after.hardware outcome ∧
      (outcome = .spurious → state.OnlyAsks after) := by
  obtain ⟨inner, last, hinner, hlast, hrun⟩ := Kernel.exists_interrupt hcause hrun
  obtain ⟨hreports, hasks⟩ := reports_of_interrupt hdrops hdriver htells hrun
  have hbefore : inner.hardware = state.hardware := congrArg Prod.fst hinner.world
  have hafter : after.hardware = last.hardware := congrArg Prod.fst hlast.world
  rw [hinner.frame, hbefore, ← hafter] at hreports
  refine ⟨hreports, fun houtcome => ?_⟩
  obtain ⟨new, hnew, hsimple⟩ := hasks houtcome
  exact ⟨new, by rw [hlast.journal, hnew, hinner.journal], hsimple⟩

end

end TrapDispatch
