import TrapDispatch.Proofs.Attendance
import TrapDispatch.Proofs.Bonds
import TrapDispatch.Proofs.Outcomes

/-!
# Outcomes of interrupts

An interrupt looks its line up once, runs the handler that it finds if that is enabled, and
no other. How it ends is told by what it found: the line counts as handled if it has an
enabled handler, or is that of the timer.
-/

namespace TrapDispatch

/-- Whether a step looks into the registry or runs a device handler. -/
def Step.isDispatch : Step → Bool
  | .lookup _ _ => true
  | .call (.device _ _) => true
  | .call _ => false

/-- The steps of this kind that a line with the given entry in the registry takes. -/
def dispatching (irq : Irq) (entry : Option HandlerEntry) : List Step :=
  .lookup irq entry ::
    ((entry.filter (·.enabled)).map fun found => Step.call (.device found.handler irq)).toList

namespace Kernel

variable {σ : Type} (kernel : Kernel σ)

/-- Whether a line with the given entry in the registry counts as handled. -/
def claims (irq : Irq) (entry : Option HandlerEntry) : Bool :=
  (entry.filter (·.enabled)).isSome || kernel.config.isTimer irq

def lineOutcome (irq : Irq) (entry : Option HandlerEntry) : Outcome :=
  if kernel.claims irq entry then .irqHandled irq else .unhandled irq

/-- What is looked up and run for a line, and what comes of it: all of it if the interrupt
returns. -/
structure DispatchesLine (irq : Irq) (entry : Option HandlerEntry) (events : List Event)
    (result : Except Stop Outcome) : Prop where
  order : (steps events).filter Step.isDispatch <+: dispatching irq entry
  returned : ∀ outcome, result = .ok outcome →
    (steps events).filter Step.isDispatch = dispatching irq entry ∧
      outcome = kernel.lineOutcome irq entry

/-- What an interrupt looks up and runs: nothing unless the controller names a line. -/
def Dispatches (vector : UInt64) (events : List Event) (result : Except Stop Outcome) : Prop :=
  ∃ reply later, events = .service (.pending vector) reply :: later ∧ match reply with
    | .ok (some irq) => ∃ entry, kernel.DispatchesLine irq entry later result
    | .ok none => later = [] ∧ ∀ outcome, result = .ok outcome → outcome = .spurious
    | .error _ => later = []

/-- What a value that comes of a line tells of the entry that was looked up. -/
def Tells {α : Type} (irq : Irq) (property : Option HandlerEntry → α → Prop) (events : List Event)
    (result : Except Stop α) : Prop :=
  ∀ value, result = .ok value → ∃ entry, .lookup irq entry ∈ events ∧ property entry value

/-- What the outcome of an interrupt tells, after what the controller has named. -/
def Entails (named : Option Irq) (events : List Event) (outcome : Outcome) : Prop :=
  match named with
  | some irq => ∃ entry, .lookup irq entry ∈ events ∧ outcome = kernel.lineOutcome irq entry
  | none => outcome = .spurious

/-- Whether a line that is left unhandled was looked up in vain. -/
def Forsakes (events : List Event) (result : Except Stop Outcome) : Prop :=
  ∀ irq, result = .ok (.unhandled irq) → ∃ entry, .lookup irq entry ∈ events ∧
    kernel.claims irq entry = false

def TellsOutcome (vector : UInt64) (events : List Event) (result : Except Stop Outcome) : Prop :=
  ∀ outcome, result = .ok outcome → ∃ named later,
    events = .service (.pending vector) (.ok named) :: later ∧ kernel.Entails named later outcome

end Kernel

variable {σ α β : Type} {kernel : Kernel σ} {server : Server σ}

theorem Emits.tells {irq : Irq} {first : Option HandlerEntry → α → Prop}
    {second : Option HandlerEntry → β → Prop} {body : Dispatch σ α} {next : α → Dispatch σ β}
    {spec : α → List Event → Except Stop β → Prop} (hbody : Emits (Kernel.Tells irq first) body)
    (hnext : ∀ value, Emits (spec value) (next value))
    (hgives : ∀ value, Law.Gives (fun last => ∀ entry, first entry value → second entry last)
      (next value)) : Emits (Kernel.Tells irq second) (body >>= next) := by
  refine hbody.bind _ (fun value => (hnext value).gives (hgives value)) ?_ ?_
  · rintro events value later result hfirst ⟨-, hlast⟩ last hresult
    obtain ⟨entry, hmem, hentry⟩ := hfirst value rfl
    exact ⟨entry, List.mem_append_left _ hmem, hlast last hresult entry hentry⟩
  · rintro events stop - value ⟨⟩

theorem tells_enabledHandler (irq : Irq) :
    Emits (Kernel.Tells irq fun entry found => found = entry.filter (·.enabled))
      (Kernel.enabledHandler (σ := σ) irq) := by
  apply (emits_enabledHandler irq).mono
  rintro events result (⟨-, rfl⟩ | ⟨entry, rfl, rfl⟩) value hvalue
  · cases hvalue
  · cases hvalue
    exact ⟨entry, List.mem_singleton_self _, rfl⟩

theorem tells_serviceLine (cpu : Fin maxCpus) (irq : Irq) (mode : TriggerMode) :
    Emits (Kernel.Tells irq fun entry value => value.1 = kernel.claims irq entry)
      (kernel.serviceLine server cpu irq { irq, mode }) := by
  unfold Kernel.serviceLine
  refine (tells_enabledHandler irq).bind (fun found events result =>
    kernel.Handles irq mode found events result ∧ ∀ value, result = .ok value →
      value.1 = (found.isSome || kernel.config.isTimer irq)) (fun found => ?_) ?_ ?_
  · cases found with
    | some entry =>
      exact (emits_handler cpu irq mode entry).gives (Law.gives_next fun _ => Law.gives_pure rfl)
    | none =>
      refine (emits_unclaimed irq mode).gives ?_
      change Law.Gives _ (if kernel.config.isTimer irq then pure (true, { irq, mode }) else do
        return (false, ← kernel.unhandled { irq, mode }))
      split
      case isTrue htimer => exact Law.gives_pure htimer.symm
      case isFalse htimer => exact Law.gives_next fun _ => Law.gives_pure (by simpa using htimer)
  · rintro events found later result hfound ⟨-, hvalue⟩ value hresult
    obtain ⟨entry, hmem, rfl⟩ := hfound found rfl
    exact ⟨entry, List.mem_append_left _ hmem, hvalue value hresult⟩
  · rintro events stop - value ⟨⟩

theorem tells_scope (cpu : Fin maxCpus) (irq : Irq) (mode : TriggerMode) :
    Emits (Kernel.Tells irq fun entry claimed => claimed = kernel.claims irq entry)
      (kernel.serviceScope server cpu { irq, mode }) := by
  have hservice : Emits (Kernel.Tells irq fun entry value => value.1 = kernel.claims irq entry)
      (unwinding (kernel.serviceLine server cpu irq { irq, mode })
        (AckScope.close (kernel.controller server) { irq, mode })) := by
    refine (tells_serviceLine cpu irq mode).unwinding (sends_close _) (fun _ _ h => h) ?_ ?_ ?_
    · rintro events stop - - value ⟨⟩
    · rintro events message later - - value ⟨⟩
    · rintro events message later why stop - - - value ⟨⟩
  unfold Kernel.serviceScope AckScope.servicing
  apply emits_scope
  refine hservice.tells (fun value => sends_silently (sends_close value.2) fun _ => silent_pure _) ?_
  intro value
  exact Law.gives_next fun _ => Law.gives_pure fun entry hentry => hentry

theorem tells_line (cpu : Fin maxCpus) (irq : Irq) :
    Emits (Kernel.Tells irq fun entry outcome => outcome = kernel.lineOutcome irq entry) (do
      let scope ← AckScope.opened (kernel.controller server) irq
      let handled ← kernel.serviceScope server cpu scope
      if kernel.config.isTimer irq then kernel.reschedule server .tick
      return if handled then Outcome.irqHandled irq else .unhandled irq) := by
  have hrest : ∀ mode, Emits (Kernel.Tells irq fun entry outcome =>
      outcome = kernel.lineOutcome irq entry) (do
        let handled ← kernel.serviceScope server cpu { irq, mode }
        if kernel.config.isTimer irq then kernel.reschedule server .tick
        return if handled then Outcome.irqHandled irq else .unhandled irq) := by
    intro mode
    refine (tells_scope cpu irq mode).tells (fun handled => emits_tick irq _) fun handled => ?_
    refine Law.gives_when (Law.gives_pure ?_)
    rintro entry rfl
    rfl
  intro state
  -- The rest is known only for the scope that was opened.
  refine (emits_opened irq state).bind (fun scope events result => ∀ mode,
    scope = { irq, mode } → Kernel.Tells irq (fun entry outcome =>
      outcome = kernel.lineOutcome irq entry) events result) (fun scope after hrun => ?_) ?_ ?_
  · obtain ⟨mode, rfl⟩ := opened_gives irq state scope after hrun
    apply (hrest mode after).mono
    rintro events result htells _ ⟨⟩
    exact htells
  · rintro events scope later result ⟨mode, -, -, hscope⟩ hlater outcome hresult
    obtain ⟨entry, hmem, hentry⟩ := hlater mode (hscope scope rfl) outcome hresult
    exact ⟨entry, List.mem_append_right _ hmem, hentry⟩
  · rintro events stop - value ⟨⟩

theorem tells_interrupt (cpu : Fin maxCpus) (state : Activation σ) :
    EmitsAt (kernel.TellsOutcome state.frame.vector) (kernel.interrupt server cpu) state := by
  have hframe : Dispatch.frame state = .ok state.frame state := rfl
  have hpending : Emits (fun events result => events = [.service (.pending state.frame.vector) result])
      (kernel.call server (.pending state.frame.vector)) := emits_during _ (by simp)
  unfold Kernel.interrupt
  apply emitsAt_next _ hframe rfl
  refine (hpending state).bind (fun named events result => ∀ outcome, result = .ok outcome →
    kernel.Entails named events outcome) (fun named after _ => ?_) ?_ ?_
  · cases named with
    | some irq => exact tells_line cpu irq after
    | none =>
      have hsilent : Silent (do
          Dispatch.count Stats.recordSpurious
          recordAt .warn LogTarget.dispatch
            s!"{kernel.services.controllerName}: spurious interrupt on vector {state.frame.vector}"
          return Outcome.spurious : Dispatch σ Outcome) :=
        (silent_count _).bind fun _ => (silent_recordAt _ _ _).bind fun _ => silent_pure _
      refine (hsilent.emits.gives ?_ after).mono fun _ _ h => h.2
      exact Law.gives_next fun _ => Law.gives_next fun _ => Law.gives_pure rfl
  · rintro _ named later result rfl hlater outcome hresult
    exact ⟨named, later, rfl, hlater outcome hresult⟩
  · rintro _ stop - outcome ⟨⟩

theorem Kernel.TellsOutcome.forsakes {vector : UInt64} {events : List Event}
    {result : Except Stop Outcome} (h : kernel.TellsOutcome vector events result) :
    kernel.Forsakes events result := by
  rintro irq rfl
  obtain ⟨named, later, rfl, hentails⟩ := h _ rfl
  cases named with
  | none => cases hentails
  | some line =>
    obtain ⟨entry, hmem, houtcome⟩ := hentails
    unfold Kernel.lineOutcome at houtcome
    split at houtcome
    · cases houtcome
    next hclaims =>
      cases houtcome
      exact ⟨entry, List.mem_cons_of_mem _ hmem, by simpa using hclaims⟩

theorem Kernel.exists_interrupt_of_route {cpu : Fin maxCpus} {state after : Activation σ}
    {outcome : Outcome} (houtcome : outcome.isOfInterrupt = true)
    (hrun : kernel.route server cpu state = .ok outcome after) :
    kernel.IsInterrupt state.frame ∧ ∃ inner : Activation σ,
      inner.machine.world = state.machine.world ∧
        kernel.interrupt server cpu inner = .ok outcome after := by
  have hspared : ∀ {body : Dispatch σ Outcome} {middle last : Activation σ},
      Law.Gives (fun other => other.isOfInterrupt = false) body →
      body middle ≠ .ok outcome last :=
    fun hgives h => Bool.false_ne_true ((hgives _ _ _ h).symm.trans houtcome)
  unfold Kernel.route at hrun
  obtain ⟨frame, _, hframe, hrun⟩ := Dispatch.exists_of_bind hrun
  cases hframe
  cases hentry : kernel.vectors.lookup state.frame.vector with
  | none =>
    simp only [hentry] at hrun
    obtain ⟨_, _, -, hrun⟩ := Dispatch.exists_of_bind hrun
    obtain ⟨_, _, -, hrun⟩ := Dispatch.exists_of_bind hrun
    exact absurd hrun (hspared (defaultFault_gives (by rfl)))
  | some entry =>
    simp only [hentry] at hrun
    obtain ⟨_, _, hcount, hrun⟩ := Dispatch.exists_of_bind hrun
    obtain ⟨_, inner, hstate, hrun⟩ := Dispatch.exists_of_bind hrun
    cases hcause : Cause.ofTrap state.frame entry with
    | interrupt =>
      simp only [hcause] at hrun
      cases hcount
      cases hstate
      refine ⟨⟨entry, hentry, hcause⟩, _, ?_, hrun⟩
      rfl
    | exception kind =>
      simp only [hcause] at hrun
      exact absurd hrun (hspared (exception_gives (by rfl) (by rfl) kind))
    | syscall convention =>
      simp only [hcause] at hrun
      exact absurd hrun (hspared (syscallTrap_gives (by intro _; rfl) convention))
    | unassigned =>
      simp only [hcause] at hrun
      exact absurd hrun (hspared (defaultFault_gives (by rfl)))

/-- A trap with an outcome of interrupts is one, and does nothing else to the world. -/
theorem Kernel.exists_interrupt_of_carryOut {cpu : Fin maxCpus} {outer : CpuSlot}
    {state after : Activation σ} {outcome : Outcome} (houtcome : outcome.isOfInterrupt = true)
    (hrun : kernel.carryOut server cpu outer state = .ok outcome after) :
    kernel.IsInterrupt state.frame ∧ ∃ inner last : Activation σ,
      inner.machine.world = state.machine.world ∧ last.machine.world = after.machine.world ∧
        kernel.interrupt server cpu inner = .ok outcome last := by
  unfold Kernel.carryOut Kernel.serveTrap at hrun
  obtain ⟨_, _, henter, hrun⟩ := Dispatch.exists_of_bind hrun
  cases henter
  obtain ⟨_, _, hserve, hrun⟩ := Dispatch.exists_of_bind hrun
  obtain ⟨_, _, hleave, hpure⟩ := Dispatch.exists_of_bind hrun
  cases hleave
  cases hpure
  obtain ⟨_, last, hroute, hrun⟩ := Dispatch.exists_of_bind hserve
  obtain ⟨_, _, hstate, hrun⟩ := Dispatch.exists_of_bind hrun
  cases hstate
  obtain ⟨_, _, hframe, hrun⟩ := Dispatch.exists_of_bind hrun
  cases hframe
  obtain ⟨_, _, hrecord, hpure⟩ := Dispatch.exists_of_bind hrun
  cases hrecord
  cases hpure
  obtain ⟨hinterrupt, inner, hworld, hrun⟩ := Kernel.exists_interrupt_of_route houtcome hroute
  exact ⟨hinterrupt, inner, last, hworld, rfl, hrun⟩

theorem Kernel.carryOut_forsakes {cpu : Fin maxCpus} {outer : CpuSlot}
    {state after : Activation σ} {outcome : Outcome} (hjournal : state.machine.journal = [])
    (hrun : kernel.carryOut server cpu outer state = .ok outcome after) :
    kernel.Forsakes (ownEvents after.machine.journal) (.ok outcome) := by
  rintro irq ⟨⟩
  have hforsakes : EmitsAt kernel.Forsakes (kernel.carryOut server cpu outer) state :=
    emitsAt_carryOut_of cpu outer (exists_interrupt_of_carryOut rfl hrun).1 fun inner _ =>
      (tells_interrupt cpu inner).mono fun _ _ => TellsOutcome.forsakes
  exact hforsakes.returned_own hjournal hrun irq rfl

theorem filter_opening (irq : Irq) (mode : TriggerMode) :
    (AckScope.opening irq mode).filter Step.isDispatch = [] := by
  unfold AckScope.opening
  split <;> rfl

theorem filter_closing (scope : AckScope) : scope.closing.filter Step.isDispatch = [] := by
  unfold AckScope.closing
  split <;> split <;> rfl

theorem filter_ticking (irq : Irq) (shown : Frame) :
    (kernel.ticking irq shown).filter Step.isDispatch = [] := by
  unfold Kernel.ticking
  split <;> rfl

theorem filter_handling (irq : Irq) (enabled : Option HandlerEntry) :
    (handling irq enabled).filter Step.isDispatch =
      (enabled.map fun found => Step.call (.device found.handler irq)).toList := by
  cases enabled <;> rfl

theorem filter_plan (irq : Irq) (mode : TriggerMode) (entry : Option HandlerEntry)
    (done : List Step) (shown : Frame) :
    (AckScope.opening irq mode ++
        (kernel.scopeSteps irq mode entry done ++ kernel.ticking irq shown)).filter Step.isDispatch =
      .lookup irq entry :: done.filter Step.isDispatch := by
  unfold Kernel.scopeSteps
  rw [List.filter_append, filter_opening, List.filter_append, filter_ticking, List.nil_append,
    List.append_nil, List.filter_cons_of_pos rfl, List.filter_append, filter_closing,
    List.append_nil]

/-- What is done about a line, and what its outcome tells, in terms of what was looked up. -/
theorem Kernel.AttendsLine.dispatches {irq : Irq} {events : List Event}
    {result : Except Stop Outcome} (h : kernel.AttendsLine irq events result)
    (htells : Kernel.Tells irq (fun entry outcome => outcome = kernel.lineOutcome irq entry) events
      result) : ∃ entry, kernel.DispatchesLine irq entry events result := by
  obtain ⟨mode, entry, done, shown, -, hsteps⟩ := h
  have hdone : done.filter Step.isDispatch <+: (dispatching irq entry).tail := by
    have htaken := hsteps.taken.filter Step.isDispatch
    rw [filter_handling] at htaken
    exact htaken
  refine ⟨entry, ?_, fun outcome hresult => ?_⟩
  · have horder := hsteps.order.filter Step.isDispatch
    rw [filter_plan] at horder
    exact horder.trans ((List.prefix_cons_inj _).mpr hdone)
  · obtain ⟨rfl, hall⟩ := hsteps.returned ⟨outcome, hresult⟩
    have hfilter : (steps events).filter Step.isDispatch = dispatching irq entry := by
      rw [hall, filter_plan, filter_handling]
      rfl
    obtain ⟨found, hmem, houtcome⟩ := htells outcome hresult
    -- The line is looked up only once.
    have hfound : Step.lookup irq found ∈ dispatching irq entry := by
      rw [← hfilter, List.mem_filter]
      exact ⟨List.mem_filterMap.mpr ⟨_, hmem, rfl⟩, rfl⟩
    rcases List.mem_cons.mp hfound with hsame | hcall
    · cases hsame
      exact ⟨hfilter, houtcome⟩
    · simp at hcall

/-- An interrupt looks up and runs what its line has in the registry. -/
theorem emitsAt_carryOut_dispatches (cpu : Fin maxCpus) (outer : CpuSlot) {state : Activation σ}
    (h : kernel.IsInterrupt state.frame) :
    EmitsAt (kernel.Dispatches state.frame.vector) (kernel.carryOut server cpu outer) state := by
  refine emitsAt_carryOut_of cpu outer h fun inner hframe => ?_
  rw [← hframe]
  refine ((emitsAt_interrupt cpu inner).and (tells_interrupt cpu inner)).mono ?_
  rintro events result ⟨⟨reply, later, rfl, hattends⟩, htells⟩
  have hentails : ∀ outcome named, reply = .ok named → result = .ok outcome →
      kernel.Entails named later outcome := by
    rintro outcome named rfl hresult
    obtain ⟨_, _, hsame, hnamed⟩ := htells outcome hresult
    cases hsame
    exact hnamed
  refine ⟨reply, later, rfl, ?_⟩
  cases reply with
  | error stop => exact hattends
  | ok named =>
    cases named with
    | none => exact ⟨hattends, fun outcome => hentails outcome none rfl⟩
    | some irq =>
      exact Kernel.AttendsLine.dispatches hattends fun outcome => hentails outcome (some irq) rfl

end TrapDispatch
