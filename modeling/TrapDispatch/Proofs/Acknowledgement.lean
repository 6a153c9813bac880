import TrapDispatch.Proofs.Steps

/-!
# Acknowledgement of lines

The calls for a line come in one order: it is masked, acknowledged on opening or on
closing as it signals, ended and unmasked. A panic in between skips what has not been
done of the handling, but nothing of the closing.
-/

namespace TrapDispatch

namespace AckScope

def opening (irq : Irq) (mode : TriggerMode) : List Step :=
  .call (.triggerMode irq) :: .call (.mask irq) ::
    if mode = .level then [.call (.acknowledge irq)] else []

def closing (scope : AckScope) : List Step :=
  (if scope.mode = .edge then [.call (.acknowledge scope.irq)] else []) ++
    .call (.endOfInterrupt scope.irq) ::
      if scope.keepMasked = false then [.call (.unmask scope.irq)] else []

end AckScope

/-- The steps that handle a line with the given enabled handler, or with none. -/
def handling (irq : Irq) : Option HandlerEntry → List Step
  | some entry =>
    [.call .enableInterrupts, .call .cycles, .call (.device entry.handler irq), .call .cycles,
      .call .disableInterrupts]
  | none => []

namespace Kernel

variable {σ α : Type} (kernel : Kernel σ)

/-- Whether a line with the given enabled handler, or with none, stays masked. -/
def keeps (irq : Irq) (enabled : Option HandlerEntry) : Bool :=
  enabled.isNone && !kernel.config.isTimer irq && decide (kernel.config.policy = .maskLine)

def closedScope (irq : Irq) (mode : TriggerMode) (enabled : Option HandlerEntry) : AckScope :=
  { irq, mode, keepMasked := kernel.keeps irq enabled }

/-- The steps within the scope of a line with the given entry in the registry, where the
steps `done` of the handling are taken. -/
def scopeSteps (irq : Irq) (mode : TriggerMode) (entry : Option HandlerEntry) (done : List Step) :
    List Step :=
  .lookup irq entry :: (done ++ (kernel.closedScope irq mode (entry.filter (·.enabled))).closing)

/-- What is done about a line from the steps `first` to the steps `last` around its scope,
where the steps `done` of the handling are taken. -/
structure Acknowledges (irq : Irq) (mode : TriggerMode) (entry : Option HandlerEntry)
    (done first last : List Step) (events : List Event) (result : Except Stop α) : Prop where
  taken : done <+: handling irq (entry.filter (·.enabled))
  order : steps events <+: first ++ (kernel.scopeSteps irq mode entry done ++ last)
  returned : (∃ value, result = .ok value) → done = handling irq (entry.filter (·.enabled)) ∧
    steps events = first ++ (kernel.scopeSteps irq mode entry done ++ last)
  unwound : (∃ message, result = .error (.panic message)) → ControlFails events ∨
    first ++ kernel.scopeSteps irq mode entry done <+: steps events

end Kernel

variable {σ α β : Type} {kernel : Kernel σ} {server : Server σ}

theorem sends_close (scope : AckScope) :
    Emits (Sends scope.closing) (scope.close (kernel.controller server)) := by
  unfold AckScope.close AckScope.closing
  apply sends_when (sends_call _)
  apply sends_callThen
  intro _
  exact sends_lastly (sends_call _) (silent_recordAt _ _ _)

theorem emits_opened (irq : Irq) :
    Emits (fun events result => ∃ mode, (.service (.triggerMode irq) (.ok mode) ∈ events ∨
        steps events = [.call (.triggerMode irq)]) ∧
        Sends (AckScope.opening irq mode) events result ∧
        ∀ scope, result = .ok scope → scope = { irq, mode })
      (AckScope.opened (kernel.controller server) irq) := by
  have hcall : Emits (fun events result => events = [.service (.triggerMode irq) result])
      (kernel.call server (.triggerMode irq)) := emits_during _ (by simp)
  have hrest : ∀ mode, Emits (fun events result =>
      Sends (AckScope.opening irq mode).tail events result ∧
        ∀ scope, result = .ok scope → scope = { irq, mode }) (do
      kernel.call server (.mask irq)
      if mode = .level then kernel.call server (.acknowledge irq)
      recordAt .trace LogTarget.acknowledge
        s!"{kernel.services.controllerName}: {irq.text} entered ({mode.name})"
      return { irq, mode } : Dispatch σ AckScope) := by
    intro mode
    refine Emits.gives ?_ ?_
    · apply sends_callThen
      intro _
      exact sends_lastly (sends_call _) ((silent_recordAt _ _ _).bind fun _ => silent_pure _)
    · apply Law.gives_next
      intro _
      exact Law.gives_ite (Law.gives_next fun _ => Law.gives_next fun _ => Law.gives_pure rfl)
        (Law.gives_next fun _ => Law.gives_pure rfl)
  unfold AckScope.opened
  refine hcall.bind _ hrest ?_ ?_
  · rintro _ mode later result rfl ⟨hsends, hscope⟩
    have hread : Sends [.call (.triggerMode irq)] _ _ := .single (.triggerMode irq) (.ok mode)
    exact ⟨mode, Or.inl (by simp), hread.append hsends, hscope⟩
  · rintro _ stop rfl
    have hread : Sends [.call (.triggerMode irq)] _ _ := .single (.triggerMode irq) (.error stop)
    exact ⟨default, Or.inr rfl, hread.cut, fun scope h => by cases h⟩

theorem emits_enabledHandler (irq : Irq) :
    Emits (fun events result => (events = [] ∧ result = .error .deadlock) ∨
        ∃ entry, events = [.lookup irq entry] ∧ result = .ok (entry.filter (·.enabled)))
      (Kernel.enabledHandler (σ := σ) irq) := by
  have hnote : ∀ entry, Emits (fun events result => events = [.lookup irq entry] ∧
        result = .ok (entry.filter (·.enabled))) (do
      Dispatch.note (.lookup irq entry)
      return entry.filter (·.enabled) : Dispatch σ (Option HandlerEntry)) := by
    intro entry
    refine (emits_note (by simp)).bind _ (fun _ => emits_pure _) ?_ ?_
    · rintro _ value _ result ⟨rfl, -⟩ ⟨rfl, rfl⟩
      exact ⟨rfl, rfl⟩
    · rintro events stop ⟨-, hstop⟩
      cases hstop
  unfold Kernel.enabledHandler
  refine (emits_withRegistry _).bind _ hnote ?_ ?_
  · rintro _ entry later result ⟨rfl, -⟩ hlater
    exact Or.inr ⟨entry, hlater⟩
  · rintro _ stop ⟨rfl, ⟨value, hvalue⟩ | hstop⟩
    · cases hvalue
    · exact Or.inl ⟨rfl, by cases hstop; rfl⟩

theorem sends_runDevice (cpu : Fin maxCpus) (irq : Irq) (entry : HandlerEntry) :
    Emits (Sends (handling irq (some entry))) (kernel.runDevice server cpu irq entry.handler) := by
  have htime : Emits (Sends [.call .cycles, .call (.device entry.handler irq), .call .cycles])
      (kernel.timeDevice server irq entry.handler) := by
    unfold Kernel.timeDevice
    apply sends_callThen
    intro first
    apply sends_callThen
    intro _
    exact sends_callThen fun last => (silent_pure _).sends
  have hopen : Emits (Sends (handling irq (some entry)))
      (kernel.interruptible server cpu (kernel.timeDevice server irq entry.handler)) := by
    unfold Kernel.interruptible Kernel.setState handling
    apply (silent_setSlot _ _).followed
    intro _
    apply sends_callThen
    intro _
    apply sends_bind htime
    intro elapsed
    exact sends_callThen fun _ => ((silent_setSlot _ _).bind fun _ => silent_pure _).sends
  unfold Kernel.runDevice
  apply sends_silently hopen
  intro elapsed
  exact .ite ((silent_count _).bind fun _ => silent_recordAt _ _ _) (silent_pure _)

/-- What the policy for lines without a handler makes of a scope. -/
def Kernel.Decides (kernel : Kernel σ) (scope : AckScope) (events : List Event)
    (result : Except Stop AckScope) : Prop :=
  events = [] ∧ (result = .ok { scope with
      keepMasked := scope.keepMasked || decide (kernel.config.policy = .maskLine) } ∨
    kernel.config.policy = .panic ∧ ∃ message, result = .error (.panic message))

theorem emits_unhandled (scope : AckScope) :
    Emits (kernel.Decides scope) (kernel.unhandled scope) := by
  unfold Kernel.unhandled Kernel.Decides
  refine (silent_count _).followed fun _ => silent_machine.followed fun machine => ?_
  apply (silent_recordAt _ _ _).when
  cases kernel.config.policy with
  | recordAndContinue =>
    refine (emits_pure _).mono fun _ _ h => ⟨h.1, Or.inl ?_⟩
    rw [h.2]
    simp
  | maskLine =>
    apply (silent_recordAt _ _ _).followed
    intro _
    refine (emits_pure _).mono fun _ _ h => ⟨h.1, Or.inl ?_⟩
    rw [h.2]
    simp
  | panic => exact (emits_fatal _).mono fun _ _ h => ⟨h.1, Or.inr ⟨rfl, _, h.2⟩⟩

/-- What is done about a line with the given enabled handler, or with none. -/
structure Kernel.Handles (kernel : Kernel σ) (irq : Irq) (mode : TriggerMode)
    (enabled : Option HandlerEntry) (events : List Event) (result : Except Stop (Bool × AckScope)) :
    Prop where
  taken : steps events <+: handling irq enabled
  returned : ∀ value, result = .ok value →
    steps events = handling irq enabled ∧ value.2 = kernel.closedScope irq mode enabled
  stopped : (∃ stop, result = .error stop) → kernel.keeps irq enabled = false

theorem emits_handler (cpu : Fin maxCpus) (irq : Irq) (mode : TriggerMode) (entry : HandlerEntry) :
    Emits (kernel.Handles irq mode (some entry)) (do
      kernel.runDevice server cpu irq entry.handler
      return (true, { irq, mode })) := by
  refine (sends_runDevice cpu irq entry).bind _ (fun _ => emits_pure _) ?_ ?_
  · rintro events value _ result hsends ⟨rfl, rfl⟩
    rw [List.append_nil]
    refine ⟨hsends.order, ?_, fun ⟨stop, hstop⟩ => by cases hstop⟩
    rintro _ ⟨⟩
    exact ⟨hsends.returned ⟨_, rfl⟩, rfl⟩
  · rintro events stop hsends
    exact ⟨hsends.order, fun value hvalue => (by cases hvalue), fun _ => rfl⟩

theorem emits_unclaimed (irq : Irq) (mode : TriggerMode) :
    Emits (kernel.Handles irq mode none)
      (if kernel.config.isTimer irq then pure (true, { irq, mode }) else do
        return (false, ← kernel.unhandled { irq, mode })) := by
  split
  case isTrue htimer =>
    apply (emits_pure _).mono
    rintro _ _ ⟨rfl, rfl⟩
    refine ⟨List.nil_prefix, ?_, fun ⟨stop, hstop⟩ => by cases hstop⟩
    rintro _ ⟨⟩
    refine ⟨rfl, ?_⟩
    simp [Kernel.closedScope, Kernel.keeps, htimer]
  case isFalse htimer =>
    refine (emits_unhandled _).bind _ (fun _ => emits_pure _) ?_ ?_
    · rintro _ value _ result ⟨rfl, hresult⟩ ⟨rfl, rfl⟩
      refine ⟨List.nil_prefix, ?_, fun ⟨stop, hstop⟩ => by cases hstop⟩
      rintro _ ⟨⟩
      refine ⟨rfl, ?_⟩
      rcases hresult with hvalue | ⟨-, message, hmessage⟩
      · cases hvalue
        simp [Kernel.closedScope, Kernel.keeps, htimer]
      · cases hmessage
    · rintro _ stop ⟨rfl, hresult⟩
      refine ⟨List.nil_prefix, fun value hvalue => (by cases hvalue), fun _ => ?_⟩
      rcases hresult with hvalue | ⟨hpolicy, -⟩
      · cases hvalue
      · simp [Kernel.keeps, hpolicy]

theorem emits_serviceLine (cpu : Fin maxCpus) (irq : Irq) (mode : TriggerMode) :
    Emits (fun events result => (events = [] ∧ result = .error .deadlock) ∨
        ∃ entry later, events = .lookup irq entry :: later ∧
          kernel.Handles irq mode (entry.filter (·.enabled)) later result)
      (kernel.serviceLine server cpu irq { irq, mode }) := by
  unfold Kernel.serviceLine
  refine (emits_enabledHandler irq).bind (kernel.Handles irq mode) (fun found => ?_) ?_ ?_
  · cases found with
    | some entry => exact emits_handler cpu irq mode entry
    | none => exact emits_unclaimed irq mode
  · rintro events found later result (⟨-, hdeadlock⟩ | ⟨entry, rfl, hfound⟩) hlater
    · cases hdeadlock
    · cases hfound
      exact Or.inr ⟨entry, later, rfl, hlater⟩
  · rintro events stop (⟨rfl, hdeadlock⟩ | ⟨entry, -, hfound⟩)
    · cases hdeadlock
      exact Or.inl ⟨rfl, rfl⟩
    · cases hfound

theorem isControl_of_mem_closing {scope : AckScope} {c : Call} (h : .call c ∈ scope.closing) :
    c.isControl = true := by
  unfold AckScope.closing at h
  rcases List.mem_append.mp h with h | h
  · split at h
    · cases List.mem_singleton.mp h
      rfl
    · cases h
  · rcases List.mem_cons.mp h with h | h
    · cases h
      rfl
    · split at h
      · cases List.mem_singleton.mp h
        rfl
      · cases h

theorem isControl_of_mem_opening {irq : Irq} {mode : TriggerMode} {c : Call}
    (h : .call c ∈ AckScope.opening irq mode) : c.isControl = true := by
  unfold AckScope.opening at h
  rcases List.mem_cons.mp h with h | h
  · cases h
    rfl
  rcases List.mem_cons.mp h with h | h
  · cases h
    rfl
  · split at h
    · cases List.mem_singleton.mp h
      rfl
    · cases h

section

variable {irq : Irq} {mode : TriggerMode} {entry : Option HandlerEntry} {events later : List Event}
  {done first last : List Step}

theorem Kernel.Acknowledges.cut {stop : Stop}
    (h : kernel.Acknowledges (α := α) irq mode entry done first [] events (.error stop)) :
    kernel.Acknowledges (α := β) irq mode entry done first last events (.error stop) := by
  refine ⟨h.taken, ?_, ?_, ?_⟩
  · have horder := h.order
    rw [List.append_nil] at horder
    apply horder.trans
    rw [List.prefix_append_right_inj]
    exact List.prefix_append _ _
  · rintro ⟨value, hvalue⟩
    cases hvalue
  · rintro ⟨message, hmessage⟩
    cases hmessage
    exact h.unwound ⟨message, rfl⟩

theorem Kernel.Acknowledges.followed {value : α} {result : Except Stop β}
    (h : kernel.Acknowledges irq mode entry done first [] events (.ok value))
    (hlast : Sends last later result) :
    kernel.Acknowledges irq mode entry done first last (events ++ later) result := by
  obtain ⟨hdone, hsteps⟩ := h.returned ⟨value, rfl⟩
  have hall : steps (events ++ later) = first ++ (kernel.scopeSteps irq mode entry done ++ steps later) := by
    rw [steps_append, hsteps, List.append_nil, List.append_assoc]
  refine ⟨h.taken, ?_, fun hvalue => ⟨hdone, ?_⟩, fun _ => Or.inr ?_⟩
  · rw [hall, List.prefix_append_right_inj, List.prefix_append_right_inj]
    exact hlast.order
  · rw [hall, hlast.returned hvalue]
  · rw [hall, ← List.append_assoc]
    exact List.prefix_append _ _

theorem Kernel.Acknowledges.preceded {result : Except Stop α} (hfirst : steps later = first)
    (h : kernel.Acknowledges irq mode entry done [] last events result) :
    kernel.Acknowledges irq mode entry done first last (later ++ events) result := by
  refine ⟨h.taken, ?_, fun hvalue => ⟨(h.returned hvalue).1, ?_⟩, fun hpanic => ?_⟩
  · rw [steps_append, hfirst, List.prefix_append_right_inj]
    exact h.order
  · rw [steps_append, hfirst, (h.returned hvalue).2]
    rfl
  · rw [steps_append, hfirst, List.prefix_append_right_inj]
    exact (h.unwound hpanic).imp_left fun hfails => hfails.append_right later

theorem Kernel.Acknowledges.unopened {stop : Stop} (hfirst : Sends (α := β) first events (.error stop))
    (hcontrol : ∀ c, .call c ∈ first → c.isControl = true) :
    kernel.Acknowledges (α := α) irq mode none [] first last events (.error stop) := by
  refine ⟨List.nil_prefix, hfirst.order.trans (List.prefix_append _ _), ?_, fun _ => Or.inl ?_⟩
  · rintro ⟨value, hvalue⟩
    cases hvalue
  · exact hfirst.controlFails hcontrol

theorem Kernel.Handles.scoped {stop why : Stop}
    (h : kernel.Handles irq mode (entry.filter (·.enabled)) events (.error stop))
    (hclose : steps later <+: AckScope.closing { irq, mode })
    (hunwound : (∃ message, why = .panic message) →
      steps later = AckScope.closing { irq, mode }) :
    kernel.Acknowledges (α := α) irq mode entry (steps events) [] []
      (.lookup irq entry :: (events ++ later)) (.error why) := by
  have hscope : kernel.closedScope irq mode (entry.filter (·.enabled)) = { irq, mode } := by
    unfold Kernel.closedScope
    rw [h.stopped ⟨stop, rfl⟩]
  have hsteps : steps (.lookup irq entry :: (events ++ later)) =
      .lookup irq entry :: (steps events ++ steps later) := congrArg _ (steps_append events later)
  refine ⟨h.taken, ?_, fun ⟨value, hvalue⟩ => (by cases hvalue), ?_⟩
  · rw [hsteps, List.append_nil, List.nil_append, Kernel.scopeSteps, hscope, List.prefix_cons_inj,
      List.prefix_append_right_inj]
    exact hclose
  · rintro ⟨message, hmessage⟩
    cases hmessage
    rw [hsteps, List.nil_append, Kernel.scopeSteps, hscope, hunwound ⟨message, rfl⟩]
    exact Or.inr List.prefix_rfl

theorem Kernel.Handles.closed {value : Bool × AckScope} {result : Except Stop α}
    (h : kernel.Handles irq mode (entry.filter (·.enabled)) events (.ok value))
    (hclose : Sends value.2.closing later result) :
    kernel.Acknowledges irq mode entry (steps events) [] [] (.lookup irq entry :: (events ++ later))
      result := by
  obtain ⟨htaken, hscope⟩ := h.returned value rfl
  have hsteps : steps (.lookup irq entry :: (events ++ later)) =
      .lookup irq entry :: (steps events ++ steps later) := congrArg _ (steps_append events later)
  refine ⟨h.taken, ?_, fun hvalue => ⟨htaken, ?_⟩, ?_⟩
  · rw [hsteps, List.append_nil, List.nil_append, Kernel.scopeSteps, ← hscope, List.prefix_cons_inj,
      List.prefix_append_right_inj]
    exact hclose.order
  · rw [hsteps, List.append_nil, List.nil_append, Kernel.scopeSteps, ← hscope,
      hclose.returned hvalue]
  · rintro ⟨message, rfl⟩
    have hfails := hclose.controlFails fun c => isControl_of_mem_closing
    exact Or.inl (hfails.append_right (.lookup irq entry :: events))

end

/-- Whatever becomes of the service of a line, its scope is closed, as far as that goes. -/
theorem emits_servicing (cpu : Fin maxCpus) (irq : Irq) (mode : TriggerMode) :
    Emits (fun events result => ∃ entry done,
        kernel.Acknowledges irq mode entry done [] [] events result)
      (AckScope.servicing (kernel.controller server) { irq, mode }
        (kernel.serviceLine server cpu irq { irq, mode })) := by
  have hservice : Emits (fun events result => match result with
        | .ok value => ∃ entry later, events = .lookup irq entry :: later ∧
          kernel.Handles irq mode (entry.filter (·.enabled)) later (.ok value)
        | .error stop => ∃ entry done,
          kernel.Acknowledges (α := Bool) irq mode entry done [] [] events (.error stop))
      (unwinding (kernel.serviceLine server cpu irq { irq, mode })
        (AckScope.close (kernel.controller server) { irq, mode })) := by
    -- The service returned, stopped without unwinding, was unwound, or its scope failed to close.
    refine (emits_serviceLine cpu irq mode).unwinding (sends_close _) ?_ ?_ ?_ ?_
    · rintro events value (⟨-, hdeadlock⟩ | hhandles)
      · cases hdeadlock
      · exact hhandles
    · rintro events stop hstop (⟨rfl, -⟩ | ⟨entry, later, rfl, hhandles⟩)
      · refine ⟨none, [], List.nil_prefix, List.nil_prefix, ?_, ?_⟩
        · rintro ⟨value, hvalue⟩
          cases hvalue
        · rintro ⟨message, hmessage⟩
          cases hmessage
          exact absurd rfl (hstop message)
      · have hscoped : kernel.Acknowledges (α := Bool) irq mode entry (steps later) [] []
            (.lookup irq entry :: (later ++ [])) (.error stop) :=
          hhandles.scoped List.nil_prefix fun ⟨message, hmessage⟩ => absurd hmessage (hstop message)
        rw [List.append_nil] at hscoped
        exact ⟨entry, _, hscoped⟩
    · rintro events message closes (⟨-, hdeadlock⟩ | ⟨entry, later, rfl, hhandles⟩) hclose
      · cases hdeadlock
      · exact ⟨entry, _, hhandles.scoped hclose.order fun _ => hclose.returned ⟨(), rfl⟩⟩
    · rintro events message closes why stop (⟨-, hdeadlock⟩ | ⟨entry, later, rfl, hhandles⟩) hclose hstop
      · cases hdeadlock
      · exact ⟨entry, _, hhandles.scoped hclose.order
          fun ⟨text, htext⟩ => absurd htext (hstop text)⟩
  unfold AckScope.servicing
  refine hservice.bind (fun value => Sends value.2.closing) (fun value => ?_) ?_ ?_
  · exact sends_silently (sends_close value.2) fun _ => silent_pure _
  · rintro events value closes result ⟨entry, later, rfl, hhandles⟩ hclose
    exact ⟨entry, _, hhandles.closed hclose⟩
  · rintro events stop hscoped
    exact hscoped

end TrapDispatch
