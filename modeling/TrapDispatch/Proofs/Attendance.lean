import TrapDispatch.Proofs.Acknowledgement

/-!
# Interrupts and their lines

An interrupt asks the controller for its line, acknowledges it, and ticks if it is that
of the timer. Without a line it does nothing more.
-/

namespace TrapDispatch

namespace Kernel

variable {σ α : Type} (kernel : Kernel σ)

/-- The steps that follow once the line has been given back. -/
def ticking (irq : Irq) (shown : Frame) : List Step :=
  if kernel.config.isTimer irq then [.call (.schedule shown .tick)] else []

def IsInterrupt (frame : Frame) : Prop :=
  ∃ entry, kernel.vectors.lookup frame.vector = some entry ∧ Cause.ofTrap frame entry = .interrupt

/-- What is done about a line in all, in the mode that it is read in. -/
def AttendsLine (irq : Irq) (events : List Event) (result : Except Stop α) : Prop :=
  ∃ mode entry done shown,
    (.service (.triggerMode irq) (.ok mode) ∈ events ∨ steps events = [.call (.triggerMode irq)]) ∧
    kernel.Acknowledges irq mode entry done (AckScope.opening irq mode) (kernel.ticking irq shown)
      events result

/-- What an interrupt does: the controller is asked for a line, and something is done
about it if there is one. -/
def Attends (vector : UInt64) (events : List Event) (result : Except Stop α) : Prop :=
  ∃ reply later, events = .service (.pending vector) reply :: later ∧ match reply with
    | .ok (some irq) => kernel.AttendsLine irq later result
    | _ => later = []

end Kernel

variable {σ α β : Type} {kernel : Kernel σ} {server : Server σ}

theorem emits_reschedule (reason : ScheduleReason) (hreason : reason ≠ .terminated) :
    Emits (fun events result => ∃ shown, Sends [.call (.schedule shown reason)] events result)
      (kernel.reschedule server reason) := by
  intro state
  have hframe : Dispatch.frame state = .ok state.frame state := rfl
  unfold Kernel.reschedule
  apply emitsAt_next _ hframe rfl
  have hcall : Emits (Sends [.call (.schedule state.frame reason)])
      (kernel.call server (.schedule state.frame reason)) := sends_call _
  refine EmitsAt.mono (sends_silently hcall (fun next => ?_) state) fun _ _ h => ⟨_, h⟩
  cases next with
  | «continue» =>
    rw [if_neg hreason]
    exact silent_pure _
  | switch next => exact silent_modifyFrame _

theorem opened_gives (irq : Irq) : Law.Gives (fun scope => ∃ mode, scope = { irq, mode })
    (AckScope.opened (kernel.controller server) irq) := by
  unfold AckScope.opened
  refine Law.gives_next fun mode => Law.gives_next fun _ => ?_
  exact Law.gives_ite
    (Law.gives_next fun _ => Law.gives_next fun _ => Law.gives_pure ⟨mode, rfl⟩)
    (Law.gives_next fun _ => Law.gives_pure ⟨mode, rfl⟩)

theorem emits_tick (irq : Irq) (outcome : Outcome) :
    Emits (fun events result => ∃ shown, Sends (kernel.ticking irq shown) events result) (do
      if kernel.config.isTimer irq then kernel.reschedule server .tick
      return outcome) := by
  unfold Kernel.ticking
  split
  · refine (emits_reschedule .tick (by simp)).silently (fun _ => silent_pure outcome) ?_ ?_
    · rintro events value last ⟨shown, hsends⟩
      exact ⟨shown, hsends.order, fun _ => hsends.returned ⟨value, rfl⟩, fun stop h => by cases h⟩
    · rintro events stop ⟨shown, hsends⟩
      have hcut : Sends (α := Outcome) (_ ++ []) events (.error stop) := hsends.cut
      rw [List.append_nil] at hcut
      exact ⟨shown, hcut⟩
  · exact (silent_pure outcome).sends.mono fun _ _ h => ⟨default, h⟩

theorem emits_line (cpu : Fin maxCpus) (irq : Irq) :
    Emits (kernel.AttendsLine irq) (do
      let scope ← AckScope.opened (kernel.controller server) irq
      let handled ← kernel.serviceScope server cpu scope
      if kernel.config.isTimer irq then kernel.reschedule server .tick
      return if handled then Outcome.irqHandled irq else .unhandled irq) := by
  have hrest : ∀ mode, Emits (fun events result => ∃ entry done shown,
      kernel.Acknowledges irq mode entry done [] (kernel.ticking irq shown) events result) (do
      let handled ← kernel.serviceScope server cpu { irq, mode }
      if kernel.config.isTimer irq then kernel.reschedule server .tick
      return if handled then Outcome.irqHandled irq else .unhandled irq) := by
    intro mode
    refine (emits_scope (emits_servicing cpu irq mode)).bind _ (fun handled => emits_tick irq _) ?_ ?_
    · rintro events handled later result ⟨entry, done, hscope⟩ ⟨shown, hsends⟩
      exact ⟨entry, done, shown, hscope.followed hsends⟩
    · rintro events stop ⟨entry, done, hscope⟩
      exact ⟨entry, done, default, hscope.cut⟩
  intro state
  -- The rest is known only for the scope that was opened, in the mode that was read.
  refine (emits_opened irq state).bind (fun scope events result => ∀ mode,
    scope = { irq, mode } → ∃ entry done shown,
      kernel.Acknowledges irq mode entry done [] (kernel.ticking irq shown) events result)
    (fun scope after hrun => ?_) ?_ ?_
  · obtain ⟨mode, rfl⟩ := opened_gives irq state scope after hrun
    apply (hrest mode after).mono
    rintro events result hacknowledges _ ⟨⟩
    exact hacknowledges
  · rintro events scope later result ⟨mode, hread, hsends, hscope⟩ hlater
    obtain ⟨entry, done, shown, hacknowledges⟩ := hlater mode (hscope scope rfl)
    have hopening := hsends.returned ⟨scope, rfl⟩
    refine ⟨mode, entry, done, shown, ?_, hacknowledges.preceded hopening⟩
    rcases hread with hread | hfailed
    · exact Or.inl (List.mem_append_left _ hread)
    · rw [hopening] at hfailed
      cases hfailed
  · rintro events stop ⟨mode, hread, hsends, -⟩
    exact ⟨mode, none, [], default, hread, .unopened hsends fun c => isControl_of_mem_opening⟩

theorem emitsAt_interrupt (cpu : Fin maxCpus) (state : Activation σ) :
    EmitsAt (kernel.Attends state.frame.vector) (kernel.interrupt server cpu) state := by
  have hframe : Dispatch.frame state = .ok state.frame state := rfl
  have hpending : Emits (fun events result => events = [.service (.pending state.frame.vector) result])
      (kernel.call server (.pending state.frame.vector)) := emits_during _ (by simp)
  unfold Kernel.interrupt
  apply emitsAt_next _ hframe rfl
  refine (hpending state).bind (fun reply events result => match reply with
    | some irq => kernel.AttendsLine irq events result
    | none => events = []) (fun reply after _ => ?_) ?_ ?_
  · cases reply with
    | some irq => exact emits_line cpu irq after
    | none =>
      have hsilent : Silent (do
          Dispatch.count Stats.recordSpurious
          recordAt .warn LogTarget.dispatch
            s!"{kernel.services.controllerName}: spurious interrupt on vector {state.frame.vector}"
          return Outcome.spurious : Dispatch σ Outcome) :=
        (silent_count _).bind fun _ => (silent_recordAt _ _ _).bind fun _ => silent_pure _
      exact (hsilent.emits after).mono fun _ _ h => h.1
  · rintro _ reply later result rfl hlater
    refine ⟨.ok reply, later, rfl, ?_⟩
    cases reply with
    | some irq => exact hlater
    | none => exact hlater
  · rintro _ stop rfl
    exact ⟨.error stop, [], rfl, rfl⟩

section

variable {spec : List Event → Except Stop Outcome → Prop} {state : Activation σ}

/-- A trap that is classified as an interrupt is that interrupt, whatever is asked of it. -/
theorem emitsAt_route_of (cpu : Fin maxCpus) (h : kernel.IsInterrupt state.frame)
    (hinterrupt : ∀ inner : Activation σ, inner.frame = state.frame →
      EmitsAt spec (kernel.interrupt server cpu) inner) :
    EmitsAt spec (kernel.route server cpu) state := by
  obtain ⟨entry, hentry, hcause⟩ := h
  have hframe : Dispatch.frame state = .ok state.frame state := rfl
  unfold Kernel.route
  apply emitsAt_next _ hframe rfl
  simp only [hentry]
  refine emitsAt_next () rfl rfl ?_
  refine emitsAt_next () rfl rfl ?_
  simp only [hcause]
  exact hinterrupt _ rfl

theorem emitsAt_serveTrap_of (cpu : Fin maxCpus) (h : kernel.IsInterrupt state.frame)
    (hinterrupt : ∀ inner : Activation σ, inner.frame = state.frame →
      EmitsAt spec (kernel.interrupt server cpu) inner) :
    EmitsAt spec (kernel.serveTrap server cpu) state := by
  unfold Kernel.serveTrap
  refine (emitsAt_route_of cpu h hinterrupt).keeping fun outcome => ?_
  apply (silent_setSlot _ _).followed
  intro _
  apply silent_frame.followed
  intro frame
  exact (silent_recordAt _ _ _).followed fun _ => emits_pure outcome

theorem emitsAt_carryOut_of (cpu : Fin maxCpus) (outer : CpuSlot)
    (h : kernel.IsInterrupt state.frame)
    (hinterrupt : ∀ inner : Activation σ, inner.frame = state.frame →
      EmitsAt spec (kernel.interrupt server cpu) inner) :
    EmitsAt spec (kernel.carryOut server cpu outer) state := by
  have hserve : ∀ inner : Activation σ, inner.frame = state.frame →
      EmitsAt spec (kernel.serveTrap server cpu) inner := by
    intro inner hframe
    rw [← hframe] at h hinterrupt
    exact emitsAt_serveTrap_of cpu h hinterrupt
  unfold Kernel.carryOut
  refine emitsAt_next () rfl rfl (EmitsAt.keeping (hserve _ rfl) fun outcome => ?_)
  exact (silent_setSlot _ _).followed fun _ => emits_pure outcome

end

theorem emitsAt_carryOut (cpu : Fin maxCpus) (outer : CpuSlot) {state : Activation σ}
    (h : kernel.IsInterrupt state.frame) :
    EmitsAt (kernel.Attends state.frame.vector) (kernel.carryOut server cpu outer) state := by
  refine emitsAt_carryOut_of cpu outer h fun inner hframe => ?_
  rw [← hframe]
  exact emitsAt_interrupt cpu inner

end TrapDispatch
