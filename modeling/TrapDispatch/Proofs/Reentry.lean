import TrapDispatch.Proofs.GuardedScopes

/-!
# Lines are not entered twice

What a trap does to the guards of lines: from its classification to the scope of its line
traps are refused, so that what the controller has named is still free to be entered. From
this, what holds at every point of a run.
-/

namespace TrapDispatch

variable {σ α : Type} {kernel : Kernel σ} {server : Server σ} {own cpu : Fin maxCpus}
  {view : Lookout} {start past : List Moment} {irq : Irq}

section

variable (hserves : ∀ op, (guarding kernel own).Keeps (server.reply op))

include hserves

theorem guarding_commons : (guarding kernel own).discipline.Commons kernel server where
  plain := quiet_guarding.plain
  call c hc := guarding_call hserves (by cases c <;> first | rfl | cases hc)

theorem guarding_line (hfresh : sparesMasked own start = true → isMasked irq start = false) :
    Carries (Guarding kernel own ⟨start, true⟩) (fun _ => Guarding kernel own ⟨start, false⟩)
      (fun _ => Guarding kernel own ⟨start, false⟩) (do
        let scope ← AckScope.opened (kernel.controller server) irq
        let handled ← kernel.serviceScope server cpu scope
        if kernel.config.isTimer irq then kernel.reschedule server .tick
        return if handled then Outcome.irqHandled irq else .unhandled irq) := by
  refine ((guarding_opened hserves).giving (opened_gives irq)).bind
    fun scope past state ⟨⟨mode, hscope⟩, h⟩ => ?_
  have hreschedule : Carries (Guarding kernel own ⟨start, false⟩)
      (fun _ => Guarding kernel own ⟨start, false⟩) (fun _ => Guarding kernel own ⟨start, false⟩)
      (kernel.reschedule server .tick) :=
    ((guarding_commons hserves).reschedule .tick ⟨start, false⟩).mono (fun _ _ h => h)
      (fun _ _ _ h => h) fun _ _ _ h => guarding_cuts.mp h
  subst hscope
  refine (opening_serviceScope hserves hfresh mode).bind (fun handled => ?_) past state h
  exact carries_when (fun _ => hreschedule) (fun _ _ _ h => h) (carries_pure _ fun _ _ h => h)

/-- An interrupt leaves the guards as they were. -/
theorem guarding_interrupt :
    Carries (Guarding kernel own ⟨start, true⟩) (fun _ => Guarding kernel own ⟨start, false⟩)
      (fun _ => Guarding kernel own ⟨start, false⟩) (kernel.interrupt server cpu) := by
  unfold Kernel.interrupt
  refine carries_frame.bind fun frame => ?_
  refine Carries.bind ((guarding_pending hserves frame.vector).mono (fun _ _ h => h)
    (fun _ _ _ h => h) fun _ _ _ h => (guarding_cuts.mp h).loosen) fun named => ?_
  cases named with
  | none =>
    have hspurious : (guarding kernel own).Keeps (do
        Dispatch.count Stats.recordSpurious
        recordAt .warn LogTarget.dispatch
          s!"{kernel.services.controllerName}: spurious interrupt on vector {frame.vector}"
        return Outcome.spurious) := by
      refine (guarding kernel own).discipline.bind (quiet_guarding.count _) fun _ => ?_
      refine (guarding kernel own).discipline.bind (quiet_guarding.plain.recordAt _ _ _) fun _ => ?_
      exact (guarding kernel own).discipline.pure _
    exact (hspurious ⟨start, true⟩).mono (fun _ _ h => h.1) (fun _ _ _ h => h.loosen)
      fun _ _ _ h => (guarding_cuts.mp h).loosen
  | some irq =>
    refine carries_of_points fun past machine ⟨h, hnamed⟩ => ⟨_, _, _,
      guarding_line hserves fun hspares => hnamed hspares irq rfl, h.here, ?_, ?_⟩
    · exact fun _ now last hlast => h.trans hlast
    · exact fun _ now last hlast => h.trans hlast

theorem guarding_classified (hown : sparesMasked own start = true → cpu = own) :
    ((guarding kernel own).under ⟨start, false⟩).Keeps (do
      Kernel.setState cpu .classified true
      kernel.interrupt server cpu) := by
  have hstate : Carries (Guarding kernel own ⟨start, false⟩)
      (fun _ past machine => Guarding kernel own ⟨start, false⟩ past machine ∧
        Guarding kernel own ⟨past, true⟩ past machine)
      ((guarding kernel own).cuts ⟨start, false⟩)
      (Kernel.setState (σ := σ) cpu .classified true) := by
    unfold Kernel.setState Dispatch.setSlot
    refine carries_modifyMachine (fun _ => rfl) fun past machine h => ⟨?_, ?_⟩
    · exact ⟨h.since, h.upheld, h.steady, fun _ hshut => by cases hshut⟩
    · refine ⟨.refl past, h.upheld, fun _ => .refl kernel past, fun hspares _ => ⟨?_, fun _ h => h⟩⟩
      rw [← hown (h.since.sparesMasked hspares)]
      change Kernel.accepts ((machine.slots.put cpu _).get cpu) = false
      rw [CpuSlots.get_put_self]
      rfl
  refine hstate.bind fun _ => carries_of_points fun past machine ⟨h, hrefused⟩ => ⟨_, _, _,
    guarding_interrupt hserves, hrefused, ?_, ?_⟩
  · exact fun _ now last hlast => h.trans hlast
  · exact fun _ now last hlast => guarding_cuts.mpr (h.trans hlast)

theorem guarding_systemCall (number : UInt64) (words : ArgumentWords) :
    (guarding kernel own).Keeps (kernel.systemCall server number words) := by
  have hcalls : (guarding kernel own).discipline.Calls kernel server :=
    ⟨quiet_guarding.plain.toMending,
      fun c hc => guarding_call hserves (by cases c <;> first | rfl | cases hc)⟩
  have hserve : ∀ frame, (guarding kernel own).Keeps (kernel.serveCall server number words frame) := by
    refine hcalls.serveCall (fun descriptor arguments _ => ?_) words
    apply guarding_neutral (fun _ => rfl) (fun _ => rfl) fun _ => rfl
    exact (guarding kernel own).resilient.run (S := handlerSignature σ)
      (fun op => hcalls.serveHandler op fun inner _ => hserves inner) _
  unfold Kernel.systemCall
  refine (guarding kernel own).discipline.bind quiet_guarding.plain.frame fun frame => ?_
  exact guarding_neutral (fun _ => rfl) (fun _ => rfl) (fun _ => rfl) (hserve frame)

theorem guarding_carryOut (hown : sparesMasked own start = true → cpu = own) (outer : CpuSlot) :
    ((guarding kernel own).under ⟨start, false⟩).Keeps (kernel.carryOut server cpu outer) := by
  let rule := (guarding kernel own).under ⟨start, false⟩
  have hcommons : rule.Commons kernel server := by
    refine ⟨⟨quiet_guarding.observing _, fun _ => carries_modifyFrame _,
      fun _ => carries_modifyRequests _⟩, fun c hc => ?_⟩
    exact (guarding_commons hserves).call c hc ⟨start, false⟩
  have hways : rule.Ways kernel server cpu :=
    { common := hcommons
      state := fun state _ => guarding_setSlot cpu _
      interrupt := guarding_classified hserves hown
      systemCall := fun number words => rule.interruptible (fun _ => guarding_setSlot cpu _)
        (guarding_call hserves rfl _) (guarding_call hserves rfl _)
        (guarding_systemCall hserves number words _) }
  unfold Kernel.carryOut Kernel.enterSlot Kernel.leaveSlot
  refine rule.bind (guarding_setSlot cpu _) fun _ => rule.bind hways.serveTrap fun outcome => ?_
  exact rule.bind (guarding_setSlot cpu _) fun _ => rule.pure _

/-- A trap leaves the guards as they were, and has forsaken the line that it leaves unhandled. -/
theorem guarding_trap (outer : CpuSlot) {state : Activation σ}
    (h : Guarding kernel own view past state.machine.bare)
    (haccepts : Kernel.accepts (state.machine.slots.get cpu) = true) :
    CarriesAt past (fun _ => Guarding kernel own view) ((guarding kernel own).cuts view)
      (Dispatch.during (.trap cpu state.frame) (kernel.carryOut server cpu outer)) state := by
  refine carriesAt_during (fun new result => kernel.Forsakes (ownEvents new) result)
    (fun value after hrun => Kernel.carryOut_forsakes rfl hrun) (fun stop after _ irq h => by cases h) ?_
  intro x result hx _
  have hneutral : x.event.isNeutral = true := by rw [hx]; rfl
  have hbegins : Guards kernel own past (.begins x) :=
    guards_begins h.upheld hneutral (by rw [hx]; rfl)
  have hown : sparesMasked own (.begins x :: past) = true → cpu = own := by
    intro hspares
    have hcpu := (Bool.and_eq_true_iff.mp hspares).1
    rw [hx] at hcpu
    simpa [Event.cpu?] using hcpu
  refine ⟨_, _, _, guarding_carryOut hserves hown outer,
    h.begins hbegins fun hshut => (by cases hshut), fun last _ hforsakes hupon => ?_⟩
  have htold : ∀ cpu frame irq, x.event = .trap cpu frame (.ok (.unhandled irq)) →
      Forsaken kernel irq (history x.inner ++ .begins x :: past) := by
    intro cpu frame irq hevent
    rw [hx] at hevent
    cases hevent
    obtain ⟨entry, hmem, hclaims⟩ := hforsakes irq rfl
    obtain ⟨y, hy, hlookup⟩ := ends_of_mem_ownEvents x.inner hmem
    exact ⟨y, entry, List.mem_append_left _ hy, hlookup, hclaims⟩
  -- A trap that is taken on this CPU has not been refused.
  have hshut : sparesMasked own (.begins x :: past) = true → view.shut = true → false = true := by
    intro hspares hview
    have hrefuses := (h.shut (sparesMasked_tail hspares) hview).1
    rw [← hown hspares] at hrefuses
    exact hrefuses.symm.trans haccepts
  exact guarding_upon.mpr (h.ends hneutral htold hshut (guarding_upon.mp hupon))

theorem guarding_replies : (guarding kernel own).discipline.Replies kernel server where
  mends := quiet_guarding.plain.toMending
  onFrame := Regime.keeps_onFrame
  install := guarding_modifyMachine (fun _ => rfl) fun _ => rfl
  tellSlot _ := quiet_guarding.plain.tellSlot fun _ => guarding_note rfl rfl rfl
  registry _ := Discipline.callRegistry (guarding_withRegistry _) fun _ => guarding_note rfl rfl rfl
  trap := quiet_guarding.handleTrap (guarding_call hserves rfl)
    fun _ _ _ _ h haccepts => guarding_trap hserves _ h haccepts
  systemCall := guarding_systemCall hserves
  invoke _ _ := guarding_run hserves _

end

/-- Services leave the guards as they were, at every depth of nesting. -/
theorem guarding_serves (kernel : Kernel σ) (own : Fin maxCpus) (depth : Nat) (op : Request σ) :
    (guarding kernel own).Keeps ((kernel.server depth).reply op) :=
  Discipline.serves (guarding kernel own).resilient (fun _ => guarding_replies)
    (fun _ => guarding_modifyMachine (fun _ => rfl) fun _ => rfl) depth op

theorem upheld_guards (kernel : Kernel σ) (own : Fin maxCpus) (depth : Nat)
    (program : ServiceProgram σ α) (machine : Machine σ) :
    Upheld (Guards kernel own) []
      (history (kernel.runService depth program machine.fresh).machine.journal) := by
  have hstart : Guarding kernel own ⟨[], false⟩ [] machine.fresh.bare :=
    ⟨.refl _, trivial, fun _ => .refl kernel [], fun _ hshut => by cases hshut⟩
  have hrun := (guarding_run (guarding_serves kernel own depth) program).runService ⟨[], false⟩
    (show machine.fresh.journal = [] from rfl) hstart
  exact (guarding_upon.mp hrun).upheld

/-- Assume that all traps of a run are taken on one CPU, and that the controller never names a
line that was masked last. Then at every point of the run the open lines are distinct and
masked, and a handler runs only for open lines, and only once at a time for each. Under the
policy to mask them, lines that were left unhandled stay masked and are not dispatched
again. -/
theorem open_lines_exclude_reentry (kernel : Kernel σ) (own : Fin maxCpus) (depth : Nat)
    (program : ServiceProgram σ α) (machine : Machine σ) :
    let moments := history (kernel.runService depth program machine.fresh).machine.journal
    sparesMasked own moments = true →
      (∀ later past, moments = later ++ past →
        (openLines past).Nodup ∧ (∀ irq ∈ openLines past, isMasked irq past = true) ∧
          (runningLines past).Nodup ∧ (runningLines past).Sublist (openLines past)) ∧
      (kernel.config.policy = .maskLine → ∀ later x past, moments = later ++ .ends x :: past →
        ∀ irq, x.event.outcome? = some (.unhandled irq) →
          (∀ y, .begins y ∈ later → y.event.dispatches? ≠ some irq) ∧
            ∀ last new, later = last ++ new → isMasked irq (new ++ .ends x :: past) = true) := by
  intro moments hspares
  have hupheld : Upheld (Guards kernel own) [] moments :=
    upheld_guards kernel own depth program machine
  have hguarded : ∀ later past, moments = later ++ past → sparesMasked own past = true ∧
      Guarded kernel past := by
    intro later past hsplit
    rw [hsplit] at hspares hupheld
    have hpast := sparesMasked_of_append later hspares
    exact ⟨hpast, guarded_of_upheld ((upheld_append _ _).mp hupheld).2 hpast⟩
  constructor
  · intro later past hsplit
    have h := (hguarded later past hsplit).2
    exact ⟨h.distinct, h.masked, h.distinct.sublist h.running, h.running⟩
  · intro hpolicy later x past hsplit irq houtcome
    obtain ⟨cpu, frame, hevent⟩ := Event.exists_of_outcome? houtcome
    have hforsaken : ∀ new, Forsaken kernel irq (new ++ .ends x :: past) := fun new =>
      ((hupheld.at hsplit).2 cpu frame irq hevent).mono
        (List.Subset.trans (List.subset_cons_self _ _) (List.subset_append_right _ _))
    refine ⟨fun y hy hdispatches => ?_, fun last new hlater => ?_⟩
    · obtain ⟨last, new, rfl⟩ := List.append_of_mem hy
      have hmoments : moments = last ++ .begins y :: (new ++ .ends x :: past) := by
        rw [hsplit, List.append_assoc, List.cons_append]
      have hspared := (hguarded _ _ hmoments).1
      exact (hupheld.at hmoments).2 irq hdispatches (sparesMasked_tail hspared) hpolicy
        (hforsaken new)
    · have hmoments : moments = last ++ (new ++ .ends x :: past) := by
        rw [hsplit, hlater, List.append_assoc]
      exact (hguarded _ _ hmoments).2.forsaken hpolicy irq (hforsaken new)

/-- Services that name the lines of a list, one by one, and let each handler be interrupted as
long as there are lines. -/
def Services.queued : Services (List Irq) :=
  let services := Services.plain ⟨3⟩ do
    if ¬ (← ServiceProgram.world).isEmpty then trapOn 35
  { services with
    perform
      | .pending _ => do
        let lines ← ServiceProgram.world
        ServiceProgram.ask (.setWorld lines.tail)
        return lines.head?
      | c => services.perform c }

def Kernel.queued : Kernel (List Irq) :=
  let kernel := Kernel.plain ⟨3⟩ (pure ())
  { kernel with services := .queued, config := { kernel.config with policy := .maskLine } }

def queuedMoments : List Moment :=
  history (Kernel.queued.runService 3 (trapOn 35) (Machine.attached ⟨3⟩ [⟨3⟩, ⟨4⟩]).fresh).machine.journal

/-- Two lines are open at once, the inner of which nobody claims: it is masked at the end. -/
theorem queued_lines_stay_apart :
    sparesMasked ⟨0, by decide⟩ queuedMoments = true ∧
      openLines (queuedMoments.drop 15) = [⟨4⟩, ⟨3⟩] ∧
      (∀ irq ∈ openLines (queuedMoments.drop 15), isMasked irq (queuedMoments.drop 15) = true) ∧
      (runningLines (queuedMoments.drop 15)).Nodup ∧
      ∃ x past, queuedMoments.drop 13 = .ends x :: past ∧
        x.event.outcome? = some (.unhandled ⟨4⟩) ∧ isMasked ⟨4⟩ queuedMoments = true := by
  have hspares : sparesMasked ⟨0, by decide⟩ queuedMoments = true := by decide +kernel
  obtain ⟨hopen, hforsaken⟩ := open_lines_exclude_reentry Kernel.queued ⟨0, by decide⟩ 3 (trapOn 35)
    (Machine.attached ⟨3⟩ [⟨3⟩, ⟨4⟩]) hspares
  have hsplit := (List.take_append_drop 15 queuedMoments).symm
  obtain ⟨-, hmasked, hrunning, -⟩ := hopen _ _ hsplit
  refine ⟨hspares, by decide +kernel, hmasked, hrunning, ?_⟩
  have houtcome : ((queuedMoments.drop 13).head?.bind Moment.ending?).bind (·.event.outcome?) =
      some (.unhandled ⟨4⟩) := by
    decide +kernel
  obtain ⟨x, hx, hevent⟩ := Option.bind_eq_some_iff.mp houtcome
  have hdrop := cons_of_ending? hx
  have hmoments := (List.take_append_drop 13 queuedMoments).symm
  rw [hdrop] at hmoments
  obtain ⟨-, hstays⟩ := hforsaken rfl _ x _ hmoments ⟨4⟩ hevent
  have hlast := hstays [] _ (List.nil_append _).symm
  rw [← hmoments] at hlast
  exact ⟨x, _, hdrop, hevent, hlast⟩

end TrapDispatch
