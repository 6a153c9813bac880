import TrapDispatch.Proofs.Guarding

/-!
# Lines in their scopes

What the scope of a line keeps up while it is open: the guard of the line is the innermost
one, the line is masked, and it will be unmasked only if somebody claims it or the policy
allows it. Once the scope is over, the guards are those that there were when the controller
named the line.
-/

namespace TrapDispatch

/-- What is known of the moments before a point of a run, all of which are as the guards have
them. -/
def Standing {σ : Type} (kernel : Kernel σ) (own : Fin maxCpus) (fact : List Moment → Prop) :
    Assertion σ :=
  fun past _ => Upheld (Guards kernel own) [] past ∧ (sparesMasked own past = true → fact past)

def standing {σ : Type} (kernel : Kernel σ) (own : Fin maxCpus) (fact : List Moment → Prop) :
    Discipline σ where
  Keeps := Carries (Standing kernel own fact) (fun _ => Standing kernel own fact)
    fun _ => Standing kernel own fact
  pure value := carries_pure value fun _ _ h => h
  panic _ := carries_throw _ fun _ _ h => h
  bind hbody hnext := hbody.bind hnext

def Lasting {σ : Type} (kernel : Kernel σ) (fact : List Moment → Prop) : Prop :=
  ∀ past now, Since past now → Steady kernel past now → fact past → fact now

/-- A line that is held, in view of the point `start` at which it was named. -/
abbrev Holding {σ : Type} (kernel : Kernel σ) (own : Fin maxCpus) (start : List Moment) (irq : Irq)
    (keep : Bool) : Assertion σ :=
  Standing kernel own (Held kernel start irq keep)

/-- A line whose guard is about to close. -/
abbrev Spending {σ : Type} (kernel : Kernel σ) (own : Fin maxCpus) (start : List Moment) :
    Assertion σ :=
  Standing kernel own (Spent kernel start)

/-- A line that is masked, but has no guard yet. -/
def Opening {σ : Type} (kernel : Kernel σ) (own : Fin maxCpus) (start : List Moment) (irq : Irq) :
    Assertion σ :=
  fun past machine => Guarding kernel own ⟨start, true⟩ past machine ∧
    (sparesMasked own past = true → isMasked irq past = true)

variable {σ α : Type} {kernel : Kernel σ} {server : Server σ} {own cpu : Fin maxCpus}
  {view : Lookout} {start past now : List Moment} {machine last : Machine σ} {irq : Irq}
  {keep : Bool} {x : Activity} {fact : List Moment → Prop}

theorem Standing.guarding (h : Standing kernel own fact past machine) :
    Guarding kernel own ⟨past, false⟩ past machine :=
  ⟨.refl past, h.1, fun _ => .refl kernel past, fun _ hshut => by cases hshut⟩

theorem Standing.later (h : Standing kernel own fact past machine) (hlasting : Lasting kernel fact)
    (hguarding : Guarding kernel own ⟨past, false⟩ now last) : Standing kernel own fact now last :=
  ⟨hguarding.upheld, fun hspares => hlasting past now hguarding.since (hguarding.steady hspares)
    (h.2 (hguarding.since.sparesMasked hspares))⟩

theorem Standing.imp {other : List Moment → Prop} (h : Standing kernel own fact past machine)
    (hfact : fact past → other past) : Standing kernel own other past machine :=
  ⟨h.1, fun hspares => hfact (h.2 hspares)⟩

theorem lasting_held : Lasting kernel (Held kernel start irq keep) :=
  fun _ _ hsince hsteady h => h.later hsteady hsince

/-- What keeps up the guards leaves standing what lasts. -/
theorem standing_of_keeps (hlasting : Lasting kernel fact) {body : Dispatch σ α}
    (h : ∀ past, ((guarding kernel own).under ⟨past, false⟩).Keeps body) :
    (standing kernel own fact).Keeps body :=
  carries_of_points fun past _ hstanding => ⟨_, _, _, h past, hstanding.guarding,
    fun _ _ _ hlast => hstanding.later hlasting hlast,
    fun _ _ _ hcut => hstanding.later hlasting (guarding_cuts.mp hcut)⟩

theorem standing_observing (hlasting : Lasting kernel fact) :
    (standing (σ := σ) kernel own fact).Observing where
  frame := standing_of_keeps hlasting fun _ => (quiet_guarding.observing _).frame
  requests := standing_of_keeps hlasting fun _ => (quiet_guarding.observing _).requests
  machine := standing_of_keeps hlasting fun _ => (quiet_guarding.observing _).machine
  record r := standing_of_keeps hlasting fun _ => (quiet_guarding.observing _).record r
  count change := standing_of_keeps hlasting fun _ => (quiet_guarding.observing _).count change

theorem standing_modifyMachine {stops : Stop → Assertion σ} {change : Machine σ → Machine σ}
    (hjournal : ∀ machine, (change machine).journal = machine.journal) :
    Carries (Standing kernel own fact) (fun _ => Standing kernel own fact) stops
      (Dispatch.modifyMachine change) :=
  carries_modifyMachine hjournal fun _ _ h => h

theorem standing_count {stops : Stop → Assertion σ} (change : Stats → Stats) :
    Carries (Standing kernel own fact) (fun _ => Standing kernel own fact) stops
      (Dispatch.count change) :=
  standing_modifyMachine fun _ => rfl

theorem standing_recordAt {stops : Stop → Assertion σ} (level : Level) (target text : String) :
    Carries (Standing kernel own fact) (fun _ => Standing kernel own fact) stops
      (recordAt level target text) := by
  unfold recordAt
  exact standing_modifyMachine fun _ => rfl

/-- A line that nobody claims is unmasked in the end only if the policy is not to mask it. -/
theorem holding_unhandled (scope : AckScope) :
    Carries (Holding kernel own start irq true)
      (fun next => Holding kernel own start irq next.keepMasked)
      (fun _ => Holding kernel own start irq false) (kernel.unhandled scope) := by
  have hmachine : Carries (Holding kernel own start irq true)
      (fun _ => Holding kernel own start irq true) (fun _ => Holding kernel own start irq false)
      Dispatch.machine :=
    carries_machine.mono (fun _ _ h => h) (fun _ _ _ h => h.1) fun _ _ _ h => h
  unfold Kernel.unhandled
  refine (standing_count _).bind fun _ => hmachine.bind fun machine => ?_
  refine carries_when (fun _ => standing_recordAt _ _ _) (fun _ _ _ h => h) ?_
  cases hpolicy : kernel.config.policy with
  | recordAndContinue =>
    have hother : kernel.config.policy ≠ .maskLine := by simp [hpolicy]
    exact carries_pure scope fun _ _ h => h.imp fun held => held.of_policy hother _
  | maskLine => exact (standing_recordAt _ _ _).bind fun _ => carries_pure _ fun _ _ h => h
  | panic =>
    have hother : kernel.config.policy ≠ .maskLine := by simp [hpolicy]
    unfold Dispatch.fatal
    refine (standing_recordAt _ _ _).bind fun _ => carries_throw _ fun _ _ h => ?_
    exact h.imp fun held => held.of_policy hother _

theorem holding_lookup (irq : Irq) (entry : Option HandlerEntry) :
    Carries (Holding kernel own start irq false)
      (fun _ => Holding kernel own start irq !kernel.claims irq entry)
      (fun _ => Holding kernel own start irq false) (Dispatch.note (.lookup irq entry)) := by
  refine carries_note fun x past machine hx _ ⟨hupheld, hheld⟩ => ?_
  have hlooks : sparesMasked own past = true → Guarded kernel (.begins x :: past) ∧
      Guarded kernel (.ends x :: .begins x :: past) :=
    fun hspares => (guarded_of_upheld hupheld hspares).looks (hheld hspares) hx
  have hbegins : Guards kernel own past (.begins x) := by
    refine ⟨fun hspares => (hlooks (sparesMasked_tail hspares)).1, fun line hdispatches => ?_⟩
    rw [hx] at hdispatches
    cases hdispatches
  have hends : Guards kernel own (.begins x :: past) (.ends x) := by
    refine ⟨fun hspares => (hlooks (sparesMasked_tail (sparesMasked_tail hspares))).2, ?_⟩
    intro cpu frame line hevent
    rw [hx] at hevent
    cases hevent
  exact ⟨upheld_cons.mpr ⟨hends, upheld_cons.mpr ⟨hbegins, hupheld⟩⟩,
    fun hspares => (hheld (sparesMasked_tail (sparesMasked_tail hspares))).looked hx⟩

theorem holding_enabledHandler (irq : Irq) :
    Carries (Holding kernel own start irq false)
      (fun found => Holding kernel own start irq !(found.isSome || kernel.config.isTimer irq))
      (fun _ => Holding kernel own start irq false) (Kernel.enabledHandler irq) := by
  have hregistry : (standing kernel own (Held kernel start irq false)).Keeps
      (Dispatch.withRegistry fun registry => (registry.lookup irq, registry)) :=
    standing_of_keeps lasting_held fun past => guarding_withRegistry _ _
  unfold Kernel.enabledHandler
  exact hregistry.bind fun entry => (holding_lookup irq entry).bind fun _ =>
    carries_pure _ fun _ _ h => h

theorem standing_ends {c : Call} {result : Except Stop c.Reply} (hx : x.event = .service c result)
    (h : Upheld (Guards kernel own) [] (history x.inner ++ .begins x :: past))
    (hrunning : sparesMasked own (.begins x :: past) = true →
      (runningLines past).Sublist (openLines (.begins x :: past)))
    (hsteady : sparesMasked own (history x.inner ++ .begins x :: past) = true →
      Steady kernel (.begins x :: past) (history x.inner ++ .begins x :: past))
    (hfact : sparesMasked own (.begins x :: past) = true →
      Steady kernel (.begins x :: past) (.ends x :: (history x.inner ++ .begins x :: past)) →
      fact (.ends x :: (history x.inner ++ .begins x :: past))) :
    Standing kernel own fact (.ends x :: (history x.inner ++ .begins x :: past)) last := by
  have hclosing : ∀ guards, x.event.closing guards = guards := fun _ => by rw [hx]; rfl
  have hlookup : ∀ irq entry, x.event ≠ .lookup irq entry := fun irq entry => by rw [hx]; simp
  refine ⟨upheld_cons.mpr ⟨guards_ends h hclosing hlookup (fun hspares => ?_) ?_, h⟩,
    fun hspares => ?_⟩
  · rw [(hsteady (sparesMasked_tail hspares)).openLines]
    exact hrunning (sparesMasked_begins hspares)
  · intro cpu frame line hevent
    rw [hx] at hevent
    cases hevent
  · exact hfact (sparesMasked_begins hspares)
      ((hsteady (sparesMasked_tail hspares)).trans (.ends kernel _ hclosing hlookup))

theorem holding_device (hserves : ∀ op, (guarding kernel own).Keeps (server.reply op))
    (handler : HandlerId) :
    (standing kernel own (Held kernel start irq false)).Keeps
      (kernel.call server (.device handler irq)) := by
  apply carries_during
  intro x result past machine hx _ h
  have hsteady : Steady kernel past (.begins x :: past) := .begins kernel past (by rw [hx]; rfl)
  have hbegins : Guards kernel own past (.begins x) := by
    refine ⟨fun hspares => ?_, fun line hdispatches hspares hpolicy => ?_⟩
    · have hpast := sparesMasked_tail hspares
      exact (guarded_of_upheld h.1 hpast).runs (h.2 hpast) hx
    · rw [hx] at hdispatches
      cases hdispatches
      exact (h.2 hspares).free hpolicy rfl
  refine ⟨_, _, _, guarding_run hserves _ ⟨.begins x :: past, false⟩,
    h.guarding.begins hbegins fun hshut => (by cases hshut), fun last _ hupon => ?_⟩
  have hinner := guarding_upon.mp hupon
  have hlast : Standing kernel own (Held kernel start irq false)
      (.ends x :: (history x.inner ++ .begins x :: past)) last := by
    refine standing_ends hx hinner.upheld (fun hspares => ?_) hinner.steady fun hspares hends => ?_
    · have hheld := h.2 (sparesMasked_tail hspares)
      rw [hsteady.openLines, hheld.openLines]
      exact hheld.running.cons irq
    · exact (h.2 (sparesMasked_tail hspares)).later (hsteady.trans hends) ((Since.refl past).closing x)
  cases result with
  | ok value => exact hlast
  | error stop => exact hlast

theorem holding_runDevice (hserves : ∀ op, (guarding kernel own).Keeps (server.reply op))
    (handler : HandlerId) :
    (standing kernel own (Held kernel start irq false)).Keeps
      (kernel.runDevice server cpu irq handler) := by
  let rule := standing kernel own (Held kernel start irq false)
  have hcall : ∀ c : Call, c.isNeutral = true → rule.Keeps (kernel.call server c) :=
    fun c hc => standing_of_keeps lasting_held fun _ => guarding_call hserves hc _
  apply rule.runDevice (standing_observing lasting_held)
  refine rule.interruptible (fun masked => ?_) (hcall _ rfl) (hcall _ rfl) ?_
  · exact standing_of_keeps lasting_held fun _ => guarding_setSlot cpu _
  · exact rule.timeDevice (hcall _ rfl) (holding_device hserves handler)

/-- A line is serviced. Whatever happens, it is to be unmasked only if it may be. -/
theorem holding_serviceLine (hserves : ∀ op, (guarding kernel own).Keeps (server.reply op))
    (mode : TriggerMode) :
    Carries (Holding kernel own start irq false)
      (fun value => Holding kernel own start irq value.2.keepMasked)
      (fun _ => Holding kernel own start irq false)
      (kernel.serviceLine server cpu irq { irq, mode }) := by
  unfold Kernel.serviceLine
  refine (holding_enabledHandler irq).bind fun found => ?_
  cases found with
  | some entry =>
    exact Carries.bind (holding_runDevice hserves entry.handler) fun _ =>
      carries_pure _ fun _ _ h => h
  | none =>
    change Carries (Holding kernel own start irq !kernel.config.isTimer irq) _ _
      (if kernel.config.isTimer irq then pure (true, { irq, mode }) else do
        return (false, ← kernel.unhandled { irq, mode }))
    refine carries_ite (fun htimer => carries_pure _ fun _ _ h => ?_) fun htimer => ?_
    · rw [htimer] at h
      exact h
    · have htimer : kernel.config.isTimer irq = false := by simpa using htimer
      rw [htimer]
      exact (holding_unhandled _).bind fun _ => carries_pure _ fun _ _ h => h

theorem holding_unmask (hserves : ∀ op, (guarding kernel own).Keeps (server.reply op)) :
    Carries (Holding kernel own start irq false) (fun _ => Spending kernel own start)
      (fun _ => Spending kernel own start) (kernel.call server (.unmask irq)) := by
  apply carries_during
  intro x result past machine hx _ h
  have hbegins : Guards kernel own past (.begins x) := by
    refine ⟨fun hspares => ?_, fun line hdispatches => ?_⟩
    · have hpast := sparesMasked_tail hspares
      exact (guarded_of_upheld h.1 hpast).releases (h.2 hpast) hx
    · rw [hx] at hdispatches
      cases hdispatches
  refine ⟨_, _, _, guarding_run hserves _ ⟨.begins x :: past, false⟩,
    h.guarding.begins hbegins fun hshut => (by cases hshut), fun last _ hupon => ?_⟩
  have hinner := guarding_upon.mp hupon
  have hlast : Spending kernel own start (.ends x :: (history x.inner ++ .begins x :: past)) last := by
    refine standing_ends hx hinner.upheld (fun hspares => ?_) hinner.steady fun hspares hends => ?_
    · have hrunning := (hbegins.1 hspares).running
      rw [runningLines_begins (by rw [hx]; rfl)] at hrunning
      exact hrunning
    · exact ((h.2 (sparesMasked_tail hspares)).released hx).later hends
  cases result with
  | ok value => exact hlast
  | error stop => exact hlast

theorem holding_close (hserves : ∀ op, (guarding kernel own).Keeps (server.reply op))
    {scope : AckScope} (hirq : scope.irq = irq) :
    Carries (Holding kernel own start irq scope.keepMasked) (fun _ => Spending kernel own start)
      (fun _ => Spending kernel own start) (scope.close (kernel.controller server)) := by
  have hcall : ∀ c : Call, c.isNeutral = true → Carries
      (Holding kernel own start irq scope.keepMasked)
      (fun _ => Holding kernel own start irq scope.keepMasked)
      (fun _ => Spending kernel own start) (kernel.call server c) := by
    intro c hc
    have hkeeps : (standing kernel own (Held kernel start irq scope.keepMasked)).Keeps
        (kernel.call server c) :=
      standing_of_keeps lasting_held fun _ => guarding_call hserves hc _
    exact hkeeps.mono (fun _ _ h => h) (fun _ _ _ h => h) fun _ _ _ h => h.imp Held.spent
  unfold AckScope.close
  refine carries_when (fun _ => hcall (.acknowledge scope.irq) rfl) (fun _ _ _ h => h) ?_
  refine (hcall (.endOfInterrupt scope.irq) rfl).bind fun _ => ?_
  refine carries_when (fun hkeep => ?_) (fun _ _ _ h => h.imp Held.spent) (standing_recordAt _ _ _)
  rw [hkeep, hirq]
  exact holding_unmask hserves

theorem holding_servicing (hserves : ∀ op, (guarding kernel own).Keeps (server.reply op))
    (mode : TriggerMode) :
    Carries (Holding kernel own start irq false) (fun _ => Spending kernel own start)
      (fun _ => Spending kernel own start)
      (AckScope.servicing (kernel.controller server) { irq, mode }
        (kernel.serviceLine server cpu irq { irq, mode })) := by
  let scope : AckScope := { irq, mode }
  have hclose : Carries (Holding kernel own start irq scope.keepMasked)
      (fun _ => Spending kernel own start) (fun _ => Spending kernel own start)
      (scope.close (kernel.controller server)) :=
    holding_close hserves rfl
  have hservice : Carries (Holding kernel own start irq false)
      (fun value past machine => value.2.irq = irq ∧
        Holding kernel own start irq value.2.keepMasked past machine)
      (fun _ => Spending kernel own start)
      (unwinding (kernel.serviceLine server cpu irq scope) (scope.close (kernel.controller server))) :=
    carries_unwinding ((holding_serviceLine hserves mode).giving
      (Law.Scopes.serviceLine_irq irq scope)) (fun _ => hclose)
      (fun _ _ _ _ h => h.imp Held.spent) fun _ _ _ h => h
  unfold AckScope.servicing
  refine hservice.bind ?_
  rintro ⟨claimed, scope⟩ past state ⟨hirq, h⟩
  have hrest : Carries (Holding kernel own start irq scope.keepMasked)
      (fun _ => Spending kernel own start) (fun _ => Spending kernel own start)
      (scope.close (kernel.controller server) >>= fun _ => pure claimed) :=
    (holding_close hserves hirq).bind fun _ => carries_pure claimed fun _ _ h => h
  exact hrest past state h

section

variable (h : Opening kernel own start irq past machine)
  (hfresh : sparesMasked own start = true → isMasked irq start = false)
  {result : Except Stop Bool} (hx : x.event = .scope irq result)

include h hfresh

theorem Opening.fresh (hspares : sparesMasked own past = true) :
    Guarded kernel start ∧ isMasked irq start = false := by
  have hspares := h.1.since.sparesMasked hspares
  exact ⟨guarded_of_upheld (h.1.since.upheld h.1.upheld) hspares, hfresh hspares⟩

theorem Opening.free (hspares : sparesMasked own past = true) : irq ∉ openLines past := by
  intro hirq
  obtain ⟨hguarded, hunmasked⟩ := h.fresh hfresh hspares
  rw [(h.1.steady hspares).openLines] at hirq
  have hmasked := hguarded.masked irq hirq
  rw [hunmasked] at hmasked
  cases hmasked

include hx

theorem Opening.held (hspares : sparesMasked own past = true) :
    Held kernel start irq false (.begins x :: past) := by
  obtain ⟨hguarded, hunmasked⟩ := h.fresh hfresh hspares
  have hsteady := h.1.steady hspares
  exact Held.opens hguarded hsteady.toKept hsteady.guards h.1.since
    ((h.1.shut hspares rfl).2 irq) hunmasked (h.2 hspares) hx

theorem Opening.begins : Guards kernel own past (.begins x) := by
  refine ⟨fun hspares => ?_, fun line hdispatches hspares hpolicy hnow => ?_⟩
  · have hpast := sparesMasked_tail hspares
    exact (h.1.guarded hpast).opens hx (h.2 hpast) (h.free hfresh hpast)
  · rw [hx] at hdispatches
    cases hdispatches
    exact (h.held hfresh hx hspares).free hpolicy rfl (hnow.mono (List.subset_cons_self _ _))

/-- The guards are those from before, once the line is given back. -/
theorem Opening.ends
    (hspending : Spending kernel own start (history x.inner ++ .begins x :: past) last) :
    Guarding kernel own ⟨start, false⟩ (.ends x :: (history x.inner ++ .begins x :: past)) last := by
  have hends : Guards kernel own (history x.inner ++ .begins x :: past) (.ends x) := by
    refine ⟨fun hspares => ?_, fun cpu frame line hevent => ?_⟩
    · have hpast := sparesMasked_tail (sparesMasked_begins hspares)
      exact (h.1.guarded hpast).closes (h.fresh hfresh hpast).1 (h.1.steady hpast).guards hx
        (guarded_of_upheld hspending.1 (sparesMasked_tail hspares))
        (hspending.2 (sparesMasked_tail hspares))
    · rw [hx] at hevent
      cases hevent
  exact ⟨h.1.since.closing x, upheld_cons.mpr ⟨hends, hspending.1⟩,
    fun hspares => (hspending.2 (sparesMasked_tail hspares)).closes hx,
    fun _ hshut => by cases hshut⟩

end

/-- The scope of a line leaves the guards as they were when the controller named it. -/
theorem opening_serviceScope (hserves : ∀ op, (guarding kernel own).Keeps (server.reply op))
    (hfresh : sparesMasked own start = true → isMasked irq start = false) (mode : TriggerMode) :
    Carries (Opening kernel own start irq) (fun _ => Guarding kernel own ⟨start, false⟩)
      (fun _ => Guarding kernel own ⟨start, false⟩)
      (kernel.serviceScope server cpu { irq, mode }) := by
  unfold Kernel.serviceScope
  apply carries_during
  intro x result past machine hx _ h
  refine ⟨_, _, _, holding_servicing hserves mode,
    ⟨upheld_cons.mpr ⟨h.begins hfresh hx, h.1.upheld⟩, fun hspares =>
      h.held hfresh hx (sparesMasked_tail hspares)⟩, fun last _ hupon => ?_⟩
  cases result with
  | ok value => exact h.ends hfresh hx hupon
  | error stop => exact h.ends hfresh hx hupon

theorem opening_of_keeps {body : Dispatch σ α} (h : (guarding kernel own).Keeps body) :
    Carries (Opening kernel own start irq) (fun _ => Opening kernel own start irq)
      (fun _ => Guarding kernel own ⟨start, false⟩) body := by
  refine carries_of_points fun past machine ⟨hpast, hmask⟩ => ⟨_, _, _, h ⟨past, true⟩, hpast.here,
    fun value now last hlast => ⟨hpast.trans hlast, fun hspares => ?_⟩,
    fun stop now last hcut => (hpast.trans (guarding_cuts.mp hcut)).loosen⟩
  exact (hlast.steady hspares).masked irq (hmask (hlast.since.sparesMasked hspares))

theorem guarding_opened (hserves : ∀ op, (guarding kernel own).Keeps (server.reply op)) :
    Carries (Guarding kernel own ⟨start, true⟩) (fun _ => Opening kernel own start irq)
      (fun _ => Guarding kernel own ⟨start, false⟩)
      (AckScope.opened (kernel.controller server) irq) := by
  have hmode := guarding_call hserves (c := .triggerMode irq) rfl ⟨start, true⟩
  unfold AckScope.opened
  refine Carries.bind (hmode.mono (fun _ _ h => h) (fun _ _ _ h => h)
    fun _ _ _ h => (guarding_cuts.mp h).loosen) fun mode => ?_
  refine Carries.bind ((guarding_mask hserves irq).mono (fun _ _ h => h) (fun _ _ _ h => h)
    fun _ _ _ h => (guarding_cuts.mp h).loosen) fun _ => ?_
  refine carries_when (fun _ => opening_of_keeps (guarding_call hserves (c := .acknowledge irq) rfl))
    (fun _ _ _ h => h) ?_
  refine Carries.bind (opening_of_keeps (quiet_guarding.plain.recordAt _ _ _)) fun _ => ?_
  exact carries_pure _ fun _ _ h => h

end TrapDispatch
