import TrapDispatch.Proofs.Closing
import TrapDispatch.Proofs.Holdings
import TrapDispatch.Proofs.LineOutcomes
import TrapDispatch.Proofs.Regimes

/-!
# Look-ups of lines

Registrations may change at any time, also from within a handler and for its own line. The
dispatcher looks a line up once for every interrupt, under a lock that it has given back
before anything else runs. So a look-up finds what the line holds by all changes before it, a
handler runs if it was registered and enabled then, and nobody finds the lock taken.
-/

namespace TrapDispatch

def Event.registryCall? : Event → Option (RegistryCall × RegistryReply)
  | .registry call reply => some (call, reply)
  | _ => none

def Moment.registryCall? : Moment → Option (RegistryCall × RegistryReply)
  | .begins _ => none
  | .ends x => x.event.registryCall?

def registryCalls (past : List Moment) : RegistryHistory :=
  past.filterMap Moment.registryCall?

/-- What lines hold after a history, by the calls to the registry in it. -/
def heldAfter (start : Holdings) (past : List Moment) : Holdings :=
  start.after (registryCalls past)

/-- Whether an event tells of the lines what there is to tell. -/
def Event.Reports (held : Holdings) : Event → Prop
  | .lookup irq entry => entry.map (HandlerEntry.holding irq) = held irq
  | .registry call reply => held.Answers call reply
  | _ => True

def Event.Deadlocks : Event → Prop
  | .service _ result => result = .error .deadlock
  | .trap _ _ result => result = .error .deadlock
  | .scope _ result => result = .error .deadlock
  | .systemCall _ _ _ result => result = .error .deadlock
  | .handler _ _ result => result = .error .deadlock
  | _ => False

/-- Whether a handler was registered for a line, and enabled, when that was looked up; and nothing
has begun since that is not over. -/
def FoundFor (start : Holdings) (irq : Irq) (handler : HandlerId) (past : List Moment) : Prop :=
  ∃ x older entry registration, Since (.ends x :: .begins x :: older) past ∧
    x.event = .lookup irq (some entry) ∧ heldAfter start older irq = some ⟨registration, true⟩ ∧
    registration.handler = handler

/-- Whether an interrupt that is over has looked up and run what there was for its line. -/
def Dispatched {σ : Type} (kernel : Kernel σ) (x : Activity) : Prop :=
  ∀ cpu frame result, x.event = .trap cpu frame result → kernel.IsInterrupt frame →
    kernel.Dispatches frame.vector (ownEvents x.inner) result

/-- Whether a moment heeds the registry: a handler begins to run only where it was found, and
what ends tells of the registry what there was to tell. -/
def Heeds {σ : Type} (kernel : Kernel σ) (start : Holdings) (past : List Moment) : Moment → Prop
  | .begins x => ∀ handler irq, x.event.call? = some (.device handler irq) →
    Innermost irq past ∧ FoundFor start irq handler past
  | .ends x => x.event.Reports (heldAfter start past) ∧ ¬ x.event.Deadlocks ∧
    Dispatched kernel x

/-- What is known at a point of a run: every moment has heeded the registry, which holds what the
history says, and its lock is free. -/
structure Heeding {σ : Type} (kernel : Kernel σ) (start : Holdings) (view past : List Moment)
    (machine : Machine σ) : Prop where
  since : Since view past
  upheld : Upheld (Heeds kernel start) [] past
  holdings : machine.registry.holdings = heldAfter start past
  unlocked : machine.registryLocked = false

def heeding {σ : Type} (kernel : Kernel σ) (start : Holdings) : Regime σ where
  View := List Moment
  holds := Heeding kernel start
  halts view stop past machine := stop ≠ .deadlock ∧ Heeding kernel start view past machine
  halting h hstop := ⟨hstop, h⟩

variable {σ α : Type} {kernel : Kernel σ} {server : Server σ} {start : Holdings}
  {view past now : List Moment} {machine last : Machine σ} {irq : Irq} {handler : HandlerId}

theorem heldAfter_closing {x : Activity} (h : x.event.registryCall? = none) :
    heldAfter start (.ends x :: past) = heldAfter start past := by
  have hnone : Moment.registryCall? (.ends x) = none := h
  unfold heldAfter registryCalls
  rw [List.filterMap_cons_none hnone]

theorem heldAfter_call {x : Activity} {call : RegistryCall} {reply : RegistryReply}
    (h : x.event = .registry call reply) :
    heldAfter start (.ends x :: past) = (heldAfter start past).next (call, reply) := by
  have hcall : Moment.registryCall? (.ends x) = some (call, reply) := congrArg Event.registryCall? h
  unfold heldAfter registryCalls
  rw [List.filterMap_cons_some hcall]
  rfl

theorem Innermost.later (h : Innermost irq view) (hsince : Since view past) :
    Innermost irq past := by
  unfold Innermost
  rw [hsince.underWay]
  exact h

theorem FoundFor.later (h : FoundFor start irq handler view) (hsince : Since view past) :
    FoundFor start irq handler past := by
  obtain ⟨x, older, entry, registration, hview, hrest⟩ := h
  exact ⟨x, older, entry, registration, hview.trans hsince, hrest⟩

theorem heeding_cuts {stop : Stop} : (heeding kernel start).cuts view stop past machine ↔
    stop ≠ .deadlock ∧ Heeding kernel start view past machine := by
  cases stop with
  | panic message => exact ⟨fun h => ⟨by simp, h⟩, fun h => h.2⟩
  | _ => exact Iff.rfl

theorem heeding_upon {result : Except Stop α}
    (h : Upon (fun _ => Heeding kernel start view) ((heeding kernel start).cuts view) result past
      machine) : result ≠ .error .deadlock ∧ Heeding kernel start view past machine := by
  cases result with
  | ok value => exact ⟨by simp, h⟩
  | error stop =>
    obtain ⟨hstop, h⟩ := heeding_cuts.mp h
    exact ⟨by simpa using hstop, h⟩

theorem Heeding.begins (h : Heeding kernel start view past machine) {x : Activity}
    (hx : Heeds kernel start past (.begins x)) :
    Heeding kernel start (.begins x :: past) (.begins x :: past) machine :=
  ⟨Since.refl _, upheld_cons.mpr ⟨hx, h.upheld⟩, h.holdings, h.unlocked⟩

/-- What is known from a later point is known from an earlier one. -/
theorem Heeding.widen (h : Heeding kernel start past now last) (hsince : Since view past) :
    Heeding kernel start view now last :=
  ⟨hsince.trans h.since, h.upheld, h.holdings, h.unlocked⟩

theorem Heeding.noted (h : Heeding kernel start view past machine) {x : Activity}
    (hinner : x.inner = []) (hcall : x.event.call? = none) (hcpu : x.event.cpu? = none)
    (hreports : x.event.Reports (heldAfter start past)) (hlock : ¬ x.event.Deadlocks)
    (hholdings : last.registry.holdings = heldAfter start (.ends x :: past))
    (hunlocked : last.registryLocked = false) :
    Heeding kernel start view (.ends x :: .begins x :: past) last := by
  have hbegins : Heeds kernel start past (.begins x) := by
    intro handler irq h
    rw [hcall] at h
    cases h
  have hdispatched : Dispatched kernel x := by
    intro cpu frame result hevent
    rw [hevent] at hcpu
    cases hcpu
  have hsince := h.since.closing x
  rw [hinner] at hsince
  exact ⟨hsince, upheld_cons.mpr ⟨⟨hreports, hlock, hdispatched⟩,
    upheld_cons.mpr ⟨hbegins, h.upheld⟩⟩, hholdings, hunlocked⟩

/-- Events that leave the registry alone, and tell nothing of it but that its lock was taken
for them. -/
structure Encloses (event : Except Stop α → Event) : Prop where
  uncalled : ∀ result, (event result).registryCall? = none
  reports : ∀ result (held : Holdings), (event result).Reports held
  deadlocks : ∀ result, (event result).Deadlocks → result = .error .deadlock

theorem Heeding.ends {event : Except Stop α → Event} {result : Except Stop α} {x : Activity}
    (h : Heeding kernel start view past machine) (hencloses : Encloses event)
    (hx : x.event = event result) (hdispatched : Dispatched kernel x)
    (hlast : Upon (fun _ => Heeding kernel start (.begins x :: past))
      ((heeding kernel start).cuts (.begins x :: past)) result
      (history x.inner ++ .begins x :: past) last) :
    Upon (fun _ => Heeding kernel start view) ((heeding kernel start).cuts view) result
      (.ends x :: (history x.inner ++ .begins x :: past)) last := by
  obtain ⟨hresult, hinner⟩ := heeding_upon hlast
  have hends : Heeding kernel start view (.ends x :: (history x.inner ++ .begins x :: past)) last := by
    refine ⟨h.since.closing x, upheld_cons.mpr ⟨⟨?_, ?_, hdispatched⟩, hinner.upheld⟩, ?_,
      hinner.unlocked⟩
    · rw [hx]
      exact hencloses.reports _ _
    · rw [hx]
      exact fun hdeadlocks => hresult (hencloses.deadlocks _ hdeadlocks)
    · rw [heldAfter_closing (by rw [hx, hencloses.uncalled])]
      exact hinner.holdings
  cases result with
  | ok value => exact hends
  | error stop => exact heeding_cuts.mpr ⟨by simpa using hresult, hends⟩

theorem heeding_during {event : Except Stop α → Event} {body : Dispatch σ α}
    (hencloses : Encloses event) (htrap : ∀ result, (event result).cpu? = none)
    (hdevice : ∀ result handler irq, (event result).call? = some (.device handler irq) →
      Innermost irq view ∧ FoundFor start irq handler view)
    (hbody : ∀ x result past, x.event = event result →
      ((heeding kernel start).under (.begins x :: past)).Keeps body) :
    ((heeding kernel start).under view).Keeps (Dispatch.during event body) := by
  apply carries_during
  intro x result past machine hx _ h
  have hbegins : Heeds kernel start past (.begins x) := by
    intro handler irq hcall
    rw [hx] at hcall
    obtain ⟨hinnermost, hfound⟩ := hdevice result handler irq hcall
    exact ⟨hinnermost.later h.since, hfound.later h.since⟩
  have hdispatched : Dispatched kernel x := by
    intro cpu frame outcome hevent
    have hcpu := htrap result
    rw [← hx, hevent] at hcpu
    cases hcpu
  exact ⟨_, _, _, hbody x result past hx, h.begins hbegins,
    fun last _ => h.ends hencloses hx hdispatched⟩

theorem heeding_modifyMachine {change : Machine σ → Machine σ}
    (hjournal : ∀ machine, (change machine).journal = machine.journal)
    (hregistry : ∀ machine, (change machine).registry = machine.registry)
    (hlocked : ∀ machine, (change machine).registryLocked = machine.registryLocked) :
    (heeding kernel start).Keeps (Dispatch.modifyMachine change) := by
  refine fun view => carries_modifyMachine hjournal fun past machine h => ?_
  exact ⟨h.since, h.upheld, (congrArg Registry.holdings (hregistry machine)).trans h.holdings,
    (hlocked machine).trans h.unlocked⟩

theorem quiet_heeding : (heeding kernel start).Quiet := by
  intro view past a b _ hregistry hlocked _ h
  exact ⟨h.since, h.upheld, (congrArg Registry.holdings hregistry).trans h.holdings,
    hlocked.trans h.unlocked⟩

theorem heeding_setState (cpu : Fin maxCpus) (state : DispatchState) (masked : Bool) :
    (heeding kernel start).Keeps (Kernel.setState (σ := σ) cpu state masked) := by
  unfold Kernel.setState Dispatch.setSlot
  exact heeding_modifyMachine (fun _ => rfl) (fun _ => rfl) fun _ => rfl

theorem encloses_service (c : Call) : Encloses (Event.service c) :=
  ⟨fun _ => rfl, fun _ _ => trivial, fun _ h => h⟩

/-- A call keeps to the registry; one that runs a handler does where that was found. -/
theorem heeding_call (hserves : ∀ op, (heeding kernel start).Keeps (server.reply op)) {c : Call}
    (hdevice : ∀ handler irq, c = .device handler irq →
      Innermost irq view ∧ FoundFor start irq handler view) :
    ((heeding kernel start).under view).Keeps (kernel.call server c) := by
  refine heeding_during (encloses_service c) (fun _ => rfl) (fun result handler irq hcall => ?_) ?_
  · exact hdevice handler irq (Option.some.inj hcall)
  · intro x result past _
    exact (heeding kernel start).resilient.run (S := serviceSignature σ) hserves _ _

theorem heeding_interruptible (hserves : ∀ op, (heeding kernel start).Keeps (server.reply op))
    (cpu : Fin maxCpus) {body : Dispatch σ α}
    (hbody : ((heeding kernel start).under view).Keeps body) :
    ((heeding kernel start).under view).Keeps (kernel.interruptible server cpu body) :=
  ((heeding kernel start).under view).interruptible (fun _ => heeding_setState cpu _ _ view)
    (heeding_call hserves (by simp)) (heeding_call hserves (by simp)) hbody

theorem heeding_enabledHandler (irq : Irq) :
    Carries (Heeding kernel start view) (fun found past machine =>
      Heeding kernel start view past machine ∧
        ∀ entry, found = some entry → FoundFor start irq entry.handler past)
      ((heeding kernel start).cuts view) (Kernel.enabledHandler (σ := σ) irq) := by
  intro past state h
  let entry := state.machine.registry.lookup irq
  let x : Activity := ⟨.lookup irq entry, state.machine.slots, [], state.machine.slots⟩
  have hheld : entry.map (HandlerEntry.holding irq) = heldAfter start past irq := by
    rw [← h.holdings]
    rfl
  refine runsAt_of_ok [x]
    ((Dispatch.bind_of_ok (Dispatch.withRegistry_of_unlocked _ h.unlocked)).trans rfl) rfl ?_
  refine ⟨h.noted rfl rfl rfl hheld (fun h => h) ?_ rfl, fun found hfound => ?_⟩
  · rw [heldAfter_closing rfl]
    exact h.holdings
  · obtain ⟨hsome, henabled⟩ := Option.filter_eq_some_iff.mp hfound
    have hentry : entry = some found := hsome
    have hfoundOn : heldAfter start past irq = some ⟨(found.holding irq).registration, true⟩ := by
      rw [← hheld, hentry, ← henabled]
      rfl
    refine ⟨x, past, found, _, Since.refl _, ?_, hfoundOn, rfl⟩
    exact congrArg (Event.lookup irq) hentry

theorem heeding_serviceLine (hserves : ∀ op, (heeding kernel start).Keeps (server.reply op))
    (cpu : Fin maxCpus) (scope : AckScope) (hinnermost : Innermost irq view) :
    ((heeding kernel start).under view).Keeps (kernel.serviceLine server cpu irq scope) := by
  unfold Kernel.serviceLine
  refine Carries.bind (heeding_enabledHandler irq) fun found => ?_
  cases found with
  | none =>
    exact Carries.mono ((quiet_heeding.observing view).claim _ scope) (fun _ _ h => h.1)
      (fun _ _ _ h => h) fun _ _ _ h => h
  | some entry =>
    -- From here on, the look-up is behind.
    refine carries_of_points fun past machine ⟨h, hfound⟩ => ?_
    let rule := (heeding kernel start).under past
    have hdevice : rule.Keeps (kernel.call server (.device entry.handler irq)) := by
      apply heeding_call hserves
      rintro handler line ⟨⟩
      exact ⟨hinnermost.later h.since, hfound entry rfl⟩
    have hrun : rule.Keeps (kernel.runDevice server cpu irq entry.handler) := by
      apply rule.runDevice (quiet_heeding.observing past)
      apply heeding_interruptible hserves
      exact rule.timeDevice (heeding_call hserves (by simp)) hdevice
    refine ⟨_, _, _, rule.bind hrun fun _ => (quiet_heeding.observing past).claim _ scope, ?_, ?_, ?_⟩
    · exact ⟨Since.refl past, h.upheld, h.holdings, h.unlocked⟩
    · exact fun _ _ _ hlast => Heeding.widen hlast h.since
    · intro stop now last hlast
      obtain ⟨hstop, hlast⟩ := heeding_cuts.mp hlast
      exact heeding_cuts.mpr ⟨hstop, hlast.widen h.since⟩

theorem heeding_serviceScope (hserves : ∀ op, (heeding kernel start).Keeps (server.reply op))
    (cpu : Fin maxCpus) (scope : AckScope) :
    (heeding kernel start).Keeps (kernel.serviceScope server cpu scope) := by
  intro view
  unfold Kernel.serviceScope AckScope.servicing
  refine heeding_during ⟨fun _ => rfl, fun _ _ => trivial, fun _ h => h⟩ (fun _ => rfl)
    (fun _ _ _ h => by cases h) fun x result past hx => ?_
  let rule := (heeding kernel start).under (.begins x :: past)
  have hclose : ∀ scope : AckScope, rule.Keeps (scope.close (kernel.controller server)) := by
    intro scope
    have hcloses : rule.Closes kernel server scope.irq :=
      ⟨(quiet_heeding.observing _).toLooking, heeding_call hserves (by simp),
        heeding_call hserves (by simp), heeding_call hserves (by simp)⟩
    exact hcloses.close
  have hinnermost : Innermost scope.irq (.begins x :: past) := ⟨x, rfl, result, hx⟩
  have hservice := heeding_serviceLine hserves cpu scope hinnermost
  apply rule.bind ((Regime.resilient_under _).unwinding hservice (hclose scope))
  rintro ⟨claimed, last⟩
  exact rule.bind (hclose last) fun _ => rule.pure _

theorem heeding_systemCall (hserves : ∀ op, (heeding kernel start).Keeps (server.reply op))
    (number : UInt64) (words : ArgumentWords) :
    (heeding kernel start).Keeps (kernel.systemCall server number words) := by
  have hcalls : (heeding kernel start).discipline.Calls kernel server := by
    refine ⟨quiet_heeding.plain.toMending, fun c hc view => heeding_call hserves ?_⟩
    rintro handler irq rfl
    cases hc
  have hserve : ∀ frame, (heeding kernel start).Keeps (kernel.serveCall server number words frame) := by
    refine hcalls.serveCall (fun descriptor arguments _ view => ?_) words
    refine heeding_during ⟨fun _ => rfl, fun _ _ => trivial, fun _ h => h⟩ (fun _ => rfl)
      (fun _ _ _ h => by cases h) fun x result past _ => ?_
    exact (heeding kernel start).resilient.run (S := handlerSignature σ)
      (fun op => hcalls.serveHandler op fun inner _ => hserves inner) _ _
  unfold Kernel.systemCall
  apply (heeding kernel start).discipline.bind quiet_heeding.plain.frame
  intro frame view
  exact heeding_during ⟨fun _ => rfl, fun _ _ => trivial, fun _ h => h⟩ (fun _ => rfl)
    (fun _ _ _ h => by cases h) fun x result past _ => hserve frame _

theorem heeding_carryOut (hserves : ∀ op, (heeding kernel start).Keeps (server.reply op))
    (cpu : Fin maxCpus) (outer : CpuSlot) :
    (heeding kernel start).Keeps (kernel.carryOut server cpu outer) := by
  have hcall : ∀ c : Call, c.isMasked = true → (heeding kernel start).Keeps (kernel.call server c) := by
    refine fun c hc view => heeding_call hserves ?_
    rintro handler irq rfl
    cases hc
  have hcommons : (heeding kernel start).discipline.Commons kernel server := by
    refine ⟨quiet_heeding.plain, fun c hc => hcall c ?_⟩
    cases c <;> first | rfl | cases hc
  have hinterrupt : (heeding kernel start).Keeps (kernel.interrupt server cpu) := by
    refine hcommons.interrupt (fun _ => hcall _ rfl) (fun irq => ?_) (heeding_serviceScope hserves cpu)
    exact ⟨quiet_heeding.plain.toLooking, hcall _ rfl, hcall _ rfl, hcall _ rfl⟩
  have hways : (heeding kernel start).discipline.Ways kernel server cpu :=
    { common := hcommons
      state := fun state _ => heeding_setState cpu state true
      interrupt := (heeding kernel start).discipline.bind (heeding_setState cpu _ _)
        fun _ => hinterrupt
      systemCall := fun number words view =>
        heeding_interruptible hserves cpu (heeding_systemCall hserves number words view) }
  unfold Kernel.carryOut Kernel.enterSlot Kernel.leaveSlot Dispatch.setSlot
  refine (heeding kernel start).discipline.bind ?_ fun _ => ?_
  · exact heeding_modifyMachine (fun _ => rfl) (fun _ => rfl) fun _ => rfl
  refine (heeding kernel start).discipline.bind hways.serveTrap fun outcome => ?_
  refine (heeding kernel start).discipline.bind ?_ fun _ => (heeding kernel start).discipline.pure _
  exact heeding_modifyMachine (fun _ => rfl) (fun _ => rfl) fun _ => rfl

/-- A trap keeps to the registry, and has dispatched its line at its end if it is an
interrupt. -/
theorem heeding_trap (hserves : ∀ op, (heeding kernel start).Keeps (server.reply op))
    (cpu : Fin maxCpus) (outer : CpuSlot) {state : Activation σ}
    (h : Heeding kernel start view past state.machine.bare) :
    CarriesAt past (fun _ => Heeding kernel start view) ((heeding kernel start).cuts view)
      (Dispatch.during (.trap cpu state.frame) (kernel.carryOut server cpu outer)) state := by
  have hemits : kernel.IsInterrupt state.frame → EmitsAt (kernel.Dispatches state.frame.vector)
      (kernel.carryOut server cpu outer) { state with machine.journal := [] } :=
    fun hinterrupt => emitsAt_carryOut_dispatches cpu outer hinterrupt
  refine carriesAt_during (fun new result => kernel.IsInterrupt state.frame →
    kernel.Dispatches state.frame.vector (ownEvents new) result)
    (fun value after hrun hinterrupt => (hemits hinterrupt).returned_own rfl hrun)
    (fun stop after hrun hinterrupt => (hemits hinterrupt).stopped_own rfl hrun) ?_
  intro x result hx _
  have hbegins : Heeds kernel start past (.begins x) := by
    intro handler irq hcall
    rw [hx] at hcall
    cases hcall
  refine ⟨_, _, _, heeding_carryOut hserves cpu outer _, h.begins hbegins, ?_⟩
  intro last _ hknown
  have hencloses : Encloses (Event.trap cpu state.frame) :=
    ⟨fun _ => rfl, fun _ _ => trivial, fun _ h => h⟩
  refine h.ends hencloses hx ?_
  intro _ _ _ hevent hinterrupt
  rw [hx] at hevent
  cases hevent
  exact hknown hinterrupt

theorem heeding_callRegistry {call : RegistryCall} {reply : α → RegistryReply}
    {change : Registry → α × Registry} (hmakes : call.Makes reply change) :
    (heeding kernel start).Keeps (Kernel.callRegistry (σ := σ) call reply change) := by
  intro view past state h
  let x : Activity := ⟨.registry call (reply (change state.machine.registry).1),
    state.machine.slots, [], state.machine.slots⟩
  have hperform := hmakes state.machine.registry
  have hanswers := state.machine.registry.answers_perform call
  have hholdings := state.machine.registry.holdings_perform call
  have hheld : state.machine.registry.holdings = heldAfter start past := h.holdings
  rw [hperform, hheld] at hanswers hholdings
  refine runsAt_of_ok [x]
    ((Dispatch.bind_of_ok (Dispatch.withRegistry_of_unlocked _ h.unlocked)).trans rfl) rfl ?_
  refine h.noted rfl rfl rfl hanswers (fun h => h) ?_ rfl
  rw [heldAfter_call (x := x) rfl]
  exact hholdings

theorem heeding_tellSlot (cpu : UInt64) : (heeding kernel start).Keeps (Kernel.tellSlot (σ := σ) cpu) := by
  refine fun view => (quiet_heeding.observing view).tellSlot fun slot => ?_
  refine carries_note fun x past machine hx hinner h => ?_
  refine h.noted hinner ?_ ?_ ?_ ?_ ?_ h.unlocked
  · rw [hx]
    rfl
  · rw [hx]
    rfl
  · rw [hx]
    trivial
  · rw [hx]
    exact fun h => h
  · rw [heldAfter_closing (by rw [hx]; rfl)]
    exact h.holdings

theorem heeding_replies (hserves : ∀ op, (heeding kernel start).Keeps (server.reply op)) :
    (heeding kernel start).discipline.Replies kernel server where
  mends := quiet_heeding.plain.toMending
  onFrame := Regime.keeps_onFrame
  install := quiet_heeding.modifyMachine (fun _ => rfl) fun _ => ⟨rfl, rfl, rfl, rfl⟩
  tellSlot := heeding_tellSlot
  registry := heeding_callRegistry
  trap := quiet_heeding.handleTrap (fun _ => heeding_call hserves (by simp))
    fun _ cpu _ _ h _ => heeding_trap hserves cpu _ h
  systemCall := heeding_systemCall hserves
  invoke _ _ := (heeding kernel start).resilient.run (S := serviceSignature σ) hserves _

/-- Services keep to the registry at every depth of nesting. -/
theorem heeding_serves (kernel : Kernel σ) (start : Holdings) (depth : Nat) (op : Request σ) :
    (heeding kernel start).Keeps ((kernel.server depth).reply op) :=
  Discipline.serves (heeding kernel start).resilient (fun _ => heeding_replies)
    (fun _ => heeding_modifyMachine (fun _ => rfl) (fun _ => rfl) fun _ => rfl) depth op

/-- In every run, whatever handlers and services do to registrations and whenever: a device
handler begins to run only in the scope of its line, for which it was registered and enabled, by
the replies to all calls before, when the line was looked up; every look-up and every call to the
registry is told what the lines hold by those replies; nothing ever waits for its lock; and every
interrupt has looked its line up once, run what it had found once, and nothing else, and has the
outcome for it. -/
theorem handlers_follow_registry (kernel : Kernel σ) (depth : Nat) (program : ServiceProgram σ α)
    (machine : Machine σ) (hunlocked : machine.registryLocked = false) :
    let run := kernel.runService depth program machine.fresh
    let moments := history run.machine.journal
    (∀ later x past, moments = later ++ .begins x :: past → ∀ handler irq result,
        x.event = .service (.device handler irq) result →
        Innermost irq past ∧ FoundFor machine.registry.holdings irq handler past) ∧
      (∀ later x past, moments = later ++ .ends x :: past →
        x.event.Reports (heldAfter machine.registry.holdings past) ∧ ¬ x.event.Deadlocks ∧
          Dispatched kernel x) ∧
      run.result ≠ .error .deadlock ∧
      run.machine.registry.holdings = heldAfter machine.registry.holdings moments ∧
      run.machine.registryLocked = false := by
  have hstart : Heeding kernel machine.registry.holdings [] [] machine.fresh.bare :=
    ⟨Since.refl _, trivial, rfl, hunlocked⟩
  have hkeeps : (heeding kernel machine.registry.holdings).Keeps
      ((kernel.server depth).run program) :=
    (heeding kernel machine.registry.holdings).resilient.run (S := serviceSignature σ)
      (heeding_serves kernel machine.registry.holdings depth) program
  have hrun := hkeeps.runService [] (show machine.fresh.journal = [] from rfl) hstart
  obtain ⟨hresult, h⟩ := heeding_upon hrun
  refine ⟨fun later x past hsplit handler irq result hx => ?_, fun later x past hsplit => ?_,
    hresult, h.holdings, h.unlocked⟩
  · exact h.upheld.at hsplit handler irq (by rw [hx]; rfl)
  · exact h.upheld.at hsplit

/-- A handler that is interrupted by its line three times: disabled, enabled again, and removed. -/
def switchingDevice : ServiceProgram Bool Unit := do
  if ← ServiceProgram.world then
    ServiceProgram.ask (.setWorld false)
    let _ ← ServiceProgram.ask (.setEnabled ⟨⟨3⟩, 1⟩ false)
    trapOn 35
    let _ ← ServiceProgram.ask (.setEnabled ⟨⟨3⟩, 1⟩ true)
    trapOn 35
    let _ ← ServiceProgram.ask (.unregister ⟨⟨3⟩, 1⟩)
    trapOn 35

def registeredInterrupt : ServiceProgram Bool Unit := do
  let _ ← ServiceProgram.ask (.register ⟨3⟩ 0 0)
  trapOn 35

def switchedMoments : List Moment :=
  history ((Kernel.plain ⟨3⟩ switchingDevice).runService 3 registeredInterrupt
    ({ world := true } : Machine Bool).fresh).machine.journal

def switchedHoldings (place : Nat) : Holdings :=
  heldAfter (Registry.holdings {}) (switchedMoments.drop place).tail

/-- While the handler is disabled, and after it has been removed, its line is left unhandled. In
between it runs. -/
theorem disabled_handler_is_passed_over :
    ({ world := true } : Machine Bool).registryLocked = false ∧
      (∃ x past, switchedMoments.drop 67 = .ends x :: past ∧
        x.event.outcome? = some (.unhandled ⟨3⟩) ∧
        Dispatched (Kernel.plain ⟨3⟩ switchingDevice) x ∧ ¬ x.event.Deadlocks ∧
        (switchedHoldings 67 ⟨3⟩).map (·.enabled) = some false) ∧
      (∃ x past, switchedMoments.drop 48 = .begins x :: past ∧ Innermost ⟨3⟩ past ∧
        FoundFor (Registry.holdings {}) ⟨3⟩ 0 past) ∧
      ∃ x past, switchedMoments.drop 13 = .ends x :: past ∧
        x.event.outcome? = some (.unhandled ⟨3⟩) ∧
        Dispatched (Kernel.plain ⟨3⟩ switchingDevice) x ∧ ¬ x.event.Deadlocks ∧
        switchedHoldings 13 ⟨3⟩ = none := by
  obtain ⟨hbegins, hends, -⟩ := handlers_follow_registry (Kernel.plain ⟨3⟩ switchingDevice) 3
    registeredInterrupt { world := true } rfl
  have hpassed : ∀ place, ((switchedMoments.drop place).head?.bind Moment.ending?).bind
      (·.event.outcome?) = some (.unhandled ⟨3⟩) →
      ∃ x past, switchedMoments.drop place = .ends x :: past ∧
        x.event.outcome? = some (.unhandled ⟨3⟩) ∧
        Dispatched (Kernel.plain ⟨3⟩ switchingDevice) x ∧ ¬ x.event.Deadlocks := by
    intro place houtcome
    obtain ⟨x, hx, hevent⟩ := Option.bind_eq_some_iff.mp houtcome
    have hdrop := cons_of_ending? hx
    have hsplit := (List.take_append_drop place switchedMoments).symm
    rw [hdrop] at hsplit
    obtain ⟨-, hlock, hdispatched⟩ := hends _ x _ hsplit
    exact ⟨x, _, hdrop, hevent, hdispatched, hlock⟩
  obtain ⟨x, past, hdrop, houtcome, hdispatched, hlock⟩ := hpassed 67 (by decide +kernel)
  obtain ⟨y, older, hdropped, hout, hdone, hopen⟩ := hpassed 13 (by decide +kernel)
  refine ⟨rfl, ⟨x, past, hdrop, houtcome, hdispatched, hlock, by decide +kernel⟩, ?_,
    y, older, hdropped, hout, hdone, hopen, by decide +kernel⟩
  have hcall : ((switchedMoments.drop 48).head?.bind Moment.beginning?).bind (·.event.call?) =
      some (.device 0 ⟨3⟩) := by
    decide +kernel
  obtain ⟨z, result, hagain, hevent⟩ := exists_begins hcall
  have hsplit := (List.take_append_drop 48 switchedMoments).symm
  rw [hagain] at hsplit
  exact ⟨z, _, hagain, hbegins _ z _ hsplit 0 ⟨3⟩ result hevent⟩

end TrapDispatch
