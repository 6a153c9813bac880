import TrapDispatch.Proofs.Ledger

/-!
# What the steps of a trap have entered

A step of a trap counts some of what the trap will be entered for at its end. What it has
counted is told by its value, and by the readings of the cycle counter around a device handler,
which are entered when the scope around them closes.
-/

namespace TrapDispatch

variable {σ α β : Type}

namespace Kernel

/-- Whether what is due once a computation has returned is as specified, by its value and its
timings. -/
structure Posts (kernel : Kernel σ) (spec : α → List Event → (Counter → UInt64) → Prop)
    (body : Dispatch σ α) : Prop where
  returned : ∀ state value after, body state = .ok value after →
    ∃ new due, spec value (timings new) due ∧ kernel.Books due new state.machine after.machine
  arrives : (Law.arrivals kernel).Obeys body

/-- Whether something has been counted, and no device handler timed. -/
def Counted (entered : Counter → UInt64) (timed : List Event) (due : Counter → UInt64) : Prop :=
  timed = [] ∧ due = entered

def CountedRun (kernel : Kernel σ) (timed : List Event) (due : Counter → UInt64) : Prop :=
  due = kernel.config.overrunEntries (elapsed? timed)

end Kernel

namespace Kernel

variable {kernel : Kernel σ} {server : Server σ} {cpu : Fin maxCpus}

section

variable {first : α → List Event → (Counter → UInt64) → Prop}
  {spec : β → List Event → (Counter → UInt64) → Prop} {body : Dispatch σ α}
  {next : α → Dispatch σ β}

theorem Posts.bind (hbody : kernel.Posts first body)
    (second : α → β → List Event → (Counter → UInt64) → Prop)
    (hnext : ∀ value, kernel.Posts (second value) (next value))
    (hspec : ∀ value last timed later due more,
      first value timed due → second value last later more →
        spec last (later ++ timed) fun counter => due counter + more counter) :
    kernel.Posts spec (body >>= next) where
  returned state last after h := by
    obtain ⟨value, middle, hrun, hrest⟩ := Dispatch.exists_of_bind h
    obtain ⟨old, due, hfirst, hold⟩ := hbody.returned _ _ _ hrun
    obtain ⟨new, more, hsecond, hnew⟩ := (hnext value).returned _ _ _ hrest
    refine ⟨new ++ old, _, ?_, hold.trans hnew⟩
    rw [timings_append]
    exact hspec value last _ _ due more hfirst hsecond
  arrives := Law.obeys_bind hbody.arrives fun value => (hnext value).arrives

theorem posts_giving {spec : α → List Event → (Counter → UInt64) → Prop}
    (h : (Law.charges kernel).Obeys body)
    (hgives : Law.Gives (fun value => spec value [] fun _ => 0) body) : kernel.Posts spec body where
  returned state value after hrun := by
    obtain ⟨new, htimings, hbooks⟩ := (h state).returned hrun
    refine ⟨new, _, ?_, hbooks⟩
    rw [htimings]
    exact hgives state value after hrun
  arrives := Law.arrivals_of_charges h

theorem posts_of_charges (h : (Law.charges kernel).Obeys body) :
    kernel.Posts (fun _ => Counted fun _ => 0) body :=
  posts_giving h fun _ _ _ _ => ⟨rfl, rfl⟩

theorem Posts.mono {spec : α → List Event → (Counter → UInt64) → Prop} (h : kernel.Posts first body)
    (hspec : ∀ value timed due, first value timed due → spec value timed due) :
    kernel.Posts spec body where
  returned state value after hrun := by
    obtain ⟨new, due, hfirst, hbooks⟩ := h.returned state value after hrun
    exact ⟨new, due, hspec value _ due hfirst, hbooks⟩
  arrives := h.arrives

/-- Nothing is due for what comes before. -/
theorem Posts.after (hnext : ∀ value, kernel.Posts spec (next value))
    (hbody : (Law.charges kernel).Obeys body) : kernel.Posts spec (body >>= next) := by
  refine (posts_of_charges hbody).bind (fun _ => spec) hnext ?_
  rintro value last _ later _ more ⟨rfl, rfl⟩ hspec
  rw [List.append_nil]
  simpa only [UInt64.zero_add] using hspec

theorem Posts.last (hbody : kernel.Posts first body)
    (hnext : ∀ value, (Law.charges kernel).Obeys (next value))
    (hgives : ∀ value, Law.Gives (fun last => ∀ timed due, first value timed due →
      spec last timed due) (next value)) : kernel.Posts spec (body >>= next) where
  returned state last after h := by
    obtain ⟨value, middle, hrun, hrest⟩ := Dispatch.exists_of_bind h
    obtain ⟨old, due, hfirst, hold⟩ := hbody.returned _ _ _ hrun
    obtain ⟨new, htimings, hnew⟩ := (hnext value middle).returned hrest
    have hbooks := hold.trans hnew
    simp only [UInt64.add_zero] at hbooks
    refine ⟨new ++ old, due, ?_, hbooks⟩
    rw [timings_append, htimings]
    exact hgives value _ _ _ hrest _ _ hfirst
  arrives := Law.obeys_bind hbody.arrives fun value => Law.arrivals_of_charges (hnext value)

theorem Posts.keeping {spec : α → List Event → (Counter → UInt64) → Prop} {next : α → Dispatch σ α}
    (hbody : kernel.Posts spec body) (hnext : ∀ value, (Law.charges kernel).Obeys (next value))
    (hgives : ∀ value, Law.Gives (· = value) (next value)) : kernel.Posts spec (body >>= next) := by
  refine hbody.last hnext fun value state last after hrun => ?_
  rw [hgives value state last after hrun]
  exact fun _ _ h => h

theorem posts_pure {spec : α → List Event → (Counter → UInt64) → Prop} {value : α}
    (h : spec value [] fun _ => 0) : kernel.Posts spec (pure value) where
  returned := by
    rintro state _ _ ⟨⟩
    exact ⟨[], _, h, Books.still rfl rfl⟩
  arrives := Law.obeys_pure value

theorem posts_ite {spec : α → List Event → (Counter → UInt64) → Prop} {c : Prop} {_ : Decidable c}
    {first second : Dispatch σ α} (hfirst : c → kernel.Posts spec first)
    (hsecond : ¬ c → kernel.Posts spec second) :
    kernel.Posts spec (if c then first else second) := by
  split
  case isTrue h => exact hfirst h
  case isFalse h => exact hsecond h

theorem posts_when {c : Prop} {_ : Decidable c} {step : Dispatch σ Unit}
    {next : Unit → Dispatch σ β} (hnext : kernel.Posts spec (next ())) (hstep : (Law.charges kernel).Obeys step) :
    kernel.Posts spec (if c then step >>= next else next ()) :=
  posts_ite (fun _ => Posts.after (fun _ => hnext) hstep) fun _ => hnext

/-- A count that is not of arrivals is due at once. -/
theorem posts_count {change : Stats → Stats} {entered : Counter → UInt64}
    (hchange : ∀ stats counter,
      (change stats).read counter = stats.read counter + entered counter)
    (hentered : ∀ counter, counter.isOfArrival = true → entered counter = 0) :
    kernel.Posts (fun _ => Counted entered) (Dispatch.count change) := by
  have harrivals : ∀ a : Machine σ, kernel.Arrivals [] a { a with stats := change a.stats } := by
    refine fun a => ⟨rfl, fun _ h => (by cases h), fun counter h => (hchange _ _).trans ?_⟩
    rw [hentered counter h]
    rfl
  refine ⟨?_, Law.obeys_modifyMachine fun a => ⟨[], harrivals a⟩⟩
  rintro state _ _ ⟨⟩
  refine ⟨[], entered, ⟨rfl, rfl⟩, harrivals state.machine, fun _ counter _ => ?_⟩
  exact (hchange _ _).trans (congrArg _ (UInt64.add_zero _).symm)

theorem posts_of_ledger (h : (Law.ledger kernel).Obeys body) :
    kernel.Posts (fun _ _ due => due = fun _ => 0) body where
  returned state value after hrun := by
    obtain ⟨new, hbooks⟩ := (h state).returned hrun
    exact ⟨new, _, rfl, hbooks⟩
  arrives := Law.arrivals_of_ledger h

/-- An activity is entered for what is due at its end. -/
theorem Posts.during {spec : α → List Event → (Counter → UInt64) → Prop}
    {event : Except Stop α → Event} (hbody : kernel.Posts first body)
    (hevent : ∀ result, (event result).frame? = none)
    (hspec : ∀ value (x : Activity) due, x.event = event (.ok value) →
      first value (timings x.inner) due →
        spec value (timings [x]) fun counter => due counter - kernel.entriesOf x counter) :
    kernel.Posts spec (Dispatch.during event body) where
  returned state value after h := by
    obtain ⟨inner, hrun, rfl⟩ := Dispatch.exists_of_during h
    obtain ⟨new, due, hfirst, hbooks⟩ := hbody.returned _ _ _ hrun
    let x : Activity := ⟨event (.ok value), state.machine.slots, new, inner.machine.slots⟩
    exact ⟨[x], _, hspec value x due rfl hfirst, hbooks.closing (hevent _)⟩
  arrives := hbody.arrives.during
    (fun _ _ _ ⟨_, hnew⟩ => ⟨[_], hnew.closing (hevent _)⟩)
    fun _ _ _ ⟨_, hnew⟩ => ⟨[_], hnew.closing (hevent _)⟩

theorem Posts.unwinding {cleanup : Dispatch σ Unit} (hbody : kernel.Posts first body)
    (hcleanup : (Law.charges kernel).Obeys cleanup) :
    kernel.Posts first (TrapDispatch.unwinding body cleanup) where
  returned state value after h := by
    apply hbody.returned state value after
    unfold TrapDispatch.unwinding at h
    split at h
    · split at h <;> cases h
    · exact h
  arrives := Law.obeys_unwinding Law.unwinds_arrivals hbody.arrives
    (Law.arrivals_of_charges hcleanup)

end

/-- What has been counted for a line, by whether anyone claimed it. -/
def lineEntries (claimed : Bool) (counter : Counter) : UInt64 :=
  if claimed then 0 else Counter.entry .unhandled counter

/-- What has been counted for a line, with the run of its handler if there was one. -/
def CountedLine (kernel : Kernel σ) (claimed : Bool) (timed : List Event)
    (due : Counter → UInt64) : Prop :=
  due = fun counter =>
    kernel.config.overrunEntries (elapsed? timed) counter + lineEntries claimed counter

/-- What the outcome of a trap is entered for has been counted. -/
def Settled (outcome : Outcome) : List Event → (Counter → UInt64) → Prop :=
  Counted outcome.entries

section

variable (hserves : (Law.ledger kernel).Serves server)

include hserves

theorem charges_schedule (frame : Frame) (reason : ScheduleReason) :
    (Law.charges kernel).Obeys (kernel.call server (.schedule frame reason)) :=
  Law.charges_call hserves (fun _ => rfl) fun _ => rfl

theorem charges_reschedule (reason : ScheduleReason) :
    (Law.charges kernel).Obeys (kernel.reschedule server reason) :=
  Law.mending_charges.reschedule (charges_schedule hserves) reason

theorem charges_interruptible {body : Dispatch σ α} (hbody : (Law.charges kernel).Obeys body) :
    (Law.charges kernel).Obeys (kernel.interruptible server cpu body) :=
  (Law.charges kernel).discipline.interruptible (fun _ => Law.charges_setState _ _)
    (Law.charges_call hserves (fun _ => rfl) fun _ => rfl)
    (Law.charges_call hserves (fun _ => rfl) fun _ => rfl) hbody

theorem posts_interruptible {body : Dispatch σ α}
    {spec : α → List Event → (Counter → UInt64) → Prop} (hbody : kernel.Posts spec body) :
    kernel.Posts spec (kernel.interruptible server cpu body) := by
  unfold Kernel.interruptible
  refine Posts.after (fun _ => Posts.after (fun _ => ?_) ?_) (Law.charges_setState _ _)
  · refine hbody.keeping (fun value => ?_) fun value => ?_
    · apply Law.obeys_bind (Law.charges_call hserves (fun _ => rfl) fun _ => rfl)
      intro _
      exact Law.obeys_bind (Law.charges_setState _ _) fun _ => Law.obeys_pure _
    · exact Law.gives_next fun _ => Law.gives_next fun _ => Law.gives_pure rfl
  · exact Law.charges_call hserves (fun _ => rfl) fun _ => rfl

theorem posts_timing {c : Call} (hentered : ∀ result, (Event.service c result).isEntered = false)
    (htiming : ∀ result, (Event.service c result).isTiming = true) :
    kernel.Posts (fun value timed due => timed = [.service c (.ok value)] ∧ due = fun _ => 0)
      (kernel.call server c) := by
  have hnone : ∀ result (x : Activity), x.event = .service c result →
      ∀ counter, kernel.entriesOf x counter = 0 := by
    intro result x hx
    apply entriesOf_eq_zero
    rw [hx, hentered]
  refine (posts_of_ledger (hserves.run Law.unwinds_ledger _)).during (fun _ => rfl) ?_
  rintro value x _ hx rfl
  refine ⟨by simp [timings, hx, htiming], funext fun counter => ?_⟩
  rw [hnone _ x hx, UInt64.sub_zero]

theorem posts_timeDevice (irq : Irq) (handler : HandlerId) :
    kernel.Posts (fun value timed due => elapsed? timed = some value ∧ due = fun _ => 0)
      (kernel.timeDevice server irq handler) := by
  have hcycles : kernel.Posts (fun value timed due =>
      timed = [.service .cycles (.ok value)] ∧ due = fun _ => 0) (kernel.call server .cycles) :=
    posts_timing hserves (fun _ => rfl) fun _ => rfl
  have hdevice : kernel.Posts (fun value timed due =>
      timed = [.service (.device handler irq) (.ok value)] ∧ due = fun _ => 0)
      (kernel.call server (.device handler irq)) :=
    posts_timing hserves (fun _ => rfl) fun _ => rfl
  unfold Kernel.timeDevice
  refine hcycles.bind (fun start value timed due => ∃ stop, value = stop - start ∧
    timed = [.service .cycles (.ok stop), .service (.device handler irq) (.ok ())] ∧
      due = fun _ => 0) (fun start => ?_) ?_
  · refine hdevice.bind (fun _ value timed due => ∃ stop, value = stop - start ∧
      timed = [.service .cycles (.ok stop)] ∧ due = fun _ => 0) (fun _ => ?_) ?_
    · refine hcycles.last (fun stop => Law.obeys_pure _) fun stop => Law.gives_pure ?_
      rintro timed due ⟨rfl, rfl⟩
      exact ⟨stop, rfl, rfl, rfl⟩
    · rintro _ _ _ _ _ _ ⟨rfl, rfl⟩ ⟨stop, rfl, rfl, rfl⟩
      exact ⟨stop, rfl, rfl, rfl⟩
  · rintro start _ _ _ _ _ ⟨rfl, rfl⟩ ⟨stop, rfl, rfl, rfl⟩
    exact ⟨rfl, rfl⟩

theorem posts_runDevice (irq : Irq) (handler : HandlerId) :
    kernel.Posts (fun _ => kernel.CountedRun) (kernel.runDevice server cpu irq handler) := by
  unfold Kernel.runDevice
  refine (posts_interruptible hserves (posts_timeDevice hserves irq handler)).bind
    (fun elapsed _ => Counted (kernel.config.overrunEntries (some elapsed))) (fun elapsed => ?_) ?_
  · refine posts_ite (fun hover => ?_) fun hwithin => posts_pure ⟨rfl, ?_⟩
    · refine (posts_count (fun stats => stats.read_recordOverrun)
        fun counter h => Counter.entry_of_isOfArrival h rfl).last
        (fun _ => Law.mending_charges.recordAt _ _ _) fun _ _ _ _ _ => ?_
      rintro timed due ⟨rfl, rfl⟩
      refine ⟨rfl, funext fun counter => ?_⟩
      simp [Config.overrunEntries, Config.overruns, hover]
    · funext counter
      simp [Config.overrunEntries, Config.overruns, hwithin]
  · rintro elapsed _ timed _ due _ ⟨helapsed, rfl⟩ ⟨rfl, rfl⟩
    refine funext fun counter => ?_
    rw [List.nil_append, helapsed, UInt64.zero_add]

omit hserves in
theorem posts_unhandled (scope : AckScope) :
    kernel.Posts (fun _ => Counted (Counter.entry .unhandled)) (kernel.unhandled scope) := by
  unfold Kernel.unhandled
  refine (posts_count (fun stats => stats.read_recordUnhandled)
    fun counter h => Counter.entry_of_isOfArrival h rfl).last (fun _ => ?_) fun _ => ?_
  · refine Law.obeys_bind Law.obeys_machine fun machine => ?_
    refine Law.obeys_when (fun _ => Law.mending_charges.recordAt _ _ _) ?_
    cases kernel.config.policy with
    | recordAndContinue => exact Law.obeys_pure _
    | maskLine =>
      exact Law.obeys_bind (Law.mending_charges.recordAt _ _ _) fun _ => Law.obeys_pure _
    | panic => exact Law.mending_charges.fatal _
  · exact fun _ _ _ _ timed due h => h

theorem posts_serviceLine (irq : Irq) (scope : AckScope) :
    kernel.Posts (fun result => kernel.CountedLine result.1)
      (kernel.serviceLine server cpu irq scope) := by
  have hentry : (Law.charges kernel).discipline.Keeps (Kernel.enabledHandler irq) :=
    Discipline.enabledHandler Law.charges_withRegistry fun _ => Law.charges_note rfl rfl
  unfold Kernel.serviceLine
  refine Posts.after (fun entry => ?_) hentry
  cases entry with
  | some entry =>
    refine (posts_runDevice hserves irq entry.handler).last (fun _ => Law.obeys_pure _)
      fun _ => Law.gives_pure ?_
    rintro timed due rfl
    exact funext fun counter => (UInt64.add_zero _).symm
  | none =>
    refine posts_ite (fun _ => posts_pure ?_) fun _ => ?_
    · exact funext fun counter => (UInt64.add_zero _).symm
    · refine (posts_unhandled scope).last (fun _ => Law.obeys_pure _) fun _ => Law.gives_pure ?_
      rintro timed due ⟨rfl, rfl⟩
      exact funext fun counter => (UInt64.zero_add _).symm

theorem charges_close (scope : AckScope) :
    (Law.charges kernel).Obeys (scope.close (kernel.controller server)) := by
  have hcloses : (Law.charges kernel).discipline.Closes kernel server scope.irq :=
    { looks := Law.mending_charges.toLooking
      acknowledge := Law.charges_call hserves (fun _ => rfl) fun _ => rfl
      endOfInterrupt := Law.charges_call hserves (fun _ => rfl) fun _ => rfl
      unmask := Law.charges_call hserves (fun _ => rfl) fun _ => rfl }
  exact hcloses.close

/-- The run of a handler is entered when the scope around it closes, so that only a line that
nobody claims is still due. -/
theorem posts_serviceScope (scope : AckScope) :
    kernel.Posts (fun claimed => Counted (lineEntries claimed))
      (kernel.serviceScope server cpu scope) := by
  have hservicing : kernel.Posts kernel.CountedLine (scope.servicing (kernel.controller server)
      (kernel.serviceLine server cpu scope.irq scope)) := by
    unfold AckScope.servicing
    refine (Posts.unwinding (posts_serviceLine hserves scope.irq scope)
      (charges_close hserves scope)).last (fun result => ?_) fun result => ?_
    · exact Law.obeys_bind (charges_close hserves result.2) fun _ => Law.obeys_pure result.1
    · exact Law.gives_next fun _ => Law.gives_pure fun _ _ h => h
  unfold Kernel.serviceScope
  refine hservicing.during (fun _ => rfl) ?_
  rintro claimed x _ hx rfl
  refine ⟨by simp [timings, hx, Event.isTiming], funext fun counter => ?_⟩
  rw [entriesOf_scope kernel hx]
  exact (congrArg (· - _) (UInt64.add_comm _ _)).trans (UInt64.add_sub_cancel _ _)

theorem posts_interrupt : kernel.Posts Settled (kernel.interrupt server cpu) := by
  unfold Kernel.interrupt
  refine Posts.after (fun frame => ?_) Law.obeys_frame
  refine Posts.after (fun pending => ?_) (Law.charges_call hserves (fun _ => rfl) fun _ => rfl)
  cases pending with
  | none =>
    refine (posts_count (fun stats => stats.read_recordSpurious)
      fun counter h => Counter.entry_of_isOfArrival h rfl).last (fun _ => ?_) fun _ => ?_
    · exact Law.obeys_bind (Law.mending_charges.recordAt _ _ _) fun _ => Law.obeys_pure _
    · exact Law.gives_next fun _ => Law.gives_pure fun _ _ h => h
  | some irq =>
    have hopens : (Law.charges kernel).discipline.Opens kernel server irq :=
      { looks := Law.mending_charges.toLooking
        triggerMode := Law.charges_call hserves (fun _ => rfl) fun _ => rfl
        mask := Law.charges_call hserves (fun _ => rfl) fun _ => rfl
        acknowledge := Law.charges_call hserves (fun _ => rfl) fun _ => rfl }
    refine Posts.after (fun scope => ?_) hopens.opened
    refine (posts_serviceScope hserves scope).last (fun handled => ?_) fun handled => ?_
    · exact Law.obeys_when (fun _ => charges_reschedule hserves _) (Law.obeys_pure _)
    · refine Law.gives_when (Law.gives_pure fun timed due h => ?_)
      cases handled <;> exact h

/-- A fault that is resolved has been entered before it is counted. -/
theorem posts_resolve (address : Address) (access : Access) :
    kernel.Posts (fun resolved => Counted fun counter =>
      if resolved then 0 - Counter.entry .resolved counter else 0)
      (kernel.resolve server address access) := by
  have hentries : ∀ resolved (x : Activity),
      x.event = .service (.resolveFault address access) (.ok resolved) → ∀ counter,
        kernel.entriesOf x counter = if resolved then Counter.entry .resolved counter else 0 := by
    intro resolved x hx counter
    unfold entriesOf
    rw [hx]
    cases resolved <;> rfl
  unfold Kernel.resolve
  refine Posts.after (fun frame => ?_) Law.obeys_frame
  refine Posts.after (fun window => ?_) (Law.charges_call hserves (fun _ => rfl) fun _ => rfl)
  refine posts_ite (fun _ => ?_) fun _ => posts_pure ⟨rfl, rfl⟩
  refine (posts_of_ledger (hserves.run Law.unwinds_ledger _)).during (fun _ => rfl) ?_
  rintro resolved x _ hx rfl
  refine ⟨by simp [timings, hx, Event.isTiming], funext fun counter => ?_⟩
  rw [hentries resolved x hx]
  cases resolved with
  | true => rfl
  | false => exact UInt64.sub_zero _

theorem posts_fatalException (kind : ExceptionKind) :
    kernel.Posts Settled (kernel.fatalException server kind) := by
  have hend : kernel.Posts Settled (do
      kernel.call server (.terminate (.fault kind))
      Dispatch.count Stats.recordKilled
      kernel.reschedule server .terminated
      return Outcome.threadTerminated) := by
    refine Posts.after (fun _ => ?_) (Law.charges_call hserves (fun _ => rfl) fun _ => rfl)
    refine (posts_count (fun stats => stats.read_recordKilled)
      fun counter h => Counter.entry_of_isOfArrival h rfl).last (fun _ => ?_) fun _ => ?_
    · exact Law.obeys_bind (charges_reschedule hserves _) fun _ => Law.obeys_pure _
    · exact Law.gives_next fun _ => Law.gives_pure fun _ _ h => h
  unfold Kernel.fatalException
  refine Posts.after (fun frame => ?_) Law.obeys_frame
  refine posts_when ?_ (Law.mending_charges.fatal _)
  refine Posts.after (fun machine => ?_) Law.obeys_machine
  refine posts_ite (fun _ => ?_) fun _ => hend
  refine Posts.after (fun pid => ?_) (Law.charges_call hserves (fun _ => rfl) fun _ => rfl)
  exact Posts.after (fun _ => hend) (Law.mending_charges.recordAt _ _ _)

theorem posts_defaultFault : kernel.Posts Settled (kernel.defaultFault server cpu) := by
  unfold Kernel.defaultFault
  refine Posts.after (fun _ => ?_) (Law.charges_setState _ _)
  refine Posts.after (fun frame => ?_) Law.obeys_frame
  exact Posts.after (fun _ => posts_fatalException hserves _) (Law.mending_charges.recordAt _ _ _)

theorem posts_exception (kind : ExceptionKind) :
    kernel.Posts Settled (kernel.exception server cpu kind) := by
  unfold Kernel.exception
  refine Posts.after (fun _ => ?_) (Law.charges_setState _ _)
  refine Posts.after (fun frame => ?_) Law.obeys_frame
  cases kind with
  | pageFault address access =>
    refine (posts_resolve hserves address access).bind (fun resolved outcome =>
      Counted fun counter =>
        outcome.entries counter + if resolved then Counter.entry .resolved counter else 0)
      (fun resolved => ?_) ?_
    · cases resolved with
      | true =>
        refine (posts_count (fun stats => stats.read_recordResolved)
          fun counter h => Counter.entry_of_isOfArrival h rfl).last (fun _ => Law.obeys_pure _)
          fun _ => Law.gives_pure ?_
        rintro timed due ⟨rfl, rfl⟩
        exact ⟨rfl, funext fun counter => (UInt64.zero_add _).symm⟩
      | false =>
        refine (posts_fatalException hserves _).mono ?_
        rintro outcome timed due ⟨rfl, rfl⟩
        exact ⟨rfl, funext fun counter => (UInt64.add_zero _).symm⟩
    · rintro resolved outcome _ _ _ _ ⟨rfl, rfl⟩ ⟨rfl, rfl⟩
      refine ⟨rfl, funext fun counter => ?_⟩
      cases resolved with
      | true =>
        change 0 - Counter.entry .resolved counter +
          (outcome.entries counter + Counter.entry .resolved counter) = _
        rw [UInt64.add_comm (outcome.entries counter), ← UInt64.add_assoc, UInt64.sub_add_cancel,
          UInt64.zero_add]
      | false => exact (UInt64.zero_add _).trans (UInt64.add_zero _)
  | breakpoint =>
    refine Posts.after (fun _ => ?_) (Law.mending_charges.recordAt _ _ _)
    exact Posts.after (fun _ => posts_pure ⟨rfl, rfl⟩) (Law.obeys_modifyFrame _)
  | debug => exact Posts.after (fun _ => posts_pure ⟨rfl, rfl⟩) (Law.mending_charges.recordAt _ _ _)
  | _ => exact posts_fatalException hserves _

theorem posts_syscallTrap (convention : Convention) :
    kernel.Posts Settled (kernel.syscallTrap server cpu convention) := by
  have hend : ∀ result : CallResult, (Law.charges kernel).Obeys (do
      Dispatch.modifyFrame fun frame =>
        (frame.setReturnValue result.encode).advance convention.advance
      kernel.settle server
      return Outcome.syscall result) := by
    intro result
    refine Law.obeys_bind (Law.obeys_modifyFrame _) fun _ => ?_
    exact Law.obeys_bind (Law.mending_charges.settle (charges_schedule hserves)) fun _ =>
      Law.obeys_pure _
  have hgives : ∀ result : CallResult, Law.Gives (fun outcome => outcome = .syscall result) (do
      Dispatch.modifyFrame fun frame =>
        (frame.setReturnValue result.encode).advance convention.advance
      kernel.settle server
      return Outcome.syscall result : Dispatch σ Outcome) :=
    fun result => Law.gives_next fun _ => Law.gives_next fun _ => Law.gives_pure rfl
  unfold Kernel.syscallTrap
  refine Posts.after (fun frame => ?_) Law.obeys_frame
  refine Posts.after (fun result => ?_) (charges_interruptible hserves
    (Law.charges_systemCall hserves _ _))
  cases result with
  | ok value =>
    refine posts_giving (hend (.ok value)) fun state outcome after hrun => ?_
    rw [hgives (.ok value) state outcome after hrun]
    exact ⟨rfl, rfl⟩
  | error code =>
    refine (posts_count (fun stats counter => stats.read_recordError counter code)
      fun counter h => Counter.entry_of_isOfArrival h rfl).last (fun _ => ?_) fun _ => ?_
    · exact Law.obeys_bind (Law.mending_charges.recordAt _ _ _) fun _ => hend (.error code)
    · refine Law.gives_next fun _ state outcome after hrun timed due h => ?_
      rw [hgives (.error code) state outcome after hrun]
      exact h

end

end Kernel
end TrapDispatch
