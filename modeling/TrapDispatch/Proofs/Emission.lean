import TrapDispatch.Proofs.History

/-!
# What a computation does itself

The events that a computation adds to the journal, oldest first. What services do in
the course of a call stays within the event of the call; what is done within an
acknowledgement scope counts as done by the trap around it.
-/

namespace TrapDispatch

mutual

/-- The events of an activity; a scope stands for what is done within it. -/
def Activity.ownEvents : Activity → List Event
  | ⟨.scope _ _, _, inner, _⟩ => TrapDispatch.ownEvents inner
  | ⟨event, _, _, _⟩ => [event]

def ownEvents : List Activity → List Event
  | [] => []
  | x :: older => ownEvents older ++ x.ownEvents

end

theorem ownEvents_append (new old : List Activity) :
    ownEvents (new ++ old) = ownEvents old ++ ownEvents new := by
  induction new with
  | nil => exact (List.append_nil _).symm
  | cons x new ih => rw [List.cons_append, ownEvents, ih, ownEvents, List.append_assoc]

mutual

theorem Activity.ends_of_mem_ownEvents (x : Activity) {event : Event}
    (h : event ∈ x.ownEvents) : ∃ y, .ends y ∈ x.history ∧ y.event = event := by
  cases x with
  | mk kind before inner after =>
    cases kind with
    | scope irq claimed =>
      obtain ⟨y, hy, hevent⟩ := ends_of_mem_ownEvents inner h
      rw [Activity.history_eq]
      exact ⟨y, List.mem_cons_of_mem _ (List.mem_append_left _ hy), hevent⟩
    | _ =>
      rw [Activity.history_eq]
      exact ⟨_, List.mem_cons_self, (List.mem_singleton.mp h).symm⟩

theorem ends_of_mem_ownEvents (new : List Activity) {event : Event} (h : event ∈ ownEvents new) :
    ∃ y, .ends y ∈ history new ∧ y.event = event := by
  cases new with
  | nil => cases h
  | cons x older =>
    rw [ownEvents, List.mem_append] at h
    rw [history]
    rcases h with h | h
    · obtain ⟨y, hy, hevent⟩ := ends_of_mem_ownEvents older h
      exact ⟨y, List.mem_append_right _ hy, hevent⟩
    · obtain ⟨y, hy, hevent⟩ := Activity.ends_of_mem_ownEvents x h
      exact ⟨y, List.mem_append_left _ hy, hevent⟩

end

variable {σ α β : Type}

/-- Whether a machine has gone on from another by the given events. -/
def Adds (events : List Event) (a b : Machine σ) : Prop :=
  ∃ new, b.journal = new ++ a.journal ∧ ownEvents new = events

theorem Adds.still {a b : Machine σ} (h : b.journal = a.journal) : Adds [] a b :=
  ⟨[], h, rfl⟩

theorem Adds.trans {first second : List Event} {a b c : Machine σ} (hfirst : Adds first a b)
    (hsecond : Adds second b c) : Adds (first ++ second) a c := by
  obtain ⟨old, hold, rfl⟩ := hfirst
  obtain ⟨new, hnew, rfl⟩ := hsecond
  exact ⟨new ++ old, by rw [hnew, hold, List.append_assoc], ownEvents_append new old⟩

/-- Whether the events and the result of a computation, run from a state, are as
specified. -/
def EmitsAt (spec : List Event → Except Stop α → Prop) (body : Dispatch σ α)
    (state : Activation σ) : Prop :=
  match body state with
  | .ok value after => ∃ events, Adds events state.machine after.machine ∧ spec events (.ok value)
  | .error stop after => ∃ events, Adds events state.machine after.machine ∧ spec events (.error stop)

def Emits (spec : List Event → Except Stop α → Prop) (body : Dispatch σ α) : Prop :=
  ∀ state, EmitsAt spec body state

section

variable {spec : List Event → Except Stop α → Prop} {body : Dispatch σ α} {state : Activation σ}

theorem EmitsAt.returned {after : Activation σ} {value : α} (h : EmitsAt spec body state)
    (hrun : body state = .ok value after) :
    ∃ events, Adds events state.machine after.machine ∧ spec events (.ok value) := by
  unfold EmitsAt at h
  rw [hrun] at h
  exact h

theorem EmitsAt.stopped {after : Activation σ} {stop : Stop} (h : EmitsAt spec body state)
    (hrun : body state = .error stop after) :
    ∃ events, Adds events state.machine after.machine ∧ spec events (.error stop) := by
  unfold EmitsAt at h
  rw [hrun] at h
  exact h

/-- From an empty journal, the events are those of the journal that is left. -/
theorem EmitsAt.returned_own {after : Activation σ} {value : α} (h : EmitsAt spec body state)
    (hjournal : state.machine.journal = []) (hrun : body state = .ok value after) :
    spec (ownEvents after.machine.journal) (.ok value) := by
  obtain ⟨_, ⟨new, hnew, rfl⟩, hspec⟩ := h.returned hrun
  rw [hnew, hjournal, List.append_nil]
  exact hspec

theorem EmitsAt.stopped_own {after : Activation σ} {stop : Stop} (h : EmitsAt spec body state)
    (hjournal : state.machine.journal = []) (hrun : body state = .error stop after) :
    spec (ownEvents after.machine.journal) (.error stop) := by
  obtain ⟨_, ⟨new, hnew, rfl⟩, hspec⟩ := h.stopped hrun
  rw [hnew, hjournal, List.append_nil]
  exact hspec

theorem emitsAt_of_ok {after : Activation σ} {value : α} {events : List Event}
    (hrun : body state = .ok value after) (hadds : Adds events state.machine after.machine)
    (h : spec events (.ok value)) : EmitsAt spec body state := by
  unfold EmitsAt
  rw [hrun]
  exact ⟨events, hadds, h⟩

theorem emitsAt_of_error {after : Activation σ} {stop : Stop} {events : List Event}
    (hrun : body state = .error stop after) (hadds : Adds events state.machine after.machine)
    (h : spec events (.error stop)) : EmitsAt spec body state := by
  unfold EmitsAt
  rw [hrun]
  exact ⟨events, hadds, h⟩

theorem EmitsAt.mono {weaker : List Event → Except Stop α → Prop} (h : EmitsAt spec body state)
    (hspec : ∀ events result, spec events result → weaker events result) :
    EmitsAt weaker body state := by
  cases hrun : body state with
  | ok value after =>
    obtain ⟨events, hadds, hevents⟩ := h.returned hrun
    exact emitsAt_of_ok hrun hadds (hspec _ _ hevents)
  | error stop after =>
    obtain ⟨events, hadds, hevents⟩ := h.stopped hrun
    exact emitsAt_of_error hrun hadds (hspec _ _ hevents)

theorem Emits.mono {weaker : List Event → Except Stop α → Prop} (h : Emits spec body)
    (hspec : ∀ events result, spec events result → weaker events result) : Emits weaker body :=
  fun state => (h state).mono hspec

end

section

variable {first : List Event → Except Stop α → Prop}
  {spec : List Event → Except Stop β → Prop}
  {body : Dispatch σ α} {next : α → Dispatch σ β} {state : Activation σ}

theorem EmitsAt.bind (hbody : EmitsAt first body state)
    (second : α → List Event → Except Stop β → Prop)
    (hnext : ∀ value after, body state = .ok value after → EmitsAt (second value) (next value) after)
    (hreturned : ∀ events value later result, first events (.ok value) → second value later result →
      spec (events ++ later) result)
    (hstopped : ∀ events stop, first events (.error stop) → spec events (.error stop)) :
    EmitsAt spec (body >>= next) state := by
  cases hrun : body state with
  | ok value middle =>
    obtain ⟨events, hadds, hevents⟩ := hbody.returned hrun
    have hrest := hnext value middle hrun
    cases hend : next value middle with
    | ok last after =>
      obtain ⟨later, hlater, hspec⟩ := hrest.returned hend
      exact emitsAt_of_ok ((Dispatch.bind_of_ok hrun).trans hend) (hadds.trans hlater)
        (hreturned _ _ _ _ hevents hspec)
    | error stop after =>
      obtain ⟨later, hlater, hspec⟩ := hrest.stopped hend
      exact emitsAt_of_error ((Dispatch.bind_of_ok hrun).trans hend) (hadds.trans hlater)
        (hreturned _ _ _ _ hevents hspec)
  | error stop middle =>
    obtain ⟨events, hadds, hevents⟩ := hbody.stopped hrun
    exact emitsAt_of_error (Dispatch.bind_of_error hrun) hadds (hstopped _ _ hevents)

theorem Emits.bind (hbody : Emits first body) (second : α → List Event → Except Stop β → Prop)
    (hnext : ∀ value, Emits (second value) (next value))
    (hreturned : ∀ events value later result, first events (.ok value) → second value later result →
      spec (events ++ later) result)
    (hstopped : ∀ events stop, first events (.error stop) → spec events (.error stop)) :
    Emits spec (body >>= next) :=
  fun state => (hbody state).bind second (fun value after _ => hnext value after) hreturned hstopped

theorem emitsAt_next {middle : Activation σ} (value : α) (hrun : body state = .ok value middle)
    (hjournal : middle.machine.journal = state.machine.journal)
    (hnext : EmitsAt spec (next value) middle) : EmitsAt spec (body >>= next) state := by
  have hstill : Adds [] state.machine middle.machine := .still hjournal
  cases hend : next value middle with
  | ok last after =>
    obtain ⟨events, hadds, hspec⟩ := hnext.returned hend
    exact emitsAt_of_ok ((Dispatch.bind_of_ok hrun).trans hend) (hstill.trans hadds) hspec
  | error stop after =>
    obtain ⟨events, hadds, hspec⟩ := hnext.stopped hend
    exact emitsAt_of_error ((Dispatch.bind_of_ok hrun).trans hend) (hstill.trans hadds) hspec

end

/-- Whether a computation always returns, and leaves the journal alone. -/
def Silent (body : Dispatch σ α) : Prop :=
  ∀ state, ∃ value after, body state = .ok value after ∧
    after.machine.journal = state.machine.journal

theorem silent_pure (value : α) : Silent (pure value : Dispatch σ α) :=
  fun state => ⟨value, state, rfl, rfl⟩

theorem silent_frame : Silent (Dispatch.frame (σ := σ)) :=
  fun state => ⟨state.frame, state, rfl, rfl⟩

theorem silent_machine : Silent (Dispatch.machine (σ := σ)) :=
  fun state => ⟨state.machine, state, rfl, rfl⟩

theorem silent_modifyFrame (change : Frame → Frame) :
    Silent (Dispatch.modifyFrame (σ := σ) change) :=
  fun _ => ⟨(), _, rfl, rfl⟩

theorem silent_modifyMachine {change : Machine σ → Machine σ}
    (h : ∀ a, (change a).journal = a.journal) : Silent (Dispatch.modifyMachine change) :=
  fun state => ⟨(), _, rfl, h state.machine⟩

theorem silent_recordAt (level : Level) (target text : String) :
    Silent (recordAt level target text : Dispatch σ Unit) := by
  unfold recordAt
  exact silent_modifyMachine fun _ => rfl

theorem silent_count (change : Stats → Stats) : Silent (Dispatch.count (σ := σ) change) :=
  silent_modifyMachine fun _ => rfl

theorem silent_setSlot (cpu : Fin maxCpus) (change : CpuSlot → CpuSlot) :
    Silent (Dispatch.setSlot (σ := σ) cpu change) :=
  silent_modifyMachine fun _ => rfl

theorem Silent.bind {body : Dispatch σ α} {next : α → Dispatch σ β} (hbody : Silent body)
    (hnext : ∀ value, Silent (next value)) : Silent (body >>= next) := by
  intro state
  obtain ⟨value, middle, hrun, hjournal⟩ := hbody state
  obtain ⟨last, after, hend, hlast⟩ := hnext value middle
  exact ⟨last, after, (Dispatch.bind_of_ok hrun).trans hend, hlast.trans hjournal⟩

theorem Silent.ite {c : Prop} {_ : Decidable c} {first second : Dispatch σ α}
    (hfirst : Silent first) (hsecond : Silent second) : Silent (if c then first else second) := by
  split
  · exact hfirst
  · exact hsecond

theorem Silent.emits {body : Dispatch σ α} (h : Silent body) :
    Emits (fun events result => events = [] ∧ ∃ value, result = .ok value) body := by
  intro state
  obtain ⟨value, after, hrun, hjournal⟩ := h state
  exact emitsAt_of_ok hrun (.still hjournal) ⟨rfl, value, rfl⟩

section

variable {spec : List Event → Except Stop β → Prop} {body : Dispatch σ α}
  {next : α → Dispatch σ β}

theorem Silent.followed (hbody : Silent body) (hnext : ∀ value, Emits spec (next value)) :
    Emits spec (body >>= next) := by
  intro state
  obtain ⟨value, middle, hrun, hjournal⟩ := hbody state
  exact emitsAt_next value hrun hjournal (hnext value middle)

theorem Silent.when {c : Prop} {_ : Decidable c} {step : Dispatch σ Unit}
    {rest : Unit → Dispatch σ β} (hstep : Silent step) (hrest : Emits spec (rest ())) :
    Emits spec (if c then step >>= rest else rest ()) := by
  split
  · exact hstep.followed fun _ => hrest
  · exact hrest

/-- Steps that leave the journal alone change nothing in what was done before them. -/
theorem EmitsAt.silently {first : List Event → Except Stop α → Prop} {state : Activation σ}
    (hbody : EmitsAt first body state) (hnext : ∀ value, Silent (next value))
    (hreturned : ∀ events value last, first events (.ok value) → spec events (.ok last))
    (hstopped : ∀ events stop, first events (.error stop) → spec events (.error stop)) :
    EmitsAt spec (body >>= next) state := by
  refine hbody.bind _ (fun value after _ => (hnext value).emits after) ?_ hstopped
  rintro events value later result hfirst ⟨rfl, last, rfl⟩
  rw [List.append_nil]
  exact hreturned events value last hfirst

theorem Emits.silently {first : List Event → Except Stop α → Prop}
    (hbody : Emits first body) (hnext : ∀ value, Silent (next value))
    (hreturned : ∀ events value last, first events (.ok value) → spec events (.ok last))
    (hstopped : ∀ events stop, first events (.error stop) → spec events (.error stop)) :
    Emits spec (body >>= next) :=
  fun state => (hbody state).silently hnext hreturned hstopped

end

theorem emits_pure (value : α) :
    Emits (fun events result => events = [] ∧ result = .ok value) (pure value : Dispatch σ α) :=
  fun _ => emitsAt_of_ok rfl (.still rfl) ⟨rfl, rfl⟩

theorem emits_fatal (text : String) :
    Emits (fun events result => events = [] ∧ result = .error (.panic text))
      (Dispatch.fatal text : Dispatch σ α) :=
  (silent_recordAt _ _ _).followed fun _ _ => emitsAt_of_error rfl (.still rfl) ⟨rfl, rfl⟩

theorem emits_withRegistry (change : Registry → α × Registry) :
    Emits (fun events result => events = [] ∧
      ((∃ value, result = .ok value) ∨ result = .error .deadlock))
      (Dispatch.withRegistry (σ := σ) change) := by
  intro state
  cases hlocked : state.machine.registryLocked with
  | true =>
    have hrun := Dispatch.withRegistry_of_locked change hlocked
    exact emitsAt_of_error hrun (.still rfl) ⟨rfl, Or.inr rfl⟩
  | false =>
    have hrun := Dispatch.withRegistry_of_unlocked change hlocked
    exact emitsAt_of_ok hrun (.still rfl) ⟨rfl, Or.inl ⟨_, rfl⟩⟩

theorem emits_during {event : Except Stop α → Event} (body : Dispatch σ α)
    (hevent : ∀ result irq claimed, event result ≠ .scope irq claimed) :
    Emits (fun events result => events = [event result]) (Dispatch.during event body) := by
  have hown : ∀ (a b : Machine σ) result, Adds [event result] a (a.closing b (event result)) := by
    intro a b result
    refine ⟨[⟨event result, a.slots, b.journal, b.slots⟩], rfl, ?_⟩
    have hne := hevent result
    cases hcase : event result with
    | scope irq claimed => exact absurd hcase (hne irq claimed)
    | _ => rfl
  intro state
  cases hrun : body { state with machine.journal := [] } with
  | ok value after =>
    exact emitsAt_of_ok (Dispatch.during_of_ok hrun) (hown state.machine after.machine _) rfl
  | error stop after =>
    exact emitsAt_of_error (Dispatch.during_of_error hrun) (hown state.machine after.machine _) rfl

theorem emits_scope {irq : Irq} {body : Dispatch σ Bool} {spec : List Event → Except Stop Bool → Prop}
    (hbody : Emits spec body) : Emits spec (Dispatch.during (.scope irq) body) := by
  have hown : ∀ (a b : Machine σ) events result, Adds events { a with journal := [] } b →
      Adds events a (a.closing b (.scope irq result)) := by
    rintro a b events result ⟨new, hnew, rfl⟩
    rw [List.append_nil] at hnew
    exact ⟨[⟨.scope irq result, a.slots, b.journal, b.slots⟩], rfl, by rw [hnew]; rfl⟩
  intro state
  have hinner := hbody { state with machine.journal := [] }
  cases hrun : body { state with machine.journal := [] } with
  | ok value after =>
    obtain ⟨events, hadds, hspec⟩ := hinner.returned hrun
    exact emitsAt_of_ok (Dispatch.during_of_ok hrun) (hown _ _ _ _ hadds) hspec
  | error stop after =>
    obtain ⟨events, hadds, hspec⟩ := hinner.stopped hrun
    exact emitsAt_of_error (Dispatch.during_of_error hrun) (hown _ _ _ _ hadds) hspec

theorem emits_note {event : Event} (hevent : ∀ irq claimed, event ≠ .scope irq claimed) :
    Emits (fun events result => events = [event] ∧ result = .ok ())
      (Dispatch.note (σ := σ) event) := by
  intro state
  refine emitsAt_of_ok rfl ⟨[⟨event, state.machine.slots, [], state.machine.slots⟩], rfl, ?_⟩
    ⟨rfl, rfl⟩
  cases hcase : event with
  | scope irq claimed => exact absurd hcase (hevent irq claimed)
  | _ => rfl

theorem Emits.unwinding {body : Dispatch σ α} {cleanup : Dispatch σ Unit}
    {first spec : List Event → Except Stop α → Prop} {last : List Event → Except Stop Unit → Prop}
    (hbody : Emits first body) (hcleanup : Emits last cleanup)
    (hreturned : ∀ events value, first events (.ok value) → spec events (.ok value))
    (hstopped : ∀ events stop, (∀ message, stop ≠ .panic message) → first events (.error stop) →
      spec events (.error stop))
    (hunwound : ∀ events message later, first events (.error (.panic message)) →
      last later (.ok ()) → spec (events ++ later) (.error (.panic message)))
    (hfailed : ∀ events message later why stop, first events (.error (.panic message)) →
      last later (.error why) → (∀ text, stop ≠ .panic text) →
      spec (events ++ later) (.error stop)) : Emits spec (TrapDispatch.unwinding body cleanup) := by
  intro state
  cases hrun : body state with
  | ok value middle =>
    obtain ⟨events, hadds, hfirst⟩ := (hbody state).returned hrun
    exact emitsAt_of_ok (unwinding_of_ok hrun) hadds (hreturned _ _ hfirst)
  | error stop middle =>
    obtain ⟨events, hadds, hfirst⟩ := (hbody state).stopped hrun
    by_cases hpanic : ∃ message, stop = .panic message
    · obtain ⟨message, rfl⟩ := hpanic
      cases hend : cleanup middle with
      | ok done after =>
        obtain ⟨later, hlater, hlast⟩ := (hcleanup middle).returned hend
        exact emitsAt_of_error (unwinding_of_panic hrun hend) (hadds.trans hlater)
          (hunwound _ _ _ hfirst hlast)
      | error why after =>
        obtain ⟨later, hlater, hlast⟩ := (hcleanup middle).stopped hend
        obtain ⟨stop, hstop, hunwinding⟩ := unwinding_of_failure hrun hend
        exact emitsAt_of_error hunwinding (hadds.trans hlater) (hfailed _ _ _ _ _ hfirst hlast hstop)
    · have hstop : ∀ message, stop ≠ .panic message := fun message h => hpanic ⟨message, h⟩
      exact emitsAt_of_error (unwinding_of_stop hrun hstop) hadds (hstopped _ _ hstop hfirst)

theorem EmitsAt.keeping {spec : List Event → Except Stop α → Prop} {body : Dispatch σ α}
    {next : α → Dispatch σ α} {state : Activation σ} (hbody : EmitsAt spec body state)
    (hnext : ∀ value, Emits (fun events result => events = [] ∧ result = .ok value) (next value)) :
    EmitsAt spec (body >>= next) state := by
  refine hbody.bind _ (fun value after _ => hnext value after) ?_ fun _ _ h => h
  rintro events value _ _ hspec ⟨rfl, rfl⟩
  rw [List.append_nil]
  exact hspec

theorem EmitsAt.and {first second : List Event → Except Stop α → Prop} {body : Dispatch σ α}
    {state : Activation σ} (hfirst : EmitsAt first body state) (hsecond : EmitsAt second body state) :
    EmitsAt (fun events result => first events result ∧ second events result) body state := by
  have hsame : ∀ {events others : List Event} {after : Machine σ},
      Adds events state.machine after → Adds others state.machine after → others = events := by
    rintro events others after ⟨new, hnew, rfl⟩ ⟨new', hnew', rfl⟩
    rw [List.append_cancel_right (hnew'.symm.trans hnew)]
  cases hrun : body state with
  | ok value after =>
    obtain ⟨events, hadds, h⟩ := hfirst.returned hrun
    obtain ⟨others, hothers, h'⟩ := hsecond.returned hrun
    rw [hsame hadds hothers] at h'
    exact emitsAt_of_ok hrun hadds ⟨h, h'⟩
  | error stop after =>
    obtain ⟨events, hadds, h⟩ := hfirst.stopped hrun
    obtain ⟨others, hothers, h'⟩ := hsecond.stopped hrun
    rw [hsame hadds hothers] at h'
    exact emitsAt_of_error hrun hadds ⟨h, h'⟩

theorem Emits.gives {spec : List Event → Except Stop α → Prop} {property : α → Prop}
    {body : Dispatch σ α} (h : Emits spec body) (hgives : Law.Gives property body) :
    Emits (fun events result => spec events result ∧ ∀ value, result = .ok value → property value)
      body := by
  intro state
  cases hrun : body state with
  | ok value after =>
    obtain ⟨events, hadds, hspec⟩ := (h state).returned hrun
    refine emitsAt_of_ok hrun hadds ⟨hspec, ?_⟩
    rintro _ ⟨⟩
    exact hgives state value after hrun
  | error stop after =>
    obtain ⟨events, hadds, hspec⟩ := (h state).stopped hrun
    exact emitsAt_of_error hrun hadds ⟨hspec, fun _ h => by cases h⟩

end TrapDispatch
