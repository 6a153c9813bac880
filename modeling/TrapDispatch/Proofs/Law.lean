import TrapDispatch.Proofs.Disciplines

/-!
# Laws of computations

A law relates the machine before a computation with the machine after it, in one
way if the computation returns and in another if it is cut short. A law that the
parts of a computation obey is obeyed by the whole, however the parts are put
together: one after the other, under a cleanup, in a repetition, or as a program
whose requests are served one by one.
-/

namespace TrapDispatch

namespace Dispatch

variable {σ α β : Type} {body : Dispatch σ α} {next : α → Dispatch σ β} {state : Activation σ}

theorem bind_of_ok {value : α} {middle : Activation σ} (h : body state = .ok value middle) :
    (body >>= next) state = next value middle := by
  change EStateM.bind body next state = next value middle
  unfold EStateM.bind
  rw [h]

theorem bind_of_error {stop : Stop} {middle : Activation σ} (h : body state = .error stop middle) :
    (body >>= next) state = .error stop middle := by
  change EStateM.bind body next state = .error stop middle
  unfold EStateM.bind
  rw [h]

theorem during_of_ok {event : Except Stop α → Event} {value : α} {after : Activation σ}
    (h : body { state with machine.journal := [] } = .ok value after) :
    during event body state = .ok value
      { after with machine := state.machine.closing after.machine (event (.ok value)) } := by
  unfold during
  rw [h]

theorem during_of_error {event : Except Stop α → Event} {stop : Stop} {after : Activation σ}
    (h : body { state with machine.journal := [] } = .error stop after) :
    during event body state = .error stop
      { after with machine := state.machine.closing after.machine (event (.error stop)) } := by
  unfold during
  rw [h]

section

variable (change : Registry → α × Registry) {state : Activation σ}

theorem withRegistry_of_locked (h : state.machine.registryLocked = true) :
    withRegistry change state = .error .deadlock state := by
  have hmachine : machine state = .ok state.machine state := rfl
  unfold withRegistry
  rw [bind_of_ok hmachine, if_pos h]
  rfl

theorem withRegistry_of_unlocked (h : state.machine.registryLocked = false) :
    withRegistry change state = .ok (change state.machine.registry).1
      { state with
        machine.registry := (change state.machine.registry).2
        machine.registryLocked := false } := by
  have hmachine : machine state = .ok state.machine state := rfl
  unfold withRegistry
  rw [bind_of_ok hmachine, if_neg (by simp [h])]
  rfl

end

end Dispatch

section

variable {s α : Type} {body : EStateM Stop s α} {cleanup : EStateM Stop s Unit}
  {state middle after : s}

theorem unwinding_of_ok {value : α} (h : body state = .ok value middle) :
    unwinding body cleanup state = .ok value middle := by
  unfold unwinding
  rw [h]

theorem unwinding_of_stop {stop : Stop} (h : body state = .error stop middle)
    (hstop : ∀ message, stop ≠ .panic message) :
    unwinding body cleanup state = .error stop middle := by
  unfold unwinding
  rw [h]
  cases stop with
  | panic message => exact absurd rfl (hstop message)
  | _ => rfl

theorem unwinding_of_panic {message : String} {done : Unit}
    (h : body state = .error (.panic message) middle) (hcleanup : cleanup middle = .ok done after) :
    unwinding body cleanup state = .error (.panic message) after := by
  unfold unwinding
  simp only [h, hcleanup]

/-- A cleanup that fails ends in no panic. -/
theorem unwinding_of_failure {message : String} {why : Stop}
    (h : body state = .error (.panic message) middle) (hcleanup : cleanup middle = .error why after) :
    ∃ stop, (∀ text, stop ≠ .panic text) ∧ unwinding body cleanup state = .error stop after := by
  unfold unwinding
  simp only [h, hcleanup]
  cases why with
  | panic text => exact ⟨.abort, by simp, rfl⟩
  | _ => exact ⟨_, by simp, rfl⟩

end

/-- What a computation does to the machine. -/
structure Law (σ : Type) where
  returns : Machine σ → Machine σ → Prop
  stops : Machine σ → Machine σ → Prop
  refl (a : Machine σ) : returns a a
  trans {a b c : Machine σ} : returns a b → returns b c → returns a c
  weaken {a b : Machine σ} : returns a b → stops a b
  trans_stops {a b c : Machine σ} : returns a b → stops b c → stops a c

namespace Law

variable {σ α β : Type} {law : Law σ}

/-- Whether the run of a computation from a state leads from one machine to another
as `returns` says if it returns, and as `stops` says if it does not. -/
def LeadsAt (returns stops : Machine σ → Machine σ → Prop) (body : Dispatch σ α)
    (state : Activation σ) : Prop :=
  match body state with
  | .ok _ after => returns state.machine after.machine
  | .error _ after => stops state.machine after.machine

def Leads (returns stops : Machine σ → Machine σ → Prop) (body : Dispatch σ α) : Prop :=
  ∀ state, LeadsAt returns stops body state

theorem LeadsAt.returned {returns stops : Machine σ → Machine σ → Prop} {body : Dispatch σ α}
    {state after : Activation σ} {value : α} (h : LeadsAt returns stops body state)
    (hrun : body state = .ok value after) : returns state.machine after.machine := by
  unfold LeadsAt at h
  rw [hrun] at h
  exact h

theorem LeadsAt.stopped {returns stops : Machine σ → Machine σ → Prop} {body : Dispatch σ α}
    {state after : Activation σ} {stop : Stop} (h : LeadsAt returns stops body state)
    (hrun : body state = .error stop after) : stops state.machine after.machine := by
  unfold LeadsAt at h
  rw [hrun] at h
  exact h

theorem leadsAt_of_ok {returns stops : Machine σ → Machine σ → Prop} {body : Dispatch σ α}
    {state after : Activation σ} {value : α} (hrun : body state = .ok value after)
    (h : returns state.machine after.machine) : LeadsAt returns stops body state := by
  unfold LeadsAt
  rw [hrun]
  exact h

theorem leadsAt_of_error {returns stops : Machine σ → Machine σ → Prop} {body : Dispatch σ α}
    {state after : Activation σ} {stop : Stop} (hrun : body state = .error stop after)
    (h : stops state.machine after.machine) : LeadsAt returns stops body state := by
  unfold LeadsAt
  rw [hrun]
  exact h

theorem LeadsAt.mono {first cut returns stops : Machine σ → Machine σ → Prop}
    {body : Dispatch σ α} {state : Activation σ} (h : LeadsAt first cut body state)
    (hreturns : ∀ b, first state.machine b → returns state.machine b)
    (hstops : ∀ b, cut state.machine b → stops state.machine b) :
    LeadsAt returns stops body state := by
  cases hrun : body state with
  | ok value after => exact leadsAt_of_ok hrun (hreturns _ (h.returned hrun))
  | error stop after => exact leadsAt_of_error hrun (hstops _ (h.stopped hrun))

def Obeys (law : Law σ) (body : Dispatch σ α) : Prop :=
  Leads law.returns law.stops body

/-- Whether every value that a computation gives has a property. -/
def Gives (property : α → Prop) (body : Dispatch σ α) : Prop :=
  ∀ state value after, body state = .ok value after → property value

/-- Whether the law says nothing of data other than dispatch states and journal. -/
def Quiet (law : Law σ) : Prop :=
  ∀ a b : Machine σ, b.slots = a.slots → b.journal = a.journal → law.returns a b

/-- Whether what obeys the law `after` may follow where a computation was cut short. -/
def Unwinds (law after : Law σ) : Prop :=
  ∀ a b c : Machine σ, law.stops a b → after.stops b c → law.stops a c

theorem gives_true (body : Dispatch σ α) : Gives (fun _ => True) body :=
  fun _ _ _ _ => trivial

theorem gives_bind {first : α → Prop} {second : β → Prop} {body : Dispatch σ α}
    {next : α → Dispatch σ β} (hbody : Gives first body)
    (hnext : ∀ value, first value → Gives second (next value)) : Gives second (body >>= next) := by
  intro state value after h
  cases hrun : body state with
  | ok between middle =>
    rw [Dispatch.bind_of_ok hrun] at h
    exact hnext between (hbody state between middle hrun) middle value after h
  | error stop middle =>
    rw [Dispatch.bind_of_error hrun] at h
    cases h

theorem gives_next {property : β → Prop} {body : Dispatch σ α} {next : α → Dispatch σ β}
    (hnext : ∀ value, Gives property (next value)) : Gives property (body >>= next) :=
  gives_bind (gives_true body) fun value _ => hnext value

theorem gives_pure {property : α → Prop} {value : α} (h : property value) :
    Gives property (pure value : Dispatch σ α) := by
  rintro state _ _ ⟨⟩
  exact h

theorem gives_fatal {property : α → Prop} (text : String) :
    Gives property (Dispatch.fatal text : Dispatch σ α) := by
  intro state value after h
  cases h

theorem gives_ite {property : α → Prop} {c : Prop} {_ : Decidable c} {first second : Dispatch σ α}
    (hfirst : Gives property first) (hsecond : Gives property second) :
    Gives property (if c then first else second) := by
  split
  · exact hfirst
  · exact hsecond

theorem gives_when {property : β → Prop} {c : Prop} {_ : Decidable c} {step : Dispatch σ Unit}
    {next : Unit → Dispatch σ β} (hnext : Gives property (next ())) :
    Gives property (if c then step >>= next else next ()) :=
  gives_ite (gives_next fun _ => hnext) hnext

theorem gives_unwinding {property : α → Prop} {body : Dispatch σ α} {cleanup : Dispatch σ Unit}
    (hbody : Gives property body) : Gives property (unwinding body cleanup) := by
  intro state value after h
  unfold unwinding at h
  split at h
  · split at h <;> cases h
  · exact hbody state value after h

section

variable {first second both cut rest fails : Machine σ → Machine σ → Prop}

theorem Leads.bind_gives {property : α → Prop} {body : Dispatch σ α} {next : α → Dispatch σ β}
    (hbody : Leads first cut body) (hgives : Gives property body)
    (hnext : ∀ value, property value → Leads second rest (next value))
    (hboth : ∀ a b c, first a b → second b c → both a c) (hcut : ∀ a b, cut a b → fails a b)
    (hrest : ∀ a b c, first a b → rest b c → fails a c) : Leads both fails (body >>= next) := by
  intro state
  cases hrun : body state with
  | ok value middle =>
    have hfirst := (hbody state).returned hrun
    have hsecond := hnext value (hgives state value middle hrun) middle
    cases hend : next value middle with
    | ok last after =>
      have h := hboth _ _ _ hfirst (hsecond.returned hend)
      exact leadsAt_of_ok ((Dispatch.bind_of_ok hrun).trans hend) h
    | error stop after =>
      have h := hrest _ _ _ hfirst (hsecond.stopped hend)
      exact leadsAt_of_error ((Dispatch.bind_of_ok hrun).trans hend) h
  | error stop middle =>
    have h := hcut _ _ ((hbody state).stopped hrun)
    exact leadsAt_of_error (Dispatch.bind_of_error hrun) h

theorem Leads.bind {body : Dispatch σ α} {next : α → Dispatch σ β} (hbody : Leads first cut body)
    (hnext : ∀ value, Leads second rest (next value))
    (hboth : ∀ a b c, first a b → second b c → both a c) (hcut : ∀ a b, cut a b → fails a b)
    (hrest : ∀ a b c, first a b → rest b c → fails a c) : Leads both fails (body >>= next) :=
  hbody.bind_gives (gives_true body) (fun value _ => hnext value) hboth hcut hrest

theorem leads_modifyMachine {change : Machine σ → Machine σ} (h : ∀ a, both a (change a)) :
    Leads both fails (Dispatch.modifyMachine change) :=
  fun state => h state.machine

/-- An activity closes over what its computation did. -/
theorem LeadsAt.during {event : Except Stop α → Event} {body : Dispatch σ α} {state : Activation σ}
    (hbody : LeadsAt first cut body { state with machine.journal := [] })
    (hreturns : ∀ value after, body { state with machine.journal := [] } = .ok value after →
      first { state.machine with journal := [] } after.machine →
      both state.machine (state.machine.closing after.machine (event (.ok value))))
    (hstops : ∀ stop after, body { state with machine.journal := [] } = .error stop after →
      cut { state.machine with journal := [] } after.machine →
      fails state.machine (state.machine.closing after.machine (event (.error stop)))) :
    LeadsAt both fails (Dispatch.during event body) state := by
  cases hrun : body { state with machine.journal := [] } with
  | ok value after =>
    exact leadsAt_of_ok (Dispatch.during_of_ok hrun) (hreturns value after hrun (hbody.returned hrun))
  | error stop after =>
    exact leadsAt_of_error (Dispatch.during_of_error hrun)
      (hstops stop after hrun (hbody.stopped hrun))

theorem Leads.during {event : Except Stop α → Event} {body : Dispatch σ α}
    (hbody : Leads first cut body)
    (hreturns : ∀ a b value, first { a with journal := [] } b →
      both a (a.closing b (event (.ok value))))
    (hstops : ∀ a b stop, cut { a with journal := [] } b →
      fails a (a.closing b (event (.error stop)))) :
    Leads both fails (Dispatch.during event body) :=
  fun state => (hbody _).during (fun value after _ => hreturns state.machine after.machine value)
    fun stop after _ => hstops state.machine after.machine stop

end

theorem obeys_pure (value : α) : law.Obeys (pure value : Dispatch σ α) :=
  fun state => law.refl state.machine

theorem obeys_throw (stop : Stop) : law.Obeys (throw stop : Dispatch σ α) :=
  fun state => law.weaken (law.refl state.machine)

theorem obeys_bind {body : Dispatch σ α} {next : α → Dispatch σ β} (hbody : law.Obeys body)
    (hnext : ∀ value, law.Obeys (next value)) : law.Obeys (body >>= next) :=
  hbody.bind hnext (fun _ _ _ => law.trans) (fun _ _ h => h) fun _ _ _ => law.trans_stops

theorem obeys_bind_gives {property : α → Prop} {body : Dispatch σ α} {next : α → Dispatch σ β}
    (hgives : Gives property body) (hbody : law.Obeys body)
    (hnext : ∀ value, property value → law.Obeys (next value)) : law.Obeys (body >>= next) :=
  hbody.bind_gives hgives hnext (fun _ _ _ => law.trans) (fun _ _ h => h)
    fun _ _ _ => law.trans_stops

theorem obeys_ite {c : Prop} {_ : Decidable c} {first second : Dispatch σ α}
    (hfirst : law.Obeys first) (hsecond : law.Obeys second) :
    law.Obeys (if c then first else second) := by
  split
  · exact hfirst
  · exact hsecond

theorem obeys_when {c : Prop} {_ : Decidable c} {step : Dispatch σ Unit}
    {next : Unit → Dispatch σ β} (hstep : c → law.Obeys step) (hnext : law.Obeys (next ())) :
    law.Obeys (if c then step >>= next else next ()) := by
  split
  case isTrue h => exact obeys_bind (hstep h) fun _ => hnext
  case isFalse => exact hnext

theorem obeys_frame : law.Obeys (Dispatch.frame (σ := σ)) :=
  fun state => law.refl state.machine

theorem obeys_requests : law.Obeys (Dispatch.requests (σ := σ)) :=
  fun state => law.refl state.machine

theorem obeys_machine : law.Obeys (Dispatch.machine (σ := σ)) :=
  fun state => law.refl state.machine

theorem obeys_modifyFrame (change : Frame → Frame) :
    law.Obeys (Dispatch.modifyFrame (σ := σ) change) :=
  fun state => law.refl state.machine

theorem obeys_modifyRequests (change : CallRequests → CallRequests) :
    law.Obeys (Dispatch.modifyRequests (σ := σ) change) :=
  fun state => law.refl state.machine

theorem obeys_modifyMachine {change : Machine σ → Machine σ}
    (h : ∀ a, law.returns a (change a)) : law.Obeys (Dispatch.modifyMachine change) :=
  fun state => h state.machine

theorem Quiet.record (hquiet : law.Quiet) (r : Record) :
    law.Obeys (TrapDispatch.record r : Dispatch σ Unit) :=
  obeys_modifyMachine fun a => hquiet a _ rfl rfl

theorem Quiet.recordAt (hquiet : law.Quiet) (level : Level) (target text : String) :
    law.Obeys (TrapDispatch.recordAt level target text : Dispatch σ Unit) :=
  hquiet.record _

theorem Quiet.count (hquiet : law.Quiet) (change : Stats → Stats) :
    law.Obeys (Dispatch.count (σ := σ) change) :=
  obeys_modifyMachine fun a => hquiet a _ rfl rfl

theorem Quiet.withRegistry (hquiet : law.Quiet) (change : Registry → α × Registry) :
    law.Obeys (Dispatch.withRegistry (σ := σ) change) := by
  have hchange : ∀ f : Machine σ → Machine σ, (∀ a, (f a).slots = a.slots) →
      (∀ a, (f a).journal = a.journal) → law.Obeys (Dispatch.modifyMachine f) :=
    fun f hslots hjournal => obeys_modifyMachine fun a => hquiet a _ (hslots a) (hjournal a)
  unfold Dispatch.withRegistry
  apply obeys_bind obeys_machine
  intro machine
  refine obeys_when (fun _ => obeys_throw _) ?_
  refine obeys_bind (hchange _ (fun _ => rfl) fun _ => rfl) fun _ => ?_
  apply obeys_bind obeys_machine
  intro machine
  exact obeys_bind (hchange _ (fun _ => rfl) fun _ => rfl) fun _ => obeys_pure _

theorem obeys_onFrame {frame : Frame} {body : Dispatch σ α} (hbody : law.Obeys body) :
    law.Obeys (Dispatch.onFrame frame body) := by
  intro state
  have hinner := hbody { state with frame, requests := {} }
  unfold LeadsAt Dispatch.onFrame
  cases hrun : body { state with frame, requests := {} } with
  | ok value inner =>
    have hreturned := hinner.returned hrun
    exact hreturned
  | error stop inner =>
    have hstopped := hinner.stopped hrun
    exact hstopped

/-- A cleanup may run where a computation was cut short. -/
theorem obeys_unwinding {after : Law σ} {body : Dispatch σ α} {cleanup : Dispatch σ Unit}
    (hunwinds : law.Unwinds after) (hbody : law.Obeys body) (hcleanup : after.Obeys cleanup) :
    law.Obeys (unwinding body cleanup) := by
  intro state
  cases hrun : body state with
  | ok value middle => exact leadsAt_of_ok (unwinding_of_ok hrun) ((hbody state).returned hrun)
  | error stop middle =>
    have hcut := (hbody state).stopped hrun
    -- Only a panic unwinds; after every other end the machine stays as it is.
    by_cases hpanic : ∃ message, stop = .panic message
    · obtain ⟨message, rfl⟩ := hpanic
      cases hend : cleanup middle with
      | ok done last =>
        have hlast := after.weaken ((hcleanup middle).returned hend)
        exact leadsAt_of_error (unwinding_of_panic hrun hend) (hunwinds _ _ _ hcut hlast)
      | error why last =>
        have hlast := (hcleanup middle).stopped hend
        obtain ⟨stop, -, hunwinding⟩ := unwinding_of_failure hrun hend
        exact leadsAt_of_error hunwinding (hunwinds _ _ _ hcut hlast)
    · have hstop : ∀ message, stop ≠ .panic message := fun message h => hpanic ⟨message, h⟩
      exact leadsAt_of_error (unwinding_of_stop hrun hstop) hcut

def discipline (law : Law σ) : Discipline σ where
  Keeps := law.Obeys
  pure := obeys_pure
  panic _ := obeys_throw _
  bind := obeys_bind

theorem resilient (hunwinds : law.Unwinds law) : law.discipline.Resilient :=
  ⟨obeys_throw _, obeys_unwinding hunwinds⟩

theorem Quiet.plain (hquiet : law.Quiet) : law.discipline.Plain where
  frame := obeys_frame
  requests := obeys_requests
  machine := obeys_machine
  modifyFrame := obeys_modifyFrame
  modifyRequests := obeys_modifyRequests
  record := hquiet.record
  count := hquiet.count

end Law
end TrapDispatch
