import TrapDispatch.Proofs.Calm

/-!
# Assertions

What holds at a point of a run, in terms of the moments before it and of the machine.
A computation carries one assertion into others: into one for the value that it gives,
or into one for the way in which it is cut short. There is a rule for each way of putting
computations together; that for an activity looks at it from its beginning and from its
end.
-/

namespace TrapDispatch

variable {σ α β : Type}

/-- The machine with nothing in its journal. -/
def Machine.bare (machine : Machine σ) : Machine σ :=
  { machine with journal := [] }

/-- What is said of a point of a run: of the moments before it, newest first, and of the
machine but for its journal. -/
abbrev Assertion (σ : Type) := List Moment → Machine σ → Prop

def Upon (returns : α → Assertion σ) (stops : Stop → Assertion σ) : Except Stop α → Assertion σ
  | .ok value => returns value
  | .error stop => stops stop

/-- Whether a computation that starts from a state, with the moments `past` before it, ends
where `returns` or `stops` holds. -/
def CarriesAt (past : List Moment) (returns : α → Assertion σ) (stops : Stop → Assertion σ)
    (body : Dispatch σ α) (state : Activation σ) : Prop :=
  RunsAt (fun new result after =>
    Upon returns stops result (history new ++ past) after.machine.bare) body state

def Carries (before : Assertion σ) (returns : α → Assertion σ) (stops : Stop → Assertion σ)
    (body : Dispatch σ α) : Prop :=
  ∀ past state, before past state.machine.bare → CarriesAt past returns stops body state

theorem history_cons_append (x : Activity) (past : List Moment) :
    history [x] ++ past = .ends x :: (history x.inner ++ .begins x :: past) := by
  rw [history, history, List.append_nil, Activity.history_eq]
  simp

section

variable {before : Assertion σ} {returns : α → Assertion σ} {stops : Stop → Assertion σ}
  {body : Dispatch σ α}

/-- What is known of a point may depend on it. -/
theorem carries_of_points
    (h : ∀ past machine, before past machine → ∃ (early : Assertion σ) (late : α → Assertion σ)
      (cut : Stop → Assertion σ), Carries early late cut body ∧ early past machine ∧
        (∀ value now after, late value now after → returns value now after) ∧
        ∀ stop now after, cut stop now after → stops stop now after) :
    Carries before returns stops body := by
  intro past state hpast
  obtain ⟨early, late, cut, hbody, hearly, hlate, hcut⟩ := h past _ hpast
  refine (hbody past state hearly).mono fun new result after hupon => ?_
  cases result with
  | ok value => exact hlate value _ _ hupon
  | error stop => exact hcut stop _ _ hupon

theorem Carries.mono {early : Assertion σ} {late : α → Assertion σ} {cut : Stop → Assertion σ}
    (h : Carries before returns stops body)
    (hbefore : ∀ past machine, early past machine → before past machine)
    (hreturns : ∀ value past machine, returns value past machine → late value past machine)
    (hstops : ∀ stop past machine, stops stop past machine → cut stop past machine) :
    Carries early late cut body :=
  carries_of_points fun past machine hearly =>
    ⟨before, returns, stops, h, hbefore past machine hearly, hreturns, hstops⟩

end

section

variable {before : Assertion σ} {stops : Stop → Assertion σ}

theorem carries_pure {returns : α → Assertion σ} (value : α)
    (h : ∀ past machine, before past machine → returns value past machine) :
    Carries before returns stops (pure value : Dispatch σ α) :=
  fun past _ hpast => runsAt_of_ok [] rfl rfl (h past _ hpast)

theorem carries_throw {returns : α → Assertion σ} (stop : Stop)
    (h : ∀ past machine, before past machine → stops stop past machine) :
    Carries before returns stops (throw stop : Dispatch σ α) :=
  fun past _ hpast => runsAt_of_error [] rfl rfl (h past _ hpast)

theorem Carries.bind {middle : α → Assertion σ} {returns : β → Assertion σ} {body : Dispatch σ α}
    {next : α → Dispatch σ β} (hbody : Carries before middle stops body)
    (hnext : ∀ value, Carries (middle value) returns stops (next value)) :
    Carries before returns stops (body >>= next) := by
  intro past state hpast
  refine (hbody past state hpast).bind ?_ fun stop after new h => h
  rintro value middle old - hmiddle
  refine (hnext value _ middle hmiddle).mono fun new result after h => ?_
  rw [history_append, List.append_assoc]
  exact h

theorem carries_ite {returns : α → Assertion σ} {c : Prop} {_ : Decidable c}
    {first second : Dispatch σ α} (hfirst : c → Carries before returns stops first)
    (hsecond : ¬ c → Carries before returns stops second) :
    Carries before returns stops (if c then first else second) := by
  split
  next h => exact hfirst h
  next h => exact hsecond h

theorem carries_when {middle : Assertion σ} {returns : α → Assertion σ} {c : Prop}
    {_ : Decidable c} {step : Dispatch σ Unit} {next : Unit → Dispatch σ α}
    (hstep : c → Carries before (fun _ => middle) stops step)
    (hskip : ¬ c → ∀ past machine, before past machine → middle past machine)
    (hnext : Carries middle returns stops (next ())) :
    Carries before returns stops (if c then step >>= next else next ()) :=
  carries_ite (fun h => (hstep h).bind fun _ => hnext)
    fun h => hnext.mono (hskip h) (fun _ _ _ h => h) fun _ _ _ h => h

theorem carries_frame : Carries before (fun _ => before) stops (Dispatch.frame (σ := σ)) :=
  fun _ _ hpast => runsAt_of_ok [] rfl rfl hpast

theorem carries_requests : Carries before (fun _ => before) stops (Dispatch.requests (σ := σ)) :=
  fun _ _ hpast => runsAt_of_ok [] rfl rfl hpast

theorem carries_machine :
    Carries before (fun machine past bare => before past bare ∧ bare = machine.bare) stops
      (Dispatch.machine (σ := σ)) :=
  fun _ _ hpast => runsAt_of_ok [] rfl rfl ⟨hpast, rfl⟩

theorem carries_modifyFrame (change : Frame → Frame) :
    Carries before (fun _ => before) stops (Dispatch.modifyFrame (σ := σ) change) :=
  fun _ _ hpast => runsAt_of_ok [] rfl rfl hpast

theorem carries_modifyRequests (change : CallRequests → CallRequests) :
    Carries before (fun _ => before) stops (Dispatch.modifyRequests (σ := σ) change) :=
  fun _ _ hpast => runsAt_of_ok [] rfl rfl hpast

theorem carries_modifyMachine {returns : Unit → Assertion σ} {change : Machine σ → Machine σ}
    (hjournal : ∀ machine, (change machine).journal = machine.journal)
    (h : ∀ past machine, before past machine.bare → returns () past (change machine).bare) :
    Carries before returns stops (Dispatch.modifyMachine change) :=
  fun past state hpast =>
    runsAt_of_ok [] rfl (hjournal state.machine) (h past state.machine hpast)

theorem carries_note {returns : Unit → Assertion σ} {event : Event}
    (h : ∀ (x : Activity) past machine, x.event = event → x.inner = [] → before past machine →
      returns () (.ends x :: .begins x :: past) machine) :
    Carries before returns stops (Dispatch.note event) :=
  fun past state hpast => runsAt_of_ok [⟨event, state.machine.slots, [], state.machine.slots⟩] rfl
    rfl (h _ past _ rfl rfl hpast)

theorem carries_onFrame {returns : α → Assertion σ} {frame : Frame} {body : Dispatch σ α}
    (h : Carries before returns stops body) :
    Carries before (fun result => returns result.1) stops (Dispatch.onFrame frame body) := by
  intro past state hpast
  have hbody := h past { state with frame, requests := {} } hpast
  cases hrun : body { state with frame, requests := {} } with
  | ok value after =>
    obtain ⟨new, hnew, hpost⟩ := hbody.returned hrun
    have hframed : Dispatch.onFrame frame body state =
        .ok (value, after) { state with machine := after.machine } := by
      unfold Dispatch.onFrame
      rw [hrun]
    exact runsAt_of_ok new hframed hnew hpost
  | error stop after =>
    obtain ⟨new, hnew, hpost⟩ := hbody.stopped hrun
    have hframed : Dispatch.onFrame frame body state =
        .error stop { state with machine := after.machine } := by
      unfold Dispatch.onFrame
      rw [hrun]
    exact runsAt_of_error new hframed hnew hpost

theorem Carries.giving {returns : α → Assertion σ} {property : α → Prop} {body : Dispatch σ α}
    (h : Carries before returns stops body) (hgives : Law.Gives property body) :
    Carries before (fun value past machine => property value ∧ returns value past machine) stops
      body := by
  intro past state hpast
  cases hrun : body state with
  | ok value after =>
    obtain ⟨new, hnew, hpost⟩ := (h past state hpast).returned hrun
    exact runsAt_of_ok new hrun hnew ⟨hgives state value after hrun, hpost⟩
  | error stop after =>
    obtain ⟨new, hnew, hpost⟩ := (h past state hpast).stopped hrun
    exact runsAt_of_error new hrun hnew hpost

/-- An activity, looked at from its beginning and from its end. What is done in the
course of it may be known in part already. -/
theorem carriesAt_during {returns : α → Assertion σ} {event : Except Stop α → Event}
    {body : Dispatch σ α} {past : List Moment} {state : Activation σ}
    (known : List Activity → Except Stop α → Prop)
    (hreturned : ∀ value after, body { state with machine.journal := [] } = .ok value after →
      known after.machine.journal (.ok value))
    (hstopped : ∀ stop after, body { state with machine.journal := [] } = .error stop after →
      known after.machine.journal (.error stop))
    (h : ∀ (x : Activity) result, x.event = event result → x.before = state.machine.slots →
      ∃ (enters : Assertion σ) (leaves : α → Assertion σ) (cuts : Stop → Assertion σ),
        Carries enters leaves cuts body ∧ enters (.begins x :: past) state.machine.bare ∧
        ∀ last, x.after = last.slots → known x.inner result →
          Upon leaves cuts result (history x.inner ++ .begins x :: past) last →
          Upon returns stops result (.ends x :: (history x.inner ++ .begins x :: past)) last) :
    CarriesAt past returns stops (Dispatch.during event body) state := by
  let blank : Activation σ := { state with machine.journal := [] }
  cases hrun : body blank with
  | ok value after =>
    let x : Activity :=
      ⟨event (.ok value), state.machine.slots, after.machine.journal, after.machine.slots⟩
    obtain ⟨enters, leaves, cuts, hbody, henter, hleave⟩ := h x (.ok value) rfl rfl
    obtain ⟨new, hnew, hlast⟩ := (hbody (.begins x :: past) blank henter).returned hrun
    rw [List.append_nil] at hnew
    rw [← hnew] at hlast
    refine runsAt_of_ok [x] (Dispatch.during_of_ok hrun) rfl ?_
    rw [history_cons_append]
    exact hleave _ rfl (hreturned value after hrun) hlast
  | error stop after =>
    let x : Activity :=
      ⟨event (.error stop), state.machine.slots, after.machine.journal, after.machine.slots⟩
    obtain ⟨enters, leaves, cuts, hbody, henter, hleave⟩ := h x (.error stop) rfl rfl
    obtain ⟨new, hnew, hlast⟩ := (hbody (.begins x :: past) blank henter).stopped hrun
    rw [List.append_nil] at hnew
    rw [← hnew] at hlast
    refine runsAt_of_error [x] (Dispatch.during_of_error hrun) rfl ?_
    rw [history_cons_append]
    exact hleave _ rfl (hstopped stop after hrun) hlast

theorem carries_during {returns : α → Assertion σ} {event : Except Stop α → Event}
    {body : Dispatch σ α}
    (h : ∀ (x : Activity) result past machine, x.event = event result →
      x.before = machine.slots → before past machine →
      ∃ (enters : Assertion σ) (leaves : α → Assertion σ) (cuts : Stop → Assertion σ),
        Carries enters leaves cuts body ∧ enters (.begins x :: past) machine ∧
        ∀ last, x.after = last.slots →
          Upon leaves cuts result (history x.inner ++ .begins x :: past) last →
          Upon returns stops result (.ends x :: (history x.inner ++ .begins x :: past)) last) :
    Carries before returns stops (Dispatch.during event body) := by
  intro past state hpast
  refine carriesAt_during (fun _ _ => True) (fun _ _ _ => trivial) (fun _ _ _ => trivial) ?_
  intro x result hx hbefore
  obtain ⟨enters, leaves, cuts, hbody, henter, hleave⟩ :=
    h x result past state.machine.bare hx hbefore hpast
  exact ⟨enters, leaves, cuts, hbody, henter, fun last hafter _ => hleave last hafter⟩

end

end TrapDispatch
