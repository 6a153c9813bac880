import TrapDispatch.Proofs.CallTraps
import TrapDispatch.Proofs.Completion
import TrapDispatch.Proofs.Rescheduling

/-!
# The requests of a run

Which requests a program makes depends on the replies that it gets, so they are noted as they
are served. What every request does to the state, in view of what was asked for, holds of a
whole run that returns. For the handler of a system call that is: what it shows the scheduler,
the reschedule that it asks for, and the context that it keeps.
-/

namespace TrapDispatch

section

variable {S : Signature} {s α β : Type}

/-- Serves a request, and notes it behind those before. -/
def Program.noting (serve : (op : S.Op) → EStateM Stop s (S.Reply op)) (op : S.Op) :
    EStateM Stop (s × List S.Op) (S.Reply op) := fun state =>
  match serve op state.1 with
  | .ok reply after => .ok reply (after, state.2 ++ [op])
  | .error stop after => .error stop (after, state.2 ++ [op])

/-- The requests that a program makes when it is run from a state, in order. -/
def Program.requested (serve : (op : S.Op) → EStateM Stop s (S.Reply op)) (bound : Nat)
    (program : Program S α) (state : s) : List S.Op :=
  match program.run (noting serve) bound (state, []) with
  | .ok _ after => after.2
  | .error _ after => after.2

/-- A relation of the states before and after a computation, in view of the requests that are
made in it. -/
structure Trail (S : Signature) (s : Type) where
  relates : s → List S.Op → s → Prop
  refl (a : s) : relates a [] a
  trans {a b c : s} {first second : List S.Op} : relates a first b → relates b second c →
    relates a (first ++ second) c

namespace Trail

variable {trail : Trail S s}

/-- Whether a computation that notes requests returns whenever a plain one does, with the same
value and state, and is related by the trail then. -/
def Follows (trail : Trail S s) (noted : EStateM Stop (s × List S.Op) α)
    (plain : EStateM Stop s α) : Prop :=
  ∀ state old value after, plain state = .ok value after →
    ∃ made, noted (state, old) = .ok value (after, old ++ made) ∧ trail.relates state made after

theorem follows_pure (value : α) : trail.Follows (pure value) (pure value) := by
  rintro state old _ _ ⟨⟩
  exact ⟨[], by rw [List.append_nil]; rfl, trail.refl state⟩

theorem follows_throw (stop : Stop) :
    trail.Follows (throw stop : EStateM Stop (s × List S.Op) α) (throw stop) := by
  rintro state old _ _ ⟨⟩

theorem follows_bind {noted : EStateM Stop (s × List S.Op) α} {plain : EStateM Stop s α}
    {notedNext : α → EStateM Stop (s × List S.Op) β} {next : α → EStateM Stop s β}
    (hbody : trail.Follows noted plain) (hnext : ∀ value, trail.Follows (notedNext value) (next value)) :
    trail.Follows (noted >>= notedNext) (plain >>= next) := by
  intro state old value after h
  cases hrun : plain state with
  | error stop middle =>
    change EStateM.bind plain next state = _ at h
    unfold EStateM.bind at h
    rw [hrun] at h
    cases h
  | ok between middle =>
    rw [bind_eq_ok hrun] at h
    obtain ⟨first, hfirst, hbefore⟩ := hbody state old between middle hrun
    obtain ⟨second, hsecond, hafter⟩ := hnext between middle (old ++ first) value after h
    refine ⟨first ++ second, ?_, trail.trans hbefore hafter⟩
    rw [bind_eq_ok hfirst, hsecond, List.append_assoc]

theorem follows_unwinding {noted : EStateM Stop (s × List S.Op) α} {plain : EStateM Stop s α}
    {notedCleanup : EStateM Stop (s × List S.Op) Unit} {cleanup : EStateM Stop s Unit}
    (hbody : trail.Follows noted plain) :
    trail.Follows (unwinding noted notedCleanup) (unwinding plain cleanup) := by
  intro state old value after h
  have hrun : plain state = .ok value after := by
    unfold unwinding at h
    split at h
    · split at h <;> cases h
    · exact h
  obtain ⟨made, hnoted, hmade⟩ := hbody state old value after hrun
  exact ⟨made, unwinding_of_ok hnoted, hmade⟩

theorem follows_repeated {noted : EStateM Stop (s × List S.Op) (Option α)}
    {plain : EStateM Stop s (Option α)} (hbody : trail.Follows noted plain) (bound : Nat) :
    trail.Follows (repeated noted bound) (repeated plain bound) := by
  induction bound with
  | zero => exact follows_throw _
  | succ bound ih =>
    apply follows_bind hbody
    intro value
    cases value with
    | none => exact ih
    | some value => exact follows_pure value

variable {serve : (op : S.Op) → EStateM Stop s (S.Reply op)} {bound : Nat}

theorem follows_run
    (hserve : ∀ op state reply after, serve op state = .ok reply after →
      trail.relates state [op] after) (program : Program S α) :
    trail.Follows (program.run (Program.noting serve) bound) (program.run serve bound) := by
  induction program with
  | done value => exact follows_pure value
  | panic message => exact follows_throw _
  | request op next ih =>
    refine follows_bind (fun state old reply after hrun => ⟨[op], ?_, hserve op _ _ _ hrun⟩) ih
    unfold Program.noting
    simp only [hrun]
  | onPanic body cleanup next hbody _ ih => exact follows_bind (follows_unwinding hbody) ih
  | untilSome body next hbody ih => exact follows_bind (follows_repeated hbody bound) ih

/-- A run that returns is on the trail, with the requests that were made in it. -/
theorem of_run
    (hserve : ∀ op state reply after, serve op state = .ok reply after →
      trail.relates state [op] after) {program : Program S α} {state after : s} {value : α}
    (hrun : program.run serve bound state = .ok value after) :
    trail.relates state (program.requested serve bound state) after := by
  obtain ⟨made, hnoted, hmade⟩ := follows_run hserve program state [] value after hrun
  unfold Program.requested
  rw [hnoted]
  exact hmade

end Trail

end

variable {σ α β : Type} {kernel : Kernel σ} {server : Server σ}

namespace Law

def unscheduled : Law σ where
  returns a b := ∃ events, Adds events a b ∧ ∀ c ∈ callsIn events, c.isSchedule = false
  stops a b := ∃ events, Adds events a b ∧ ∀ c ∈ callsIn events, c.isSchedule = false
  refl a := ⟨[], .still rfl, fun c hc => by cases hc⟩
  trans := by
    rintro a b c ⟨first, hfirst, hnone⟩ ⟨second, hsecond, hnext⟩
    refine ⟨first ++ second, hfirst.trans hsecond, fun c hc => ?_⟩
    rw [callsIn_append, List.mem_append] at hc
    exact hc.elim (hnone c) (hnext c)
  weaken h := h
  trans_stops := by
    rintro a b c ⟨first, hfirst, hnone⟩ ⟨second, hsecond, hnext⟩
    refine ⟨first ++ second, hfirst.trans hsecond, fun c hc => ?_⟩
    rw [callsIn_append, List.mem_append] at hc
    exact hc.elim (hnone c) (hnext c)

theorem quiet_unscheduled : (unscheduled (σ := σ)).Quiet :=
  fun _ _ _ h => ⟨[], .still h, fun c hc => by cases hc⟩

theorem unscheduled_during {event : Except Stop α → Event} {body : Dispatch σ α}
    (hscope : ∀ result irq claimed, event result ≠ .scope irq claimed)
    (hcall : ∀ result c, (event result).call? = some c → c.isSchedule = false) :
    unscheduled.Obeys (Dispatch.during event body) := by
  have hnone : ∀ result, ∀ c ∈ callsIn [event result], c.isSchedule = false := by
    intro result c hc
    obtain ⟨other, hother, hsome⟩ := List.mem_filterMap.mp hc
    rw [List.mem_singleton.mp hother] at hsome
    exact hcall result c hsome
  have hevents := emits_during body hscope
  intro state
  cases hrun : Dispatch.during event body state with
  | ok value after =>
    obtain ⟨_, hadds, rfl⟩ := (hevents state).returned hrun
    exact leadsAt_of_ok hrun ⟨_, hadds, hnone _⟩
  | error stop after =>
    obtain ⟨_, hadds, rfl⟩ := (hevents state).stopped hrun
    exact leadsAt_of_error hrun ⟨_, hadds, hnone _⟩

theorem unscheduled_call {c : Call} (h : c.isSchedule = false) :
    unscheduled.Obeys (kernel.call server c) := by
  refine unscheduled_during (by simp) fun result other hother => ?_
  cases hother
  exact h

/-- Services ask the scheduler for nothing but what they are called for. -/
theorem unscheduled_covers (kernel : Kernel σ) : unscheduled.Covers kernel where
  quiet := quiet_unscheduled
  unwinds _ _ _ hfirst hsecond := unscheduled.trans hfirst hsecond
  tellSlot cpu := by
    unfold Kernel.tellSlot
    apply obeys_bind obeys_machine
    intro machine
    refine obeys_bind (fun state => ?_) fun _ => obeys_pure _
    exact ⟨_, ⟨[_], rfl, rfl⟩, fun c hc => by cases hc⟩
  registry call reply _ := ⟨_, ⟨[_], rfl, rfl⟩, fun c hc => by cases hc⟩
  trap server _ := by
    refine obeys_handleTrap quiet_unscheduled.plain.toLooking (unscheduled_call rfl)
      fun cpu state _ => ?_
    exact unscheduled_during (by simp) (fun result c hc => by cases hc) state
  systemCall server _ number words := by
    unfold Kernel.systemCall
    apply obeys_bind obeys_frame
    intro frame
    exact unscheduled_during (by simp) fun result c hc => by cases hc

end Law

def Kernel.requestsOf (kernel : Kernel σ) (server : Server σ) (descriptor : CallDescriptor σ)
    (arguments : Arguments) (before : Activation σ) : List (HandlerRequest σ) :=
  Program.requested (S := handlerSignature σ) (kernel.serveHandler server) server.bound
    (descriptor.handler arguments) before

/-- The reschedule that is asked for once a request has been served. -/
def HandlerRequest.deferring (deferred : Option ScheduleReason) :
    HandlerRequest σ → Option ScheduleReason
  | .defer reason => if deferred = some .terminated then deferred else some reason
  | .takeDeferred => none
  | _ => deferred

theorem foldl_deferring_eq {made : List (HandlerRequest σ)}
    (h : ∀ op ∈ made, ∀ deferred, op.deferring deferred = deferred) (deferred : Option ScheduleReason) :
    made.foldl HandlerRequest.deferring deferred = deferred := by
  induction made with
  | nil => rfl
  | cons op made ih =>
    rw [List.foldl_cons, h op List.mem_cons_self]
    exact ih fun op hop => h op (List.mem_cons_of_mem _ hop)

/-- A thread that is terminated is never asked to be rescheduled for less. -/
theorem foldl_deferring_terminated {made : List (HandlerRequest σ)}
    (hasked : .defer .terminated ∈ made) (htaken : .takeDeferred ∉ made)
    (deferred : Option ScheduleReason) :
    made.foldl HandlerRequest.deferring deferred = some .terminated := by
  -- Once the reason is that the thread is terminated, no request but a taking changes it.
  have hstays : ∀ later : List (HandlerRequest σ), .takeDeferred ∉ later →
      later.foldl HandlerRequest.deferring (some .terminated) = some .terminated := by
    intro later hlater
    induction later with
    | nil => rfl
    | cons op later ih =>
      rw [List.mem_cons, not_or] at hlater
      rw [List.foldl_cons]
      cases op with
      | takeDeferred => exact absurd rfl hlater.1
      | _ => exact ih hlater.2
  have hasks : ∀ deferred, (HandlerRequest.defer (σ := σ) .terminated).deferring deferred =
      some .terminated := by
    intro deferred
    change (if deferred = some .terminated then deferred else some .terminated) = _
    split
    next h => exact h
    next => rfl
  obtain ⟨earlier, later, rfl⟩ := List.append_of_mem hasked
  rw [List.foldl_append, List.foldl_cons, hasks]
  exact hstays later fun h => htaken (List.mem_append_right _ (List.mem_cons_of_mem _ h))

def lastSwitch (events : List Event) : Option Frame :=
  (events.filterMap Event.switch?).getLast?

theorem lastSwitch_append (first second : List Event) :
    lastSwitch (first ++ second) = (lastSwitch second).or (lastSwitch first) := by
  unfold lastSwitch
  rw [List.filterMap_append, List.getLast?_append]

theorem lastSwitch_eq_none {events : List Event} (h : ∀ c ∈ callsIn events, c.isSchedule = false) :
    lastSwitch events = none := by
  have hnone : events.filterMap Event.switch? = [] := by
    rw [List.filterMap_eq_nil_iff]
    intro event hevent
    unfold Event.switch?
    split
    · exact absurd (h _ (List.mem_filterMap.mpr ⟨_, hevent, rfl⟩)) (by simp [Call.isSchedule])
    · rfl
  unfold lastSwitch
  rw [hnone]
  rfl

/-- What the handler of a system call does that makes some requests: how it waits, and what it
asks its trap for. -/
structure Waits (before : CallRequests) (made : List (HandlerRequest σ)) (events : List Event)
    (after : CallRequests) : Prop where
  waited : ∀ c ∈ callsIn events, c.isSchedule = true →
    ∃ shown, c = .schedule shown .blocked ∧ .block shown ∈ made
  deferred : after.deferred = made.foldl HandlerRequest.deferring before.deferred
  switch : .takeSwitch ∉ made → after.switch = (lastSwitch events).or before.switch

theorem Waits.trans {a b c : CallRequests} {first second : List (HandlerRequest σ)}
    {earlier later : List Event} (hfirst : Waits a first earlier b) (hsecond : Waits b second later c) :
    Waits a (first ++ second) (earlier ++ later) c where
  waited call hcall hschedule := by
    rw [callsIn_append, List.mem_append] at hcall
    rcases hcall with hcall | hcall
    · obtain ⟨shown, hshown, hmem⟩ := hfirst.waited call hcall hschedule
      exact ⟨shown, hshown, List.mem_append_left _ hmem⟩
    · obtain ⟨shown, hshown, hmem⟩ := hsecond.waited call hcall hschedule
      exact ⟨shown, hshown, List.mem_append_right _ hmem⟩
  deferred := by
    rw [List.foldl_append, ← hfirst.deferred, hsecond.deferred]
  switch hkept := by
    rw [List.mem_append, not_or] at hkept
    rw [lastSwitch_append, Option.or_assoc, ← hfirst.switch hkept.1, hsecond.switch hkept.2]

/-- The trail of a handler: what it does is done between its own events. -/
def handlerTrail : Trail (handlerSignature σ) (Activation σ) where
  relates a made b := ∃ new, b.machine.journal = new ++ a.machine.journal ∧
    Waits a.requests made (ownEvents new) b.requests
  refl a := ⟨[], rfl, fun c hc => (by cases hc), rfl, fun _ => rfl⟩
  trans := by
    rintro a b c first second ⟨old, hold, hfirst⟩ ⟨new, hnew, hsecond⟩
    refine ⟨new ++ old, by rw [hnew, hold, List.append_assoc], ?_⟩
    rw [ownEvents_append]
    exact hfirst.trans hsecond

/-- Whether every run of a computation that returns does what some requests ask for. -/
def Serves (made : List (HandlerRequest σ)) (body : Dispatch σ α) : Prop :=
  ∀ state value after, body state = .ok value after → handlerTrail.relates state made after

theorem Serves.bind {first second : List (HandlerRequest σ)} {body : Dispatch σ α}
    {next : α → Dispatch σ β} (hbody : Serves first body) (hnext : ∀ value, Serves second (next value)) :
    Serves (first ++ second) (body >>= next) := by
  intro state value after h
  obtain ⟨between, middle, hrun, hend⟩ := Dispatch.exists_of_bind h
  exact handlerTrail.trans (hbody _ _ _ hrun) (hnext between _ _ _ hend)

theorem serves_of_still {made : List (HandlerRequest σ)} {body : Dispatch σ α}
    (hmade : ∀ op ∈ made, ∀ deferred, op.deferring deferred = deferred)
    (hstill : Bond.still.Keeps body) (hnone : Law.unscheduled.Obeys body) : Serves made body := by
  intro state value after h
  obtain ⟨-, hrequests, -⟩ := hstill _ _ _ h
  obtain ⟨_, ⟨new, hnew, rfl⟩, hcalls⟩ := (hnone state).returned h
  refine ⟨new, hnew, fun c hc hschedule => ?_, ?_, fun _ => ?_⟩
  · rw [hcalls c hc] at hschedule
    cases hschedule
  · rw [foldl_deferring_eq hmade, hrequests]
  · rw [lastSwitch_eq_none hcalls, hrequests]
    rfl

theorem serves_wait (hserver : server.Still) (shown : Frame) :
    Serves [.block shown] (kernel.wait server shown) := by
  intro state value after h
  unfold Kernel.wait at h
  obtain ⟨reply, middle, hschedule, hrest⟩ := Dispatch.exists_of_bind h
  obtain ⟨_, hnew, x, rfl, hx, hsame⟩ :=
    (runsAt_call hserver (.schedule shown .blocked) state).returned hschedule
  have hrequests := (hsame ⟨reply, rfl⟩).2
  have hwaited : ∀ c ∈ callsIn (ownEvents [x]), c.isSchedule = true →
      ∃ asked, c = .schedule asked .blocked ∧
        HandlerRequest.block (σ := σ) asked ∈ [HandlerRequest.block shown] := by
    intro c hc _
    rw [ownEvents_call hx] at hc
    exact ⟨shown, List.mem_singleton.mp hc, List.mem_singleton_self _⟩
  cases reply with
  | «continue» =>
    cases hrest
    refine ⟨[x], hnew, hwaited, ?_, fun _ => ?_⟩
    · rw [hrequests]
      rfl
    · rw [ownEvents_call hx, hrequests]
      rfl
  | switch next =>
    cases hrest
    refine ⟨[x], hnew, hwaited, ?_, fun _ => ?_⟩
    · change middle.requests.deferred = _
      rw [hrequests]
      rfl
    · rw [ownEvents_call hx]
      rfl

theorem serves_serveHandler (hserver : server.Still) (hnone : Law.unscheduled.Serves server)
    (op : HandlerRequest σ) : Serves [op] (kernel.serveHandler server op) := by
  have hcall : ∀ {c : Call}, c.isSchedule = false →
      (∀ deferred, op.deferring deferred = deferred) → Serves [op] (kernel.call server c) := by
    intro c hc hop
    exact serves_of_still (by simpa using hop) (kernel.call_still hserver c)
      (Law.unscheduled_call hc)
  cases op with
  | base op => exact serves_of_still (by simp [HandlerRequest.deferring]) (hserver op) (hnone op)
  | frame =>
    exact serves_of_still (by simp [HandlerRequest.deferring]) Bond.keeps_frame Law.obeys_frame
  | setFrame frame =>
    rintro state _ _ ⟨⟩
    exact ⟨[], rfl, fun c hc => (by cases hc), rfl, fun _ => rfl⟩
  | block shown =>
    have hwait : Serves [.block shown] (kernel.wait server shown) := serves_wait hserver shown
    have hpure : Serves [.block shown] (pure (.error .eintr) : Dispatch σ (Except ErrorCode Unit)) :=
      serves_of_still (by simp [HandlerRequest.deferring]) (Bond.keeps_pure _) (Law.obeys_pure _)
    have hsignal : Serves [] (kernel.call server .signalPending) :=
      serves_of_still (by simp) (kernel.call_still hserver _) (Law.unscheduled_call rfl)
    have hrequests : Serves [] (Dispatch.requests (σ := σ)) :=
      serves_of_still (by simp) Bond.keeps_requests Law.obeys_requests
    unfold Kernel.serveHandler Kernel.block
    refine hrequests.bind fun requests => ?_
    split
    · refine hsignal.bind fun signalled => ?_
      split
      · exact hpure
      · exact hwait
    · exact hwait
  | defer reason =>
    rintro state _ _ ⟨⟩
    refine ⟨[], rfl, fun c hc => (by cases hc), ?_, fun _ => ?_⟩
    · change (state.requests.defer reason).deferred =
        if state.requests.deferred = some .terminated then state.requests.deferred else some reason
      unfold CallRequests.defer
      split <;> rfl
    · change (state.requests.defer reason).switch = _
      unfold CallRequests.defer
      split <;> rfl
  | takeDeferred =>
    rintro state _ _ ⟨⟩
    exact ⟨[], rfl, fun c hc => (by cases hc), rfl, fun _ => rfl⟩
  | takeSwitch =>
    rintro state _ _ ⟨⟩
    exact ⟨[], rfl, fun c hc => (by cases hc), rfl, fun h => absurd (List.mem_singleton_self _) h⟩
  | pid | userRange | terminate reason | signalPending | write file buffer | read file buffer =>
    exact hcall rfl fun _ => rfl

/-- What a handler did whose run returned, in view of the requests that it made. -/
theorem handlerTrail_of_handle {kernel : Kernel σ} {depth : Nat} {descriptor : CallDescriptor σ}
    {arguments : Arguments} {before after : Activation σ} {result : CallResult}
    (hrun : (kernel.handle (kernel.server depth) descriptor arguments).Ends before (.ok result) after) :
    handlerTrail.relates before (kernel.requestsOf (kernel.server depth) descriptor arguments before)
      after :=
  Trail.of_run (S := handlerSignature σ)
    (serves_serveHandler (kernel.server_still depth) ((Law.unscheduled_covers kernel).serves depth)) hrun

end TrapDispatch
