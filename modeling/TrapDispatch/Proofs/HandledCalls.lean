import TrapDispatch.Proofs.Requests
import TrapDispatch.Proofs.Treatment

/-!
# Traps that a handler serves

The handler of a system call runs on the frame of its trap, with no requests made yet. What it
leaves is what the trap goes on from: the result is written back to the frame, and what was
asked for is settled.
-/

namespace TrapDispatch

variable {σ : Type} {kernel : Kernel σ} {server : Server σ} {cpu : Fin maxCpus}
  {state : Activation σ} {frame : Frame} {convention : Convention}

/-- Whether an activity is a run of the handler of a call, for a trap with a frame: from
`before` it ends so, and leaves `left`. -/
structure Kernel.RunsHandler (kernel : Kernel σ) (server : Server σ) (frame : Frame) (z : Activity)
    (descriptor : CallDescriptor σ) (arguments : Arguments) (before : Activation σ)
    (ending : Except Stop CallResult) (left : Activation σ) : Prop where
  event_eq : z.event = .handler descriptor.shape.number arguments ending
  inner_eq : z.inner = left.machine.journal
  frame_eq : before.frame = frame
  requests_eq : before.requests = { interruptible := descriptor.shape.interruptible }
  journal_eq : before.machine.journal = []
  run_eq : (kernel.handle server descriptor arguments).Ends before ending left

def Activity.isHandled (x : Activity) : Bool :=
  x.inner.any fun y => y.event.isSystemCall && y.inner.any fun z => z.event.isHandler

theorem Activity.exists_of_isHandled {x : Activity} (h : x.isHandled = true) :
    ∃ y ∈ x.inner, y.event.isSystemCall = true ∧ ∃ z ∈ y.inner, z.event.isHandler = true := by
  unfold isHandled at h
  obtain ⟨y, hy, hboth⟩ := List.any_eq_true.mp h
  rw [Bool.and_eq_true, List.any_eq_true] at hboth
  exact ⟨y, hy, hboth⟩

theorem Activity.unhandled {x y z : Activity} (h : x.isHandled = false) (hy : y ∈ x.inner)
    (hsystem : y.event.isSystemCall = true) (hz : z ∈ y.inner) : z.event.isHandler = false := by
  unfold isHandled at h
  have hnone := List.any_eq_false.mp h y hy
  rw [hsystem, Bool.true_and, Bool.not_eq_true] at hnone
  exact Bool.not_eq_true _ ▸ List.any_eq_false.mp hnone z hz

/-- The frame of a trap, once the result of its system call is written back. -/
def Convention.writeBack (convention : Convention) (frame : Frame) (result : CallResult) : Frame :=
  (frame.setReturnValue result.encode).advance convention.advance

theorem Kernel.RunsHandler.exists_before {z : Activity} {descriptor : CallDescriptor σ}
    {arguments : Arguments} {before left : Activation σ} {ending : Except Stop CallResult}
    (h : kernel.RunsHandler server frame z descriptor arguments before ending left) :
    ∃ machine, before =
      { frame, requests := { interruptible := descriptor.shape.interruptible }, machine } := by
  obtain ⟨start, requests, machine⟩ := before
  cases h.frame_eq
  cases h.requests_eq
  exact ⟨machine, rfl⟩

/-- What the handler of a call did that returned, from nothing asked for. -/
theorem Kernel.RunsHandler.waits {depth : Nat} {z : Activity} {descriptor : CallDescriptor σ}
    {arguments : Arguments} {before left : Activation σ} {value : CallResult}
    (h : kernel.RunsHandler (kernel.server depth) frame z descriptor arguments before (.ok value) left) :
    let made := kernel.requestsOf (kernel.server depth) descriptor arguments before
    (∀ c ∈ callsIn (ownEvents z.inner), c.isSchedule = true →
      ∃ shown, c = .schedule shown .blocked ∧ .block shown ∈ made) ∧
    left.requests.deferred = made.foldl HandlerRequest.deferring none ∧
    (.takeSwitch ∉ made → left.requests.switch = lastSwitch (ownEvents z.inner)) := by
  intro made
  obtain ⟨new, hnew, hwaits⟩ := handlerTrail_of_handle h.run_eq
  rw [h.journal_eq, List.append_nil] at hnew
  obtain ⟨hwaited, hdeferred, hswitch⟩ := hwaits
  rw [h.requests_eq] at hdeferred hswitch
  rw [h.inner_eq, hnew]
  refine ⟨hwaited, hdeferred, fun hkept => ?_⟩
  rw [hswitch hkept, Option.or_none]

/-- What follows in a trap once the handler of its call has returned, leaving `left`. -/
inductive Convention.FollowsUp (convention : Convention) (left : Activation σ) (value : CallResult) :
    RunSpec σ Outcome where
  | unclosed {old : List Activity} {stop : Stop} {after : Activation σ}
      (hfailed : .service .disableInterrupts (.error stop) ∈ ownEvents old)
      (hunasked : ∀ c ∈ callsIn (ownEvents old), c.isSchedule = false) :
      FollowsUp convention left value old (.error stop) after
  | settled {old later : List Activity} {ending : Except Stop Unit} {middle after : Activation σ}
      (hunasked : ∀ c ∈ callsIn (ownEvents old), c.isSchedule = false)
      (hlater : Concludes (convention.writeBack left.frame value) left.requests later ending middle)
      (hafter : middle.Untouched after) :
      FollowsUp convention left value (later ++ old) (ending.map fun _ => .syscall value) after

/-- What a trap with a frame does that is a system call: where a handler runs for it, the trap
ends as the handler does if it does not return, and follows up on it if it does. -/
def Kernel.TakesCall (kernel : Kernel σ) (server : Server σ) (frame : Frame)
    (convention : Convention) : RunSpec σ Outcome := fun new result after =>
  ∀ y ∈ new, y.event.isSystemCall = true → ∀ z ∈ y.inner, z.event.isHandler = true →
    ∃ descriptor arguments before ending left,
      kernel.syscalls.lookup (convention.numberIn frame) = some descriptor ∧
      kernel.RunsHandler server frame z descriptor arguments before ending left ∧
      (∀ stop, ending = .error stop → result = .error stop ∧
        ∀ c ∈ callsIn (ownEvents new), c.isSchedule = false) ∧
      ∀ value, ending = .ok value → convention.FollowsUp left value new result after

theorem Kernel.CallCourse.runsHandler {number : UInt64} {words : ArgumentWords} {new : List Activity}
    {ending : Except Stop CallResult} {after : Activation σ} {z : Activity}
    (h : kernel.CallCourse server (kernel.syscalls.screen number words frame) state new ending after)
    (hframe : state.frame = frame) (hrequests : state.requests = {}) (hz : z ∈ new)
    (hhandler : z.event.isHandler = true) :
    ∃ descriptor arguments before left, kernel.syscalls.lookup number = some descriptor ∧
      kernel.RunsHandler server frame z descriptor arguments before ending left ∧
      left.Untouched after := by
  have hservice : ∀ {c : Call} {result : Except Stop c.Reply}, z.event ≠ .service c result := by
    intro c result hevent
    rw [hevent] at hhandler
    cases hhandler
  cases h with
  | rejected => cases hz
  | unanswered _ hx =>
    rw [List.mem_singleton.mp hz] at hservice
    exact absurd hx hservice
  | forbidden hx =>
    rw [List.mem_singleton.mp hz] at hservice
    exact absurd hx hservice
  | @entered x y _ descriptor arguments _ before inner _ hx hdecision hbefore hasked hjournal hrun
      hy hinner hafter =>
    rcases List.mem_cons.mp hz with rfl | hz
    · refine ⟨descriptor, arguments, before, inner, SyscallTable.lookup_of_screen hdecision, ?_,
        hafter⟩
      rw [hrequests] at hasked
      exact ⟨hy, hinner, hbefore.trans hframe, hasked, hjournal, hrun⟩
    · rw [List.mem_singleton.mp hz] at hservice
      exact absurd hx hservice

theorem Kernel.MakesCall.unasked {number : UInt64} {words : ArgumentWords} {new : List Activity}
    {result : Except Stop CallResult} {after : Activation σ}
    (h : kernel.MakesCall server number words state new result after) :
    ∀ c ∈ callsIn (ownEvents new), c.isSchedule = false := by
  intro c hc
  obtain ⟨event, hevent, hcall⟩ := List.mem_filterMap.mp hc
  obtain ⟨reply, rfl⟩ := Event.exists_of_call? hcall
  rcases h.isCalm_or hevent with hcalm | hsystem
  · cases c with
    | schedule shown reason => cases hcalm
    | _ => rfl
  · cases hsystem

/-- The one system call among what making it does. Interrupts are held off again before its
result gets back. -/
theorem Kernel.MakesCall.course {number : UInt64} {words : ArgumentWords} {new : List Activity}
    {result : Except Stop CallResult} {after : Activation σ} {y : Activity}
    (h : kernel.MakesCall server number words state new result after) (hy : y ∈ new)
    (hsystem : y.event.isSystemCall = true) :
    ∃ before ending inner, state.Untouched before ∧
      kernel.CallCourse server (kernel.syscalls.screen number words state.frame) before y.inner ending
        inner ∧
      (∀ stop, ending = .error stop → result = .error stop) ∧
      (∀ value stop, ending = .ok value → result = .error stop →
        .service .disableInterrupts (.error stop) ∈ ownEvents new) ∧
      ∀ value other, ending = .ok value → result = .ok other → value = other ∧ inner.Untouched after := by
  have hservice : ∀ {x : Activity} {c : Call} {reply : Except Stop c.Reply},
      x.event = .service c reply → y ≠ x := by
    rintro x c reply hx rfl
    rw [hx] at hsystem
    cases hsystem
  cases h with
  | unopened hx => exact absurd (List.mem_singleton.mp hy) (hservice hx)
  | cut hx hevent hbefore hcourse =>
    rcases List.mem_cons.mp hy with rfl | hy
    · refine ⟨_, _, _, hbefore, hcourse, fun stop hstop => ?_, fun value stop hvalue => ?_,
        fun value other hvalue => ?_⟩
      · cases hstop
        rfl
      · cases hvalue
      · cases hvalue
    · exact absurd (List.mem_singleton.mp hy) (hservice hx)
  | unclosed hx hevent hz hbefore hcourse =>
    rcases List.mem_cons.mp hy with rfl | hy
    · exact absurd rfl (hservice hz)
    rcases List.mem_cons.mp hy with rfl | hy
    · refine ⟨_, _, _, hbefore, hcourse, fun stop hstop => ?_, fun value stop _ hstop => ?_,
        fun value other _ hother => ?_⟩
      · cases hstop
      · cases hstop
        rw [ownEvents_service hz]
        exact List.mem_append_right _ List.mem_cons_self
      · cases hother
    · exact absurd (List.mem_singleton.mp hy) (hservice hx)
  | returned hx hevent hz hbefore hcourse hafter =>
    rcases List.mem_cons.mp hy with rfl | hy
    · exact absurd rfl (hservice hz)
    rcases List.mem_cons.mp hy with rfl | hy
    · refine ⟨_, _, _, hbefore, hcourse, fun stop hstop => ?_, fun value stop _ hstop => ?_,
        fun value other hvalue hother => ?_⟩
      · cases hstop
      · cases hstop
      · cases hvalue
        cases hother
        exact ⟨rfl, hafter⟩
    · exact absurd (List.mem_singleton.mp hy) (hservice hx)

theorem Concludes.exists_call {written : Frame} {requests : CallRequests} {new : List Activity}
    {ending : Except Stop Unit} {after : Activation σ} {y : Activity}
    (h : Concludes written requests new ending after) (hy : y ∈ new) :
    ∃ c reply, y.event = .service c reply := by
  cases h with
  | stays | switches => cases hy
  | reschedules _ hasked =>
    cases hasked with
    | unanswered hx | switched hx _ | resumed hx _ _ | refused hx _ =>
      rw [List.mem_singleton.mp hy]
      exact ⟨_, _, hx⟩

theorem runsAt_syscallTrap_takesCall (hserver : server.Still) (hframe : state.frame = frame)
    (hrequests : state.requests = {}) :
    RunsAt (kernel.TakesCall server frame convention) (kernel.syscallTrap server cpu convention)
      state := by
  refine runsAt_syscallTrap hserver convention hframe ?_ ?_
  · intro new stop after hcall y hy hsystem z hz hhandler
    obtain ⟨before, ending, inner, hbefore, hcourse, herror, hunclosed, -⟩ := hcall.course hy hsystem
    rw [hframe] at hcourse
    obtain ⟨descriptor, arguments, start, left, hlookup, hruns, -⟩ :=
      hcourse.runsHandler (hbefore.1.trans hframe) (hbefore.2.trans hrequests) hz hhandler
    refine ⟨descriptor, arguments, start, ending, left, hlookup, hruns, fun why hwhy => ?_,
      fun value hvalue => ?_⟩
    · cases herror why hwhy
      exact ⟨rfl, hcall.unasked⟩
    · exact .unclosed (hunclosed value stop hvalue rfl) hcall.unasked
  · intro new result middle last hcall hlast hleft
    have hspec : ∀ (later : List Activity) (ending : Except Stop Unit) (after : Activation σ),
        Concludes last.frame last.requests later ending after →
        kernel.TakesCall server frame convention (later ++ new) (ending.map fun _ => .syscall result)
          after := by
      intro later ending after hlater y hy hsystem z hz hhandler
      have hnew : y ∈ new := by
        refine (List.mem_append.mp hy).resolve_left fun hmem => ?_
        obtain ⟨c, reply, hevent⟩ := hlater.exists_call hmem
        rw [hevent] at hsystem
        cases hsystem
      obtain ⟨before, called, inner, hbefore, hcourse, herror, -, hreturned⟩ :=
        hcall.course hnew hsystem
      rw [hframe] at hcourse
      obtain ⟨descriptor, arguments, start, left, hlookup, hruns, huntouched⟩ :=
        hcourse.runsHandler (hbefore.1.trans hframe) (hbefore.2.trans hrequests) hz hhandler
      refine ⟨descriptor, arguments, start, called, left, hlookup, hruns, fun why hwhy => ?_,
        fun value hvalue => ?_⟩
      · cases herror why hwhy
      · obtain ⟨rfl, hinner⟩ := hreturned value result hvalue rfl
        obtain ⟨hsame, hkept⟩ := huntouched.trans hinner
        rw [hlast, hleft, hsame, hkept] at hlater
        exact .settled hcall.unasked hlater ⟨rfl, rfl⟩
    refine (runsAt_concludes hserver last).bind ?_ ?_
    · rintro ⟨⟩ after later - hlater
      exact runsAt_of_ok [] rfl rfl (hspec later (.ok ()) after hlater)
    · rintro stop after later hlater
      exact hspec later (.error stop) after hlater

theorem Kernel.TakesCall.untouched {new : List Activity} {result : Except Stop Outcome}
    {middle after : Activation σ} (hafter : middle.Untouched after)
    (h : kernel.TakesCall server frame convention new result middle) :
    kernel.TakesCall server frame convention new result after := by
  intro y hy hsystem z hz hhandler
  obtain ⟨descriptor, arguments, before, ending, left, hlookup, hruns, hstopped, hreturned⟩ :=
    h y hy hsystem z hz hhandler
  refine ⟨descriptor, arguments, before, ending, left, hlookup, hruns, hstopped, fun value hvalue => ?_⟩
  cases hreturned value hvalue with
  | unclosed hfailed hunasked => exact .unclosed hfailed hunasked
  | settled hunasked hlater hlast => exact .settled hunasked hlater (hlast.trans hafter)

theorem Kernel.Takes.carriesOut {spec : RunSpec σ Outcome} {depth : Nat} {machine : Machine σ}
    {x : Activity} (h : kernel.Takes depth frame machine x)
    (hcause : kernel.cause frame = .syscall convention)
    (hkept : ∀ new result middle after, middle.Untouched after → spec new result middle →
      spec new result after)
    (htrap : ∀ cpu (state : Activation σ), state.frame = frame → state.requests = {} →
      RunsAt spec (kernel.syscallTrap (kernel.server depth) cpu convention) state) :
    ∃ last : Activation σ, spec x.inner (kernel.takeTrap depth frame machine).result last ∧
      last.frame = (kernel.takeTrap depth frame machine).frame := by
  have hroute : ∀ cpu (state : Activation σ), state.frame = frame → state.requests = {} →
      RunsAt spec (kernel.route (kernel.server depth) cpu) state := by
    intro cpu state hframe hrequests
    refine runsAt_route hframe ?_ ?_ ?_ ?_
    · intro kind hkind
      cases hcause.symm.trans hkind
    · intro hinterrupt
      cases hcause.symm.trans hinterrupt
    · intro other hother last hlast
      cases hcause.symm.trans hother
      exact htrap cpu last (hlast.1.trans hframe) (hlast.2.trans hrequests)
    · intro hunassigned
      cases hcause.symm.trans hunassigned
  obtain ⟨cpu, last, -, hspec, hlast⟩ := h.course fun cpu outer middle hframe hrequests =>
    runsAt_carryOut outer
      (fun first hfirst => hroute cpu first (hfirst.1.trans hframe) (hfirst.2.trans hrequests)) hkept
  exact ⟨last, hspec, hlast⟩

/-- A trap that is a system call follows up on its handler. -/
theorem Kernel.Takes.takesCall {depth : Nat} {machine : Machine σ} {x : Activity}
    (h : kernel.Takes depth frame machine x) (hcause : kernel.cause frame = .syscall convention) :
    ∃ last : Activation σ, kernel.TakesCall (kernel.server depth) frame convention x.inner
        (kernel.takeTrap depth frame machine).result last ∧
      last.frame = (kernel.takeTrap depth frame machine).frame :=
  h.carriesOut hcause (fun _ _ _ _ hafter hcall => hcall.untouched hafter)
    fun _ _ hframe hrequests =>
      runsAt_syscallTrap_takesCall (kernel.server_still depth) hframe hrequests

end TrapDispatch
