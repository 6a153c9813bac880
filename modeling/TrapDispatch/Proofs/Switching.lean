import TrapDispatch.Proofs.Terminations

/-!
# Contexts that a system call goes on in

The scheduler may choose a context each time that the handler of a call waits, and once more
when the call has come back and its handler asked for that. The last choice is followed, with
one exception: told to go on where it is once its call has come back, a trap drops what was
chosen while its handler waited.

Once a call has come back, the scheduler is shown its result. While the handler waits, it is
shown what the handler shows it, and there is no result yet.
-/

namespace TrapDispatch

variable {σ : Type} {kernel : Kernel σ} {server : Server σ} {frame last : Frame}
  {convention : Convention} {waited events : List Event}

/-- The frame that goes on, with another context in place of its own if there is one. -/
def Frame.following (base : Frame) : Option Frame → Frame
  | none => base
  | some next => base.switchTo next

theorem Frame.loads_of_following {base next : Frame} {chosen : Option Frame}
    (hlast : last = base.following chosen) (hchosen : chosen = some next) : last.Loads next := by
  rw [hlast, hchosen]
  exact base.loads_switchTo next

def Event.isContinue : Event → Bool
  | .service (.schedule _ _) (.ok .continue) => true
  | _ => false

def Continues (events : List Event) : Prop :=
  ∃ event ∈ events, event.isContinue = true

theorem not_continues (h : ∀ c ∈ callsIn events, c.isSchedule = false) : ¬ Continues events := by
  rintro ⟨event, hevent, hcontinue⟩
  unfold Event.isContinue at hcontinue
  split at hcontinue
  · cases h _ (mem_callsIn hevent)
  · cases hcontinue

/-- How a trap goes on whose call has come back, with the frame `written`: its handler got the
events `waited`, and deferred a reschedule or none. -/
structure GoesOn (written : Frame) (deferred : Option ScheduleReason) (waited events : List Event)
    (last : Frame) : Prop where
  asked : (callsIn events).filter Call.isSchedule = deferred.toList.map (Call.schedule written)
  followed : ¬ Continues events → last = written.following (lastSwitch (waited ++ events))
  loaded : ¬ Continues events → ∀ next, lastSwitch (waited ++ events) = some next → last.Loads next
  continued : Continues events → last = written

/-- A trap that does not ask the scheduler follows what was chosen before. -/
theorem GoesOn.of_unasked {written : Frame}
    (hunasked : ∀ c ∈ callsIn events, c.isSchedule = false)
    (hlast : last = written.following (lastSwitch waited)) :
    GoesOn written none waited events last := by
  have hchosen : lastSwitch (waited ++ events) = lastSwitch waited := by
    rw [lastSwitch_append, lastSwitch_eq_none hunasked, Option.none_or]
  rw [← hchosen] at hlast
  exact ⟨filter_calls_eq_nil hunasked, fun _ => hlast, fun _ _ => Frame.loads_of_following hlast,
    fun h => absurd h (not_continues hunasked)⟩

theorem Reschedules.goesOn {written : Frame} {reason : ScheduleReason} {new old : List Activity}
    {after : Activation σ} (h : Reschedules written reason new (.ok ()) after)
    (hunasked : ∀ c ∈ callsIn (ownEvents old), c.isSchedule = false) :
    GoesOn written (some reason) waited (ownEvents (new ++ old)) after.frame := by
  have hasked : ∀ reply : Except Stop NextContext,
      (callsIn (ownEvents old ++ [.service (.schedule written reason) reply])).filter Call.isSchedule =
        [.schedule written reason] := by
    intro reply
    rw [callsIn_append, List.filter_append, filter_calls_eq_nil hunasked]
    rfl
  cases h with
  | @switched x next _ hx hafter =>
    rw [List.singleton_append, ownEvents_service hx]
    have hlast : after.frame = written.following (lastSwitch
        (waited ++ (ownEvents old ++ [.service (.schedule written reason) (.ok (.switch next))]))) := by
      rw [lastSwitch_append, lastSwitch_append]
      exact hafter
    refine ⟨hasked _, fun _ => hlast, fun _ _ => Frame.loads_of_following hlast, ?_⟩
    · rintro ⟨event, hevent, hcontinue⟩
      rcases List.mem_append.mp hevent with hevent | hevent
      · exact absurd ⟨event, hevent, hcontinue⟩ (not_continues hunasked)
      · rw [List.mem_singleton.mp hevent] at hcontinue
        cases hcontinue
  | resumed hx _ hafter =>
    rw [List.singleton_append, ownEvents_service hx]
    have hcontinues : Continues
        (ownEvents old ++ [.service (.schedule written reason) (.ok .continue)]) :=
      ⟨_, List.mem_append_right _ (List.mem_singleton_self _), rfl⟩
    exact ⟨hasked _, fun hnever => absurd hcontinues hnever, fun hnever => absurd hcontinues hnever,
      fun _ => hafter⟩

theorem Convention.FollowsUp.outcome_eq {left after : Activation σ} {value : CallResult}
    {new : List Activity} {result : Except Stop Outcome} {outcome : Outcome}
    (h : convention.FollowsUp left value new result after) (hreturned : result = .ok outcome) :
    outcome = .syscall value := by
  cases h with
  | unclosed => cases hreturned
  | @settled _ _ ending =>
    cases ending with
    | error stop => cases hreturned
    | ok done =>
      cases hreturned
      rfl

theorem Convention.FollowsUp.goesOn {left after : Activation σ} {value : CallResult}
    {new : List Activity} {result : Except Stop Outcome} {outcome : Outcome}
    (h : convention.FollowsUp left value new result after) (hreturned : result = .ok outcome)
    (hswitch : left.requests.switch = lastSwitch waited) :
    GoesOn (convention.writeBack left.frame value) left.requests.deferred waited (ownEvents new)
      after.frame := by
  cases h with
  | unclosed => cases hreturned
  | @settled old later ending middle _ hunasked hlater hafter =>
    cases ending with
    | error stop => cases hreturned
    | ok done =>
      rw [hafter.1]
      cases hlater with
      | stays hdeferred hnone hmiddle =>
        rw [hdeferred]
        refine .of_unasked hunasked ?_
        rw [← hswitch, hnone]
        exact hmiddle
      | switches hdeferred hnext hmiddle =>
        rw [hdeferred]
        refine .of_unasked hunasked ?_
        rw [← hswitch, hnext]
        exact hmiddle
      | reschedules hdeferred hasked =>
        rw [hdeferred]
        exact hasked.goesOn hunasked

/-- What a trap does that is a system call, where no handler runs for it. -/
def Convention.Declines (convention : Convention) (frame : Frame) : RunSpec σ Outcome :=
  fun new result after =>
    (∀ y ∈ new, y.event.isSystemCall = true → ∀ z ∈ y.inner, z.event.isHandler = false) →
      ∀ value, result = .ok (.syscall value) →
        GoesOn (convention.writeBack frame value) none [] (ownEvents new) after.frame

theorem Convention.Declines.untouched {new : List Activity} {result : Except Stop Outcome}
    {middle after : Activation σ} (hafter : middle.Untouched after)
    (h : convention.Declines frame new result middle) :
    convention.Declines frame new result after := by
  intro hunhandled value hvalue
  rw [hafter.1]
  exact h hunhandled value hvalue

theorem runsAt_syscallTrap_declines {cpu : Fin maxCpus} {state : Activation σ}
    (hserver : server.Still) (hframe : state.frame = frame) (hrequests : state.requests = {}) :
    RunsAt (convention.Declines frame) (kernel.syscallTrap server cpu convention) state := by
  refine runsAt_syscallTrap hserver convention hframe ?_ ?_
  · rintro new stop after - - value ⟨⟩
  · intro new result middle last hcall hlast hleft
    have hspec : ∀ (later : List Activity) (ending : Except Stop Unit) (after : Activation σ),
        Concludes last.frame last.requests later ending after →
        convention.Declines frame (later ++ new) (ending.map fun _ => .syscall result) after := by
      intro later ending after hlater hunhandled value hvalue
      have hunasked := hcall.unasked
      cases hcall with
      | @returned x y z _ before inner _ hx hevent hz hbefore hcourse hafter =>
        have huntouched : state.Untouched middle := by
          refine hbefore.trans ((hcourse.untouched ?_).trans hafter)
          exact hunhandled y (by simp) (by rw [hevent]; rfl)
        rw [hleft, huntouched.2, hrequests, hlast, huntouched.1, hframe] at hlater
        cases ending with
        | error stop => cases hvalue
        | ok done =>
          cases hvalue
          cases hlater with
          | stays _ _ hstays => exact .of_unasked hunasked hstays
          | switches _ hnext => cases hnext
          | reschedules hreason => cases hreason
    refine (runsAt_concludes hserver last).bind ?_ ?_
    · rintro ⟨⟩ after later - hlater
      exact runsAt_of_ok [] rfl rfl (hspec later (.ok ()) after hlater)
    · rintro stop after later hlater
      exact hspec later (.error stop) after hlater

/-- A trap whose call comes back goes on in the context that the scheduler chose last, while
the handler of the call waited or after that, and in its own if there is none. A scheduler
that is asked after that and says to go on has the trap go on in its own context, whatever was
chosen before. -/
theorem last_switch_unless_continued (kernel : Kernel σ) {depth : Nat} {machine : Machine σ}
    {x : Activity} {value : CallResult} (hx : kernel.Takes depth frame machine x)
    (hcause : kernel.cause frame = .syscall convention)
    (hreturned : (kernel.takeTrap depth frame machine).result = .ok (.syscall value)) :
    let run := kernel.takeTrap depth frame machine
    (x.isHandled = false →
      GoesOn (convention.writeBack frame value) none [] (ownEvents x.inner) run.frame) ∧
    ∀ y ∈ x.inner, y.event.isSystemCall = true → ∀ z ∈ y.inner, z.event.isHandler = true →
      ∃ descriptor arguments before left,
        kernel.syscalls.lookup (convention.numberIn frame) = some descriptor ∧
        kernel.RunsHandler (kernel.server depth) frame z descriptor arguments before (.ok value)
          left ∧
        let made := kernel.requestsOf (kernel.server depth) descriptor arguments before
        (∀ c ∈ callsIn (ownEvents z.inner), c.isSchedule = true →
          ∃ shown, c = .schedule shown .blocked ∧ .block shown ∈ made) ∧
        (.takeSwitch ∉ made →
          GoesOn (convention.writeBack left.frame value) (made.foldl HandlerRequest.deferring none)
            (ownEvents z.inner) (ownEvents x.inner) run.frame) := by
  intro run
  refine ⟨fun hunhandled => ?_, fun y hy hsystem z hz hhandler => ?_⟩
  · obtain ⟨last, hdeclines, hlast⟩ := hx.carriesOut hcause
      (fun _ _ _ _ hafter h => h.untouched hafter) fun cpu state hframe hrequests =>
        runsAt_syscallTrap_declines (kernel.server_still depth) hframe hrequests
    rw [← hlast]
    refine hdeclines (fun y hy hsystem z hz => ?_) value hreturned
    exact Activity.unhandled hunhandled hy hsystem hz
  · obtain ⟨last, hcall, hlast⟩ := hx.takesCall hcause
    obtain ⟨descriptor, arguments, before, ending, left, hlookup, hruns, hstopped, hfollows⟩ :=
      hcall y hy hsystem z hz hhandler
    cases ending with
    | error stop => cases hreturned.symm.trans (hstopped stop rfl).1
    | ok result =>
      obtain ⟨hwaited, hdeferred, hswitch⟩ := hruns.waits
      cases (hfollows result rfl).outcome_eq hreturned
      refine ⟨descriptor, arguments, before, left, hlookup, hruns, hwaited, fun hkept => ?_⟩
      have hgoes := (hfollows value rfl).goesOn hreturned (hswitch hkept)
      rw [hdeferred, hlast] at hgoes
      exact hgoes

/-- A call that waits, and then yields. -/
def CallDescriptor.lingering : CallDescriptor Unit where
  shape := { number := 5, name := "linger" }
  handler _ := do
    let frame ← HandlerProgram.ask .frame
    let _ ← HandlerProgram.ask (.block frame)
    .ask (.defer .yield)
    return .ok 7

/-- What the scheduler was shown, and the context that it chose. -/
def Event.choice? : Event → Option (Frame × Frame)
  | .service (.schedule shown _) (.ok (.switch next)) => some (shown, next)
  | _ => none

/-- The choices of the scheduler in a trap: those while the handler of its call waits, and
those that the trap itself asks for. -/
def Activity.choices (x : Activity) : List (Frame × Frame) :=
  let handlers := (x.inner.filter (·.event.isSystemCall)).flatMap fun y =>
    y.inner.filter (·.event.isHandler)
  let events := handlers.flatMap fun z => TrapDispatch.ownEvents z.inner
  (events ++ TrapDispatch.ownEvents x.inner).filterMap Event.choice?

/-- The scheduler chooses another context while the call waits, and that is its only choice.
As it says to go on when the call yields, its choice is not followed. -/
theorem continued_call_drops_choice :
    let kernel := Kernel.choosing (switchingTo otherContext otherContext) .lingering
    let frame := (RawFrame.riscV (.calling 5 0x1000)).capture
    let run := kernel.takeTrap 1 frame { world := () }
    run.result = .ok (.syscall (.ok 7)) ∧
      (∃ x, kernel.Takes 1 frame { world := () } x ∧ x.choices = [(frame, otherContext)]) ∧
      run.frame = RiscV.ecallConvention.writeBack frame (.ok 7) ∧
      run.frame.counter ≠ otherContext.counter := by
  intro kernel frame run
  have hreturned : run.result = .ok (.syscall (.ok 7)) := by
    apply Except.eq_ok_of_toOption
    decide +kernel
  have hcause : kernel.cause frame = .syscall RiscV.ecallConvention := by
    decide +kernel
  have hhandled : run.machine.journal.head?.map Activity.isHandled = some true := by
    decide +kernel
  have hchoices : run.machine.journal.head?.map Activity.choices = some [(frame, otherContext)] := by
    decide +kernel
  have hcontinues : (run.machine.journal.head?.map fun x =>
      (ownEvents x.inner).any Event.isContinue) = some true := by
    decide +kernel
  obtain ⟨x, hx⟩ := Kernel.exists_takes hreturned
  have hrun : kernel.takeTrap 1 frame { world := () } = run := rfl
  have hhead := hx.head?
  obtain ⟨-, hcalls⟩ := last_switch_unless_continued kernel hx hcause hreturned
  -- From here on the run is opaque: all that is needed of it has been evaluated.
  rw [hrun] at hhead hcalls
  clear_value run
  rw [hhead, Option.map_some, Option.some.injEq] at hhandled hchoices hcontinues
  obtain ⟨y, hy, hsystem, z, hz, hhandler⟩ := Activity.exists_of_isHandled hhandled
  obtain ⟨descriptor, arguments, before, left, hlookup, hruns, -, hgoes⟩ :=
    hcalls y hy hsystem z hz hhandler
  have hlingering : kernel.syscalls.lookup (RiscV.ecallConvention.numberIn frame) =
      some .lingering := rfl
  cases hlingering.symm.trans hlookup
  obtain ⟨machine, rfl⟩ := hruns.exists_before
  cases hruns.run_eq
  have hkept : .takeSwitch ∉
      kernel.requestsOf (kernel.server 1) .lingering arguments ⟨frame, {}, machine⟩ := by
    have hmade : kernel.requestsOf (kernel.server 1) .lingering arguments ⟨frame, {}, machine⟩ =
        [.frame, .block frame, .defer .yield] := rfl
    rw [hmade]
    simp
  have hwritten : run.frame = RiscV.ecallConvention.writeBack frame (.ok 7) :=
    (hgoes hkept).continued (List.any_eq_true.mp hcontinues)
  refine ⟨hreturned, ⟨x, hx, hchoices⟩, hwritten, ?_⟩
  rw [hwritten]
  decide +kernel

theorem Convention.returnValue_writeBack (convention : Convention) (frame : Frame)
    (value : CallResult) : (convention.writeBack frame value).returnValue = value.encode := by
  unfold writeBack
  rw [Frame.returnValue_advance, Frame.returnValue_setReturnValue]

theorem Convention.counter_writeBack (convention : Convention) (frame : Frame)
    (value : CallResult) :
    (convention.writeBack frame value).counter = frame.counter + convention.advance := by
  unfold writeBack
  rw [Frame.counter_advance]
  rfl

/-- Whether a context that is applied to a trap later on, whatever that is, goes on with a value
in its return register, and at an address. -/
def Kernel.ComesBack (kernel : Kernel σ) (shown : Frame) (value counter : UInt64) : Prop :=
  ∀ (raw : RawFrame) (depth : Nat) (machine : Machine σ) (x : Activity) (outcome : Outcome),
    shown.arch = raw.arch → kernel.Takes depth raw.capture machine x →
    (kernel.takeTrap depth raw.capture machine).result = .ok outcome →
    x.Applies (kernel.takeTrap depth raw.capture machine).frame shown →
    let restored := raw.restore (kernel.takeTrap depth raw.capture machine).frame
    restored = raw.resuming shown ∧ restored.capture.returnValue = value ∧
      restored.capture.counter = counter

/-- A context comes back as it was shown. -/
theorem Kernel.comesBack (kernel : Kernel σ) (shown : Frame) :
    kernel.ComesBack shown shown.returnValue shown.counter := by
  intro raw depth machine x outcome harch hx hreturned happlies restored
  obtain ⟨before, hswitched⟩ := hx.switched hreturned happlies
  have hrestored : restored = raw.resuming shown := by
    change raw.restore (kernel.takeTrap depth raw.capture machine).frame = _
    rw [hswitched, raw.restore_switchTo]
  rw [hrestored]
  exact ⟨rfl, RawFrame.returnValue_resuming harch, raw.counter_resuming shown⟩

/-- What the scheduler is shown by a trap whose call came back, `left` being the frame that the
handler of the call left, and `made` the requests that it made. -/
structure Kernel.ShowsResult (kernel : Kernel σ) (convention : Convention) (left : Frame)
    (value : CallResult) (made : List (HandlerRequest σ)) (waited events : List Event)
    (result : Except Stop Outcome) (last : Frame) : Prop where
  written : ∀ shown reason reply, .service (.schedule shown reason) reply ∈ events →
    shown.returnValue = value.encode ∧ shown.counter = left.counter + convention.advance ∧
      kernel.ComesBack shown value.encode (left.counter + convention.advance)
  chosen : ∀ shown reason next, .service (.schedule shown reason) (.ok (.switch next)) ∈ events →
    result = .ok (.syscall value) ∧ last = shown.switchTo next ∧ last.Loads next
  waiting : ∀ shown reason reply, .service (.schedule shown reason) reply ∈ waited →
    reason = .blocked ∧ .block shown ∈ made
  kept : made.foldl HandlerRequest.deferring none = none → .takeSwitch ∉ made →
    ∀ outcome, result = .ok outcome →
      last = (convention.writeBack left value).following (lastSwitch waited) ∧
        ∀ next, lastSwitch waited = some next → last.Loads next

/-- All that settling a call shows the scheduler is the frame with its result. -/
theorem Concludes.schedule_eq {written shown : Frame} {requests : CallRequests}
    {new : List Activity} {ending : Except Stop Unit} {after : Activation σ}
    {reason : ScheduleReason} {reply : Except Stop NextContext}
    (h : Concludes written requests new ending after)
    (hmem : .service (.schedule shown reason) reply ∈ ownEvents new) :
    shown = written ∧
      ∀ next, reply = .ok (.switch next) → ending = .ok () ∧ after.frame = shown.switchTo next := by
  cases h with
  | stays | switches => cases hmem
  | reschedules _ hasked =>
    cases hasked with
    | unanswered hx | resumed hx _ _ | refused hx _ =>
      rw [ownEvents_call hx] at hmem
      cases List.mem_singleton.mp hmem
      refine ⟨rfl, ?_⟩
      rintro next ⟨⟩
    | switched hx hafter =>
      rw [ownEvents_call hx] at hmem
      cases List.mem_singleton.mp hmem
      refine ⟨rfl, ?_⟩
      rintro next ⟨⟩
      exact ⟨rfl, hafter⟩

theorem Convention.FollowsUp.schedule_eq {left after : Activation σ} {value : CallResult}
    {new : List Activity} {result : Except Stop Outcome} {shown : Frame} {reason : ScheduleReason}
    {reply : Except Stop NextContext} (h : convention.FollowsUp left value new result after)
    (hmem : .service (.schedule shown reason) reply ∈ ownEvents new) :
    shown = convention.writeBack left.frame value ∧
      ∀ next, reply = .ok (.switch next) →
        result = .ok (.syscall value) ∧ after.frame = shown.switchTo next := by
  cases h with
  | unclosed _ hunasked => cases hunasked _ (mem_callsIn hmem)
  | @settled old later ending middle _ hunasked hlater hafter =>
    rw [ownEvents_append, List.mem_append] at hmem
    rcases hmem with hold | hnew
    · cases hunasked _ (mem_callsIn hold)
    obtain ⟨hshown, hchosen⟩ := hlater.schedule_eq hnew
    refine ⟨hshown, fun next hnext => ?_⟩
    obtain ⟨hending, hmiddle⟩ := hchosen next hnext
    rw [hending, hafter.1]
    exact ⟨rfl, hmiddle⟩

/-- What the scheduler is shown once a call has come back holds its result, and is behind the
instruction of the call: whatever it chooses instead, the context that it was shown goes on so
wherever it is chosen later. What it is shown before that is what the handler shows it while
it waits, and what it chooses then takes effect once the result has been written back. -/
theorem shown_results_come_back (kernel : Kernel σ) {depth : Nat} {machine : Machine σ}
    {x : Activity} (hx : kernel.Takes depth frame machine x)
    (hcause : kernel.cause frame = .syscall convention) :
    let run := kernel.takeTrap depth frame machine
    ∀ y ∈ x.inner, y.event.isSystemCall = true → ∀ z ∈ y.inner, z.event.isHandler = true →
      ∃ descriptor arguments before ending left,
        kernel.syscalls.lookup (convention.numberIn frame) = some descriptor ∧
        kernel.RunsHandler (kernel.server depth) frame z descriptor arguments before ending left ∧
        ∀ value, ending = .ok value →
          (kernel.LeavesFrame (kernel.server depth) descriptor → left.frame = frame) ∧
          kernel.ShowsResult convention left.frame value
            (kernel.requestsOf (kernel.server depth) descriptor arguments before)
            (ownEvents z.inner) (ownEvents x.inner) run.result run.frame := by
  intro run y hy hsystem z hz hhandler
  obtain ⟨last, hcall, hlast⟩ := hx.takesCall hcause
  obtain ⟨descriptor, arguments, before, ending, left, hlookup, hruns, -, hfollows⟩ :=
    hcall y hy hsystem z hz hhandler
  refine ⟨descriptor, arguments, before, ending, left, hlookup, hruns, ?_⟩
  rintro value rfl
  have hfollows := hfollows value rfl
  obtain ⟨hwaited, hdeferred, hswitch⟩ := hruns.waits
  refine ⟨fun hleaves => ?_, ?_⟩
  · rw [hleaves _ _ _ _ hruns.run_eq, hruns.frame_eq]
  rw [← hlast]
  constructor
  case written =>
    intro shown reason reply hmem
    obtain ⟨rfl, -⟩ := hfollows.schedule_eq hmem
    rw [← convention.returnValue_writeBack left.frame value,
      ← convention.counter_writeBack left.frame value]
    exact ⟨rfl, rfl, kernel.comesBack _⟩
  case chosen =>
    intro shown reason next hmem
    obtain ⟨hresult, hswitched⟩ := (hfollows.schedule_eq hmem).2 next rfl
    refine ⟨hresult, hswitched, ?_⟩
    rw [hswitched]
    exact shown.loads_switchTo next
  case waiting =>
    intro shown reason reply hmem
    obtain ⟨asked, hasked, hblock⟩ := hwaited _ (mem_callsIn hmem) rfl
    cases hasked
    exact ⟨rfl, hblock⟩
  case kept =>
    intro hnone hkept outcome hreturned
    have hgoes := hfollows.goesOn hreturned (hswitch hkept)
    have hunasked : ∀ c ∈ callsIn (ownEvents x.inner), c.isSchedule = false := by
      have hasked := hgoes.asked
      rw [hdeferred, hnone] at hasked
      intro c hc
      exact Bool.not_eq_true _ ▸ List.filter_eq_nil_iff.mp hasked c hc
    have hlast := hgoes.followed (not_continues hunasked)
    rw [lastSwitch_append, lastSwitch_eq_none hunasked, Option.none_or] at hlast
    exact ⟨hlast, fun _ => Frame.loads_of_following hlast⟩

theorem Event.exists_of_choice? {event : Event} {shown next : Frame}
    (h : event.choice? = some (shown, next)) :
    ∃ reason, event = .service (.schedule shown reason) (.ok (.switch next)) := by
  unfold choice? at h
  split at h
  · cases h
    exact ⟨_, rfl⟩
  · cases h

def lingered : Frame :=
  RiscV.ecallConvention.writeBack (RawFrame.riscV (.calling 5 0x1000)).capture (.ok 7)

/-- The scheduler goes on with the program that lingered once the other one has yielded, and
with the other one before that. -/
def swapping (shown : Frame) (_ : ScheduleReason) : NextContext :=
  if shown.counter = 0x2004 then .switch lingered else .switch otherContext

/-- A program lingers, and the scheduler chooses another one. As that yields, the first goes on
in its frame, behind its call, and with its result. -/
theorem lingering_call_comes_back :
    let kernel := Kernel.choosing swapping .lingering
    let frame := (RawFrame.riscV (.calling 5 0x1000)).capture
    let raw := RawFrame.riscV (yieldingAt 0x2000)
    let run := kernel.takeTrap 1 frame { world := () }
    let later := kernel.takeTrap 1 raw.capture run.machine
    run.frame = lingered.switchTo otherContext ∧
      (raw.restore later.frame).capture.returnValue = CallResult.encode (.ok 7) ∧
      (raw.restore later.frame).capture.counter = 0x1004 := by
  intro kernel frame raw run later
  have hreturned : run.result = .ok (.syscall (.ok 7)) := by
    apply Except.eq_ok_of_toOption
    decide +kernel
  have hyielded : later.result = .ok (.syscall (.ok 0)) := by
    apply Except.eq_ok_of_toOption
    decide +kernel
  have hcause : kernel.cause frame = .syscall RiscV.ecallConvention := by
    decide +kernel
  have hhandled : run.machine.journal.head?.map Activity.isHandled = some true := by
    decide +kernel
  have hchoice : (run.machine.journal.head?.bind fun x =>
      (ownEvents x.inner).findSome? Event.choice?) = some (lingered, otherContext) := by
    decide +kernel
  have hswitch : (later.machine.journal.head?.bind fun x =>
      (ownEvents x.inner).findSome? Event.switch?) = some lingered := by
    decide +kernel
  obtain ⟨x, hx⟩ := Kernel.exists_takes hreturned
  obtain ⟨w, hw⟩ := Kernel.exists_takes hyielded
  have hrun : kernel.takeTrap 1 frame { world := () } = run := rfl
  have hlater : kernel.takeTrap 1 raw.capture run.machine = later := rfl
  have hfirst := hx.head?
  have hsecond := hw.head?
  have hcalls := shown_results_come_back kernel hx hcause
  -- From here on the runs are opaque: all that is needed of them has been evaluated.
  rw [hrun] at hfirst hcalls
  rw [hlater] at hsecond
  clear_value later run
  rw [hfirst] at hhandled hchoice
  rw [hsecond, Option.bind_some] at hswitch
  rw [Option.map_some, Option.some.injEq] at hhandled
  obtain ⟨y, hy, hsystem, z, hz, hhandler⟩ := Activity.exists_of_isHandled hhandled
  obtain ⟨descriptor, arguments, before, ending, left, hlookup, hruns, hshows⟩ :=
    hcalls y hy hsystem z hz hhandler
  have hlingering : kernel.syscalls.lookup (RiscV.ecallConvention.numberIn frame) =
      some .lingering := rfl
  cases hlingering.symm.trans hlookup
  obtain ⟨machine, rfl⟩ := hruns.exists_before
  cases ending with
  | error stop => cases hruns.run_eq
  | ok value =>
    cases hruns.run_eq
    obtain ⟨-, hwritten, hchosen, -, -⟩ := hshows _ rfl
    obtain ⟨event, hevent, hsome⟩ := List.exists_of_findSome?_eq_some hchoice
    obtain ⟨reason, rfl⟩ := Event.exists_of_choice? hsome
    obtain ⟨-, hframe, -⟩ := hchosen _ _ _ hevent
    obtain ⟨-, -, hcomes⟩ := hwritten _ _ _ hevent
    have happlies : w.Applies (kernel.takeTrap 1 raw.capture run.machine).frame lingered :=
      Or.inl (List.exists_of_findSome?_eq_some hswitch)
    rw [← hlater] at hyielded
    obtain ⟨-, hvalue, hcounter⟩ := hcomes raw 1 run.machine w _ rfl hw hyielded happlies
    rw [hlater] at hvalue hcounter
    exact ⟨hframe, hvalue, hcounter⟩

/-- A call that waits, and then returns. -/
def CallDescriptor.waiting : CallDescriptor Unit where
  shape := { number := 5, name := "wait" }
  handler _ := do
    let frame ← HandlerProgram.ask .frame
    let _ ← HandlerProgram.ask (.block frame)
    return .ok 7

/-- The context of a call that waited is not always shown with its result. The one choice that
the scheduler makes is for the context at the instruction of the call, with its return register
as it was; and the trap goes on in the other context. -/
theorem waiting_call_shown_without_result :
    let kernel := Kernel.choosing (switchingTo otherContext otherContext) .waiting
    let frame := (RawFrame.riscV (.calling 5 0x1000)).capture
    let run := kernel.takeTrap 1 frame { world := () }
    run.result = .ok (.syscall (.ok 7)) ∧
      (∃ x, kernel.Takes 1 frame { world := () } x ∧ x.choices = [(frame, otherContext)]) ∧
      run.frame = (RiscV.ecallConvention.writeBack frame (.ok 7)).switchTo otherContext ∧
      frame.returnValue ≠ CallResult.encode (.ok 7) ∧
      frame.counter ≠ 0x1000 + RiscV.ecallConvention.advance := by
  intro kernel frame run
  have hreturned : run.result = .ok (.syscall (.ok 7)) := by
    apply Except.eq_ok_of_toOption
    decide +kernel
  have hchoices : run.machine.journal.head?.map Activity.choices = some [(frame, otherContext)] := by
    decide +kernel
  have hswitched : run.frame =
      (RiscV.ecallConvention.writeBack frame (.ok 7)).switchTo otherContext := by
    decide +kernel
  obtain ⟨x, hx⟩ := Kernel.exists_takes hreturned
  have hrun : kernel.takeTrap 1 frame { world := () } = run := rfl
  have hhead := hx.head?
  rw [hrun] at hhead
  clear_value run
  rw [hhead, Option.map_some, Option.some.injEq] at hchoices
  exact ⟨hreturned, ⟨x, hx, hchoices⟩, hswitched, by decide +kernel, by decide +kernel⟩

end TrapDispatch
