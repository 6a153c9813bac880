import TrapDispatch.Proofs.CallTraps
import TrapDispatch.Proofs.Outcomes

/-!
# The treatment of traps

From its acceptance to its return, whatever it is: which frames a trap shows the
scheduler, and in which context it goes on.
-/

namespace TrapDispatch

variable {σ α β : Type} {kernel : Kernel σ} {server : Server σ} {cpu : Fin maxCpus}
  {state : Activation σ} {frame : Frame}

theorem Frame.returnValue_advance (frame : Frame) (bytes : UInt64) :
    (frame.advance bytes).returnValue = frame.returnValue := by
  unfold advance
  split <;> rfl

/-- What a trap with a frame shows the scheduler, in view of its events. The result of its
system call is in the frame by then, if there is one; and if the handler of the call leaves
the frame alone, the rest of it is as the trap interrupted it. -/
structure Kernel.Shows (kernel : Kernel σ) (server : Server σ) (frame : Frame)
    (events : List Event) (shown : Frame) (reason : ScheduleReason) : Prop where
  context : kernel.CallLeavesFrame server frame → shown = frame.afterCall (callResult events)
  written : ∀ result, callResult events = some result → shown.returnValue = result.encode
  yields : reason = .yield → callResult events ≠ none

/-- How a trap with a frame is treated. It shows the scheduler its frame as it is then,
and goes on where it settles; if the handler of its system call leaves the frame alone,
that is the context that it interrupted. The outcome tells whether it was a system call. -/
structure Kernel.Treats (kernel : Kernel σ) (server : Server σ) (frame : Frame)
    (new : List Activity) (result : Except Stop Outcome) (after : Activation σ) : Prop where
  shows : ∀ shown reason reply, .service (.schedule shown reason) reply ∈ ownEvents new →
    kernel.Shows server frame (ownEvents new) shown reason
  settles : ∀ outcome, result = .ok outcome → ∃ base,
    (kernel.CallLeavesFrame server frame → base = kernel.resumption frame outcome) ∧
      Settles (fun next => ∃ x ∈ new, x.Waited next) base (ownEvents new) after.frame
  outcome : ∀ outcome, result = .ok outcome →
    (outcome.IsCall ↔ ∃ convention, kernel.cause frame = .syscall convention)

theorem Kernel.Treats.of_pursues {allowed : ScheduleReason → Prop} {new : List Activity}
    {result : Except Stop Outcome} {after : Activation σ}
    (h : Pursues allowed (fun _ => False) frame (kernel.resumption frame) new result after)
    (hallowed : ¬ allowed .yield) (hcause : ∀ convention, kernel.cause frame ≠ .syscall convention)
    (hcall : ∀ outcome, result = .ok outcome → ¬ outcome.IsCall) :
    kernel.Treats server frame new result after where
  shows shown reason reply hmem := by
    have hnone : callResult (ownEvents new) = none := by
      refine callResult_eq_none fun event hevent => ?_
      rcases h.shows event hevent with hcalm | ⟨reason, reply, -, rfl⟩
      · exact Event.callResult?_of_isCalm hcalm
      · rfl
    rcases h.shows _ hmem with hcalm | ⟨other, answer, hother, hevent⟩
    · cases hcalm
    · cases hevent
      constructor
      case context =>
        rw [hnone]
        exact fun _ => rfl
      case written =>
        rw [hnone]
        exact fun result hresult => by cases hresult
      case yields =>
        rintro rfl
        exact absurd hother hallowed
  settles outcome houtcome :=
    ⟨_, fun _ => rfl, (h.settles outcome houtcome).mono fun _ hkept => hkept.elim⟩
  outcome outcome houtcome := iff_of_false (hcall outcome houtcome)
    fun ⟨convention, h⟩ => hcause convention h

/-- A trap that makes a system call is treated as the call and what settles it are. -/
theorem runsAt_syscallTrap {spec : RunSpec σ Outcome} (hserver : server.Still)
    (convention : Convention) (hframe : state.frame = frame)
    (hstopped : ∀ new stop after, kernel.MakesCall server (convention.numberIn frame)
      (convention.argumentsIn frame) state new (.error stop) after → spec new (.error stop) after)
    (hreturned : ∀ new result middle last, kernel.MakesCall server (convention.numberIn frame)
      (convention.argumentsIn frame) state new (.ok result) middle →
      last.frame = (middle.frame.setReturnValue result.encode).advance convention.advance →
      last.requests = middle.requests →
      RunsAt (fun later outcome after => spec (later ++ new) outcome after)
        (do kernel.settle server; return Outcome.syscall result) last) :
    RunsAt spec (kernel.syscallTrap server cpu convention) state := by
  unfold Kernel.syscallTrap
  apply runsAt_frame
  rw [hframe]
  refine (runsAt_makesCall hserver _ _ state).bind ?_ fun stop after new h => hstopped new stop after h
  intro result middle new _ hcall
  cases result with
  | ok value =>
    refine runsAt_next () rfl rfl ?_
    exact hreturned new (.ok value) middle _ hcall rfl rfl
  | error code =>
    refine runsAt_next () rfl rfl (runsAt_next () rfl rfl (runsAt_next () rfl rfl ?_))
    exact hreturned new (.error code) middle _ hcall rfl rfl

/-- A system call trap shows its frame once the result is written back, and then goes on
there, or where the call or the scheduler sends it. -/
theorem treats_syscallTrap (hserver : server.Still) {convention : Convention}
    (hcause : kernel.cause frame = .syscall convention) (hframe : state.frame = frame)
    (hswitch : state.requests.switch = none) :
    RunsAt (kernel.Treats server frame) (kernel.syscallTrap server cpu convention) state := by
  have hadvance := Kernel.advance_of_cause hcause
  refine runsAt_syscallTrap hserver convention hframe ?_ ?_
  · intro new stop after hcall
    refine ⟨fun shown reason reply hmem => ?_, fun outcome houtcome => (by cases houtcome),
      fun outcome houtcome => by cases houtcome⟩
    rcases hcall.isCalm_or hmem with h | h
    · cases h
    · cases h
  intro new result middle last hcall hlast hrequests
  -- The frame that is shown to the scheduler is the one that was written back.
  have hwritten : kernel.CallLeavesFrame server frame → last.frame = frame.afterCall (some result) := by
    intro hleaves
    have hmiddle : middle.frame = frame := by
      cases hcall with
      | returned _ _ _ hbefore hcourse hafter =>
        rw [hafter.1, ← hframe, ← hbefore.1]
        refine hcourse.frame_eq fun window descriptor hscreen => ?_
        rw [hframe] at hscreen
        exact hleaves convention descriptor hcause (SyscallTable.lookup_of_screen hscreen)
    rw [hlast, hmiddle, hadvance]
    rfl
  have hkept : ∀ next, last.requests.switch = some next → ∃ x ∈ new, x.Waited next := by
    intro next hnext
    rw [hrequests] at hnext
    cases hcall with
    | @returned x y z _ before inner _ hx hy hz hbefore hcourse hafter =>
      rw [hafter.2] at hnext
      have hnone : before.requests.switch = none := by rw [hbefore.2, hswitch]
      exact ⟨y, by simp, by rw [hy]; rfl, hcourse.exists_replied hserver hnone hnext⟩
  have hshows : ∀ (later : List Activity) (ending : Except Stop Unit) (after : Activation σ),
      Pursues (fun _ => True) (fun next => last.requests.switch = some next) last.frame
        (fun _ => last.frame) later ending after →
      ∀ shown reason reply, .service (.schedule shown reason) reply ∈ ownEvents (later ++ new) →
        kernel.Shows server frame (ownEvents (later ++ new)) shown reason := by
    intro later ending after h shown reason reply hmem
    have hresult : callResult (ownEvents (later ++ new)) = some result := by
      rw [ownEvents_append, callResult_append, hcall.callResult_eq, Option.some_or]
    have hshown : shown = last.frame := by
      rw [ownEvents_append, List.mem_append] at hmem
      rcases hmem with hmem | hmem
      · rcases hcall.isCalm_or hmem with hcalm | hsystem
        · cases hcalm
        · cases hsystem
      · rcases h.shows _ hmem with hcalm | ⟨other, answer, -, hevent⟩
        · cases hcalm
        · cases hevent
          rfl
    rw [hshown]
    constructor
    case context =>
      rw [hresult]
      exact hwritten
    case written =>
      intro other hother
      rw [hresult] at hother
      cases hother
      rw [hlast, Frame.returnValue_advance, Frame.returnValue_setReturnValue]
    case yields =>
      intro _
      simp [hresult]
  refine (runsAt_settle hserver last).bind ?_ fun stop after later h => ?_
  · intro done after later _ h
    refine runsAt_of_ok [] rfl rfl ⟨hshows later _ after h, ?_, ?_⟩
    case refine_2 =>
      rintro _ ⟨⟩
      exact iff_of_true ⟨result, rfl⟩ ⟨convention, hcause⟩
    rintro _ ⟨⟩
    refine ⟨last.frame, hwritten, ?_⟩
    have hnone : ∀ event ∈ ownEvents new, event.switch? = none := by
      intro event hevent
      rcases hcall.isCalm_or hevent with hcalm | hsystem
      · exact Event.switch?_of_isCalm hcalm
      · cases event <;> first | rfl | cases hsystem
    rw [ownEvents_append]
    refine ((h.settles done rfl).preceded hnone).mono fun next hnext => ?_
    obtain ⟨x, hx, hwaited⟩ := hkept next hnext
    exact ⟨x, List.mem_append_right _ hx, hwaited⟩
  · exact ⟨hshows later _ after h, fun outcome houtcome => (by cases houtcome),
      fun outcome houtcome => by cases houtcome⟩

theorem runsAt_route {spec : RunSpec σ Outcome} (hframe : state.frame = frame)
    (hexception : ∀ kind, kernel.cause frame = .exception kind → ∀ middle, state.Untouched middle →
      RunsAt spec (kernel.exception server cpu kind) middle)
    (hinterrupt : kernel.cause frame = .interrupt → ∀ middle, state.Untouched middle →
      RunsAt spec (kernel.interrupt server cpu) middle)
    (hcall : ∀ convention, kernel.cause frame = .syscall convention → ∀ middle,
      state.Untouched middle → RunsAt spec (kernel.syscallTrap server cpu convention) middle)
    (hunassigned : kernel.cause frame = .unassigned → ∀ middle, state.Untouched middle →
      RunsAt spec (kernel.defaultFault server cpu) middle) :
    RunsAt spec (kernel.route server cpu) state := by
  unfold Kernel.route
  apply runsAt_frame
  rw [hframe]
  cases hentry : kernel.vectors.lookup frame.vector with
  | none =>
    have hcause := Kernel.cause_of_lookup_eq_none hentry
    refine runsAt_next () rfl rfl (runsAt_next () rfl rfl ?_)
    exact hunassigned hcause _ ⟨rfl, rfl⟩
  | some entry =>
    have hcause := Kernel.cause_of_lookup hentry
    refine runsAt_next () rfl rfl (runsAt_next () rfl rfl ?_)
    rw [hcause] at hexception hinterrupt hcall hunassigned
    cases hkind : Cause.ofTrap frame entry with
    | exception kind => exact hexception kind hkind _ ⟨rfl, rfl⟩
    | interrupt => exact hinterrupt hkind _ ⟨rfl, rfl⟩
    | syscall convention => exact hcall convention hkind _ ⟨rfl, rfl⟩
    | unassigned => exact hunassigned hkind _ ⟨rfl, rfl⟩

theorem treats_route (hserver : server.Still) (hframe : state.frame = frame)
    (hswitch : state.requests.switch = none) :
    RunsAt (kernel.Treats server frame) (kernel.route server cpu) state := by
  have hresumed : ¬ Outcome.resumed.IsCall := by simp [Outcome.IsCall]
  have hended : ¬ Outcome.threadTerminated.IsCall := by simp [Outcome.IsCall]
  refine runsAt_route hframe ?_ ?_ ?_ ?_
  · intro kind hcause middle hmiddle
    have hpursues : RunsAt _ (kernel.exception server cpu kind) middle :=
      runsAt_exception hserver (hmiddle.1.trans hframe) hcause
    exact (hpursues.giving (Kernel.exception_gives hresumed hended kind)).mono fun _ _ _ h =>
      .of_pursues h.1 (by simp) (by simp [hcause]) h.2
  · intro hcause middle hmiddle
    have hpursues : RunsAt _ (kernel.interrupt server cpu) middle :=
      runsAt_interrupt hserver (hmiddle.1.trans hframe) hcause
    exact (hpursues.giving Kernel.interrupt_gives).mono fun _ _ _ h =>
      .of_pursues h.1 (by simp) (by simp [hcause]) fun outcome houtcome =>
        Outcome.not_isCall (h.2 outcome houtcome)
  · intro convention hcause middle hmiddle
    refine treats_syscallTrap hserver hcause (hmiddle.1.trans hframe) ?_
    rw [hmiddle.2, hswitch]
  · intro hcause middle hmiddle
    have hpursues : RunsAt _ (kernel.defaultFault server cpu) middle :=
      runsAt_defaultFault hserver (hmiddle.1.trans hframe) hcause
    exact (hpursues.giving (Kernel.defaultFault_gives hended)).mono fun _ _ _ h =>
      .of_pursues h.1 (by simp) (by simp [hcause]) h.2

theorem runsAt_carryOut {spec : RunSpec σ Outcome} (outer : CpuSlot)
    (hroute : ∀ middle, state.Untouched middle → RunsAt spec (kernel.route server cpu) middle)
    (hspec : ∀ new result middle after, Activation.Untouched middle after →
      spec new result middle → spec new result after) :
    RunsAt spec (kernel.carryOut server cpu outer) state := by
  have hserve : ∀ middle, state.Untouched middle →
      RunsAt spec (kernel.serveTrap server cpu) middle := by
    intro middle hmiddle
    unfold Kernel.serveTrap
    refine (hroute middle hmiddle).bind ?_ fun _ _ _ h => h
    intro outcome last new _ h
    exact runsAt_of_ok [] rfl rfl (hspec new _ last _ ⟨rfl, rfl⟩ h)
  unfold Kernel.carryOut
  refine runsAt_next () rfl rfl ?_
  refine RunsAt.bind (hserve _ ?_) ?_ fun _ _ _ h => h
  · exact ⟨rfl, rfl⟩
  intro outcome last new _ h
  exact runsAt_of_ok [] rfl rfl (hspec new _ last _ ⟨rfl, rfl⟩ h)

/-- What comes of a trap: it is not accepted, or it is one activity behind the question
for its CPU, and is carried out as specified. -/
def TrapCourse (frame : Frame) (spec : RunSpec σ Outcome) : RunSpec σ Outcome :=
  fun new result after => (∃ stop asked, result = .error stop ∧ new = [asked]) ∨
    ∃ cpu x asked last, new = [x, asked] ∧ x.event = .trap cpu frame result ∧
      spec x.inner result last ∧ last.Untouched after

theorem runsAt_handleTrap {spec : RunSpec σ Outcome} (hserver : server.Still)
    (hcarry : ∀ cpu outer middle, state.Untouched middle →
      RunsAt spec (kernel.carryOut server cpu outer) middle) :
    RunsAt (TrapCourse state.frame spec) (kernel.handleTrap server) state := by
  have hduring : ∀ cpu outer (middle : Activation σ) asked, state.Untouched middle →
      RunsAt (fun new result after => TrapCourse state.frame spec (new ++ [asked]) result after)
        (Dispatch.during (.trap cpu state.frame) (kernel.carryOut server cpu outer)) middle := by
    intro cpu outer middle asked hmiddle
    have hbody := hcarry cpu outer { middle with machine.journal := [] } hmiddle
    cases hrun : kernel.carryOut server cpu outer { middle with machine.journal := [] } with
    | ok outcome last =>
      obtain ⟨new, hnew, hspec⟩ := hbody.returned hrun
      rw [List.append_nil] at hnew
      subst hnew
      exact runsAt_of_ok [_] (Dispatch.during_of_ok hrun) rfl
        (Or.inr ⟨cpu, _, asked, last, rfl, rfl, hspec, rfl, rfl⟩)
    | error stop last =>
      obtain ⟨new, hnew, hspec⟩ := hbody.stopped hrun
      rw [List.append_nil] at hnew
      subst hnew
      exact runsAt_of_error [_] (Dispatch.during_of_error hrun) rfl
        (Or.inr ⟨cpu, _, asked, last, rfl, rfl, hspec, rfl, rfl⟩)
  unfold Kernel.handleTrap
  refine (runsAt_call hserver .cpuId state).bind ?_ ?_
  · rintro id first _ - ⟨asked, rfl, -, hsame⟩
    have hfirst : state.Untouched first := hsame ⟨_, rfl⟩
    split
    case isFalse => exact runsAt_of_error [] rfl rfl (Or.inl ⟨_, asked, rfl, rfl⟩)
    case isTrue hid =>
      generalize (⟨UInt64.toNat id, hid⟩ : Fin maxCpus) = cpu
      cases haccepts : Kernel.accepts (first.machine.slots.get cpu) with
      | false =>
        have hrefused := Law.acceptTrap_of_refuses haccepts
        exact runsAt_of_error [] (Dispatch.bind_of_error hrefused) rfl (Or.inl ⟨_, asked, rfl, rfl⟩)
      | true =>
        apply runsAt_next _ (Law.acceptTrap_of_accepts haccepts) rfl
        apply runsAt_frame
        rw [hfirst.1]
        exact hduring cpu _ first asked hfirst
  · rintro stop after _ ⟨asked, rfl, -⟩
    exact Or.inl ⟨stop, asked, rfl, rfl⟩

theorem Kernel.Treats.untouched {new : List Activity} {result : Except Stop Outcome}
    {middle after : Activation σ} (hafter : middle.Untouched after)
    (h : kernel.Treats server frame new result middle) :
    kernel.Treats server frame new result after where
  shows := h.shows
  settles outcome houtcome := by
    rw [hafter.1]
    exact h.settles outcome houtcome
  outcome := h.outcome

/-- Whether a trap was accepted, and is an activity behind the question for its CPU. -/
def Kernel.Takes (kernel : Kernel σ) (depth : Nat) (frame : Frame) (machine : Machine σ)
    (x : Activity) : Prop :=
  ∃ asked, (kernel.takeTrap depth frame machine).machine.journal = x :: asked :: machine.journal

theorem takeTrap_course {spec : RunSpec σ Outcome} {depth : Nat} (machine : Machine σ)
    (hcarry : ∀ cpu outer middle, middle.frame = frame → middle.requests = {} →
      RunsAt spec (kernel.carryOut (kernel.server depth) cpu outer) middle) :
    ∃ new last, (kernel.takeTrap depth frame machine).machine.journal = new ++ machine.journal ∧
      last.frame = (kernel.takeTrap depth frame machine).frame ∧
      TrapCourse frame spec new (kernel.takeTrap depth frame machine).result last := by
  have hrun : RunsAt (TrapCourse frame spec) (kernel.handleTrap (kernel.server depth))
      { frame, requests := {}, machine } :=
    runsAt_handleTrap (Kernel.server_still kernel depth) fun cpu outer middle hmiddle =>
      hcarry cpu outer middle hmiddle.1 hmiddle.2
  unfold Kernel.takeTrap Kernel.complete
  cases hend : kernel.handleTrap (kernel.server depth) { frame, requests := {}, machine } with
  | ok outcome last =>
    obtain ⟨new, hnew, hcourse⟩ := hrun.returned hend
    exact ⟨new, last, hnew, rfl, hcourse⟩
  | error stop last =>
    obtain ⟨new, hnew, hcourse⟩ := hrun.stopped hend
    exact ⟨new, last, hnew, rfl, hcourse⟩

/-- What is taken has been carried out as specified. -/
theorem Kernel.Takes.course {spec : RunSpec σ Outcome} {depth : Nat} {machine : Machine σ}
    {x : Activity} (h : kernel.Takes depth frame machine x)
    (hcarry : ∀ cpu outer middle, middle.frame = frame → middle.requests = {} →
      RunsAt spec (kernel.carryOut (kernel.server depth) cpu outer) middle) :
    ∃ cpu last, x.event = .trap cpu frame (kernel.takeTrap depth frame machine).result ∧
      spec x.inner (kernel.takeTrap depth frame machine).result last ∧
      last.frame = (kernel.takeTrap depth frame machine).frame := by
  obtain ⟨asked, hjournal⟩ := h
  obtain ⟨new, last, hnew, hframe, hcourse⟩ := takeTrap_course machine hcarry
  rw [hjournal] at hnew
  rcases hcourse with ⟨stop, other, -, rfl⟩ | ⟨cpu, y, other, inner, rfl, hevent, hspec, hlast⟩
  · have hlength := congrArg List.length hnew
    simp at hlength
  · cases hnew
    exact ⟨cpu, inner, hevent, hspec, hlast.1.symm.trans hframe⟩

theorem treats_carryOut (hserver : server.Still) (outer : CpuSlot) (hframe : state.frame = frame)
    (hrequests : state.requests = {}) :
    RunsAt (kernel.Treats server frame) (kernel.carryOut server cpu outer) state := by
  refine runsAt_carryOut outer ?_ fun new result middle after hafter h => h.untouched hafter
  intro middle hmiddle
  apply treats_route hserver (hmiddle.1.trans hframe)
  rw [hmiddle.2, hrequests]

theorem Kernel.exists_takes {depth : Nat} {machine : Machine σ} {outcome : Outcome}
    (h : (kernel.takeTrap depth frame machine).result = .ok outcome) :
    ∃ x, kernel.Takes depth frame machine x := by
  obtain ⟨new, last, hjournal, -, hcourse⟩ := takeTrap_course machine
    fun _ outer middle hframe hrequests =>
      (treats_carryOut (kernel.server_still depth) outer hframe hrequests :
        RunsAt (kernel.Treats (kernel.server depth) frame) _ middle)
  rcases hcourse with ⟨stop, -, hstop, -⟩ | ⟨cpu, x, asked, inner, rfl, -⟩
  · rw [h] at hstop
    cases hstop
  · exact ⟨x, asked, hjournal⟩

theorem Kernel.Takes.treats {depth : Nat} {machine : Machine σ} {x : Activity}
    (h : kernel.Takes depth frame machine x) :
    ∃ cpu last, x.event = .trap cpu frame (kernel.takeTrap depth frame machine).result ∧
      kernel.Treats (kernel.server depth) frame x.inner (kernel.takeTrap depth frame machine).result
        last ∧
      last.frame = (kernel.takeTrap depth frame machine).frame :=
  h.course fun _ outer _ => treats_carryOut (kernel.server_still depth) outer

/-- Whether a context that the scheduler replied with is applied, in a trap that goes on in
`last`: the scheduler replied with it to the trap itself, or it did to the handler of its
system call, and the trap goes on in it. -/
def Activity.Applies (x : Activity) (last next : Frame) : Prop :=
  x.Replied next ∨ ((∃ y ∈ x.inner, y.Waited next) ∧ ∃ before : Frame, last = before.switchTo next)

section

variable {depth : Nat} {machine : Machine σ} {x : Activity} {outcome : Outcome}

theorem Kernel.Takes.head? (h : kernel.Takes depth frame machine x) :
    (kernel.takeTrap depth frame machine).machine.journal.head? = some x := by
  obtain ⟨asked, hjournal⟩ := h
  rw [hjournal, List.head?_cons]

theorem Kernel.Takes.outcome_iff (h : kernel.Takes depth frame machine x)
    (hreturned : (kernel.takeTrap depth frame machine).result = .ok outcome) :
    outcome.IsCall ↔ ∃ convention, kernel.cause frame = .syscall convention := by
  obtain ⟨cpu, last, -, htreats, -⟩ := h.treats
  exact htreats.outcome outcome hreturned

theorem Kernel.Takes.frame_eq (h : kernel.Takes depth frame machine x)
    (hreturned : (kernel.takeTrap depth frame machine).result = .ok outcome)
    (hleaves : kernel.CallLeavesFrame (kernel.server depth) frame)
    (hnone : ∀ next, ¬ x.Applies (kernel.takeTrap depth frame machine).frame next) :
    (kernel.takeTrap depth frame machine).frame = kernel.resumption frame outcome := by
  obtain ⟨cpu, last, -, htreats, hlast⟩ := h.treats
  obtain ⟨base, hbase, hsettles⟩ := htreats.settles outcome hreturned
  rw [hlast] at hsettles
  rw [← hbase hleaves]
  generalize (kernel.takeTrap depth frame machine).frame = final at hsettles hnone
  cases hsettles with
  | stays h => rfl
  | replied hmem h => exact absurd (Or.inl hmem) (hnone _)
  | kept h hkept => exact absurd (Or.inr ⟨hkept, base, rfl⟩) (hnone _)

/-- A context that is applied is all that the trap goes on with. -/
theorem Kernel.Takes.switched (h : kernel.Takes depth frame machine x)
    (hreturned : (kernel.takeTrap depth frame machine).result = .ok outcome) {next : Frame}
    (happlies : x.Applies (kernel.takeTrap depth frame machine).frame next) :
    ∃ before : Frame, (kernel.takeTrap depth frame machine).frame = before.switchTo next := by
  obtain ⟨cpu, last, -, htreats, hlast⟩ := h.treats
  obtain ⟨base, -, hsettles⟩ := htreats.settles outcome hreturned
  rw [hlast] at hsettles
  rcases happlies with hreplied | ⟨-, hswitched⟩
  · obtain ⟨event, hevent, hswitch⟩ := hreplied
    generalize (kernel.takeTrap depth frame machine).frame = final at hsettles
    cases hsettles with
    | stays h | kept h _ =>
      rw [h event hevent] at hswitch
      cases hswitch
    | replied hmem h =>
      rw [h event hevent next hswitch]
      exact ⟨base, rfl⟩
  · exact hswitched

end

/-- The fault that a trap with a frame is, if it is one. A trap through a vector without a
meaning, or past the table, is a fault of its vector. -/
def Kernel.faultKind? (kernel : Kernel σ) (frame : Frame) : Option ExceptionKind :=
  match kernel.cause frame with
  | .exception kind => some kind
  | .unassigned => some (.other frame.vector)
  | _ => none

theorem runsAt_carryOut_takesFault (hserver : server.Still) (hframe : state.frame = frame)
    {kind : ExceptionKind} (hkind : kernel.faultKind? frame = some kind) (outer : CpuSlot) :
    RunsAt (TakesFault frame kind) (kernel.carryOut server cpu outer) state := by
  refine runsAt_carryOut outer ?_ fun _ _ _ _ hafter h => h.untouched hafter
  intro middle hmiddle
  have hmiddle := hmiddle.1.trans hframe
  unfold Kernel.faultKind? at hkind
  refine runsAt_route hmiddle ?_ ?_ ?_ ?_
  · intro other hcause last hlast
    rw [hcause] at hkind
    cases hkind
    exact runsAt_exception_takesFault hserver (hlast.1.trans hmiddle) kind
  · intro hcause
    rw [hcause] at hkind
    cases hkind
  · intro convention hcause
    rw [hcause] at hkind
    cases hkind
  · intro hcause last hlast
    rw [hcause] at hkind
    cases hkind
    exact runsAt_defaultFault_takesFault hserver (hlast.1.trans hmiddle)

theorem Kernel.Takes.takesFault {depth : Nat} {machine : Machine σ} {x : Activity}
    {kind : ExceptionKind} (h : kernel.Takes depth frame machine x)
    (hkind : kernel.faultKind? frame = some kind) :
    ∃ last : Activation σ,
      TakesFault frame kind x.inner (kernel.takeTrap depth frame machine).result last ∧
      last.frame = (kernel.takeTrap depth frame machine).frame := by
  obtain ⟨cpu, last, -, hfault, hlast⟩ := h.course fun _ outer _ hframe _ =>
    runsAt_carryOut_takesFault (kernel.server_still depth) hframe hkind outer
  exact ⟨last, hfault, hlast⟩

end TrapDispatch
