import TrapDispatch.Proofs.CallDecision

/-!
# The course of a system call

A call is screened first. If it is rejected, at most the user window has been asked for,
and the frame and the requests of the trap are as they were. Otherwise its handler runs,
once, and what the handler ends with is the result of the call.
-/

namespace TrapDispatch

variable {σ α : Type}

def Dispatch.Ends (body : Dispatch σ α) (before : Activation σ) :
    Except Stop α → Activation σ → Prop
  | .ok value, after => body before = .ok value after
  | .error stop, after => body before = .error stop after

def Kernel.handle (kernel : Kernel σ) (server : Server σ) (descriptor : CallDescriptor σ)
    (arguments : Arguments) : Dispatch σ CallResult :=
  Program.run (S := handlerSignature σ) (kernel.serveHandler server) server.bound
    (descriptor.handler arguments)

/-- Whether a state leaves the frame and the requests of another as they are. -/
def Activation.Untouched (before after : Activation σ) : Prop :=
  after.frame = before.frame ∧ after.requests = before.requests

theorem Activation.Untouched.trans {a b c : Activation σ} (hfirst : a.Untouched b)
    (hsecond : b.Untouched c) : a.Untouched c :=
  ⟨hsecond.1.trans hfirst.1, hsecond.2.trans hfirst.2⟩

/-- What comes of a call from a state: the activities in the course of it, newest first,
its result, and the state that it leaves. The decision depends on the user window; an
error other than that of a forbidden pointer needs none. -/
inductive Kernel.CallCourse (kernel : Kernel σ) (server : Server σ)
    (decision : UserRange → Except ErrorCode (CallDescriptor σ)) (state : Activation σ) :
    RunSpec σ CallResult where
  | rejected {code : ErrorCode} {after : Activation σ}
      (hdecision : ∀ window, decision window = .error code) (h : state.Untouched after) :
      CallCourse kernel server decision state [] (.ok (.error code)) after
  | unanswered {x : Activity} {stop : Stop} {after : Activation σ}
      (hdecision : ∀ window code, decision window = .error code → code = .efault)
      (hx : x.event = .service .userRange (.error stop)) :
      CallCourse kernel server decision state [x] (.error stop) after
  | forbidden {x : Activity} {window : UserRange} {after : Activation σ}
      (hx : x.event = .service .userRange (.ok window))
      (hdecision : decision window = .error .efault) (h : state.Untouched after) :
      CallCourse kernel server decision state [x] (.ok (.error .efault)) after
  | entered {x y : Activity} {window : UserRange} {descriptor : CallDescriptor σ}
      {arguments : Arguments} {result : Except Stop CallResult}
      {before inner after : Activation σ} (hx : x.event = .service .userRange (.ok window))
      (hdecision : decision window = .ok descriptor)
      (hframe : before.frame = state.frame)
      (hrequests : before.requests =
        { state.requests with interruptible := descriptor.shape.interruptible })
      (hjournal : before.machine.journal = [])
      (hrun : (kernel.handle server descriptor arguments).Ends before result inner)
      (hy : y.event = .handler descriptor.shape.number arguments result)
      (hinner : y.inner = inner.machine.journal) (hafter : inner.Untouched after) :
      CallCourse kernel server decision state [y, x] result after

variable {kernel : Kernel σ} {server : Server σ}

theorem runsAt_call (hserver : server.Still) (c : Call) (state : Activation σ) :
    RunsAt (fun new result after => ∃ x, new = [x] ∧ x.event = .service c result ∧
      ((∃ value, result = .ok value) → state.Untouched after)) (kernel.call server c) state := by
  unfold Kernel.call
  cases hrun : server.run (kernel.services.perform c) { state with machine.journal := [] } with
  | ok value after =>
    obtain ⟨hframe, hrequests, -⟩ := hserver.run _ _ _ _ hrun
    exact runsAt_of_ok [_] (Dispatch.during_of_ok hrun) rfl
      ⟨_, rfl, rfl, fun _ => ⟨hframe, hrequests⟩⟩
  | error stop after =>
    exact runsAt_of_error [_] (Dispatch.during_of_error hrun) rfl
      ⟨_, rfl, rfl, fun ⟨value, hvalue⟩ => by cases hvalue⟩

theorem runsAt_runHandler (descriptor : CallDescriptor σ) (arguments : Arguments)
    (state : Activation σ) :
    RunsAt (fun new result after => ∃ y inner, new = [y] ∧
      (kernel.handle server descriptor arguments).Ends { state with machine.journal := [] } result
        inner ∧ y.event = .handler descriptor.shape.number arguments result ∧
      y.inner = inner.machine.journal ∧ inner.Untouched after)
      (kernel.runHandler server descriptor arguments) state := by
  unfold Kernel.runHandler
  cases hrun : kernel.handle server descriptor arguments { state with machine.journal := [] } with
  | ok value inner =>
    exact runsAt_of_ok [_] (Dispatch.during_of_ok hrun) rfl
      ⟨_, inner, rfl, hrun, rfl, rfl, rfl, rfl⟩
  | error stop inner =>
    exact runsAt_of_error [_] (Dispatch.during_of_error hrun) rfl
      ⟨_, inner, rfl, hrun, rfl, rfl, rfl, rfl⟩

theorem CallShape.validate_error {shape : CallShape} {words : ArgumentWords} {guard : AddressGuard}
    {caller : Privilege} {code : ErrorCode}
    (h : shape.validate words guard caller = .error code) : code = .efault := by
  have hraw : ∀ raw : RawArgument, raw.validate guard caller = .error .efault ∧
      raw.validate guard caller = .error .efault ∨ (∃ value, raw.validate guard caller = .ok value) ∧
        ¬ raw.validate guard caller = .error .efault := by
    intro raw
    unfold RawArgument.validate
    split
    · simp
    · split
      · split <;> simp
      · split <;> simp
  rcases mapM_eq_of_same_failure fun raw (_ : raw ∈ shape.rawArguments words) => hraw raw with
    ⟨hfailed, -⟩ | ⟨⟨values, hpassed⟩, -⟩
  · unfold validate at h
    rw [hfailed] at h
    cases h
    rfl
  · unfold validate at h
    rw [hpassed] at h
    cases h

/-- Every call takes its course, as its screening decides. -/
theorem runsAt_serveCall (hserver : server.Still) (number : UInt64) (words : ArgumentWords)
    (state : Activation σ) :
    RunsAt (kernel.CallCourse server (kernel.syscalls.screen number words state.frame) state)
      (kernel.serveCall server number words state.frame) state := by
  unfold Kernel.serveCall
  cases hlookup : kernel.syscalls.lookup number with
  | none =>
    refine runsAt_of_ok [] rfl rfl (.rejected (fun window => ?_) ⟨rfl, rfl⟩)
    unfold SyscallTable.screen
    rw [hlookup]
  | some descriptor =>
    simp only
    by_cases hlevel : state.frame.privilege.permits descriptor.shape.minPrivilege = false
    · rw [if_pos hlevel]
      refine runsAt_of_ok [] rfl rfl (.rejected (fun window => ?_) ⟨rfl, rfl⟩)
      unfold SyscallTable.screen
      rw [hlookup]
      exact if_pos hlevel
    rw [if_neg hlevel]
    cases hcheck : descriptor.shape.check words with
    | error code =>
      refine runsAt_of_ok [] rfl rfl (.rejected (fun window => ?_) ⟨rfl, rfl⟩)
      unfold SyscallTable.screen
      rw [hlookup]
      simp only [hlevel, hcheck]
      rfl
    | ok checked =>
      have hscreen : ∀ window, kernel.syscalls.screen number words state.frame window =
          (descriptor.shape.validate words ⟨window, state.frame.arch.userTop⟩
            state.frame.privilege).map fun _ => descriptor := by
        intro window
        unfold SyscallTable.screen
        rw [hlookup]
        simp only [hlevel, hcheck]
        cases descriptor.shape.validate words ⟨window, state.frame.arch.userTop⟩
          state.frame.privilege <;> rfl
      refine (runsAt_call hserver .userRange state).bind ?_ ?_
      · rintro window middle _ - ⟨x, rfl, hx, hsame⟩
        have huntouched := hsame ⟨window, rfl⟩
        have hdecision := hscreen window
        cases hvalidate : descriptor.shape.validate words ⟨window, state.frame.arch.userTop⟩
            state.frame.privilege with
        | error code =>
          cases CallShape.validate_error hvalidate
          rw [hvalidate] at hdecision
          exact runsAt_of_ok [] rfl rfl (.forbidden hx hdecision huntouched)
        | ok arguments =>
          rw [hvalidate] at hdecision
          refine runsAt_next () rfl rfl ?_
          refine runsAt_next () rfl rfl ?_
          refine (runsAt_runHandler descriptor arguments _).mono ?_
          rintro _ result after ⟨y, inner, rfl, hrun, hy, hinner, hafter⟩
          have hrequests := congrArg (fun requests : CallRequests =>
            { requests with interruptible := descriptor.shape.interruptible }) huntouched.2
          refine .entered hx hdecision ?_ ?_ ?_ hrun hy hinner hafter
          · exact huntouched.1
          · exact hrequests
          · rfl
      · rintro stop after _ ⟨x, rfl, hx, -⟩
        refine .unanswered (fun window code hcode => ?_) hx
        rw [hscreen window] at hcode
        cases hvalidate : descriptor.shape.validate words ⟨window, state.frame.arch.userTop⟩
            state.frame.privilege with
        | error why =>
          rw [hvalidate] at hcode
          cases hcode
          exact CallShape.validate_error hvalidate
        | ok arguments =>
          rw [hvalidate] at hcode
          cases hcode

theorem runsAt_systemCall (hserver : server.Still) (number : UInt64) (words : ArgumentWords)
    (state : Activation σ) :
    RunsAt (fun new result after => ∃ x inner, new = [x] ∧
      x.event = .systemCall number words state.frame result ∧
      kernel.CallCourse server (kernel.syscalls.screen number words state.frame)
        { state with machine.journal := [] } x.inner result inner ∧ inner.Untouched after)
      (kernel.systemCall server number words) state := by
  have hframe : Dispatch.frame state = .ok state.frame state := rfl
  have hserve : RunsAt _ (kernel.serveCall server number words state.frame)
      { state with machine.journal := [] } :=
    runsAt_serveCall hserver number words { state with machine.journal := [] }
  unfold Kernel.systemCall
  apply runsAt_next _ hframe rfl
  cases hrun : kernel.serveCall server number words state.frame
      { state with machine.journal := [] } with
  | ok value inner =>
    obtain ⟨new, hnew, hcourse⟩ := hserve.returned hrun
    rw [List.append_nil] at hnew
    subst hnew
    exact runsAt_of_ok [_] (Dispatch.during_of_ok hrun) rfl
      ⟨_, inner, rfl, rfl, hcourse, rfl, rfl⟩
  | error stop inner =>
    obtain ⟨new, hnew, hcourse⟩ := hserve.stopped hrun
    rw [List.append_nil] at hnew
    subst hnew
    exact runsAt_of_error [_] (Dispatch.during_of_error hrun) rfl
      ⟨_, inner, rfl, rfl, hcourse, rfl, rfl⟩

end TrapDispatch
