import TrapDispatch.Proofs.Restoring

/-!
# Rejected system calls

Every call is decided on before anything is done for it. A rejected call asks for nothing
but the user window, and leaves the frame and the requests of its trap alone; the trap
then writes the number of the error back and goes on behind the call, without asking the
scheduler.
-/

namespace TrapDispatch

variable {σ : Type} {kernel : Kernel σ} {server : Server σ} {cpu : Fin maxCpus}

def SyscallTable.rejection (table : SyscallTable σ) (number : UInt64) (words : ArgumentWords)
    (caller : Frame) (window : UserRange) : Option ErrorCode :=
  match table.verdict number words caller window with
  | .error code => some code
  | .ok _ => none

theorem SyscallTable.rejection_eq {table : SyscallTable σ} {number : UInt64}
    {descriptor : CallDescriptor σ} (h : table.lookup number = some descriptor)
    (words : ArgumentWords) (caller : Frame) (window : UserRange) :
    table.rejection number words caller window =
      descriptor.shape.objection words ⟨window, caller.arch.userTop⟩ caller.privilege := by
  unfold rejection verdict
  simp only [h]
  cases descriptor.shape.objection words ⟨window, caller.arch.userTop⟩ caller.privilege <;> rfl

/-- A rejection does not depend on the order in which the arguments are declared. -/
theorem SyscallTable.rejection_perm {table otherTable : SyscallTable σ}
    {number otherNumber : UInt64} {descriptor other : CallDescriptor σ} {words otherWords : ArgumentWords}
    (h : table.lookup number = some descriptor)
    (hother : otherTable.lookup otherNumber = some other)
    (hlevel : other.shape.minPrivilege = descriptor.shape.minPrivilege)
    (hstray : other.shape.HasStray otherWords ↔ descriptor.shape.HasStray words)
    (hperm : (other.shape.presented otherWords).Perm (descriptor.shape.presented words))
    (caller : Frame) (window : UserRange) :
    otherTable.rejection otherNumber otherWords caller window =
      table.rejection number words caller window := by
  rw [rejection_eq h, rejection_eq hother]
  exact CallShape.objection_perm hlevel hstray hperm _ _

/-- Whether an activity is a call from a state with a result, and takes the course on which
the table decides. -/
def Kernel.DecidesOn (kernel : Kernel σ) (server : Server σ) (number : UInt64)
    (words : ArgumentWords) (before : Activation σ) (x : Activity)
    (result : Except Stop CallResult) : Prop :=
  x.event = .systemCall number words before.frame result ∧
    ∃ inner, kernel.CallCourse server (kernel.syscalls.verdict number words before.frame) before
      x.inner result inner

/-- What a trap does about a call that is rejected, as no handler was entered in the course
`inner` of it: if interrupts are held off again, the error is written back, and the
scheduler is not asked. -/
def WritesError (frame : Frame) (inner : List Activity) (call : Except Stop CallResult) :
    RunSpec σ Outcome := fun new result last =>
  ∀ code, call = .ok (.error code) → (∀ z ∈ inner, z.event.isHandler = false) →
    (∃ stop, .service .disableInterrupts (.error stop) ∈ ownEvents new) ∨
      (result = .ok (.syscall (.error code)) ∧ last.frame = frame.afterCall (some (.error code)) ∧
        ∀ shown reason reply, .service (.schedule shown reason) reply ∉ ownEvents new)

/-- What comes of a trap that makes a system call: if interrupts are let in for it, the call
is decided on. -/
def Kernel.CallTrap (kernel : Kernel σ) (server : Server σ) (convention : Convention)
    (frame : Frame) : RunSpec σ Outcome := fun new result last =>
  (∃ stop, .service .enableInterrupts (.error stop) ∈ ownEvents new) ∨
    ∃ y ∈ new, ∃ before call, before.frame = frame ∧ before.requests = {} ∧
      kernel.DecidesOn server (convention.numberIn frame) (convention.argumentsIn frame) before y
        call ∧ WritesError frame y.inner call new result last

theorem Kernel.settle_of_clear {state : Activation σ} (h : state.requests = {}) :
    kernel.settle server state = .ok () state := by
  cases state with
  | mk frame requests machine =>
    cases h
    rfl

theorem runsAt_callTrap {state : Activation σ} {frame : Frame} {convention : Convention}
    (hserver : server.Still) (htable : kernel.syscalls.Ordered)
    (hcause : kernel.cause frame = .syscall convention) (hframe : state.frame = frame)
    (hrequests : state.requests = {}) :
    RunsAt (kernel.CallTrap server convention frame) (kernel.syscallTrap server cpu convention)
      state := by
  subst hframe
  have hmakes : ∀ {new result last} {before inner : Activation σ} {y : Activity} {call}, y ∈ new →
      state.Untouched before → y.event = .systemCall (convention.numberIn state.frame)
        (convention.argumentsIn state.frame) state.frame call →
      kernel.CallCourse server (kernel.syscalls.screen (convention.numberIn state.frame)
        (convention.argumentsIn state.frame) state.frame) before y.inner call inner →
      WritesError state.frame y.inner call new result last →
      kernel.CallTrap server convention state.frame new result last := by
    intro new result last before inner y call hmem hbefore hy hcourse hwrites
    have hdecision := funext fun window => htable.screen_eq (convention.numberIn state.frame)
      (convention.argumentsIn state.frame) state.frame window
    rw [hdecision, ← hbefore.1] at hcourse
    rw [← hbefore.1] at hy
    refine Or.inr ⟨y, hmem, before, call, hbefore.1, ?_, ?_, hwrites⟩
    · rw [hbefore.2, hrequests]
    · rw [← hbefore.1]
      exact ⟨hy, inner, hcourse⟩
  refine runsAt_syscallTrap hserver convention rfl ?_ ?_
  · intro new stop after hcall
    have hown := hcall.ownEvents_eq
    cases hcall with
    | unopened hx =>
      refine Or.inl ⟨stop, ?_⟩
      rw [hown]
      simp [hx]
    | cut hx hy hbefore hcourse =>
      refine hmakes (by simp) hbefore hy hcourse ?_
      rintro code ⟨⟩
    | unclosed hx hy hz hbefore hcourse =>
      refine hmakes (by simp) hbefore hy hcourse fun code _ _ => Or.inl ⟨stop, ?_⟩
      rw [hown]
      simp [hz]
  · intro new result middle last hcall hlast hwaiting
    have hcalm := fun event (h : event ∈ ownEvents new) => hcall.isCalm_or h
    cases hcall with
    | @returned x y z _ before inner _ hx hy hz hbefore hcourse hafter =>
      by_cases hrejected : ∀ w ∈ y.inner, w.event.isHandler = false
      · -- Nothing was asked for in the course of the call, so nothing is left to settle.
        have hsame : state.Untouched middle :=
          hbefore.trans ((hcourse.untouched hrejected).trans hafter)
        have hclear : last.requests = {} := by
          rw [hwaiting, hsame.2, hrequests]
        refine runsAt_next () (Kernel.settle_of_clear hclear) rfl ?_
        refine runsAt_of_ok [] rfl rfl (hmakes (by simp) hbefore hy hcourse ?_)
        rintro code ⟨⟩ _
        refine Or.inr ⟨rfl, ?_, ?_⟩
        · rw [hlast, hsame.1, Kernel.advance_of_cause hcause]
          rfl
        · intro shown reason reply hmem
          rcases hcalm _ hmem with h | h
          · cases h
          · cases h
      · have hentered : ∀ {call new result last},
            WritesError (σ := σ) state.frame y.inner call new result last :=
          fun {_ _ _ _} code _ h => absurd h hrejected
        refine (runsAt_settle hserver last).bind ?_ ?_
        · intro done after later _ _
          exact runsAt_of_ok [] rfl rfl (hmakes (by simp) hbefore hy hcourse hentered)
        · intro stop after later _
          exact hmakes (by simp) hbefore hy hcourse hentered

/-- Behind a system call instruction a trap does nothing but make the call. -/
theorem runsAt_carryOut_of_syscall {state : Activation σ} {frame : Frame} {convention : Convention}
    (hserver : server.Still) (htable : kernel.syscalls.Ordered)
    (hcause : kernel.cause frame = .syscall convention) (outer : CpuSlot)
    (hframe : state.frame = frame) (hrequests : state.requests = {}) :
    RunsAt (kernel.CallTrap server convention frame) (kernel.carryOut server cpu outer) state := by
  have hroute : ∀ middle, state.Untouched middle →
      RunsAt (kernel.CallTrap server convention frame) (kernel.route server cpu) middle := by
    intro middle hmiddle
    refine runsAt_route (hmiddle.1.trans hframe) ?_ ?_ ?_ ?_
    · intro kind hkind
      rw [hcause] at hkind
      cases hkind
    · intro hinterrupt
      rw [hcause] at hinterrupt
      cases hinterrupt
    · intro other hother last hlast
      rw [hcause] at hother
      cases hother
      apply runsAt_callTrap hserver htable hcause (hlast.1.trans (hmiddle.1.trans hframe))
      rw [hlast.2, hmiddle.2, hrequests]
    · intro hunassigned
      rw [hcause] at hunassigned
      cases hunassigned
  refine runsAt_carryOut outer hroute ?_
  rintro new result middle after hafter
    (hfailed | ⟨y, hy, before, call, hbefore, hclear, hdecides, hrejected⟩)
  · exact Or.inl hfailed
  · refine Or.inr ⟨y, hy, before, call, hbefore, hclear, hdecides, fun code hcode hhandler => ?_⟩
    refine (hrejected code hcode hhandler).imp_right fun ⟨hresult, hwritten, hshows⟩ => ?_
    exact ⟨hresult, hafter.1.trans hwritten, hshows⟩

namespace Kernel.CallCourse

variable {decision : UserRange → Except ErrorCode (CallDescriptor σ)} {state after : Activation σ}
  {new : List Activity} {result : Except Stop CallResult}

/-- A handler that is entered is the only one, behind the reply that let the call through,
and what it ends with is the result of the call. -/
theorem of_handler (h : kernel.CallCourse server decision state new result after) {z : Activity}
    (hz : z ∈ new) (hhandler : z.event.isHandler = true) :
    ∃ y window descriptor arguments, new = [z, y] ∧ y.event = .service .userRange (.ok window) ∧
      decision window = .ok descriptor ∧
      z.event = .handler descriptor.shape.number arguments result := by
  cases h with
  | rejected _ _ => cases hz
  | unanswered _ hx | forbidden hx _ _ =>
    rw [List.mem_singleton.mp hz, hx] at hhandler
    cases hhandler
  | entered hx hdecision _ _ _ _ hy _ _ =>
    rcases List.mem_cons.mp hz with rfl | hold
    · exact ⟨_, _, _, _, rfl, hx, hdecision, hy⟩
    · rw [List.mem_singleton.mp hold, hx] at hhandler
      cases hhandler

/-- A call that returns without a handler is rejected, and asked for no more than the user
window. -/
theorem of_no_handler {value : CallResult}
    (h : kernel.CallCourse server decision state new (.ok value) after)
    (hhandler : ∀ y ∈ new, y.event.isHandler = false) :
    ∃ code, value = .error code ∧
      ((new = [] ∧ ∀ window, decision window = .error code) ∨
        ∃ y window, new = [y] ∧ y.event = .service .userRange (.ok window) ∧
          decision window = .error code) := by
  cases h with
  | rejected hdecision _ => exact ⟨_, rfl, Or.inl ⟨rfl, hdecision⟩⟩
  | forbidden hx hdecision _ => exact ⟨_, rfl, Or.inr ⟨_, _, rfl, hx, hdecision⟩⟩
  | entered _ _ _ _ _ _ hy _ _ =>
    have hentered := hhandler _ List.mem_cons_self
    rw [hy] at hentered
    cases hentered

end Kernel.CallCourse

theorem CallShape.objection_of_ne {shape : CallShape} {words : ArgumentWords}
    {guard other : AddressGuard} {caller : Privilege} {code : ErrorCode}
    (h : shape.objection words guard caller = some code) (hcode : code ≠ .efault) :
    shape.objection words other caller = some code := by
  unfold objection at h ⊢
  split at h
  next hlevel =>
    rw [if_pos hlevel]
    exact h
  next hlevel =>
    rw [if_neg hlevel]
    split at h
    next hshape =>
      rw [if_pos hshape]
      exact h
    next hshape =>
      split at h
      · cases h
        exact absurd rfl hcode
      · cases h

/-- Of all errors only that of a forbidden pointer depends on the user window. -/
theorem SyscallTable.verdict_of_ne {table : SyscallTable σ} {number : UInt64}
    {words : ArgumentWords} {caller : Frame} {window : UserRange} {code : ErrorCode}
    (h : table.verdict number words caller window = .error code) (hcode : code ≠ .efault)
    (other : UserRange) : table.verdict number words caller other = .error code := by
  unfold verdict at h ⊢
  cases hlookup : table.lookup number with
  | none =>
    rw [hlookup] at h
    exact h
  | some descriptor =>
    rw [hlookup] at h
    simp only at h ⊢
    cases hobjection : descriptor.shape.objection words ⟨window, caller.arch.userTop⟩
        caller.privilege with
    | none =>
      rw [hobjection] at h
      cases h
    | some found =>
      rw [hobjection] at h
      cases h
      rw [CallShape.objection_of_ne hobjection hcode]

/-- How a call is made from a state. It takes the course on which the table decides: a
handler is entered once at most, and what it ends with is the result; a call that is
rejected returns its error, asks for no more than the user window, and leaves the frame and
the requests of its trap alone. -/
structure Kernel.FollowsVerdict (kernel : Kernel σ) (server : Server σ) (number : UInt64)
    (words : ArgumentWords) (state : Activation σ) (x : Activity) (result : Except Stop CallResult)
    (after : Activation σ) : Prop where
  decides : kernel.DecidesOn server number words { state with machine.journal := [] } x result
  handled : ∀ z ∈ x.inner, z.event.isHandler = true → ∃ y window descriptor arguments,
    x.inner = [z, y] ∧ y.event = .service .userRange (.ok window) ∧
      kernel.syscalls.verdict number words state.frame window = .ok descriptor ∧
      z.event = .handler descriptor.shape.number arguments result
  answered : ∀ code window, kernel.syscalls.verdict number words state.frame window = .error code →
    code ≠ .efault ∨ (∃ y ∈ x.inner, y.event = .service .userRange (.ok window)) →
    result = .ok (.error code)
  rejected : ∀ value, result = .ok value → (∀ y ∈ x.inner, y.event.isHandler = false) →
    state.Untouched after ∧ ∃ code, value = .error code ∧
      ((x.inner = [] ∧
          ∀ window, kernel.syscalls.verdict number words state.frame window = .error code) ∨
        ∃ y window, x.inner = [y] ∧ y.event = .service .userRange (.ok window) ∧
          kernel.syscalls.verdict number words state.frame window = .error code)

theorem Kernel.CallCourse.eq_of_verdict {number : UInt64} {words : ArgumentWords} {caller : Frame}
    {state after : Activation σ} {new : List Activity} {result : Except Stop CallResult}
    (h : kernel.CallCourse server (kernel.syscalls.verdict number words caller) state new result
      after)
    {code : ErrorCode} {window : UserRange}
    (hverdict : kernel.syscalls.verdict number words caller window = .error code)
    (hasked : code ≠ .efault ∨ ∃ y ∈ new, y.event = .service .userRange (.ok window)) :
    result = .ok (.error code) := by
  cases h with
  | rejected hdecision _ =>
    rw [hdecision window] at hverdict
    cases hverdict
    rfl
  | unanswered hdecision hx =>
    rcases hasked with hcode | ⟨y, hy, hwindow⟩
    · exact absurd (hdecision window code hverdict) hcode
    · rw [List.mem_singleton.mp hy, hx] at hwindow
      cases hwindow
  | @forbidden x asked _ hx hdecision _ =>
    rcases hasked with hcode | ⟨y, hy, hwindow⟩
    · rw [SyscallTable.verdict_of_ne hverdict hcode asked] at hdecision
      cases hdecision
      rfl
    · rw [List.mem_singleton.mp hy, hx] at hwindow
      cases hwindow
      rw [hverdict] at hdecision
      cases hdecision
      rfl
  | @entered x z asked _ _ _ _ _ _ hx hdecision _ _ _ _ hz _ _ =>
    have hsame : kernel.syscalls.verdict number words caller asked = .error code := by
      rcases hasked with hcode | ⟨y, hy, hwindow⟩
      · exact SyscallTable.verdict_of_ne hverdict hcode asked
      · rcases List.mem_cons.mp hy with rfl | hold
        · rw [hz] at hwindow
          cases hwindow
        · rw [List.mem_singleton.mp hold, hx] at hwindow
          cases hwindow
          exact hverdict
    rw [hsame] at hdecision
    cases hdecision

theorem runsAt_followsVerdict (hserver : server.Still) (htable : kernel.syscalls.Ordered)
    (number : UInt64) (words : ArgumentWords) (state : Activation σ) :
    RunsAt (fun new result after => ∃ x, new = [x] ∧
      kernel.FollowsVerdict server number words state x result after)
      (kernel.systemCall server number words) state := by
  have hdecision : kernel.syscalls.screen number words state.frame =
      kernel.syscalls.verdict number words state.frame :=
    funext fun window => htable.screen_eq number words state.frame window
  refine (runsAt_systemCall hserver number words state).mono ?_
  rintro _ result after ⟨x, inner, rfl, hx, hcourse, hafter⟩
  rw [hdecision] at hcourse
  refine ⟨x, rfl, ?_⟩
  constructor
  case decides => exact ⟨hx, inner, hcourse⟩
  case handled => exact fun z hz hhandler => hcourse.of_handler hz hhandler
  case answered => exact fun code window hverdict hasked => hcourse.eq_of_verdict hverdict hasked
  case rejected =>
    rintro value rfl hhandler
    exact ⟨(hcourse.untouched hhandler).trans hafter, hcourse.of_no_handler hhandler⟩

/-- What a taken trap does that makes a system call, if interrupts are let in for it. The
call is decided on; if it is rejected, and interrupts are held off again, the negated
number of its error goes into the return register, the program counter behind the call,
and the scheduler is not asked. -/
def Kernel.AnswersCall (kernel : Kernel σ) (depth : Nat) (convention : Convention) (raw : RawFrame)
    (machine : Machine σ) (x : Activity) : Prop :=
  (∃ stop, .service .enableInterrupts (.error stop) ∈ ownEvents x.inner) ∨
    ∃ y ∈ x.inner, ∃ before call, before.frame = raw.capture ∧ before.requests = {} ∧
      kernel.DecidesOn (kernel.server depth) (convention.numberIn raw.capture)
        (convention.argumentsIn raw.capture) before y call ∧
      ∀ code, call = .ok (.error code) → (∀ z ∈ y.inner, z.event.isHandler = false) →
        (∃ stop, .service .disableInterrupts (.error stop) ∈ ownEvents x.inner) ∨
          ((kernel.takeTrap depth raw.capture machine).result = .ok (.syscall (.error code)) ∧
            raw.restore (kernel.takeTrap depth raw.capture machine).frame =
              (raw.withReturn (-code.errno)).advanced raw.arch.callAdvance ∧
            ∀ shown reason reply, .service (.schedule shown reason) reply ∉ ownEvents x.inner)

/-- Every call of a table that was built by insertion follows the verdict of the table, which
looks at its number, the level of its caller, the shape of its arguments, and the memory
that they name, in this order. Where the arguments stand does not matter. A trap writes the
error of a rejected call back, and goes on behind it. -/
theorem calls_follow_verdict (kernel : Kernel σ) (depth : Nat)
    (htable : kernel.syscalls.Reachable) :
    (∀ number words state, RunsAt (fun new result after => ∃ x, new = [x] ∧
        kernel.FollowsVerdict (kernel.server depth) number words state x result after)
      (kernel.systemCall (kernel.server depth) number words) state) ∧
    (∀ (table : SyscallTable σ) number other descriptor permuted words reordered,
      kernel.syscalls.lookup number = some descriptor → table.lookup other = some permuted →
      permuted.shape.minPrivilege = descriptor.shape.minPrivilege →
      (permuted.shape.HasStray reordered ↔ descriptor.shape.HasStray words) →
      (permuted.shape.presented reordered).Perm (descriptor.shape.presented words) →
      ∀ caller window, table.rejection other reordered caller window =
        kernel.syscalls.rejection number words caller window) ∧
    ∀ raw convention machine x, kernel.cause raw.capture = .syscall convention →
      kernel.Takes depth raw.capture machine x →
      kernel.AnswersCall depth convention raw machine x := by
  have hserver := kernel.server_still depth
  have hordered := htable.ordered
  refine ⟨fun number words state => runsAt_followsVerdict hserver hordered number words state,
    ?_, ?_⟩
  · intro table number other descriptor permuted words reordered hlookup hother hlevel hstray hperm
    exact SyscallTable.rejection_perm hlookup hother hlevel hstray hperm
  · intro raw convention machine x hcause hx
    obtain ⟨cpu, last, -, hcall, hlast⟩ := hx.course fun _ outer _ =>
      runsAt_carryOut_of_syscall hserver hordered hcause outer
    refine hcall.imp_right ?_
    rintro ⟨y, hy, before, call, hbefore, hclear, hdecides, hrejected⟩
    refine ⟨y, hy, before, call, hbefore, hclear, hdecides, fun code hcode hhandler => ?_⟩
    refine (hrejected code hcode hhandler).imp_right fun ⟨hresult, hwritten, hshows⟩ => ?_
    refine ⟨hresult, ?_, hshows⟩
    rw [← hlast, hwritten]
    exact raw.restore_afterCall (some (.error code))

/-- A user program that writes from memory of the kernel, and leaves a register in use
behind the arguments. -/
def strayContext : RiscV.RawFrame :=
  let context := RiscV.RawFrame.calling 1 0x1000
  { context with
    registers := (context.registers.setIfInBounds 10 0x8000000000000000).setIfInBounds 14 1 }

/-- Whether nothing fails in the course of an activity, and every system call in it is
rejected with an error: no handler is entered. -/
def Activity.isRejected (code : ErrorCode) (x : Activity) : Bool :=
  (TrapDispatch.ownEvents x.inner).all (fun event => !event.fails) &&
    x.inner.all fun y => y.inner.all (fun z => !z.event.isHandler) &&
      (!y.event.isSystemCall || y.event.callResult? == some (.error code))

/-- Of the two things to object to, the register in use behind the arguments comes first. -/
theorem stray_register_goes_first :
    let run := (Kernel.standardOn .riscv64).takeTrap 1 (RawFrame.riscV strayContext).capture
      { world := () }
    run.result = .ok (.syscall (.error .einval)) ∧
      (RawFrame.riscV strayContext).restore run.frame = .riscV { strayContext with
        registers := strayContext.registers.set RiscV.a0 (-ErrorCode.einval.errno) RiscV.a0_lt
        sepc := 0x1004 } := by
  intro run
  have htable : (Kernel.standardOn .riscv64).syscalls.Reachable := .builtin rfl
  have hcause : (Kernel.standardOn .riscv64).cause (RawFrame.riscV strayContext).capture =
      .syscall RiscV.ecallConvention := by
    decide +kernel
  have hreturned : run.result = .ok (.syscall (.error .einval)) := by
    apply Except.eq_ok_of_toOption
    decide +kernel
  have hcheck : run.machine.journal.head?.map (·.isRejected .einval) = some true := by
    decide +kernel
  obtain ⟨x, hx⟩ := Kernel.exists_takes hreturned
  have hhead : run.machine.journal.head? = some x := hx.head?
  rw [hhead, Option.map_some, Option.some.injEq] at hcheck
  unfold Activity.isRejected at hcheck
  rw [Bool.and_eq_true, List.all_eq_true, List.all_eq_true] at hcheck
  obtain ⟨hsound, hinner⟩ := hcheck
  obtain ⟨-, -, htraps⟩ := calls_follow_verdict (Kernel.standardOn .riscv64) 1 htable
  have hanswers := htraps (.riscV strayContext) RiscV.ecallConvention { world := () } x hcause hx
  have hnofailure : ∀ event ∈ ownEvents x.inner, event.fails = false := by
    intro event hevent
    simpa using hsound event hevent
  rcases hanswers with ⟨stop, hfailed⟩ | ⟨y, hy, before, call, -, -, ⟨hevent, -⟩, hrejected⟩
  · cases hnofailure _ hfailed
  have hcalled := hinner y hy
  rw [hevent, Bool.and_eq_true, List.all_eq_true] at hcalled
  obtain ⟨hhandlers, hresult⟩ := hcalled
  have hcall : call = .ok (.error .einval) := by
    cases call with
    | ok result =>
      exact congrArg Except.ok
        (by simpa [Event.isSystemCall, Event.callResult?] using hresult)
    | error stop => cases hresult
  rcases hrejected .einval hcall fun z hz => by simpa using hhandlers z hz with
    ⟨stop, hfailed⟩ | ⟨hwritten, hrestored, -⟩
  · cases hnofailure _ hfailed
  · exact ⟨hwritten, hrestored⟩

end TrapDispatch
