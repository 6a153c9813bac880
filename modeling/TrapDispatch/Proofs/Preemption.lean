import TrapDispatch.Proofs.Restoring

/-!
# Preemption

A context that the scheduler was shown, and replies with later on, goes on in the frame of
another trap as it was shown: with all its registers, at its level, and with the result of
its system call. Of the frame in which it goes on only that is left which says how the
other trap was entered.
-/

namespace TrapDispatch

variable {σ : Type}

theorem Frame.privilege_afterCall (frame : Frame) (result : Option CallResult) :
    (frame.afterCall result).privilege = frame.privilege := by
  cases result with
  | none => rfl
  | some result =>
    change ((frame.setReturnValue result.encode).advance frame.arch.callAdvance).privilege = _
    unfold advance
    split <;> rfl

/-- Whatever a trap shows the scheduler is its context as it is then. -/
theorem Kernel.Takes.shows {kernel : Kernel σ} {depth : Nat} {frame : Frame} {machine : Machine σ}
    {x : Activity} (h : kernel.Takes depth frame machine x) {shown : Frame}
    {reason : ScheduleReason} {reply : Except Stop NextContext}
    (hshown : .service (.schedule shown reason) reply ∈ ownEvents x.inner) :
    kernel.Shows (kernel.server depth) frame (ownEvents x.inner) shown reason := by
  obtain ⟨cpu, last, -, htreats, -⟩ := h.treats
  exact htreats.shows shown reason reply hshown

/-- A context is shown to the scheduler, and a later trap goes on in it. Restoring that
trap gives the context as it was shown, whatever flags it had, and at its level. It holds
the result of its system call, if it made one, which it did if it yields; and unless the
handler of the call replaced the frame, it is the context that was interrupted, behind the
call. -/
theorem preempted_context_goes_on (kernel : Kernel σ) {first second : Nat} {context raw : RawFrame}
    {earlier later : Machine σ} {x y : Activity} {shown : Frame} {reason : ScheduleReason}
    {reply : Except Stop NextContext} {outcome : Outcome} (hlevel : context.privilege ≠ .monitor)
    (harch : context.arch = raw.arch) (hpreempted : kernel.Takes first context.capture earlier x)
    (hshown : .service (.schedule shown reason) reply ∈ ownEvents x.inner)
    (hresumed : kernel.Takes second raw.capture later y)
    (hreturned : (kernel.takeTrap second raw.capture later).result = .ok outcome)
    (happlies : y.Applies (kernel.takeTrap second raw.capture later).frame shown) :
    let restored := raw.restore (kernel.takeTrap second raw.capture later).frame
    (∀ dirty, restored = raw.resuming { shown with dirty }) ∧
      (shown.privilege ≠ .monitor → restored.capture.privilege = shown.privilege) ∧
      (∀ result, callResult (ownEvents x.inner) = some result → shown.returnValue = result.encode) ∧
      (reason = .yield → ∃ result, callResult (ownEvents x.inner) = some result) ∧
      (kernel.CallLeavesFrame (kernel.server first) context.capture →
        restored = (context.afterCall (callResult (ownEvents x.inner))).resumedIn raw ∧
          restored.capture.privilege = context.privilege) := by
  intro restored
  have hshows := hpreempted.shows hshown
  obtain ⟨before, hswitched⟩ := hresumed.switched hreturned happlies
  have hrestored : restored = raw.resuming shown := by
    change raw.restore (kernel.takeTrap second raw.capture later).frame = _
    rw [hswitched, raw.restore_switchTo]
  have hprivilege : shown.privilege ≠ .monitor → restored.capture.privilege = shown.privilege := by
    intro h
    rw [RawFrame.privilege_capture, hrestored, raw.privilege_resuming h]
  refine ⟨fun dirty => ?_, hprivilege, hshows.written, fun hyield => ?_, fun hleaves => ?_⟩
  · rw [hrestored]
    exact (raw.resuming_dirty shown dirty).symm
  · exact Option.ne_none_iff_exists'.mp (hshows.yields hyield)
  · have hcontext := hshows.context hleaves
    have hsame : shown.privilege = context.privilege := by
      rw [hcontext, Frame.privilege_afterCall, RawFrame.privilege_capture]
    refine ⟨?_, ?_⟩
    · rw [hrestored, hcontext]
      exact RawFrame.resuming_capture_afterCall harch hlevel _
    · rw [hprivilege (hsame ▸ hlevel), hsame]

/-- Services with a scheduler that keeps the context it was shown last, and replies with
the one before it. -/
def Services.alternating : Services (Option Frame) where
  controllerName := "alternating"
  perform
    | .schedule shown _ => do
      let last ← ServiceProgram.world
      ServiceProgram.ask (.setWorld (some shown))
      return last.elim .continue .switch
    | c => (Services.plain ⟨3⟩ (pure ())).perform c

def Kernel.alternating : Kernel (Option Frame) where
  vectors := ⟨.riscv64, 0⟩
  services := .alternating
  syscalls := (SyscallTable.builtin.toOption).getD {}
  config := {}

/-- The context that a trap shows the scheduler as it yields. -/
def Event.yielded? : Event → Option Frame
  | .service (.schedule shown .yield) _ => some shown
  | _ => none

theorem Event.exists_of_yielded? {event : Event} {shown : Frame} (h : event.yielded? = some shown) :
    ∃ reply, event = .service (.schedule shown .yield) reply := by
  unfold yielded? at h
  split at h
  · cases h
    exact ⟨_, rfl⟩
  · cases h

def yieldingAt (sepc : UInt64) : RiscV.RawFrame :=
  { RiscV.RawFrame.calling 3 sepc with stval := sepc }

/-- The context of the first program, once its call has been written back. -/
def firstShown : Frame :=
  (RawFrame.riscV (yieldingAt 0x1000)).capture.afterCall (some (.ok 0))

/-- Two programs yield in turn: in the frame of the second the first goes on behind its
call, with a result of zero. -/
theorem yielding_programs_alternate :
    let earlier := Kernel.alternating.takeTrap 1 (RawFrame.riscV (yieldingAt 0x1000)).capture
      { world := none }
    let later := Kernel.alternating.takeTrap 1 (RawFrame.riscV (yieldingAt 0x2000)).capture
      earlier.machine
    (RawFrame.riscV (yieldingAt 0x2000)).restore later.frame =
      .riscV { yieldingAt 0x1004 with
        registers := (yieldingAt 0x1000).registers.set RiscV.a0 0 RiscV.a0_lt
        stval := 0x2000 } := by
  intro earlier later
  have hfirst : earlier.result = .ok (.syscall (.ok 0)) := by
    apply Except.eq_ok_of_toOption
    decide +kernel
  have hsecond : later.result = .ok (.syscall (.ok 0)) := by
    apply Except.eq_ok_of_toOption
    decide +kernel
  have hleaves : Kernel.alternating.CallLeavesFrame (Kernel.alternating.server 1)
      (RawFrame.riscV (yieldingAt 0x1000)).capture :=
    Kernel.callLeavesFrame_of_builtin (Kernel.server_still _ 1) rfl _
  obtain ⟨x, hx⟩ := Kernel.exists_takes hfirst
  obtain ⟨y, hy⟩ := Kernel.exists_takes hsecond
  have hshown : (earlier.machine.journal.head?.bind fun x =>
      (ownEvents x.inner).findSome? Event.yielded?) = some firstShown := by
    decide +kernel
  have hreplied : (later.machine.journal.head?.bind fun y =>
      (ownEvents y.inner).findSome? Event.switch?) = some firstShown := by
    decide +kernel
  have hcall : (earlier.machine.journal.head?.bind fun x => callResult (ownEvents x.inner)) =
      some (.ok 0) := by
    decide +kernel
  have hhead : earlier.machine.journal.head? = some x := hx.head?
  have hlast : later.machine.journal.head? = some y := hy.head?
  rw [hhead, Option.bind_some] at hshown hcall
  rw [hlast, Option.bind_some] at hreplied
  obtain ⟨event, hevent, hyielded⟩ := List.exists_of_findSome?_eq_some hshown
  obtain ⟨reply, rfl⟩ := Event.exists_of_yielded? hyielded
  have happlies : y.Applies later.frame firstShown :=
    Or.inl (List.exists_of_findSome?_eq_some hreplied)
  have hlevel : (RawFrame.riscV (yieldingAt 0x1000)).privilege ≠ .monitor := by
    decide +kernel
  have hresult : ((RawFrame.riscV (yieldingAt 0x1000)).afterCall (some (.ok 0))).resumedIn
      (.riscV (yieldingAt 0x2000)) = .riscV { yieldingAt 0x1004 with
        registers := (yieldingAt 0x1000).registers.set RiscV.a0 0 RiscV.a0_lt
        stval := 0x2000 } := by
    decide +kernel
  have harch : (RawFrame.riscV (yieldingAt 0x1000)).arch =
      (RawFrame.riscV (yieldingAt 0x2000)).arch := rfl
  obtain ⟨-, -, -, -, hcontext⟩ := preempted_context_goes_on Kernel.alternating hlevel harch hx
    hevent hy hsecond happlies
  obtain ⟨hrestored, -⟩ := hcontext hleaves
  rw [hcall, hresult] at hrestored
  exact hrestored

end TrapDispatch
