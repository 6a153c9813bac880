import TrapDispatch.Proofs.RawFrames
import TrapDispatch.Proofs.Treatment
import TrapDispatch.Proofs.UserPointers

/-!
# Restoring the frame of a trap

What a trap writes back into its raw frame when no other context is applied: the result
of a system call and the step behind its instruction, or the step behind a breakpoint,
and nothing else. A handler leaves the frame alone if it does not ask to replace it; the
calls that every kernel has do not.
-/

namespace TrapDispatch

variable {σ α β : Type}

/-- Whether a program makes requests of some kind only, whatever the replies. -/
def Program.Within {S : Signature} (allowed : S.Op → Prop) : {α : Type} → Program S α → Prop
  | _, .done _ => True
  | _, .panic _ => True
  | _, .request op next => allowed op ∧ ∀ reply, (next reply).Within allowed
  | _, .onPanic body cleanup next =>
    body.Within allowed ∧ cleanup.Within allowed ∧ ∀ value, (next value).Within allowed
  | _, .untilSome body next => body.Within allowed ∧ ∀ value, (next value).Within allowed

theorem Program.within_bind {S : Signature} {allowed : S.Op → Prop} {program : Program S α}
    {next : α → Program S β} (h : program.Within allowed)
    (hnext : ∀ value, (next value).Within allowed) : (program.bind next).Within allowed := by
  induction program with
  | done value => exact hnext value
  | panic message => trivial
  | request op rest ih => exact ⟨h.1, fun reply => ih reply (h.2 reply) hnext⟩
  | onPanic body cleanup rest _ _ ih =>
    exact ⟨h.1, h.2.1, fun value => ih value (h.2.2 value) hnext⟩
  | untilSome body rest _ ih => exact ⟨h.1, fun value => ih value (h.2 value) hnext⟩

namespace Bond

variable {bond : Bond σ} {kernel : Kernel σ} {server : Server σ}

/-- A program keeps a bond if the replies to the requests that it makes do. -/
theorem keeps_run_of_within {S : Signature} {serve : (op : S.Op) → Dispatch σ (S.Reply op)}
    {bound : Nat} {allowed : S.Op → Prop} (hserve : ∀ op, allowed op → bond.Keeps (serve op))
    {program : Program S α} (h : program.Within allowed) :
    bond.Keeps (program.run serve bound) := by
  induction program with
  | done value => exact keeps_pure value
  | panic message => exact keeps_throw _
  | request op next ih => exact keeps_bind (hserve op h.1) fun reply => ih reply (h.2 reply)
  | onPanic body cleanup next hbody _ ih =>
    exact keeps_bind (keeps_unwinding (hbody h.1)) fun value => ih value (h.2.2 value)
  | untilSome body next hbody ih =>
    exact keeps_bind (bond.resilient.repeated (hbody h.1) bound) fun value => ih value (h.2 value)

def frames : Bond σ where
  relates a b := b.frame = a.frame
  refl _ := rfl
  trans hfirst hsecond := hsecond.trans hfirst

theorem frames_of_still {body : Dispatch σ α} (h : still.Keeps body) : frames.Keeps body :=
  fun state value after hrun => (h state value after hrun).1

theorem frames_wait (hserver : server.Still) (shown : Frame) :
    frames.Keeps (kernel.wait server shown) := by
  unfold Kernel.wait
  apply keeps_bind (frames_of_still (kernel.call_still hserver (.schedule shown .blocked)))
  intro reply
  cases reply with
  | «continue» => exact keeps_pure _
  | switch next =>
    rintro state _ _ ⟨⟩
    rfl

theorem frames_serveHandler (hserver : server.Still) {op : HandlerRequest σ}
    (hop : ∀ frame, op ≠ .setFrame frame) : frames.Keeps (kernel.serveHandler server op) := by
  refine keeps_serveHandler hserver frames_of_still (frames_wait hserver) ?_ ?_ ?_ op ?_
  · rintro reason state _ _ ⟨⟩
    rfl
  · rintro state _ _ ⟨⟩
    rfl
  · rintro state _ _ ⟨⟩
    rfl
  · exact fun frame h => absurd h (hop frame)

end Bond

namespace HandlerProgram

/-- Whether a program of a handler never asks to replace the frame of its caller. -/
def KeepsFrame (program : HandlerProgram σ α) : Prop :=
  Program.Within (S := handlerSignature σ) (fun op => ∀ frame, op ≠ .setFrame frame) program

theorem keepsFrame_ask {op : HandlerRequest σ} (h : ∀ frame, op ≠ .setFrame frame) :
    KeepsFrame (ask op) :=
  ⟨h, fun _ => trivial⟩

theorem KeepsFrame.bind {program : HandlerProgram σ α} {next : α → HandlerProgram σ β}
    (h : program.KeepsFrame) (hnext : ∀ value, (next value).KeepsFrame) :
    KeepsFrame (program >>= next) :=
  Program.within_bind h hnext

/-- One try of a read keeps the frame: it only shows it to the scheduler. -/
theorem keepsFrame_readOnce (file : UInt64) (buffer : UserBuffer) :
    KeepsFrame (CallHandler.readOnce (σ := σ) file buffer) := by
  unfold CallHandler.readOnce
  refine (keepsFrame_ask (by simp)).bind fun progress => ?_
  cases progress with
  | error code => trivial
  | ok progress =>
    cases progress with
    | done count => trivial
    | wouldBlock =>
      refine (keepsFrame_ask (by simp)).bind fun frame => ?_
      refine (keepsFrame_ask (by simp)).bind fun waited => ?_
      cases waited with
      | error code => trivial
      | ok done => trivial

end HandlerProgram

namespace CallDescriptor

def KeepsFrame (descriptor : CallDescriptor σ) : Prop :=
  ∀ arguments, (descriptor.handler arguments).KeepsFrame

theorem KeepsFrame.leavesFrame {descriptor : CallDescriptor σ} (h : descriptor.KeepsFrame)
    {kernel : Kernel σ} {server : Server σ} (hserver : server.Still) :
    kernel.LeavesFrame server descriptor := by
  intro arguments before value after hrun
  have hkeeps : Bond.frames.Keeps (kernel.handle server descriptor arguments) :=
    Bond.keeps_run_of_within (S := handlerSignature σ)
      (fun op hop => Bond.frames_serveHandler hserver hop) (h arguments)
  exact hkeeps before value after hrun

theorem keepsFrame_builtin : ∀ descriptor ∈ builtin (σ := σ), descriptor.KeepsFrame := by
  intro descriptor hdescriptor arguments
  simp only [builtin, List.mem_cons, List.not_mem_nil, or_false] at hdescriptor
  rcases hdescriptor with rfl | rfl | rfl | rfl | rfl
  · refine (HandlerProgram.keepsFrame_ask (by simp)).bind fun _ => ?_
    refine (HandlerProgram.keepsFrame_ask (by simp)).bind fun _ => ?_
    exact (HandlerProgram.keepsFrame_ask (by simp)).bind fun _ => trivial
  · change (CallHandler.write arguments).KeepsFrame
    unfold CallHandler.write
    split
    · trivial
    · exact HandlerProgram.keepsFrame_ask (by simp)
  · change (CallHandler.read arguments).KeepsFrame
    unfold CallHandler.read
    split
    · trivial
    · exact ⟨HandlerProgram.keepsFrame_readOnce _ _, fun _ => trivial⟩
  · exact (HandlerProgram.keepsFrame_ask (by simp)).bind fun _ => trivial
  · exact (HandlerProgram.keepsFrame_ask (by simp)).bind fun _ => trivial

end CallDescriptor

theorem SyscallTable.mem_of_insertAll {table next : SyscallTable σ}
    {descriptors : List (CallDescriptor σ)} (hinsert : table.insertAll descriptors = .ok next)
    {number : UInt64} {descriptor : CallDescriptor σ} (h : next.lookup number = some descriptor) :
    table.lookup number = some descriptor ∨ descriptor ∈ descriptors := by
  unfold SyscallTable.insertAll at hinsert
  induction descriptors generalizing table with
  | nil =>
    cases hinsert
    exact Or.inl h
  | cons first rest ih =>
    rw [List.foldlM_cons] at hinsert
    cases hfirst : table.insert first with
    | error why =>
      rw [hfirst] at hinsert
      cases hinsert
    | ok between =>
      rw [hfirst] at hinsert
      rcases ih hinsert with hold | hmem
      · rw [lookup_insert hfirst] at hold
        split at hold
        · cases hold
          exact Or.inr List.mem_cons_self
        · exact Or.inl hold
      · exact Or.inr (List.mem_cons_of_mem _ hmem)

theorem SyscallTable.mem_builtin {table : SyscallTable σ} (htable : builtin = .ok table)
    {number : UInt64} {descriptor : CallDescriptor σ} (h : table.lookup number = some descriptor) :
    descriptor ∈ CallDescriptor.builtin := by
  have hempty : ({} : SyscallTable σ).lookup number ≠ some descriptor := by
    rw [lookup_empty]
    exact (Option.some_ne_none descriptor).symm
  exact (mem_of_insertAll htable h).resolve_left hempty

/-- No trap of a kernel with the calls that every kernel has, and no others, replaces its
frame by a handler. -/
theorem Kernel.callLeavesFrame_of_builtin {kernel : Kernel σ} {server : Server σ}
    (hserver : server.Still) (htable : SyscallTable.builtin = .ok kernel.syscalls) (frame : Frame) :
    kernel.CallLeavesFrame server frame := by
  intro convention descriptor _ hlookup
  have hmem := SyscallTable.mem_builtin htable hlookup
  exact (CallDescriptor.keepsFrame_builtin descriptor hmem).leavesFrame hserver

/-- Restoring a trap that returns, and to which no context of the scheduler is applied,
changes its raw frame in two cases only. After a system call the return register holds the
result, whatever it is, and the program counter is past the instruction; after a breakpoint
the program counter is past that. -/
theorem restored_frame_goes_on (kernel : Kernel σ) (depth : Nat) (raw : RawFrame)
    (machine : Machine σ) {outcome : Outcome}
    (hreturned : (kernel.takeTrap depth raw.capture machine).result = .ok outcome)
    (hleaves : kernel.CallLeavesFrame (kernel.server depth) raw.capture) :
    ∃ x, kernel.Takes depth raw.capture machine x ∧
      ((∀ next, ¬ x.Applies (kernel.takeTrap depth raw.capture machine).frame next) →
        (∀ result, outcome = .syscall result →
          raw.restore (kernel.takeTrap depth raw.capture machine).frame =
            (raw.withReturn result.encode).advanced raw.arch.callAdvance) ∧
        (kernel.cause raw.capture = .exception .breakpoint →
          raw.restore (kernel.takeTrap depth raw.capture machine).frame =
            raw.advanced raw.breakpointLength) ∧
        (¬ outcome.IsCall → kernel.cause raw.capture ≠ .exception .breakpoint →
          raw.restore (kernel.takeTrap depth raw.capture machine).frame = raw)) := by
  obtain ⟨x, hx⟩ := Kernel.exists_takes hreturned
  refine ⟨x, hx, fun hnone => ?_⟩
  have hcall := hx.outcome_iff hreturned
  rw [hx.frame_eq hreturned hleaves hnone]
  refine ⟨?_, ?_, ?_⟩
  · rintro result rfl
    exact raw.restore_afterCall (some result)
  · intro hcause
    have hresumption : kernel.resumption raw.capture outcome =
        raw.capture.advance (breakpointLength raw.capture) := by
      cases outcome with
      | syscall result =>
        obtain ⟨convention, hconvention⟩ := hcall.mp ⟨result, rfl⟩
        rw [hcause] at hconvention
        cases hconvention
      | _ => exact if_pos hcause
    rw [hresumption, raw.restore_advance, RawFrame.breakpointLength_capture hcause]
  · intro hnocall hcause
    rw [Kernel.resumption_of_ne hcause fun result h => hnocall ⟨result, h⟩, raw.restore_capture]

theorem Kernel.Takes.not_applies {kernel : Kernel σ} {depth : Nat} {frame : Frame}
    {machine : Machine σ} {x : Activity} {outcome : Outcome}
    (h : kernel.Takes depth frame machine x)
    (hreturned : (kernel.takeTrap depth frame machine).result = .ok outcome)
    (hclean : (kernel.takeTrap depth frame machine).frame.dirty.context = false) (next : Frame) :
    ¬ x.Applies (kernel.takeTrap depth frame machine).frame next := by
  intro happlies
  obtain ⟨before, hswitched⟩ := h.switched hreturned happlies
  rw [hswitched] at hclean
  cases hclean

theorem Except.eq_ok_of_toOption {ε : Type} {result : Except ε α} {value : α}
    (h : result.toOption = some value) : result = .ok value := by
  cases result with
  | ok other => exact congrArg Except.ok (Option.some.inj h)
  | error why => cases h

/-- A kernel of an architecture with the calls that every kernel has, and no others. -/
def Kernel.standardOn (arch : Arch) : Kernel Unit :=
  { Kernel.standard with vectors := ⟨arch, 0⟩ }

/-- A context of a user program that makes a system call at an address. The number of the
call is in a7. -/
def RiscV.RawFrame.calling (number sepc : UInt64) : RiscV.RawFrame :=
  { registers := (Vector.replicate 31 0).set 16 number
    sepc
    scause := 8 }

def askingContext : RiscV.RawFrame :=
  .calling 4 0x1000

/-- The number of the process comes back in a0, and the program counter is past the call. -/
theorem process_number_goes_back :
    let run := (Kernel.standardOn .riscv64).takeTrap 1 (RawFrame.riscV askingContext).capture
      { world := () }
    run.result = .ok (.syscall (.ok 1)) ∧
      (RawFrame.riscV askingContext).restore run.frame = .riscV { askingContext with
        registers := askingContext.registers.set RiscV.a0 1 RiscV.a0_lt
        sepc := 0x1004 } := by
  intro run
  have hreturned : run.result = .ok (.syscall (.ok 1)) := by
    apply Except.eq_ok_of_toOption
    decide +kernel
  have hleaves : (Kernel.standardOn .riscv64).CallLeavesFrame
      ((Kernel.standardOn .riscv64).server 1) (RawFrame.riscV askingContext).capture :=
    Kernel.callLeavesFrame_of_builtin (Kernel.server_still _ 1) rfl _
  obtain ⟨x, hx, hrestored⟩ := restored_frame_goes_on (Kernel.standardOn .riscv64) 1
    (.riscV askingContext) { world := () } hreturned hleaves
  have hclean : run.frame.dirty.context = false := by
    decide +kernel
  obtain ⟨hcall, -⟩ := hrestored (hx.not_applies hreturned hclean)
  exact ⟨hreturned, hcall _ rfl⟩

end TrapDispatch
