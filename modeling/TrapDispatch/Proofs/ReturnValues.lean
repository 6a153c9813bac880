import TrapDispatch.Proofs.Conventions
import TrapDispatch.Proofs.Waiting

/-!
# Return values

A success and a negated error number come back in the same register. They never
meet: the calls that every kernel has give counts of bytes of user memory, or the
number of the process, and both are far below the values that stand for errors.
-/

namespace TrapDispatch

namespace ErrorCode

variable {raw : UInt64} {code : ErrorCode}

/-- Values from here on are kept for errors. -/
def firstKept : Nat :=
  UInt64.size - 4095

theorem decode_eq_some : decode raw = some code ↔ raw = code.encode := by
  constructor
  · intro h
    unfold decode at h
    simp only at h
    split at h
    · have hmagnitude : code.errno = -raw := by simpa using List.find?_some h
      unfold encode
      rw [hmagnitude, UInt64.neg_neg]
    · cases h
  · rintro rfl
    exact decode_encode code

theorem decode_of_lt (h : raw.toNat < firstKept) : decode raw = none := by
  have hmagnitude : ¬ (0 < -raw ∧ -raw ≤ 4095) := by
    rintro ⟨hpositive, hsmall⟩
    have hneg : (-raw).toNat = (UInt64.size - raw.toNat) % UInt64.size := UInt64.toNat_neg raw
    have hpositive : 0 < (-raw).toNat := UInt64.lt_iff_toNat_lt.mp hpositive
    have hsmall : (-raw).toNat ≤ 4095 := UInt64.le_iff_toNat_le.mp hsmall
    unfold firstKept UInt64.size at h
    unfold UInt64.size at hneg
    omega
  exact if_neg hmagnitude

end ErrorCode

/-- Reading the register back tells what came of a call, as long as no success has the
value of an error. -/
theorem CallResult.decode_encode {result : CallResult}
    (h : ∀ value, result = .ok value → ErrorCode.decode value = none) :
    (∀ code, ErrorCode.decode result.encode = some code ↔ result = .error code) ∧
      ∀ value, ErrorCode.decode result.encode = none ∧ result.encode = value ↔
        result = .ok value := by
  cases result with
  | ok value =>
    have hnone := h value rfl
    refine ⟨fun code => ?_, fun other => ?_⟩
    · simp [hnone]
    · simp [hnone]
  | error code =>
    have hsome := ErrorCode.decode_encode code
    refine ⟨fun other => ?_, fun value => ?_⟩
    · simp [hsome]
    · simp [hsome]

/-- Whether a reply is one that is expected of a file table, no more bytes than there
are in the buffer, and of a process, a number below the values kept for errors. -/
def Event.isHonest : Event → Bool
  | .service (.write _ buffer) (.ok (.ok count)) => count ≤ buffer.length
  | .service (.read _ buffer) (.ok (.ok (.done count))) => count ≤ buffer.length
  | .service .pid (.ok number) => number.toNat < ErrorCode.firstKept
  | _ => true

/-- Whether the handler of the call in a trap gets honest replies. -/
def Activity.IsHonest (x : Activity) : Prop :=
  ∀ y ∈ x.inner, y.event.isSystemCall = true → ∀ z ∈ y.inner, z.event.isHandler = true →
    ∀ event ∈ TrapDispatch.ownEvents z.inner, event.isHonest = true

theorem Arch.userTop_lt (arch : Arch) : arch.userTop.toNat < ErrorCode.firstKept := by
  cases arch <;> decide

/-- No buffer that was checked is as long as the values kept for errors. -/
theorem ArgumentKind.Passes.length_lt {kind : ArgumentKind} {words : ArgumentWords} {register : Nat}
    {window : UserRange} {arch : Arch} {caller : Privilege} {required : Prop} {buffer : UserBuffer}
    (h : kind.Passes words register ⟨window, arch.userTop⟩ caller required (.user buffer)) :
    buffer.length.toNat < ErrorCode.firstKept := by
  obtain ⟨-, -, -, ⟨-, -, hempty⟩ | hallows⟩ := h
  · rw [hempty]
    decide
  · have htop := hallows.top
    have hlow := arch.userTop_lt
    simp only at htop
    omega

theorem ErrorCode.decode_of_le {count : UInt64} {buffer : UserBuffer}
    (hlength : buffer.length.toNat < firstKept) (hcount : count ≤ buffer.length) :
    decode count = none :=
  decode_of_lt (Nat.lt_of_le_of_lt (UInt64.le_iff_toNat_le.mp hcount) hlength)

variable {σ : Type} {kernel : Kernel σ} {server : Server σ} {cpu : Fin maxCpus}

/-- What is asked of the handler of a call: where it returns a success, and the replies
that it got are honest, the success is not the value of an error. -/
def Handled (new : List Activity) (result : Except Stop CallResult) : Prop :=
  (∀ event ∈ ownEvents new, event.isHonest = true) → ∀ value, result = .ok (.ok value) →
    ErrorCode.decode value = none

theorem handled_of_zero {body : Dispatch σ CallResult}
    (h : Law.Gives (fun result => result = .ok 0) body) {before after : Activation σ}
    {result : Except Stop CallResult} (hends : body.Ends before result after)
    (new : List Activity) : Handled new result := by
  rintro - value rfl
  cases h _ _ _ hends
  decide

theorem runsAt_write (hserver : server.Still) {arguments : Arguments} {buffer : UserBuffer}
    (hbuffer : arguments.buffer 1 = some buffer)
    (hlength : buffer.length.toNat < ErrorCode.firstKept) (state : Activation σ) :
    RunsAt (fun new result _ => Handled new result) (kernel.handle server .write arguments)
      state := by
  unfold Kernel.handle
  change RunsAt _ (Program.run _ _ (CallHandler.write arguments)) state
  unfold CallHandler.write
  rw [hbuffer]
  refine (runsAt_call hserver (.write (arguments.int 0) buffer) state).bind ?_ ?_
  · rintro reply middle _ - ⟨x, rfl, hx, -⟩
    refine runsAt_of_ok [] rfl rfl fun hhonest value hvalue => ?_
    cases hvalue
    rw [List.nil_append, ownEvents_call hx] at hhonest
    exact ErrorCode.decode_of_le hlength (of_decide_eq_true (hhonest _ (List.mem_singleton_self _)))
  · rintro stop after _ - - value hvalue
    cases hvalue

theorem runsAt_getpid (hserver : server.Still) (arguments : Arguments) (state : Activation σ) :
    RunsAt (fun new result _ => Handled new result) (kernel.handle server .getpid arguments)
      state := by
  unfold Kernel.handle
  refine (runsAt_call hserver .pid state).bind ?_ ?_
  · rintro number middle _ - ⟨x, rfl, hx, -⟩
    refine runsAt_of_ok [] rfl rfl fun hhonest value hvalue => ?_
    cases hvalue
    rw [List.nil_append, ownEvents_call hx] at hhonest
    exact ErrorCode.decode_of_lt (of_decide_eq_true (hhonest _ (List.mem_singleton_self _)))
  · rintro stop after _ - - value hvalue
    cases hvalue

theorem Reading.Course.handled {reading : Reading} {bound : Nat} {new : List Activity}
    {result : Except Stop CallResult} (h : reading.Course bound (ownEvents new) result)
    (hlength : reading.buffer.length.toNat < ErrorCode.firstKept) : Handled new result := by
  rintro hhonest value rfl
  obtain ⟨replies, last, hevents, ⟨-, hlast⟩ | ⟨-, -, hexhausted⟩⟩ := h
  · generalize hresult : (Except.ok (.ok value) : Except Stop CallResult) = result at hlast
    cases hlast with
    | done count =>
      cases hresult
      have hreply := hhonest _ (hevents ▸ List.mem_append_right _ (List.mem_singleton_self _))
      exact ErrorCode.decode_of_le hlength (of_decide_eq_true hreply)
    | _ => cases hresult
  · cases hexhausted

theorem gives_exit (arguments : Arguments) :
    Law.Gives (fun result => result = .ok 0) (kernel.handle server .exit arguments) := by
  unfold Kernel.handle
  exact Law.gives_next fun _ => Law.gives_next fun _ => Law.gives_next fun _ => Law.gives_pure rfl

theorem gives_yield (arguments : Arguments) :
    Law.Gives (fun result => result = .ok 0) (kernel.handle server .yield arguments) := by
  unfold Kernel.handle
  exact Law.gives_next fun _ => Law.gives_pure rfl

/-- Every call that every kernel has gives a success that is not the value of an error,
if it gets honest replies, and memory that was checked. -/
theorem handled_of_builtin (hserver : server.Still) {descriptor : CallDescriptor σ}
    (hmem : descriptor ∈ CallDescriptor.builtin) {words : ArgumentWords} {window : UserRange}
    {arch : Arch} {caller : Privilege} {arguments : Arguments}
    (hcheck : descriptor.shape.check words = .ok ())
    (hvalidate : descriptor.shape.validate words ⟨window, arch.userTop⟩ caller = .ok arguments)
    {before after : Activation σ} {result : Except Stop CallResult}
    (hends : (kernel.handle server descriptor arguments).Ends before result after)
    (hjournal : before.machine.journal = []) : Handled after.machine.journal result := by
  have hruns : RunsAt (fun new result _ => Handled new result)
      (kernel.handle server descriptor arguments) before →
        Handled after.machine.journal result := by
    intro hruns
    obtain ⟨new, hnew, hhandled⟩ := hruns.of_ends hends
    rw [hnew, hjournal, List.append_nil]
    exact hhandled
  simp only [CallDescriptor.builtin, List.mem_cons, List.not_mem_nil, or_false] at hmem
  rcases hmem with rfl | rfl | rfl | rfl | rfl
  · exact handled_of_zero (gives_exit arguments) hends _
  · obtain ⟨buffer, rfl, hpasses⟩ := CallShape.arguments_of_validate rfl rfl hcheck hvalidate
    exact hruns (runsAt_write hserver rfl hpasses.length_lt before)
  · obtain ⟨buffer, rfl, hpasses⟩ := CallShape.arguments_of_validate rfl rfl hcheck hvalidate
    refine hruns ((Reading.runsAt_read hserver rfl rfl before).mono fun new ending last h => ?_)
    exact h.1.handled hpasses.length_lt
  · exact handled_of_zero (gives_yield arguments) hends _
  · exact hruns (runsAt_getpid hserver arguments before)

/-- Whether a call comes back with a value, made in one of the activities. -/
def Kernel.CallGives (kernel : Kernel σ) (server : Server σ) (number : UInt64)
    (words : ArgumentWords) (new : List Activity) (value : CallResult) : Prop :=
  ∃ y ∈ new, y.event.isSystemCall = true ∧ ∃ before after,
    kernel.EntersCourse server number words before y.inner (.ok value) after

theorem runsAt_callGives (hserver : server.Still) (number : UInt64) (words : ArgumentWords)
    (state : Activation σ) :
    RunsAt (fun new result _ => ∀ value, result = .ok value →
        kernel.CallGives server number words new value)
      (kernel.interruptible server cpu (kernel.systemCall server number words)) state := by
  unfold Kernel.interruptible
  refine runsAt_next () rfl rfl ?_
  refine (runsAt_call hserver .enableInterrupts _).bind_returning ?_
  intro _ first opening _
  refine (runsAt_enteredCall hserver number words first).bind_returning ?_
  rintro result second _ ⟨y, rfl, hy, hcourse⟩
  refine (runsAt_call hserver .disableInterrupts second).bind_returning ?_
  intro _ third closing _
  refine runsAt_of_ok [] rfl rfl ?_
  rintro _ ⟨⟩
  exact ⟨y, by simp, by rw [hy]; rfl, first, second, hcourse⟩

theorem runsAt_syscallTrap_callGives (hserver : server.Still) (convention : Convention)
    (state : Activation σ) :
    RunsAt (fun new result _ => ∀ ending, result = .ok ending → ∀ value, ending = .syscall value →
        kernel.CallGives server (convention.numberIn state.frame)
          (convention.argumentsIn state.frame) new value)
      (kernel.syscallTrap server cpu convention) state := by
  unfold Kernel.syscallTrap
  apply runsAt_frame
  refine (runsAt_callGives hserver _ _ state).bind_returning ?_
  intro result middle old hback
  have hend : ∀ last : Activation σ, RunsAt (fun new outcome _ => ∀ ending, outcome = .ok ending →
        ∀ value, ending = .syscall value → kernel.CallGives server
          (convention.numberIn state.frame) (convention.argumentsIn state.frame) (new ++ old) value)
      (do kernel.settle server; return Outcome.syscall result) last := by
    intro last
    refine (runsAt_concludes hserver last).bind_returning ?_
    intro _ after later _
    refine runsAt_of_ok [] rfl rfl ?_
    rintro _ ⟨⟩ _ ⟨⟩
    obtain ⟨y, hy, hsystem, hcourse⟩ := hback _ rfl
    exact ⟨y, List.mem_append_right _ hy, hsystem, hcourse⟩
  cases result with
  | ok value => exact runsAt_next () rfl rfl (hend _)
  | error code =>
    exact runsAt_next () rfl rfl (runsAt_next () rfl rfl (runsAt_next () rfl rfl (hend _)))

variable {depth : Nat} {machine : Machine σ} {x : Activity} {convention : Convention}

/-- A success of a call in a trap is not the value of an error, if the table is that of the
calls that every kernel has, and the replies to its handler are honest. -/
theorem Kernel.Takes.decode_eq_none {frame : Frame} {value : UInt64}
    (htable : SyscallTable.builtin = .ok kernel.syscalls) (hx : kernel.Takes depth frame machine x)
    (hhonest : x.IsHonest) (hcause : kernel.cause frame = .syscall convention)
    (hreturned : (kernel.takeTrap depth frame machine).result = .ok (.syscall (.ok value))) :
    ErrorCode.decode value = none := by
  have hserver := kernel.server_still depth
  let gives : RunSpec σ Outcome := fun new result _ => ∀ ending, result = .ok ending →
    ∀ value, ending = .syscall value → kernel.CallGives (kernel.server depth)
      (convention.numberIn frame) (convention.argumentsIn frame) new value
  have hbody : ∀ (cpu : Fin maxCpus) (state : Activation σ), state.frame = frame →
      state.requests = {} →
      RunsAt gives (kernel.syscallTrap (kernel.server depth) cpu convention) state := by
    rintro cpu state rfl -
    exact runsAt_syscallTrap_callGives hserver convention state
  have hkept : ∀ new result middle after, middle.Untouched after →
      gives new result middle → gives new result after := fun _ _ _ _ _ h => h
  obtain ⟨_, hgives, -⟩ := hx.carriesOut hcause hkept hbody
  obtain ⟨y, hy, hsystem, before, after, hcourse⟩ := hgives _ hreturned _ rfl
  have hreplies := hhonest y hy hsystem
  generalize hresult : (Except.ok (.ok value) : Except Stop CallResult) = result at hcourse
  generalize y.inner = activities at hcourse hreplies
  cases hcourse with
  | refused _ herror =>
    obtain ⟨code, hcode⟩ := herror _ hresult.symm
    cases hcode
  | @entered w z _ _ _ _ start inner _ _ hlookup hcheck hvalidate _ _ hjournal hrun hz hinner _ =>
    have hhandled := handled_of_builtin hserver (SyscallTable.mem_builtin htable hlookup) hcheck
      hvalidate hrun hjournal
    rw [← hinner] at hhandled
    refine hhandled (hreplies z List.mem_cons_self ?_) value hresult.symm
    rw [hz]
    rfl

/-- Exactly the negated number of an error reads back as that error. So user code tells
how every call ended that it makes by a trap: with the table of the calls that every
kernel has, a file table that never reports more bytes than the buffer has, and a process
number below the values kept for errors, a trap that goes on in its own context returns
with an error in the return register if its outcome is that error, and with the value if
its outcome is a success. -/
theorem return_register_tells_results :
    (∀ raw code, ErrorCode.decode raw = some code ↔ raw = code.encode) ∧
    ∀ (kernel : Kernel σ) (depth : Nat) (raw : RawFrame) (machine : Machine σ) (x : Activity)
      (convention : Convention) (outcome : Outcome),
      SyscallTable.builtin = .ok kernel.syscalls →
      kernel.Takes depth raw.capture machine x → x.IsHonest →
      kernel.cause raw.capture = .syscall convention →
      (kernel.takeTrap depth raw.capture machine).result = .ok outcome →
      (kernel.takeTrap depth raw.capture machine).frame.dirty.context = false →
      let register := (raw.restore (kernel.takeTrap depth raw.capture machine).frame).returnRegister
      (∀ code, ErrorCode.decode register = some code ↔ outcome = .syscall (.error code)) ∧
        ∀ value, ErrorCode.decode register = none ∧ register = value ↔
          outcome = .syscall (.ok value) := by
  refine ⟨fun raw code => ErrorCode.decode_eq_some, ?_⟩
  intro kernel depth raw machine x convention outcome htable hx hhonest hcause hreturned hclean
    register
  obtain ⟨result, rfl⟩ := (hx.outcome_iff hreturned).mpr ⟨convention, hcause⟩
  have hregister : register = result.encode := by
    have hleaves := Kernel.callLeavesFrame_of_builtin (kernel.server_still depth) htable raw.capture
    have hframe := hx.frame_eq hreturned hleaves (hx.not_applies hreturned hclean)
    calc register = (raw.restore (raw.capture.afterCall (some result))).returnRegister :=
          congrArg (fun frame => (raw.restore frame).returnRegister) hframe
      _ = ((raw.withReturn result.encode).advanced raw.arch.callAdvance).returnRegister :=
          congrArg RawFrame.returnRegister (raw.restore_afterCall (some result))
      _ = result.encode := by rw [RawFrame.advanced_eq, RawFrame.returnRegister_withReturn]
  have hsuccess : ∀ value, result = .ok value → ErrorCode.decode value = none :=
    fun value hvalue => hx.decode_eq_none htable hhonest hcause (hvalue ▸ hreturned)
  have htold := CallResult.decode_encode hsuccess
  rw [hregister]
  simpa using htold

/-- A user program that asks for its process number finds it in a0, and no error. -/
theorem process_number_is_no_error :
    let kernel := Kernel.standardOn .riscv64
    let raw := RawFrame.riscV askingContext
    let run := kernel.takeTrap 1 raw.capture { world := () }
    run.result = .ok (.syscall (.ok 1)) ∧
      ErrorCode.decode (raw.restore run.frame).returnRegister = none ∧
      (raw.restore run.frame).returnRegister = 1 := by
  intro kernel raw run
  have htable : SyscallTable.builtin = .ok kernel.syscalls := rfl
  have hreturned : run.result = .ok (.syscall (.ok 1)) := by
    apply Except.eq_ok_of_toOption
    decide +kernel
  have hcause : kernel.cause raw.capture = .syscall RiscV.ecallConvention := by
    decide +kernel
  have hclean : run.frame.dirty.context = false := by
    decide +kernel
  have hreplies : (run.machine.journal.head?.map fun x =>
      x.inner.all fun y => y.inner.all fun z => (ownEvents z.inner).all Event.isHonest) =
        some true := by
    decide +kernel
  obtain ⟨x, hx⟩ := Kernel.exists_takes hreturned
  have hhonest : x.IsHonest := by
    have hhead := hx.head?
    rw [hhead, Option.map_some, Option.some.injEq] at hreplies
    intro y hy _ z hz _
    exact List.all_eq_true.mp (List.all_eq_true.mp (List.all_eq_true.mp hreplies y hy) z hz)
  obtain ⟨-, htold⟩ := return_register_tells_results (σ := Unit)
  obtain ⟨-, hvalue⟩ :=
    htold kernel 1 raw { world := () } x _ _ htable hx hhonest hcause hreturned hclean
  exact ⟨hreturned, (hvalue 1).mpr rfl⟩

end TrapDispatch
