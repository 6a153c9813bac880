import TrapDispatch.Proofs.OwnData

/-!
# System call conventions

Four instructions make system calls, and each finds the number of the call, its arguments and
the place of its result in registers of its own. The convention makes no difference to a call:
under each of them it has the same outcome, the services get the same calls for it, and the
same value comes back.
-/

namespace TrapDispatch

variable {σ : Type}

theorem X86.RawFrame.register_capture (raw : X86.RawFrame) {index : Nat} (h : index < 15) :
    raw.capture.register index = raw.registers[index] := by
  have hsaved : index < 31 := by omega
  have hcount : index < raw.capture.arch.registerCount := h
  unfold Frame.register
  rw [if_pos hcount, Vector.getElem?_eq_getElem hsaved]
  exact Vector.getElem_append_left h

def Arm.RawFrame.x (raw : Arm.RawFrame) (index : Nat) : UInt64 :=
  raw.registers[index]?.getD 0

theorem Arm.RawFrame.register_capture (raw : Arm.RawFrame) {index : Nat} (h : index < 31) :
    raw.capture.register index = raw.x index :=
  if_pos h

/-- The argument registers a0 to a7, which are x10 to x17. The saved registers begin with x1. -/
def RiscV.RawFrame.a (raw : RiscV.RawFrame) (index : Nat) : UInt64 :=
  raw.registers[9 + index]?.getD 0

theorem RiscV.RawFrame.register_capture (raw : RiscV.RawFrame) {index : Nat} (h : index < 8) :
    raw.capture.register (9 + index) = raw.a index :=
  if_pos (show 9 + index < 31 by omega)

/-- What a trap through a slot is taken for by the encoding of its architecture. -/
def Frame.decode (frame : Frame) (entry : VectorEntry) : Cause :=
  match frame.arch with
  | .x86_64 => X86.decode frame entry
  | .aarch64 => Arm.decode frame entry
  | .riscv64 => RiscV.decode frame entry

theorem Kernel.cause_of_user (kernel : Kernel σ) (frame : Frame) {trapClass : TrapClass}
    (harch : kernel.vectors.arch = frame.arch)
    (hsize : frame.vector.toNat < frame.arch.vectorCount)
    (hinfo : frame.arch.vectorInfo frame.vector = .defined trapClass .user) :
    ∃ entry : VectorEntry, entry.vector = frame.vector ∧ entry.trapClass = trapClass ∧
      kernel.cause frame = frame.decode entry := by
  rw [← harch] at hsize hinfo
  have hlookup : kernel.vectors.lookup frame.vector = some (kernel.vectors.slot frame.vector) :=
    if_pos hsize
  have hclass : (kernel.vectors.slot frame.vector).trapClass = trapClass :=
    congrArg VectorInfo.trapClass hinfo
  have hlevel : (kernel.vectors.slot frame.vector).minPrivilege = .user :=
    congrArg VectorInfo.minPrivilege hinfo
  have hassigned : (kernel.vectors.slot frame.vector).assigned = true :=
    congrArg VectorInfo.assigned hinfo
  refine ⟨_, rfl, hclass, ?_⟩
  rw [cause_of_lookup hlookup]
  unfold Cause.ofTrap
  rw [if_neg (by simp [hassigned]), if_neg (by simp [hlevel, Privilege.rank])]
  rfl

theorem X86.RawFrame.cause_eq (kernel : Kernel σ) {raw : X86.RawFrame}
    (harch : kernel.vectors.arch = .x86_64) (hvector : raw.vector = 0x80) :
    kernel.cause raw.capture =
      .syscall (if raw.errorCode = 1 then syscallConvention else gateConvention) := by
  have hsize : raw.vector.toNat < 256 := by rw [hvector]; decide
  have hinfo : vectorInfo raw.vector = .defined .software .user := by rw [hvector]; decide
  obtain ⟨entry, -, hclass, hcause⟩ := kernel.cause_of_user raw.capture harch hsize hinfo
  rw [hcause]
  change decode raw.capture entry = _
  unfold decode
  rw [hclass]
  rfl

theorem Arm.RawFrame.cause_eq (kernel : Kernel σ) {raw : Arm.RawFrame}
    (harch : kernel.vectors.arch = .aarch64) (hvector : raw.vector = 8)
    (hclass : (raw.esr >>> 26) &&& 0x3F = 0x15) :
    kernel.cause raw.capture = .syscall svcConvention := by
  have hsize : raw.vector.toNat < 16 := by rw [hvector]; decide
  have hinfo : vectorInfo raw.vector = .defined .exception .user := by rw [hvector]; decide
  obtain ⟨entry, hentry, -, hcause⟩ := kernel.cause_of_user raw.capture harch hsize hinfo
  have hkind : EntryKind.ofVector entry.vector = .sync := by
    rw [hentry]
    change EntryKind.ofVector raw.vector = _
    rw [hvector]
    decide
  have hsvc : ExceptionClass.ofSyndrome raw.capture.syndrome = .svc := by
    change ExceptionClass.ofSyndrome raw.esr = _
    unfold ExceptionClass.ofSyndrome
    rw [hclass]
    rfl
  rw [hcause]
  change decode raw.capture entry = _
  unfold decode decodeSync
  rw [hkind, hsvc]

theorem RiscV.RawFrame.cause_eq (kernel : Kernel σ) {raw : RiscV.RawFrame}
    (harch : kernel.vectors.arch = .riscv64) (hcall : raw.scause = 8) :
    kernel.cause raw.capture = .syscall ecallConvention := by
  have hvector : raw.capture.vector = 8 := by
    change vectorOfCause raw.scause = 8
    rw [hcall]
    decide
  have hsize : raw.capture.vector.toNat < 32 := by rw [hvector]; decide
  have hinfo : vectorInfo raw.capture.vector = .defined .software .user := by
    rw [hvector]
    decide
  obtain ⟨entry, -, hclass, hcause⟩ := kernel.cause_of_user raw.capture harch hsize hinfo
  rw [hcause]
  change decode raw.capture entry = _
  unfold decode
  rw [hclass]

/-- Whether a trap was taken from a user program that has loaded a system call, with this number
and these arguments, as one of the conventions has it. -/
inductive RawFrame.Loads (number : UInt64) (words : ArgumentWords) : RawFrame → Prop where
  /-- The `syscall` instruction. -/
  | syscall {raw : X86.RawFrame} (huser : raw.privilege = .user) (hvector : raw.vector = 0x80)
      (htag : raw.errorCode = 1) (hnumber : raw.rax = number)
      (hwords : #v[raw.rdi, raw.rsi, raw.rdx, raw.r10, raw.r8, raw.r9] = words) :
      Loads number words (.x86 raw)
  /-- The `int 0x80` instruction. -/
  | gate {raw : X86.RawFrame} (huser : raw.privilege = .user) (hvector : raw.vector = 0x80)
      (htag : raw.errorCode ≠ 1) (hnumber : raw.rax = number)
      (hwords : #v[raw.rbx, raw.rcx, raw.rdx, raw.rsi, raw.rdi, raw.rbp] = words) :
      Loads number words (.x86 raw)
  /-- The `svc` instruction, with x8 and x0 to x5. -/
  | svc {raw : Arm.RawFrame} (huser : raw.privilege = .user) (hvector : raw.vector = 8)
      (hclass : (raw.esr >>> 26) &&& 0x3F = 0x15) (hnumber : raw.x 8 = number)
      (hwords : #v[raw.x 0, raw.x 1, raw.x 2, raw.x 3, raw.x 4, raw.x 5] = words) :
      Loads number words (.arm raw)
  /-- The `ecall` instruction, with a7 and a0 to a5. -/
  | ecall {raw : RiscV.RawFrame} (huser : raw.privilege = .user) (hcause : raw.scause = 8)
      (hnumber : raw.a 7 = number)
      (hwords : #v[raw.a 0, raw.a 1, raw.a 2, raw.a 3, raw.a 4, raw.a 5] = words) :
      Loads number words (.riscV raw)

/-- The call that is loaded is the one that the trap is taken for. -/
theorem RawFrame.Loads.exists_convention {raw : RawFrame} {number : UInt64} {words : ArgumentWords}
    (h : raw.Loads number words) {kernel : Kernel σ} (harch : kernel.vectors.arch = raw.arch) :
    ∃ convention, kernel.cause raw.capture = .syscall convention ∧
      convention.numberIn raw.capture = number ∧ convention.argumentsIn raw.capture = words := by
  cases h with
  | @syscall raw huser hvector htag hnumber hwords =>
    have hcause := X86.RawFrame.cause_eq kernel harch hvector
    rw [if_pos htag] at hcause
    refine ⟨X86.syscallConvention, hcause, (raw.register_capture (by decide)).trans hnumber, ?_⟩
    rw [← hwords]
    simp [capture, Convention.argumentsIn, X86.syscallConvention, raw.register_capture,
      X86.RawFrame.registers]
  | @gate raw huser hvector htag hnumber hwords =>
    have hcause := X86.RawFrame.cause_eq kernel harch hvector
    rw [if_neg htag] at hcause
    refine ⟨X86.gateConvention, hcause, (raw.register_capture (by decide)).trans hnumber, ?_⟩
    rw [← hwords]
    simp [capture, Convention.argumentsIn, X86.gateConvention, raw.register_capture,
      X86.RawFrame.registers]
  | @svc raw huser hvector hclass hnumber hwords =>
    refine ⟨Arm.svcConvention, Arm.RawFrame.cause_eq kernel harch hvector hclass,
      (raw.register_capture (by decide)).trans hnumber, ?_⟩
    rw [← hwords]
    simp [capture, Convention.argumentsIn, Arm.svcConvention, raw.register_capture]
  | @ecall raw huser hcall hnumber hwords =>
    refine ⟨RiscV.ecallConvention, RiscV.RawFrame.cause_eq kernel harch hcall,
      (raw.register_capture (by decide)).trans hnumber, ?_⟩
    rw [← hwords]
    simp [capture, Convention.argumentsIn, RiscV.ecallConvention, ← raw.register_capture]

theorem RawFrame.Loads.privilege_eq {raw : RawFrame} {number : UInt64} {words : ArgumentWords}
    (h : raw.Loads number words) : raw.capture.privilege = .user := by
  rw [raw.privilege_capture]
  cases h <;> assumption

namespace RawFrame

/-- The register in which the result of a system call comes back: rax, x0 or a0. -/
def returnRegister : RawFrame → UInt64
  | x86 raw => raw.rax
  | arm raw => raw.x 0
  | riscV raw => raw.a 0

theorem returnRegister_eq (raw : RawFrame) : raw.returnRegister = raw.capture.returnValue := by
  cases raw with
  | x86 raw =>
    have hfirst : (raw.registers ++ Vector.replicate 16 (0 : UInt64))[0] = raw.registers[0] :=
      Vector.getElem_append_left (by decide)
    exact hfirst.symm
  | arm raw => rfl
  | riscV raw => rfl

theorem returnRegister_withReturn (raw : RawFrame) (value counter : UInt64) :
    ((raw.withReturn value).withCounter counter).returnRegister = value := by
  cases raw with
  | x86 raw => rfl
  | arm raw => exact Vector.getElem_set_self _
  | riscV raw => exact Vector.getElem_set_self _

/-- Once it is written back, the result is restored, whatever else is. -/
theorem returnRegister_restore (raw : RawFrame) {frame : Frame} (harch : frame.arch = raw.arch)
    (hvalue : frame.dirty.returnValue = true) :
    (raw.restore frame).returnRegister = frame.returnValue := by
  by_cases hcontext : frame.dirty.context = true
  · rw [Frame.loads_self hcontext raw, returnRegister_eq, returnValue_resuming harch]
  · rw [restore_unswitched raw harch (Bool.not_eq_true _ ▸ hcontext) hvalue,
      returnRegister_withReturn]

end RawFrame

theorem GoesOn.schedule_eq {written shown last : Frame} {deferred : Option ScheduleReason}
    {waited events : List Event} {reason : ScheduleReason} {reply : Except Stop NextContext}
    (h : GoesOn written deferred waited events last)
    (hmem : .service (.schedule shown reason) reply ∈ events) : shown = written := by
  have hasked : .schedule shown reason ∈ (callsIn events).filter Call.isSchedule :=
    List.mem_filter.mpr ⟨mem_callsIn hmem, rfl⟩
  rw [h.asked] at hasked
  obtain ⟨other, -, hother⟩ := List.mem_map.mp hasked
  cases hother
  rfl

/-- A trap goes on in its own frame if the scheduler chooses no other. -/
theorem GoesOn.eq_written {written last : Frame} {deferred : Option ScheduleReason}
    {waited events : List Event} (h : GoesOn written deferred waited events last)
    (hnone : ∀ event ∈ waited ++ events, event.switch? = none) : last = written := by
  by_cases hcontinues : Continues events
  · exact h.continued hcontinues
  · have hswitch : lastSwitch (waited ++ events) = none := by
      unfold lastSwitch
      rw [List.filterMap_eq_nil_iff.mpr hnone]
      rfl
    rw [h.followed hcontinues, hswitch]
    rfl

/-- Whatever a trap shows the scheduler whose call has come back is its frame with the result.
It goes on in that frame if the scheduler makes no choice. -/
theorem Kernel.Takes.delivers {kernel : Kernel σ} {depth : Nat} {frame : Frame}
    {machine : Machine σ} {x : Activity} {convention : Convention} {value : CallResult}
    (hx : kernel.Takes depth frame machine x) (hcause : kernel.cause frame = .syscall convention)
    (hreturned : (kernel.takeTrap depth frame machine).result = .ok (.syscall value)) :
    ∃ base, (∀ shown reason reply, .service (.schedule shown reason) reply ∈ ownEvents x.inner →
        shown = convention.writeBack base value) ∧
      (x.choices = [] →
        (kernel.takeTrap depth frame machine).frame = convention.writeBack base value) := by
  by_cases hhandled : x.isHandled = true
  · obtain ⟨y, hy, hsystem, z, hz, hhandler⟩ := Activity.exists_of_isHandled hhandled
    obtain ⟨last, hcall, hlast⟩ := hx.takesCall hcause
    obtain ⟨descriptor, arguments, before, ending, left, -, hruns, hstopped, hfollows⟩ :=
      hcall y hy hsystem z hz hhandler
    cases ending with
    | error stop => cases hreturned.symm.trans (hstopped stop rfl).1
    | ok result =>
      have hfollows := hfollows result rfl
      cases hfollows.outcome_eq hreturned
      refine ⟨left.frame, fun shown reason reply hmem => (hfollows.schedule_eq hmem).1,
        fun hchoices => ?_⟩
      have hkept : left.requests.switch = lastSwitch [] :=
        hruns.switch_eq_none (kernel.server_still depth)
          (unswitched_of_choices hchoices (.inr ⟨y, hy, hsystem, z, hz, hhandler, rfl⟩))
      rw [← hlast]
      exact (hfollows.goesOn hreturned hkept).eq_written
        (unswitched_of_choices hchoices (.inl rfl))
  · obtain ⟨last, hdeclines, hlast⟩ := hx.carriesOut hcause
      (fun _ _ _ _ hafter h => h.untouched hafter) fun cpu state hframe hrequests =>
        runsAt_syscallTrap_declines (kernel.server_still depth) hframe hrequests
    have hgoes := hdeclines (fun y hy hsystem z hz =>
      Activity.unhandled (Bool.not_eq_true _ ▸ hhandled) hy hsystem hz) value hreturned
    refine ⟨frame, fun shown reason reply => hgoes.schedule_eq, fun hchoices => ?_⟩
    rw [← hlast]
    exact hgoes.eq_written (unswitched_of_choices hchoices (.inl rfl))

/-- Whether a value comes back in the return register from a trap that was taken: in the frame
that is restored if the scheduler makes no choice, and in every frame that the trap shows it. -/
structure Kernel.GivesBack (kernel : Kernel σ) (depth : Nat) (raw : RawFrame) (machine : Machine σ)
    (x : Activity) (value : UInt64) : Prop where
  takes : kernel.Takes depth raw.capture machine x
  restored : x.choices = [] →
    (raw.restore (kernel.takeTrap depth raw.capture machine).frame).returnRegister = value
  shown : ∀ shown reason reply, .service (.schedule shown reason) reply ∈ ownEvents x.inner →
    shown.arch = raw.arch ∧ shown.returnValue = value

theorem Kernel.Takes.givesBack {kernel : Kernel σ} {depth : Nat} {raw : RawFrame}
    {machine : Machine σ} {x : Activity} {convention : Convention} {value : CallResult}
    (hx : kernel.Takes depth raw.capture machine x)
    (hcause : kernel.cause raw.capture = .syscall convention)
    (hreturned : (kernel.takeTrap depth raw.capture machine).result = .ok (.syscall value))
    (harch : (kernel.takeTrap depth raw.capture machine).frame.arch = raw.arch)
    (hshown : ∀ c ∈ x.calls, c.Shows raw.arch) :
    kernel.GivesBack depth raw machine x value.encode := by
  obtain ⟨cpu, last, hevent, -⟩ := hx.treats
  obtain ⟨base, hbase, hlast⟩ := hx.delivers hcause hreturned
  refine ⟨hx, fun hchoices => ?_, fun shown reason reply hmem => ⟨?_, ?_⟩⟩
  · have hdirty := convention.dirty_writeBack base value
    rw [← hlast hchoices] at hdirty
    rw [raw.returnRegister_restore harch (by rw [hdirty]), hlast hchoices,
      convention.returnValue_writeBack]
  · rw [Activity.calls_eq (by rw [hevent]; rfl)] at hshown
    exact hshown _ (mem_callsMade _ hmem) shown reason rfl
  · rw [hbase shown reason reply hmem, convention.returnValue_writeBack]

theorem Pairing.shows_of_takes {pairing : Pairing σ} {kernel other : Kernel σ} {depth : Nat}
    {one two : Frame} {machine machine' : Machine σ} {x y : Activity}
    (hx : kernel.Takes depth one machine x) (hy : other.Takes depth two machine' y)
    (h : pairing.GoOn machine.journal machine'.journal
      (kernel.takeTrap depth one machine).machine.journal
      (other.takeTrap depth two machine').machine.journal) :
    (∀ c ∈ x.calls, c.Shows pairing.first) ∧ ∀ c ∈ y.calls, c.Shows pairing.second := by
  obtain ⟨asked, hjournal⟩ := hx
  obtain ⟨asked', hjournal'⟩ := hy
  obtain ⟨new, newer, hnew, hnewer, hcalls⟩ := h
  have hfirst : [x, asked] ++ machine.journal = new ++ machine.journal := hjournal.symm.trans hnew
  have hsecond : [y, asked'] ++ machine'.journal = newer ++ machine'.journal :=
    hjournal'.symm.trans hnewer
  cases List.append_cancel_right hfirst
  cases List.append_cancel_right hsecond
  obtain ⟨hshows, hshows'⟩ := Pairing.shows_of_calls hcalls
  exact ⟨fun c hc => hshows c (List.mem_append_right _ hc),
    fun c hc => hshows' c (List.mem_append_right _ hc)⟩

/-- What two computations do that end together, each as a run of its own. -/
theorem EndTogether.complete {α : Type} {states : Activation σ → Activation σ → Prop}
    {body body' : Dispatch σ α} {one two : Frame} {machine machine' : Machine σ}
    (h : EndTogether states (· = ·) (body ⟨one, {}, machine⟩) (body' ⟨two, {}, machine'⟩)) :
    let run := Kernel.complete body one machine
    let run' := Kernel.complete body' two machine'
    (∀ value, run.result = .ok value ↔ run'.result = .ok value) ∧
    ∀ value, run.result = .ok value → ∃ requests requests',
      states ⟨run.frame, requests, run.machine⟩ ⟨run'.frame, requests', run'.machine⟩ := by
  unfold Kernel.complete
  generalize body _ = left at h
  generalize body' _ = right at h
  cases h with
  | returned hvalue hstate =>
    cases hvalue
    exact ⟨fun _ => .rfl, fun _ _ => ⟨_, _, hstate⟩⟩
  | stopped => exact ⟨fun _ => ⟨nofun, nofun⟩, nofun⟩

/-- The convention by which a system call is made makes no difference to it. Of two kernels that
are counterparts, either both return from it or neither does. If they do, it is with the same
result, with the same calls to their services in the same order, and with both machines alike;
and the result comes back in the return register of either convention. -/
theorem conventions_agree {pairing : Pairing σ} {kernel other : Kernel σ} {depth : Nat}
    (hkernels : pairing.Kernels kernel other depth) {number : UInt64} {words : ArgumentWords}
    {raw raw' : RawFrame} (hraw : raw.Loads number words) (hraw' : raw'.Loads number words)
    (harch : raw.arch = pairing.first) (harch' : raw'.arch = pairing.second)
    {machine machine' : Machine σ} (hmachines : pairing.Machines machine machine') :
    let run := kernel.takeTrap depth raw.capture machine
    let run' := other.takeTrap depth raw'.capture machine'
    (∀ outcome, run.result = .ok outcome ↔ run'.result = .ok outcome) ∧
    ∀ outcome, run.result = .ok outcome →
      pairing.Machines run.machine run'.machine ∧
      pairing.GoOn machine.journal machine'.journal run.machine.journal run'.machine.journal ∧
      ∃ value x y, outcome = .syscall value ∧
        kernel.GivesBack depth raw machine x value.encode ∧
        other.GivesBack depth raw' machine' y value.encode := by
  obtain ⟨convention, hcause, hnumber, hwords⟩ :=
    hraw.exists_convention (hkernels.first.trans harch.symm)
  obtain ⟨convention', hcause', hnumber', hwords'⟩ :=
    hraw'.exists_convention (hkernels.second.trans harch'.symm)
  have hframes : pairing.Frames raw.capture raw'.capture :=
    ⟨raw.arch_capture.trans harch, raw'.arch_capture.trans harch'⟩
  have hcallers : SameCall convention raw.capture convention' raw'.capture :=
    ⟨hraw'.privilege_eq.trans hraw.privilege_eq.symm, hnumber'.trans hnumber.symm,
      hwords'.trans hwords.symm⟩
  have hends : EndTogether (pairing.States machine.journal machine'.journal pairing.Frames) (· = ·)
      (kernel.handleTrap (kernel.server depth) ⟨raw.capture, {}, machine⟩)
      (other.handleTrap (other.server depth) ⟨raw'.capture, {}, machine'⟩) :=
    Pairing.lockstep_handleTrap hkernels hframes hcallers hcause hcause' _ _
      ⟨⟨rfl, rfl⟩, ⟨rfl, rfl, rfl⟩, hmachines, .refl _ _⟩
  intro run run'
  obtain ⟨hiff, hstates⟩ :
      (∀ outcome, run.result = .ok outcome ↔ run'.result = .ok outcome) ∧ _ := hends.complete
  refine ⟨hiff, fun outcome hreturned => ?_⟩
  obtain ⟨requests, requests', hstate⟩ := hstates outcome hreturned
  have hreturned' := (hiff outcome).mp hreturned
  obtain ⟨x, hx⟩ := Kernel.exists_takes hreturned
  obtain ⟨y, hy⟩ := Kernel.exists_takes hreturned'
  obtain ⟨value, rfl⟩ := (hx.outcome_iff hreturned).mpr ⟨convention, hcause⟩
  obtain ⟨hshows, hshows'⟩ := Pairing.shows_of_takes hx hy hstate.calls
  refine ⟨hstate.machines, hstate.calls, value, x, y, rfl, ?_, ?_⟩
  · exact hx.givesBack hcause hreturned (hstate.frames.first.trans harch.symm) (harch ▸ hshows)
  · exact hy.givesBack hcause' hreturned' (hstate.frames.second.trans harch'.symm)
      (harch' ▸ hshows')

/-- A user program that writes sixteen bytes from the middle of its window, by `int 0x80`. -/
def writingGate : X86.RawFrame :=
  { rax := 1, rbx := 1, rcx := 0x1800, rdx := 16, vector := 0x80, cs := 0x23 }

/-- One that does by `ecall`: a7, a0, a1 and a2. -/
def writingEcall : RiscV.RawFrame :=
  { registers := ((((Vector.replicate 31 0).setIfInBounds 16 1).setIfInBounds 9 1).setIfInBounds
      10 0x1800).setIfInBounds 11 16
    scause := 8 }

/-- Both write, and both find the result in the return register. -/
theorem gate_and_ecall_agree :
    let gate := (Kernel.standardOn .x86_64).takeTrap 1 (RawFrame.x86 writingGate).capture
      { world := () }
    let ecall := (Kernel.standardOn .riscv64).takeTrap 1 (RawFrame.riscV writingEcall).capture
      { world := () }
    gate.result = .ok (.syscall (.ok 0)) ∧ ecall.result = .ok (.syscall (.ok 0)) ∧
      List.Forall₂ (Pairing.sameWorlds Unit .x86_64 .riscv64).Calls
        (callsMade gate.machine.journal) (callsMade ecall.machine.journal) ∧
      .write 1 ⟨0x1800, 16, .read⟩ ∈ callsMade ecall.machine.journal ∧
      ((RawFrame.x86 writingGate).restore gate.frame).returnRegister = 0 ∧
      ((RawFrame.riscV writingEcall).restore ecall.frame).returnRegister = 0 := by
  intro gate ecall
  have hgate : (RawFrame.x86 writingGate).Loads 1 #v[1, 0x1800, 16, 0, 0, 0] :=
    .gate (by decide) rfl (by decide) rfl rfl
  have hecall : (RawFrame.riscV writingEcall).Loads 1 #v[1, 0x1800, 16, 0, 0, 0] :=
    .ecall (by decide) rfl (by decide) (by decide)
  have hreturned : gate.result = .ok (.syscall (.ok 0)) := by
    apply Except.eq_ok_of_toOption
    decide +kernel
  have hunchosen : gate.machine.journal.head?.map Activity.choices = some [] := by
    decide +kernel
  have hunchosen' : ecall.machine.journal.head?.map Activity.choices = some [] := by
    decide +kernel
  have hwritten : .write 1 ⟨0x1800, 16, .read⟩ ∈ callsMade ecall.machine.journal := by
    decide +kernel
  obtain ⟨hiff, hagree⟩ := conventions_agree (Pairing.kernels_standardOn .x86_64 .riscv64 1)
    hgate hecall rfl rfl ⟨rfl, rfl, rfl, rfl, rfl⟩
  obtain ⟨-, hcalls, value, x, y, hvalue, hx, hy⟩ := hagree _ hreturned
  cases hvalue
  rw [hx.takes.head?, Option.map_some, Option.some.injEq] at hunchosen
  rw [hy.takes.head?, Option.map_some, Option.some.injEq] at hunchosen'
  exact ⟨hreturned, (hiff _).mp hreturned, hcalls.callsMade, hwritten, hx.restored hunchosen,
    hy.restored hunchosen'⟩

end TrapDispatch
