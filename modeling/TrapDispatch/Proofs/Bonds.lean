import TrapDispatch.Proofs.Law

/-!
# Bonds of states

What a computation that returns does to the state of a trap: its frame, the requests of
its system call, and its machine. A bond relates the states before and after; what every
part of a computation keeps, the whole keeps. The dispatcher keeps the frame of a trap
away from its services: whatever they do, and however deep they nest, the frame and the
requests are the same after a call to them.
-/

namespace TrapDispatch

variable {σ α β : Type}

namespace Dispatch

variable {body : Dispatch σ α} {next : α → Dispatch σ β} {state : Activation σ}

theorem exists_of_bind {value : β} {after : Activation σ}
    (h : (body >>= next) state = .ok value after) :
    ∃ between middle, body state = .ok between middle ∧ next between middle = .ok value after := by
  cases hrun : body state with
  | ok between middle =>
    rw [bind_of_ok hrun] at h
    exact ⟨between, middle, rfl, h⟩
  | error stop middle =>
    rw [bind_of_error hrun] at h
    cases h

theorem exists_of_during {event : Except Stop α → Event} {value : α} {after : Activation σ}
    (h : during event body state = .ok value after) :
    ∃ inner, body { state with machine.journal := [] } = .ok value inner ∧
      after = { inner with machine := state.machine.closing inner.machine (event (.ok value)) } := by
  cases hrun : body { state with machine.journal := [] } with
  | ok last inner =>
    rw [during_of_ok hrun] at h
    cases h
    exact ⟨inner, rfl, rfl⟩
  | error stop inner =>
    rw [during_of_error hrun] at h
    cases h

theorem exists_of_onFrame {frame : Frame} {value : α × Activation σ} {after : Activation σ}
    (h : onFrame frame body state = .ok value after) :
    body { state with frame, requests := {} } = .ok value.1 value.2 ∧
      after = { state with machine := value.2.machine } := by
  unfold onFrame at h
  cases hrun : body { state with frame, requests := {} } with
  | ok last inner =>
    rw [hrun] at h
    cases h
    exact ⟨rfl, rfl⟩
  | error stop inner =>
    rw [hrun] at h
    cases h

end Dispatch

/-- A relation of the states before and after computations that return. -/
structure Bond (σ : Type) where
  relates : Activation σ → Activation σ → Prop
  refl (a : Activation σ) : relates a a
  trans {a b c : Activation σ} : relates a b → relates b c → relates a c

namespace Bond

variable {bond : Bond σ}

/-- Whether every run of a computation that returns is related by the bond. -/
def Keeps (bond : Bond σ) (body : Dispatch σ α) : Prop :=
  ∀ state value after, body state = .ok value after → bond.relates state after

/-- Whether the bond says nothing of the machine but its journal. -/
def Quiet (bond : Bond σ) : Prop :=
  ∀ (a : Activation σ) (machine : Machine σ), machine.journal = a.machine.journal →
    bond.relates a { a with machine }

theorem keeps_pure (value : α) : bond.Keeps (pure value : Dispatch σ α) := by
  rintro state _ _ ⟨⟩
  exact bond.refl state

theorem keeps_throw (stop : Stop) : bond.Keeps (throw stop : Dispatch σ α) := by
  rintro state _ _ ⟨⟩

theorem keeps_fatal (text : String) : bond.Keeps (Dispatch.fatal text : Dispatch σ α) := by
  rintro state _ _ ⟨⟩

theorem keeps_bind {body : Dispatch σ α} {next : α → Dispatch σ β} (hbody : bond.Keeps body)
    (hnext : ∀ value, bond.Keeps (next value)) : bond.Keeps (body >>= next) := by
  intro state value after h
  obtain ⟨between, middle, hfirst, hsecond⟩ := Dispatch.exists_of_bind h
  exact bond.trans (hbody _ _ _ hfirst) (hnext between _ _ _ hsecond)

theorem keeps_ite {c : Prop} {_ : Decidable c} {first second : Dispatch σ α}
    (hfirst : bond.Keeps first) (hsecond : bond.Keeps second) :
    bond.Keeps (if c then first else second) := by
  split
  · exact hfirst
  · exact hsecond

theorem keeps_when {c : Prop} {_ : Decidable c} {step : Dispatch σ Unit}
    {next : Unit → Dispatch σ β} (hstep : bond.Keeps step) (hnext : bond.Keeps (next ())) :
    bond.Keeps (if c then step >>= next else next ()) :=
  keeps_ite (keeps_bind hstep fun _ => hnext) hnext

theorem keeps_frame : bond.Keeps (Dispatch.frame (σ := σ)) := by
  rintro state _ _ ⟨⟩
  exact bond.refl state

theorem keeps_requests : bond.Keeps (Dispatch.requests (σ := σ)) := by
  rintro state _ _ ⟨⟩
  exact bond.refl state

theorem keeps_machine : bond.Keeps (Dispatch.machine (σ := σ)) := by
  rintro state _ _ ⟨⟩
  exact bond.refl state

/-- A cleanup runs only where nothing returns. -/
theorem keeps_unwinding {body : Dispatch σ α} {cleanup : Dispatch σ Unit}
    (hbody : bond.Keeps body) : bond.Keeps (unwinding body cleanup) := by
  intro state value after h
  unfold unwinding at h
  split at h
  · split at h <;> cases h
  · exact hbody state value after h

def discipline (bond : Bond σ) : Discipline σ where
  Keeps := bond.Keeps
  pure := keeps_pure
  panic _ := keeps_throw _
  bind := keeps_bind

theorem resilient (bond : Bond σ) : bond.discipline.Resilient :=
  ⟨keeps_throw _, fun hbody _ => keeps_unwinding hbody⟩

theorem keeps_run {S : Signature} {serve : (op : S.Op) → Dispatch σ (S.Reply op)} {bound : Nat}
    (hserve : ∀ op, bond.Keeps (serve op)) (program : Program S α) :
    bond.Keeps (program.run serve bound) :=
  bond.resilient.run hserve program

namespace Quiet

theorem modifyMachine (h : bond.Quiet) {change : Machine σ → Machine σ}
    (hjournal : ∀ machine, (change machine).journal = machine.journal) :
    bond.Keeps (Dispatch.modifyMachine change) := by
  rintro state _ _ ⟨⟩
  exact h state _ (hjournal state.machine)

theorem record (h : bond.Quiet) (r : Record) :
    bond.Keeps (TrapDispatch.record r : Dispatch σ Unit) :=
  h.modifyMachine fun _ => rfl

theorem recordAt (h : bond.Quiet) (level : Level) (target text : String) :
    bond.Keeps (TrapDispatch.recordAt level target text : Dispatch σ Unit) :=
  h.record _

theorem count (h : bond.Quiet) (change : Stats → Stats) :
    bond.Keeps (Dispatch.count (σ := σ) change) :=
  h.modifyMachine fun _ => rfl

theorem setSlot (h : bond.Quiet) (cpu : Fin maxCpus) (change : CpuSlot → CpuSlot) :
    bond.Keeps (Dispatch.setSlot (σ := σ) cpu change) :=
  h.modifyMachine fun _ => rfl

theorem withRegistry (h : bond.Quiet) (change : Registry → α × Registry) :
    bond.Keeps (Dispatch.withRegistry (σ := σ) change) := by
  unfold Dispatch.withRegistry
  apply keeps_bind keeps_machine
  intro machine
  refine keeps_when (keeps_throw _) ?_
  refine keeps_bind (h.modifyMachine fun _ => rfl) fun _ => ?_
  apply keeps_bind keeps_machine
  intro machine
  exact keeps_bind (h.modifyMachine fun _ => rfl) fun _ => keeps_pure _

theorem observing (h : bond.Quiet) : bond.discipline.Observing :=
  ⟨⟨keeps_frame, keeps_requests, keeps_machine, h.record⟩, h.count⟩

end Quiet

theorem keeps_acceptTrap (cpu : Fin maxCpus) : bond.Keeps (Kernel.acceptTrap (σ := σ) cpu) := by
  unfold Kernel.acceptTrap
  refine keeps_bind keeps_machine fun machine => keeps_bind keeps_frame fun frame => ?_
  exact keeps_ite (keeps_pure _) (keeps_fatal _)

def grows : Bond σ where
  relates a b := ∃ new, b.machine.journal = new ++ a.machine.journal
  refl a := ⟨[], rfl⟩
  trans := by
    rintro a b c ⟨old, hold⟩ ⟨new, hnew⟩
    exact ⟨new ++ old, by rw [hnew, hold, List.append_assoc]⟩

def still : Bond σ where
  relates a b := b.frame = a.frame ∧ b.requests = a.requests ∧ grows.relates a b
  refl a := ⟨rfl, rfl, grows.refl a⟩
  trans hfirst hsecond := ⟨hsecond.1.trans hfirst.1, hsecond.2.1.trans hfirst.2.1,
    grows.trans hfirst.2.2 hsecond.2.2⟩

theorem quiet_still : (still (σ := σ)).Quiet :=
  fun _ _ h => ⟨rfl, rfl, [], h⟩

theorem grows_during (event : Except Stop α → Event) (body : Dispatch σ α) :
    grows.Keeps (Dispatch.during event body) := by
  intro state value after h
  obtain ⟨inner, -, rfl⟩ := Dispatch.exists_of_during h
  exact ⟨[_], rfl⟩

theorem still_during {event : Except Stop α → Event} {body : Dispatch σ α}
    (hbody : still.Keeps body) : still.Keeps (Dispatch.during event body) := by
  intro state value after h
  obtain ⟨inner, hrun, rfl⟩ := Dispatch.exists_of_during h
  obtain ⟨hframe, hrequests, -⟩ := hbody _ _ _ hrun
  exact ⟨hframe, hrequests, [_], rfl⟩

theorem still_note (event : Event) : still.Keeps (Dispatch.note (σ := σ) event) := by
  rintro state _ _ ⟨⟩
  exact ⟨rfl, rfl, [_], rfl⟩

theorem still_onFrame {frame : Frame} {body : Dispatch σ α} (hbody : grows.Keeps body) :
    still.Keeps (Dispatch.onFrame frame body) := by
  intro state value after h
  obtain ⟨hrun, rfl⟩ := Dispatch.exists_of_onFrame h
  obtain ⟨new, hnew⟩ := hbody _ _ _ hrun
  exact ⟨rfl, rfl, new, hnew⟩

end Bond

namespace Kernel

open Bond

variable {kernel : Kernel σ} {server : Server σ} {cpu : Fin maxCpus}

theorem handleTrap_grows : grows.Keeps (kernel.handleTrap server) := by
  unfold Kernel.handleTrap
  apply keeps_bind (grows_during _ _)
  intro id
  split
  case isFalse => exact keeps_fatal _
  case isTrue hid =>
    refine keeps_bind (keeps_acceptTrap _) fun outer => ?_
    exact keeps_bind keeps_frame fun frame => grows_during _ _

theorem systemCall_grows (number : UInt64) (words : ArgumentWords) :
    grows.Keeps (kernel.systemCall server number words) :=
  keeps_bind keeps_frame fun _ => grows_during _ _

theorem enter_grows : grows.Keeps (kernel.enter server) := by
  unfold Kernel.enter
  apply keeps_bind keeps_machine
  intro machine
  refine keeps_ite ?_ ?_
  · exact keeps_bind handleTrap_grows fun _ => keeps_pure _
  · exact keeps_bind keeps_frame fun _ => keeps_fatal _

theorem install_still : still.Keeps kernel.install := by
  unfold Kernel.install
  apply keeps_bind keeps_machine
  intro machine
  refine keeps_ite (quiet_still.recordAt _ _ _) ?_
  refine keeps_bind (quiet_still.modifyMachine fun _ => rfl) fun _ => ?_
  exact keeps_bind (quiet_still.record _) fun _ => quiet_still.recordAt _ _ _

theorem callRegistry_still (call : RegistryCall) (reply : α → RegistryReply)
    (change : Registry → α × Registry) :
    still.Keeps (Kernel.callRegistry (σ := σ) call reply change) := by
  unfold Kernel.callRegistry
  refine keeps_bind (quiet_still.withRegistry _) fun value => ?_
  exact keeps_bind (still_note _) fun _ => keeps_pure _

theorem register_still (irq : Irq) (driver : UInt32) (handler : HandlerId) :
    still.Keeps (Kernel.register (σ := σ) irq driver handler) := by
  unfold Kernel.register
  apply keeps_bind (callRegistry_still _ _ _)
  intro result
  cases result with
  | ok handle => exact keeps_bind (quiet_still.record _) fun _ => keeps_pure _
  | error why => exact keeps_pure _

theorem unregister_still (handle : RegistrationHandle) :
    still.Keeps (Kernel.unregister (σ := σ) handle) := by
  unfold Kernel.unregister Kernel.changeRegistry
  apply keeps_bind (callRegistry_still _ _ _)
  intro result
  cases result with
  | ok done => exact keeps_bind (quiet_still.record _) fun _ => keeps_pure _
  | error why => exact keeps_pure _

end Kernel

def Server.Still (server : Server σ) : Prop :=
  ∀ op, Bond.still.Keeps (server.reply op)

namespace Server

open Bond

variable {kernel : Kernel σ} {server : Server σ}

theorem Still.run (h : server.Still) (program : ServiceProgram σ α) :
    still.Keeps (server.run program) := by
  unfold Server.run
  exact keeps_run (S := serviceSignature σ) h program

theorem Still.reply (h : server.Still) (op : Request σ) : still.Keeps (kernel.reply server op) := by
  cases op with
  | world => exact keeps_bind keeps_machine fun machine => keeps_pure machine.world
  | setWorld world =>
    unfold Kernel.reply
    exact quiet_still.modifyMachine fun _ => rfl
  | log r => exact quiet_still.record r
  | trap frame =>
    unfold Kernel.reply
    exact keeps_bind (still_onFrame Kernel.handleTrap_grows) fun _ => keeps_pure _
  | enter frame =>
    unfold Kernel.reply
    exact keeps_bind (still_onFrame Kernel.enter_grows) fun _ => keeps_pure _
  | install => exact Kernel.install_still
  | invoke handler irq => exact h.run _
  | call number words frame =>
    unfold Kernel.reply
    exact keeps_bind (still_onFrame (Kernel.systemCall_grows number words)) fun _ => keeps_pure _
  | register irq driver handler => exact Kernel.register_still irq driver handler
  | unregister handle => exact Kernel.unregister_still handle
  | setEnabled handle enabled => exact Kernel.callRegistry_still _ _ _
  | lookup irq => exact Kernel.callRegistry_still _ _ _
  | slot cpu =>
    unfold Kernel.reply Kernel.tellSlot
    refine keeps_bind keeps_machine fun machine => ?_
    exact keeps_bind (still_note _) fun _ => keeps_pure _
  | stats => exact keeps_bind keeps_machine fun machine => keeps_pure machine.stats
  | settings =>
    unfold Kernel.reply
    exact keeps_pure _

end Server

/-- Services leave frame and requests alone at every depth of nesting. -/
theorem Kernel.server_still (kernel : Kernel σ) (depth : Nat) : (kernel.server depth).Still := by
  -- A device handler that is invoked is served by the level below.
  induction depth with
  | zero => exact fun op => Bond.keeps_throw _
  | succ depth ih => exact fun op => ih.reply op

end TrapDispatch
