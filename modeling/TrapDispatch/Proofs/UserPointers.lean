import TrapDispatch.Proofs.CallChecks
import TrapDispatch.Proofs.Emission
import TrapDispatch.Proofs.Nesting

/-!
# Arguments of system calls

A handler that is entered gets its arguments from the registers declared for them, and
user memory only as its guard allows, whatever table the call was found in.
-/

namespace TrapDispatch

variable {σ α : Type} {kernel : Kernel σ} {server : Server σ}

/-- What a call does whose handler is entered: the user window is asked for, both checks
let the call through, and the handler gets what they made of the registers. -/
def Kernel.Enters (kernel : Kernel σ) (number : UInt64) (words : ArgumentWords) (caller : Frame)
    (events : List Event) : Prop :=
  ∀ entered arguments result, .handler entered arguments result ∈ events →
    ∃ descriptor window, kernel.syscalls.lookup number = some descriptor ∧
      entered = descriptor.shape.number ∧
      events = [.service .userRange (.ok window), .handler entered arguments result] ∧
      descriptor.shape.check words = .ok () ∧
      descriptor.shape.validate words ⟨window, caller.arch.userTop⟩ caller.privilege = .ok arguments

theorem emits_serveCall (number : UInt64) (words : ArgumentWords) (caller : Frame) :
    Emits (fun events (_ : Except Stop CallResult) => kernel.Enters number words caller events)
      (kernel.serveCall server number words caller) := by
  have hsilent : ∀ {body : Dispatch σ CallResult}, Silent body →
      Emits (fun events _ => kernel.Enters number words caller events) body := by
    intro body h
    apply h.emits.mono
    rintro events result ⟨rfl, -⟩ entered arguments last hmem
    cases hmem
  unfold Kernel.serveCall
  -- Only the last branch enters the handler, and it asks for the window first.
  split
  · exact hsilent ((silent_recordAt _ _ _).bind fun _ => silent_pure _)
  next descriptor hlookup =>
    simp only
    split
    · exact hsilent ((silent_recordAt _ _ _).bind fun _ => silent_pure _)
    split
    · exact hsilent (silent_pure _)
    next hcheck =>
      have hwindow : Emits (fun events result => events = [.service .userRange result])
          (kernel.call server .userRange) := emits_during _ (by simp)
      refine hwindow.bind (fun window events _ => events = [] ∨
        ∃ arguments result, events = [.handler descriptor.shape.number arguments result] ∧
          descriptor.shape.validate words ⟨window, caller.arch.userTop⟩ caller.privilege =
            .ok arguments) (fun window => ?_) ?_ ?_
      · split
        · exact (silent_pure _).emits.mono fun _ _ h => Or.inl h.1
        next arguments hvalidate =>
          apply (silent_recordAt _ _ _).followed
          intro _
          have hrequests : Silent (Dispatch.modifyRequests (σ := σ) fun requests =>
              { requests with interruptible := descriptor.shape.interruptible }) :=
            fun state => ⟨(), _, rfl, rfl⟩
          apply hrequests.followed
          intro _
          have hhandler : Emits
              (fun events result => events = [.handler descriptor.shape.number arguments result])
              (kernel.runHandler server descriptor arguments) := emits_during _ (by simp)
          exact hhandler.mono fun _ result h => Or.inr ⟨arguments, result, h, hvalidate⟩
      · rintro _ window later result rfl (rfl | ⟨arguments, last, rfl, hvalidate⟩)
        · intro entered arguments last hmem
          simp at hmem
        · intro entered given result hmem
          simp only [List.singleton_append, List.mem_cons, List.not_mem_nil, or_false,
            reduceCtorEq, false_or] at hmem
          cases hmem
          exact ⟨descriptor, window, hlookup, rfl, rfl, hcheck, hvalidate⟩
      · rintro _ stop rfl entered arguments last hmem
        simp at hmem

/-- What is left by a computation, whether it returns or not. -/
def Dispatch.left (body : Dispatch σ α) (state : Activation σ) : Activation σ :=
  match body state with
  | .ok _ after => after
  | .error _ after => after

theorem systemCall_adds (kernel : Kernel σ) (server : Server σ) (number : UInt64)
    (words : ArgumentWords) (state : Activation σ) :
    ∃ x result, ((kernel.systemCall server number words).left state).machine.journal =
        x :: state.machine.journal ∧ x.event = .systemCall number words state.frame result ∧
      kernel.Enters number words state.frame (ownEvents x.inner) := by
  have hframe : Dispatch.frame state = .ok state.frame state := rfl
  have hemits : EmitsAt (fun events _ => kernel.Enters number words state.frame events)
      (kernel.serveCall server number words state.frame) { state with machine.journal := [] } :=
    emits_serveCall number words state.frame _
  have hinner : ∀ {after : Machine σ} {events}, Adds events { state.machine with journal := [] } after →
      ownEvents after.journal = events := by
    rintro after _ ⟨new, hnew, rfl⟩
    rw [hnew, List.append_nil]
  unfold Kernel.systemCall Dispatch.left
  rw [Dispatch.bind_of_ok hframe]
  cases hrun : kernel.serveCall server number words state.frame
      { state with machine.journal := [] } with
  | ok value after =>
    obtain ⟨events, hadds, henters⟩ := hemits.returned hrun
    rw [Dispatch.during_of_ok hrun]
    refine ⟨_, .ok value, rfl, rfl, ?_⟩
    rw [hinner hadds]
    exact henters
  | error stop after =>
    obtain ⟨events, hadds, henters⟩ := hemits.stopped hrun
    rw [Dispatch.during_of_error hrun]
    refine ⟨_, .error stop, rfl, rfl, ?_⟩
    rw [hinner hadds]
    exact henters

/-- In a table that was built by insertion every call fits the argument registers. If the
handler of a call is entered, each of its arguments comes from the registers behind those
of the arguments before it: an integer as it is, a required pointer never null, and
memory only as declared, and as the guard allows it with the window that was asked for. -/
theorem handlers_get_checked_arguments (kernel : Kernel σ) (server : Server σ) (number : UInt64)
    (words : ArgumentWords) (state : Activation σ) (htable : kernel.syscalls.Reachable) :
    (∀ descriptor, kernel.syscalls.lookup number = some descriptor →
      number.toNat < maxSyscalls ∧ descriptor.shape.width ≤ argumentRegisters ∧
      descriptor.shape.arguments.length ≤ argumentRegisters ∧
      ∀ index kind, descriptor.shape.arguments[index]? = some kind →
        descriptor.shape.register index + ArgumentKind.width kind ≤ argumentRegisters) ∧
    ∃ x result, ((kernel.systemCall server number words).left state).machine.journal =
        x :: state.machine.journal ∧ x.event = .systemCall number words state.frame result ∧
      ∀ entered arguments last, .handler entered arguments last ∈ ownEvents x.inner →
        ∃ descriptor window, kernel.syscalls.lookup number = some descriptor ∧ entered = number ∧
          ownEvents x.inner = [.service .userRange (.ok window), .handler entered arguments last] ∧
          arguments.size = descriptor.shape.arguments.length ∧
          ∀ index kind, descriptor.shape.arguments[index]? = some kind →
            ArgumentKind.Passes kind words (descriptor.shape.register index)
              ⟨window, state.frame.arch.userTop⟩ state.frame.privilege
              (index < descriptor.shape.required) (arguments.get index) := by
  have hordered := htable.ordered
  refine ⟨fun descriptor hlookup => ?_, ?_⟩
  · have hfits := (hordered number descriptor hlookup).1
    refine ⟨SyscallTable.lt_of_lookup hlookup, hfits.width, hfits.length_le, fun index kind => hfits.register_le⟩
  · obtain ⟨x, result, hjournal, hevent, henters⟩ := systemCall_adds kernel server number words state
    refine ⟨x, result, hjournal, hevent, fun entered arguments last hmem => ?_⟩
    obtain ⟨descriptor, window, hlookup, hnumber, hevents, hcheck, hvalidate⟩ :=
      henters entered arguments last hmem
    obtain ⟨hfits, hslot⟩ := hordered number descriptor hlookup
    obtain ⟨hsize, hpasses⟩ := hfits.passes hcheck hvalidate
    exact ⟨descriptor, window, hlookup, hnumber.trans hslot, hevents, hsize, hpasses⟩

def Event.arguments? : Event → Option Arguments
  | .handler _ arguments _ => some arguments
  | _ => none

theorem Event.exists_of_arguments? {event : Event} {arguments : Arguments}
    (h : event.arguments? = some arguments) :
    ∃ entered result, event = .handler entered arguments result := by
  cases event with
  | handler entered arguments result =>
    cases h
    exact ⟨entered, result, rfl⟩
  | _ => cases h

def Kernel.standard : Kernel Unit :=
  { Kernel.plain ⟨3⟩ (pure ()) with syscalls := (SyscallTable.builtin.toOption).getD {} }

/-- A write of sixteen bytes from the middle of the window is let through, and its handler
gets them. -/
theorem write_gets_checked_buffer :
    let words : ArgumentWords := #v[1, 0x1800, 16, 0, 0, 0]
    let state : Activation Unit := ⟨default, {}, { world := () }⟩
    ∃ x arguments last window,
      ((Kernel.standard.systemCall (Kernel.standard.server 1) 1 words).left state).machine.journal =
        [x] ∧ .handler 1 arguments last ∈ ownEvents x.inner ∧
      arguments.get 1 = .user ⟨0x1800, 16, .read⟩ ∧
      (ArgumentKind.buffer .read).Passes words 1 ⟨window, state.frame.arch.userTop⟩ .user (1 < 2)
        (arguments.get 1) := by
  intro words state
  have htable : Kernel.standard.syscalls.Reachable := .builtin rfl
  obtain ⟨-, x, result, hjournal, hevent, hentered⟩ := handlers_get_checked_arguments
    Kernel.standard (Kernel.standard.server 1) 1 words state htable
  have hcheck : (((Kernel.standard.systemCall (Kernel.standard.server 1) 1
      words).left state).machine.journal.head?.bind fun x =>
        (ownEvents x.inner)[1]?.bind Event.arguments?) = some ⟨[.int 1, .user ⟨0x1800, 16, .read⟩]⟩ := by
    decide +kernel
  rw [hjournal, List.head?_cons, Option.bind_some] at hcheck
  obtain ⟨event, hsecond, harguments⟩ := Option.bind_eq_some_iff.mp hcheck
  obtain ⟨entered, last, rfl⟩ := Event.exists_of_arguments? harguments
  have hmem := List.mem_of_getElem? hsecond
  obtain ⟨descriptor, window, hlookup, rfl, -, -, hpasses⟩ := hentered entered _ last hmem
  have hwrite : Kernel.standard.syscalls.lookup 1 = some .write := rfl
  rw [hwrite] at hlookup
  cases hlookup
  exact ⟨x, _, last, window, hjournal, hmem, rfl, hpasses 1 (.buffer .read) rfl⟩

end TrapDispatch
