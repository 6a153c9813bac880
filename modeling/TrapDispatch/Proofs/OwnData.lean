import TrapDispatch.Proofs.Counterparts

/-!
# Services that keep to their own data

A service may do no more than read and write its own data, and leave records. Two kernels with
such services are counterparts if their services are programs of one shape that do not look into
the frames that they are shown, and if their calls are those that every kernel has, or others
whose handlers are blind.
-/

namespace TrapDispatch

variable {σ α β : Type}

/-- Whether a request is about the own data of a service, or leaves a record. -/
def Request.isOwn : Request σ → Bool
  | .world | .setWorld _ | .log _ => true
  | _ => false

inductive Request.Own : (a b : Request σ) → (a.Reply → b.Reply → Prop) → Prop where
  | own {op : Request σ} (h : op.isOwn = true) : Own op op (· = ·)

/-- Whether services do alike for system calls, and the scheduler chooses alike whatever frames
it is shown. -/
structure Services.Alike (services other : Services σ) : Prop where
  serves : ∀ c : Call, c.isOfSystemCall = true →
    Program.Similar (S := serviceSignature σ) Request.Own (· = ·) (services.perform c)
      (other.perform c)
  schedules : ∀ f g reason,
    Program.Similar (S := serviceSignature σ) Request.Own NextContext.Alike
      (services.perform (.schedule f reason)) (other.perform (.schedule g reason))

/-- Two architectures with the same world of services. -/
def Pairing.sameWorlds (σ : Type) (first second : Arch) : Pairing σ :=
  ⟨first, second, Eq⟩

namespace Pairing

variable {kernel other : Kernel σ} {first second : Arch} {depth : Nat}

/-- Own data are the same as long as the worlds are. -/
theorem lockstep_own {states : Activation σ → Activation σ → Prop}
    (hworld : ∀ a b, states a b → a.machine.world = b.machine.world)
    (hset : ∀ a b world, states a b →
      states { a with machine.world := world } { b with machine.world := world })
    (hlog : ∀ a b log other, states a b →
      states { a with machine.log := log } { b with machine.log := other })
    (a b : Request σ) (replies : a.Reply → b.Reply → Prop) (h : Request.Own a b replies) :
    Lockstep states states replies ((kernel.server depth).reply a)
      ((other.server depth).reply b) := by
  obtain ⟨h⟩ := h
  cases depth with
  | zero => exact .throw
  | succ depth =>
    cases a with
    | world => exact fun a b hstate => .returned (hworld a b hstate) hstate
    | setWorld world => exact fun a b hstate => .returned rfl (hset a b world hstate)
    | log r => exact fun a b hstate => .returned rfl (hlog a b _ _ hstate)
    | _ => cases h

theorem serves_of_similar {values : α → β → Prop} {program : ServiceProgram σ α}
    {similar : ServiceProgram σ β}
    (h : Program.Similar (S := serviceSignature σ) Request.Own values program similar) :
    (sameWorlds σ first second).Serves values ((kernel.server depth).run program)
      ((other.server depth).run similar) := by
  unfold Server.run
  rw [kernel.bound_server, other.bound_server]
  refine Lockstep.run (S := serviceSignature σ) (lockstep_own ?_ ?_ ?_) h
  · exact fun a b hstate => hstate.world
  · exact fun a b world hstate => { hstate with world := rfl }
  · exact fun a b log other hstate => { hstate with }

theorem Blind.replies {descriptor : CallDescriptor σ}
    (h : (sameWorlds σ first second).Blind Request.Own descriptor) :
    (sameWorlds σ first second).Blind
      ((sameWorlds σ first second).Replies (kernel.server depth) (other.server depth))
      descriptor := by
  intro arguments
  refine (h arguments).mono fun a b replies hanswer => ?_
  cases hanswer with
  | base h =>
    refine .base (lockstep_own ?_ ?_ ?_ _ _ _ h)
    · exact fun a b hstate => hstate.machines.world
    · exact fun a b world hstate =>
        { hstate with machines := { hstate.machines with world := rfl } }
    · exact fun a b log other hstate => { hstate with machines := { hstate.machines with } }
  | frame => exact .frame
  | setFrame h => exact .setFrame h
  | block h => exact .block h
  | takeSwitch => exact .takeSwitch
  | frameless h => exact .frameless h

theorem kernels_of_alike (hservices : kernel.services.Alike other.services)
    (hsyscalls : other.syscalls = kernel.syscalls)
    (hhandlers : ∀ number descriptor, kernel.syscalls.lookup number = some descriptor →
      (sameWorlds σ kernel.vectors.arch other.vectors.arch).Blind Request.Own descriptor)
    (hwindows : Law.Gives (fun window : UserRange => window.stop ≤ lowTop)
      ((kernel.server depth).run (kernel.services.perform .userRange))) :
    (sameWorlds σ kernel.vectors.arch other.vectors.arch).Kernels kernel other depth where
  first := rfl
  second := rfl
  syscalls := hsyscalls
  serves c hc := serves_of_similar (hservices.serves c hc)
  schedules f g reason _ := serves_of_similar (hservices.schedules f g reason)
  windows := hwindows
  handlers number descriptor hlookup := (hhandlers number descriptor hlookup).replies

theorem similar_ask {pairing : Pairing σ}
    {bases : (a b : Request σ) → (a.Reply → b.Reply → Prop) → Prop} {values : α → β → Prop}
    {a b : HandlerRequest σ} {replies : a.Reply → b.Reply → Prop}
    {next : a.Reply → HandlerProgram σ α} {later : b.Reply → HandlerProgram σ β}
    (h : pairing.Answers bases a b replies)
    (hnext : ∀ v w, replies v w →
      Program.Similar (S := handlerSignature σ) (pairing.Answers bases) values (next v) (later w)) :
    Program.Similar (S := handlerSignature σ) (pairing.Answers bases) values
      (HandlerProgram.ask a >>= next) (HandlerProgram.ask b >>= later) :=
  .request h hnext

theorem blind_readOnce (pairing : Pairing σ) (file : UInt64) (buffer : UserBuffer) :
    Program.Similar (S := handlerSignature σ) (pairing.Answers Request.Own) (Option.Rel (· = ·))
      (CallHandler.readOnce file buffer) (CallHandler.readOnce file buffer) := by
  unfold CallHandler.readOnce
  refine similar_ask (.frameless rfl) ?_
  rintro progress _ rfl
  cases progress with
  | error code => exact .done (.some rfl)
  | ok progress =>
    cases progress with
    | done count => exact .done (.some rfl)
    | wouldBlock =>
      refine similar_ask .frame fun f g hframes => ?_
      refine similar_ask (.block hframes) ?_
      rintro waited _ rfl
      cases waited with
      | error code => exact .done (.some rfl)
      | ok done => exact .done .none

/-- The calls that every kernel has hand frames on to the scheduler, and no more. -/
theorem blind_builtin (pairing : Pairing σ) :
    ∀ descriptor ∈ CallDescriptor.builtin (σ := σ), pairing.Blind Request.Own descriptor := by
  intro descriptor hdescriptor arguments
  simp only [CallDescriptor.builtin, List.mem_cons, List.not_mem_nil, or_false] at hdescriptor
  rcases hdescriptor with rfl | rfl | rfl | rfl | rfl
  · refine similar_ask (.base (.own rfl)) fun _ _ _ => ?_
    refine similar_ask (.frameless rfl) fun _ _ _ => ?_
    exact similar_ask (.frameless rfl) fun _ _ _ => .done rfl
  · change Program.Similar _ _ (CallHandler.write arguments) (CallHandler.write arguments)
    unfold CallHandler.write
    split
    · exact .done rfl
    · exact .request (.frameless rfl) fun _ _ h => .done h
  · change Program.Similar _ _ (CallHandler.read arguments) (CallHandler.read arguments)
    unfold CallHandler.read
    split
    · exact .done rfl
    · exact .untilSome (blind_readOnce pairing _ _) fun _ _ h => .done h
  · exact similar_ask (.frameless rfl) fun _ _ _ => .done rfl
  · refine similar_ask (.frameless rfl) ?_
    rintro pid _ rfl
    exact .done rfl

end Pairing

theorem Services.alike_plain (line : Irq) (device : ServiceProgram σ Unit) :
    (plain line device).Alike (plain line device) where
  serves c hc := by
    cases c <;> first | exact .done rfl | cases hc
  schedules _ _ _ := .done .continue

theorem Pairing.kernels_standardOn (first second : Arch) (depth : Nat) :
    (sameWorlds Unit first second).Kernels (Kernel.standardOn first) (Kernel.standardOn second)
      depth := by
  have hbuiltin : SyscallTable.builtin = .ok (Kernel.standardOn first).syscalls := rfl
  have hservices : (Kernel.standardOn first).services.Alike (Kernel.standardOn second).services :=
    Services.alike_plain ⟨3⟩ (pure ())
  refine kernels_of_alike hservices rfl ?_ ?_
  · intro number descriptor hlookup
    exact blind_builtin _ descriptor (SyscallTable.mem_builtin hbuiltin hlookup)
  · rintro state window after ⟨⟩
    decide

end TrapDispatch
