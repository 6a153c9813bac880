/-!
# Programs

Code whose effects are requests with typed replies. A program may panic, may
clean up while a panic unwinds through it, and may repeat a part until it gives
a value. Programs are finite trees apart from such repetition, so every run ends
once the number of repetitions is bounded.
-/

namespace TrapDispatch

/-- Requests a program can make, with the type of reply to each. -/
structure Signature where
  Op : Type
  Reply : Op → Type

/-- Programs over a signature. -/
inductive Program (S : Signature) : Type → Type 1 where
  | done {α : Type} (value : α) : Program S α
  | panic {α : Type} (message : String) : Program S α
  | request {α : Type} (op : S.Op) (next : S.Reply op → Program S α) : Program S α
  | onPanic {α β : Type} (body : Program S β) (cleanup : Program S Unit)
      (next : β → Program S α) : Program S α
  | untilSome {α β : Type} (body : Program S (Option β)) (next : β → Program S α) : Program S α

/-- Why a run ended without a value. A panic unwinds and runs cleanups. The
other ends do not: a panic inside a cleanup aborts, a lock that is taken twice
never opens, and a bounded run can be exhausted. -/
inductive Stop where
  | panic (message : String)
  | abort
  | deadlock
  | exhausted
  deriving DecidableEq, Repr

/-- What a panic said, or the word for another end. -/
def Stop.message : Stop → String
  | .panic message => message
  | .abort => "aborted"
  | .deadlock => "deadlock"
  | .exhausted => "exhausted"

/-- Runs `cleanup` if `body` panics; the panic then goes on. -/
def unwinding {s α : Type} (body : EStateM Stop s α) (cleanup : EStateM Stop s Unit) :
    EStateM Stop s α := fun state =>
  match body state with
  | .error (.panic message) state =>
    match cleanup state with
    | .ok _ state => .error (.panic message) state
    | .error (.panic _) state => .error .abort state
    | .error stop state => .error stop state
  | result => result

/-- Runs `body` until it gives a value, at most `bound` times. -/
def repeated {s β : Type} (body : EStateM Stop s (Option β)) : Nat → EStateM Stop s β
  | 0 => throw .exhausted
  | bound + 1 => do
    match ← body with
    | some value => return value
    | none => repeated body bound

/-- Computations through which panics unwind. -/
class MonadUnwind (m : Type → Type u) where
  /-- Runs the second computation if the first panics; the panic then goes on. -/
  onPanic : {α : Type} → m α → m Unit → m α

export MonadUnwind (onPanic)

instance {s : Type} : MonadUnwind (EStateM Stop s) := ⟨unwinding⟩

namespace Program

variable {S : Signature} {α β : Type}

/-- Runs a program and goes on with its value. -/
def bind : Program S α → (α → Program S β) → Program S β
  | .done value, next => next value
  | .panic message, _ => .panic message
  | .request op rest, next => .request op fun reply => (rest reply).bind next
  | .onPanic body cleanup rest, next => .onPanic body cleanup fun value => (rest value).bind next
  | .untilSome body rest, next => .untilSome body fun value => (rest value).bind next

instance : Monad (Program S) where
  pure := .done
  bind := .bind

instance : MonadUnwind (Program S) := ⟨fun body cleanup => .onPanic body cleanup .done⟩

def ask (op : S.Op) : Program S (S.Reply op) :=
  .request op .done

/-- Runs `body` until it gives a value. -/
def repeatUntil (body : Program S (Option α)) : Program S α :=
  .untilSome body .done

/-- Runs a program against a server of its requests, with a bound on the number
of times each repetition goes round. -/
def run {s : Type} (serve : (op : S.Op) → EStateM Stop s (S.Reply op)) (bound : Nat) :
    {α : Type} → Program S α → EStateM Stop s α
  | _, .done value => pure value
  | _, .panic message => throw (.panic message)
  | _, .request op next => do (next (← serve op)).run serve bound
  | _, .onPanic body cleanup next => do
    (next (← unwinding (body.run serve bound) (cleanup.run serve bound))).run serve bound
  | _, .untilSome body next => do
    (next (← repeated (body.run serve bound) bound)).run serve bound

theorem run_bind {s : Type} (serve : (op : S.Op) → EStateM Stop s (S.Reply op)) (bound : Nat)
    (program : Program S α) (next : α → Program S β) :
    (program.bind next).run serve bound =
      (do (next (← program.run serve bound)).run serve bound) := by
  induction program with
  | done value => rfl
  | panic message => rfl
  | request op rest ih => simp [bind, run, ih]
  | onPanic body cleanup rest _ _ ih => simp [bind, run, ih]
  | untilSome body rest _ ih => simp [bind, run, ih]

/-- A program whose requests are made by means of programs over another signature. -/
def translate {T : Signature} (ask : (op : S.Op) → Program T (S.Reply op)) :
    {α : Type} → Program S α → Program T α
  | _, .done value => .done value
  | _, .panic message => .panic message
  | _, .request op next => (ask op).bind fun reply => (next reply).translate ask
  | _, .onPanic body cleanup next =>
    .onPanic (body.translate ask) (cleanup.translate ask) fun value => (next value).translate ask
  | _, .untilSome body next => .untilSome (body.translate ask) fun value => (next value).translate ask

/-- It runs as the program does if those programs run in place of its requests. -/
theorem run_translate {s : Type} {T : Signature} (ask : (op : S.Op) → Program T (S.Reply op))
    (serve : (op : T.Op) → EStateM Stop s (T.Reply op)) (bound : Nat) (program : Program S α) :
    (program.translate ask).run serve bound =
      program.run (fun op => (ask op).run serve bound) bound := by
  induction program with
  | done value => rfl
  | panic message => rfl
  | request op next ih => simp [translate, run, run_bind, ih]
  | onPanic body cleanup next hbody hcleanup ih => simp [translate, run, hbody, hcleanup, ih]
  | untilSome body next hbody ih => simp [translate, run, hbody, ih]

end Program
end TrapDispatch
