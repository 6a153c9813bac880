/-!
# Error codes of system calls

The closed set of errors a system call reports to user code. A call's result
travels in one 64-bit register: a success as itself, an error as its negated
number.
-/

namespace TrapDispatch

/-- Errors a system call can report. -/
inductive ErrorCode where
  | eperm
  | eintr
  | ebadf
  | efault
  | einval
  | enosys
  deriving DecidableEq, Repr, Inhabited

namespace ErrorCode

/-- Every code, in the order of the numbers. -/
def all : List ErrorCode :=
  [eperm, eintr, ebadf, efault, einval, enosys]

/-- The stable number of a code. -/
def errno : ErrorCode → UInt64
  | eperm => 1
  | eintr => 4
  | ebadf => 9
  | efault => 14
  | einval => 22
  | enosys => 38

/-- Position of a code in `all`. -/
def index : ErrorCode → Fin 6
  | eperm => 0
  | eintr => 1
  | ebadf => 2
  | efault => 3
  | einval => 4
  | enosys => 5

/-- The register value of an error: its number negated modulo 2^64. -/
def encode (code : ErrorCode) : UInt64 :=
  -code.errno

/-- Reads an error back; only negated numbers of known codes are errors. -/
def decode (raw : UInt64) : Option ErrorCode :=
  let magnitude := -raw
  if 0 < magnitude ∧ magnitude ≤ 4095 then all.find? fun code => code.errno == magnitude
  else none

theorem decode_encode (code : ErrorCode) : decode code.encode = some code := by
  cases code <;> decide

/-- Short name, as it appears in traces. -/
def name : ErrorCode → String
  | eperm => "Eperm"
  | eintr => "Eintr"
  | ebadf => "Ebadf"
  | efault => "Efault"
  | einval => "Einval"
  | enosys => "Enosys"

/-- What the code means, followed by its number. -/
def message (code : ErrorCode) : String :=
  let meaning := match code with
    | eperm => "operation not permitted"
    | eintr => "interrupted system call"
    | ebadf => "bad file descriptor"
    | efault => "bad address"
    | einval => "invalid argument"
    | enosys => "function not implemented"
  s!"{meaning} (errno {code.errno})"

end ErrorCode

/-- Result of a system call before it is written to the return register. -/
abbrev CallResult := Except ErrorCode UInt64

instance CallResult.decEq : DecidableEq CallResult
  | .ok a, .ok b => if h : a = b then isTrue (h ▸ rfl) else isFalse fun e => h (Except.ok.inj e)
  | .error a, .error b =>
    if h : a = b then isTrue (h ▸ rfl) else isFalse fun e => h (Except.error.inj e)
  | .ok _, .error _ => isFalse nofun
  | .error _, .ok _ => isFalse nofun

/-- The register value of a result. -/
def CallResult.encode : CallResult → UInt64
  | .ok value => value
  | .error code => code.encode

@[simp] theorem CallResult.encode_ok (value : UInt64) :
    CallResult.encode (.ok value) = value := rfl

@[simp] theorem CallResult.encode_error (code : ErrorCode) :
    CallResult.encode (.error code) = code.encode := rfl

/-- A result as it appears in traces. -/
def CallResult.trace : CallResult → String
  | .ok value => s!"Ok({value})"
  | .error code => s!"Err({code.name})"

end TrapDispatch
